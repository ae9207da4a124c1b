import ParamSql.Query.Rows

/-!
# Result — what a query delivers

- `Query.take`, `Query.get`, `Query.pluck`: a row, a value, or the values of a column.
- `Query.count`, `Query.existence`, `Query.json`: a question about the rows of another query.
- `Query.clear`: takes a part of a query away.
-/

namespace ParamSql
namespace Query

/-- Chooses the form of the result. -/
def deliver (q : Query) (shape : Shape) : Query :=
  q.modify fun c => { c with shape := some shape }

/-! ## Rows and columns -/

/-- At most one row is read; a change is not restricted. -/
def limitOne (q : Query) : Query :=
  if q.isMutation then q else q.limit 1

/-- Delivers a row. -/
def take (q : Query) : Query :=
  q.limitOne.deliver .one

/-- Delivers a row if there is one. -/
def takeOptional (q : Query) : Query :=
  q.limitOne.deliver .oneOptional

/-- Delivers a single column, of the rows read or changed. -/
def onlyColumn (q : Query) (column : String) : Query :=
  q.modify fun c =>
    if c.mutation.isSome then { c with returning := [.ofColumn column] }
    else { c with select := [.ofColumn column] }

/-- Delivers a column of one row. -/
def get (q : Query) (column : String) : Query :=
  (q.limitOne.onlyColumn column).deliver .value

/-- Delivers a column of one row if there is one. -/
def getOptional (q : Query) (column : String) : Query :=
  (q.limitOne.onlyColumn column).deliver .valueOptional

/-- Delivers a column of all rows. -/
def pluck (q : Query) (column : String) : Query :=
  (q.onlyColumn column).deliver .pluck

/-! ## Taking parts away -/

/-- A part that can be taken away. -/
inductive Part
  | select
  | distinct
  | conditions
  | joins
  | group
  | having
  | order
  | limit
  | offset
  | windows
  | lock
  | setOps
  | ctes
  | returning
  | appended
  deriving DecidableEq, Repr

/-- The clauses without a part. -/
def clearClauses (c : Clauses Query) : Part → Clauses Query
  | .select => { c with select := [] }
  | .distinct => { c with distinct := none }
  | .conditions => { c with conditions := [] }
  | .joins => { c with joins := [] }
  | .group => { c with group := [] }
  | .having => { c with having := [] }
  | .order => { c with order := [] }
  | .limit => { c with limit := none }
  | .offset => { c with offset := none }
  | .windows => { c with windows := [] }
  | .lock => { c with lock := none }
  | .setOps => { c with setOps := [] }
  | .ctes => { c with ctes := [] }
  | .returning => { c with returning := [] }
  | .appended => c

/-- The query without a part. -/
def clear (q : Query) (part : Part) : Query :=
  match part with
  | .appended => .of q.clauses []
  | part => q.modify (clearClauses · part)

/-! ## Questions about rows -/

/-- The name of a query that has been wrapped in another one. -/
def wrapped : String := "t"

/-- The query whose rows are the rows of another one. -/
def ofQuery (q : Query) (name : String) : Query :=
  ofSource (.query q name)

/-- Whether the number of rows depends on more than the source and the filters. -/
def isRegrouped (c : Clauses Query) : Bool :=
  !c.group.isEmpty || c.distinct.isSome || !c.setOps.isEmpty || c.limit.isSome || c.offset.isSome

/-- The number of rows. Where it depends on more than the source and the filters, the query is
wrapped; otherwise only what is selected is replaced. -/
def count (q : Query) : Query :=
  let base := if isRegrouped q.clauses then ofQuery (q.deliver .all) wrapped else q.clear .order
  (base.select [.aggregate .count none false (some "count")]).deliver .value

/-- Whether there are rows. -/
def existence (q : Query) : Query :=
  (empty.select [.existence ((q.clear .order).deliver .all) "exists"]).deliver .value

/-- All rows as a JSON array. -/
def json (q : Query) : Query :=
  let rows := Fragment.ofText "COALESCE(json_agg(row_to_json(\"t\".*)), '[]')"
  ((ofQuery (q.deliver .all) wrapped).select [.fragment rows (some "json")]).deliver .value

end Query
end ParamSql
