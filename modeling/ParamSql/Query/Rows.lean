import ParamSql.Query.Condition

/-!
# Rows — building the rows of a query

- Select lists, joins, groups, order and limits.
- `Query.window`, `Query.withCte`: named parts; a name stands for one of them.
- `Query.append`: statements that run in the same round trip.
-/

namespace ParamSql

/-- The source and the name that a text `path AS name` stands for. -/
def JoinSource.ofText {Q : Type} (text : String) : JoinSource Q :=
  match Text.splitFirst? " AS ".toList text.toList with
  | some (path, name) => .table (String.ofList (Text.trim path)) (String.ofList (Text.trim name))
  | none => .table text none

namespace Query

/-! ## Select lists -/

/-- Selects the given items and no others. -/
def select (q : Query) (items : List (SelectItem Query)) : Query :=
  q.modify fun c => { c with select := items }

/-- Selects one more item. -/
def addSelect (q : Query) (item : SelectItem Query) : Query :=
  q.modify fun c => { c with select := c.select ++ [item] }

def distinct (q : Query) (d : Distinct) : Query :=
  q.modify fun c => { c with distinct := some d }

/-! ## Joins -/

def join (q : Query) (j : Join Query) : Query :=
  q.modify fun c => { c with joins := c.joins ++ [j] }

/-- Joins the table of a text `path` or `path AS name`. -/
def joinTable (q : Query) (kind : JoinKind) (text : String) (on : Option Condition) : Query :=
  q.join ⟨kind, .ofText text, on⟩

/-- Joins the rows of a query. -/
def joinQuery (q : Query) (kind : JoinKind) (other : Query) (name : String)
    (on : Option Condition) : Query :=
  q.join ⟨kind, .query other name, on⟩

/-! ## Groups, order and limits -/

def groupBy (q : Query) (keys : List (Operand Query)) : Query :=
  q.modify fun c => { c with group := c.group ++ keys }

def havingAll (q : Query) (condition : Condition) : Query :=
  q.modify fun c => { c with having := c.having ++ [condition] }

def orderBy (q : Query) (order : Order) : Query :=
  q.modify fun c => { c with order := c.order ++ [order] }

def limit (q : Query) (n : Int64) : Query :=
  q.modify fun c => { c with limit := some n }

def offset (q : Query) (n : Int64) : Query :=
  q.modify fun c => { c with offset := some n }

/-- The rows of a page. Pages are counted from 1 and have at least one row; an offset beyond 64 bits
is the largest one within them. -/
def paginate (q : Query) (page perPage : Int64) : Query :=
  let rows := max perPage.toInt 1
  let skipped := min ((max page.toInt 1 - 1) * rows) Int64.maxValue.toInt
  q.modify fun c => { c with limit := some (.ofInt rows), offset := some (.ofInt skipped) }

/-- Defines a window, in the place of any other of its name. -/
def window (q : Query) (w : Window) : Query :=
  q.modify fun c => { c with windows := Keyed.put Window.name w c.windows }

def lock (q : Query) (l : Lock) : Query :=
  q.modify fun c => { c with lock := some l }

/-! ## Other queries -/

/-- Applies a set operation to the rows. -/
def setOp (q : Query) (kind : SetOpKind) (other : Query) : Query :=
  q.modify fun c => { c with setOps := c.setOps ++ [⟨kind, other⟩] }

/-- Adds a common table expression; any other of its name is dropped. -/
def withCte (q : Query) (cte : Cte Query) : Query :=
  q.modify fun c => { c with ctes := Keyed.putLast Cte.name cte c.ctes }

/-- Adds the recursive table of a base and a step. -/
def withRecursive (q : Query) (name : String) (columns : List String) (base step : Query) :
    Query :=
  q.withCte ⟨name, columns, .query (base.setOp .unionAll step), true⟩

/-- Runs another statement in the same round trip, ahead of the query. -/
def append (q : Query) (other : Query) (required : Bool) : Query :=
  .of q.clauses (q.appended ++ [⟨other, required⟩])

end Query
end ParamSql
