import ParamSql.Query.Condition

/-!
# Change — inserting, updating and deleting rows

- `Query.insert`, `Query.insertFrom`, `Query.onConflict`: new rows, and what happens to those that
  conflict with old ones.
- `Query.update`, `Query.assign`: new values for rows that are there.
- `Query.delete`: removal, or the mark of removal.
- `Query.returning`: the columns of the changed rows that are delivered.
-/

namespace ParamSql
namespace Query

def mutate (q : Query) (m : Mutation Query) : Query :=
  q.modify fun c => { c with mutation := some m }

/-! ## New rows -/

/-- Inserts a row for each record. -/
def insert (q : Query) (records : List (Record Query)) : Query :=
  q.mutate (.insert (.records records) none)

/-- Inserts the rows of another query. -/
def insertFrom (q : Query) (columns : List String) (other : Query) : Query :=
  q.mutate (.insert (.query columns other) none)

/-- Says what happens to rows that conflict with old ones; only an insertion can have such rows. -/
def onConflict (q : Query) (columns : List String) (action : ConflictAction Query) : Query :=
  match q.clauses.mutation with
  | some (.insert rows _) => q.mutate (.insert rows (some ⟨columns, action⟩))
  | _ => q

/-! ## New values -/

def update (q : Query) (r : Record Query) : Query :=
  q.mutate (.update r)

/-- Adds an assignment to those of an update; anything but an update is replaced by one. -/
def assign (q : Query) (column : String) (value : SetValue Query) : Query :=
  match q.clauses.mutation with
  | some (.update r) => q.update (r.assign column value)
  | _ => q.update (Record.empty.assign column value)

/-! ## Removal -/

/-- Deletes rows. Where the table marks its deleted rows, they are marked, unless the deletion is
`hard`. -/
def delete (q : Query) (hard : Bool) : Query :=
  q.mutate (.delete hard)

/-! ## Results -/

/-- Delivers columns of the changed rows. -/
def returning (q : Query) (columns : List String) : Query :=
  q.modify fun c => { c with returning := columns.map .ofColumn }

end Query
end ParamSql
