import ParamSql.Query.Result
import ParamSql.Result.Row

/-!
# Reply — what a statement returns

- `Reply`: the rows of a round trip, and the number of rows that it affected.
- `Reply.shaped`: a reply in the form that a query asks for.
- `Reading`, `Reply.readAs`: a reply in a form and with types that the caller asks for.
-/

namespace ParamSql

/-- The rows of a round trip, and the number of affected rows as the server reports it. -/
structure Reply where
  rows : List Row
  rowCount : Nat
  deriving Repr, BEq, Inhabited

namespace Reply

def ofRows (rows : List Row) : Reply :=
  ⟨rows, rows.length⟩

def empty : Reply := ofRows []

/-- The first row. -/
def first (r : Reply) : Except Error Row :=
  match r.rows with
  | row :: _ => .ok row
  | [] => .error .noRow

end Reply

/-! ## The form that a query asks for -/

/-- A result in one of the forms of `Shape`. -/
inductive Result
  | rows (rs : List Row)
  | row (r : Row)
  | optionalRow (r : Option Row)
  | value (v : Value)
  | optionalValue (v : Option Value)
  | values (vs : List Value)
  | rowCount (n : Nat)
  | void
  deriving Repr, BEq

/-- The reply in a form. -/
def Reply.shaped (r : Reply) : Shape → Except Error Result
  | .all => .ok (.rows r.rows)
  | .one => r.first.map .row
  | .oneOptional => .ok (.optionalRow r.rows.head?)
  | .value => (r.first.bind Row.first).map .value
  | .valueOptional =>
      match r.rows with
      | row :: _ => row.first.map fun v => .optionalValue (some v)
      | [] => .ok (.optionalValue none)
  | .pluck => (r.rows.mapM Row.first).map .values
  | .rowCount => .ok (.rowCount r.rowCount)
  | .void => .ok .void

/-! ## The form that the caller asks for -/

/-- A way to read a reply: in the form of the query, as the number of affected rows, as rows, as
objects, or as the first columns of rows in a type. -/
inductive Reading
  | run
  | execute
  | all
  | one
  | opt
  | allJson
  | oneJson
  | value (t : CellType)
  | valueOpt (t : CellType)
  | pluck (t : CellType)
  deriving DecidableEq, Repr

/-- What a way of reading makes of a reply. -/
inductive Fetched
  | result (r : Result)
  | rowCount (n : Nat)
  | rows (rs : List Row)
  | row (r : Row)
  | optionalRow (r : Option Row)
  | objects (js : List Json)
  | object (j : Json)
  | value (t : CellType) (x : t.Denote)
  | optionalValue (t : CellType) (x : Option t.Denote)
  | values (t : CellType) (xs : List t.Denote)

/-- Reads a reply to a query of a form. -/
def Reply.readAs (r : Reply) (shape : Shape) : Reading → Except Error Fetched
  | .run => (r.shaped shape).map .result
  | .execute => .ok (.rowCount r.rowCount)
  | .all => .ok (.rows r.rows)
  | .one => r.first.map .row
  | .opt => .ok (.optionalRow r.rows.head?)
  | .allJson => .ok (.objects (r.rows.map Row.toJson))
  | .oneJson => r.first.map fun (row : Row) => Fetched.object row.toJson
  | .value t => (r.first.bind fun (row : Row) => row.readAt 0 t).map (Fetched.value t)
  | .valueOpt t =>
      match r.rows with
      | row :: _ => (row.readAt 0 t).map fun x => .optionalValue t (some x)
      | [] => .ok (.optionalValue t none)
  | .pluck t => (r.rows.mapM fun (row : Row) => row.readAt 0 t).map (Fetched.values t)

end ParamSql
