import ParamSql.Error

/-!
# Row — the rows of a result

- `Row`: the names of the columns and the values, which need not be equally many.
- `Row.get?`, `Row.read`, `Row.readAt`: cells by name and by position.
- `Row.toJson`: the row as an object.
-/

namespace ParamSql

/-- A row: the names of its columns, and its values. -/
structure Row where
  columns : List String
  values : List Value
  deriving Repr, BEq, Inhabited

namespace Row

def ofPairs (pairs : List (String × Value)) : Row :=
  ⟨pairs.map Prod.fst, pairs.map Prod.snd⟩

/-! ## Cells -/

/-- The value of the first column of a name. -/
def get? (r : Row) (column : String) : Option Value :=
  (r.columns.idxOf? column).bind fun index => r.values[index]?

/-- The cell of a column, read as a type. -/
def read (r : Row) (column : String) (t : CellType) : Except Error t.Denote :=
  match r.get? column with
  | some v => (t.read v).mapError (.decode column)
  | none => .error (.decode column .noSuchColumn)

/-- The cell at a position, read as a type. -/
def readAt (r : Row) (index : Nat) (t : CellType) : Except Error t.Denote :=
  let column := r.columns[index]?.getD "?"
  match r.values[index]? with
  | some v => (t.read v).mapError (.decode column)
  | none => .error (.decode column (.noColumnAt index))

/-- The first value. -/
def first (r : Row) : Except Error Value :=
  match r.values with
  | v :: _ => .ok v
  | [] => .error (.decode "<first>" .noColumns)

/-! ## Objects -/

/-- The row as an object: of columns with one name the last one is kept. -/
def toJson (r : Row) : Json :=
  .ofMembers ((r.columns.zip r.values).map fun (column, v) => (column, v.toJson))

/-- A user as a row describes one. -/
structure User where
  id : Int64
  name : Option String
  deriving Repr, BEq

/-- An integer of 64 bits in JSON. -/
def int64? : Json → Option Int64
  | .int n =>
      if Int64.minValue.toInt ≤ n && n ≤ Int64.maxValue.toInt then some (.ofInt n) else none
  | _ => none

/-- An optional text in JSON. -/
def text? : Option Json → Option (Option String)
  | none => some none
  | some .null => some none
  | some (.string s) => some (some s)
  | some _ => none

/-- Reads a user: the identifier has to be there, the name need not. -/
def readUser (r : Row) : Except Error User :=
  let object := r.toJson
  match (object.member? "id").bind int64?, text? (object.member? "name") with
  | some id, some name => .ok ⟨id, name⟩
  | _, _ => .error (.decode "<row>" .notRecord)

end Row
end ParamSql
