import ParamSql.Value.Basic

/-!
# Cell — reading values as typed data

- `CellType`, `CellType.Denote`: the types that a cell can be read as, and their elements.
- `DecodeFault`: why a cell cannot be read.
- `CellType.write`: the value that an element is bound as.
- `CellType.read`: the element that a value stands for.
-/

namespace ParamSql

/-! ## Faults -/

/-- Why a cell or a row cannot be read. -/
inductive DecodeFault
  | noSuchColumn
  | noColumns
  | noColumnAt (index : Nat)
  | mismatch (expected got : String)
  | notInteger (text : String)
  | notInt32 (n : Int64)
  | notJson
  | notUuid
  | notOctets (typeName : String)
  | notRecord
  | stated (text : String)
  deriving DecidableEq, Repr

def DecodeFault.message : DecodeFault → String
  | .noSuchColumn => "no such column"
  | .noColumns => "row has no columns"
  | .noColumnAt index => s!"no column at index {index}"
  | .mismatch expected got => s!"expected {expected}, got {got}"
  | .notInteger text => s!"expected int, got text '{text}'"
  | .notInt32 n => s!"{n.toInt} does not fit in i32"
  | .notJson => "the text is not JSON"
  | .notUuid => "the text is not a uuid"
  | .notOctets typeName => s!"the octets are no value of type {typeName}"
  | .notRecord => "the row has not the members of a record"
  | .stated text => text

/-! ## Types -/

/-- A type that a cell can be read as. -/
inductive CellType
  | any
  | bool
  | int64
  | int32
  | float
  | text
  | json
  | uuid
  | timestamp
  | option (t : CellType)
  | list (t : CellType)
  deriving DecidableEq, Repr

/-- The elements of a type. -/
def CellType.Denote : CellType → Type
  | .any => Value
  | .bool => Bool
  | .int64 => Int64
  | .int32 => Int32
  | .float => Binary64
  | .text => String
  | .json => Json
  | .uuid => Uuid
  | .timestamp => Instant
  | .option t => Option t.Denote
  | .list t => List t.Denote

/-! ## Writing -/

/-- The value that an element of a type is bound as. Absence is null, and an integer of 32 bits is
widened. -/
def CellType.write : (t : CellType) → t.Denote → Value
  | .any, v => v
  | .bool, b => .bool b
  | .int64, n => .int n
  | .int32, n => .int (Int32.toInt64 n)
  | .float, x => .float x
  | .text, s => .text s
  | .json, j => .json j
  | .uuid, u => .uuid u
  | .timestamp, t => .timestamp t
  | .option _, none => .null
  | .option t, some x => t.write x
  | .list t, xs => .array (xs.map t.write)

/-! ## Reading -/

/-- The number of an optional sign and decimal digits, if it has 64 bits. -/
def parseInt64? (s : String) : Option Int64 :=
  let (negative, digits) := Numeral.takeSign s.toList
  if digits.isEmpty || !digits.all Char.isDigit then none
  else
    let size := digits.foldl (fun n c => 10 * n + (c.toNat - '0'.toNat)) 0
    let n : Int := if negative then -size else size
    if Int64.minValue.toInt ≤ n && n ≤ Int64.maxValue.toInt then some (.ofInt n) else none

/-- Reads an integer; a text may stand for it. -/
def readInt64 : Value → Except DecodeFault Int64
  | .int n => .ok n
  | .text s =>
      match parseInt64? s with
      | some n => .ok n
      | none => .error (.notInteger s)
  | v => .error (.mismatch "int" v.typeName)

/-- Reads an integer of 32 bits. -/
def readInt32 (v : Value) : Except DecodeFault Int32 := do
  let n ← readInt64 v
  if Int32.minValue.toInt ≤ n.toInt && n.toInt ≤ Int32.maxValue.toInt then
    return .ofInt n.toInt
  else throw (.notInt32 n)

/-- Reads JSON: a text is parsed, and any other value is taken in its JSON form. -/
def readJson : Value → Except DecodeFault Json
  | .text s =>
      match Json.parse? s with
      | some j => .ok j
      | none => .error .notJson
  | v => .ok v.toJson

/-- Reads an identifier; a text may stand for it. -/
def readUuid : Value → Except DecodeFault Uuid
  | .uuid u => .ok u
  | .text s =>
      match Uuid.parse? s with
      | some u => .ok u
      | none => .error .notUuid
  | v => .error (.mismatch "uuid" v.typeName)

/-- Reads a value as an element of a type. Null is absence where the type allows for it, and the
first item of a list that cannot be read decides about the list. -/
def CellType.read : (t : CellType) → Value → Except DecodeFault t.Denote
  | .any, v => .ok v
  | .bool, .bool b => .ok b
  | .bool, v => .error (.mismatch "bool" v.typeName)
  | .int64, v => readInt64 v
  | .int32, v => readInt32 v
  | .float, .float x => .ok x
  | .float, .int n => .ok (Binary64.ofInt n.toInt)
  | .float, v => .error (.mismatch "float" v.typeName)
  | .text, .text s => .ok s
  | .text, v => .error (.mismatch "text" v.typeName)
  | .json, v => readJson v
  | .uuid, v => readUuid v
  | .timestamp, .timestamp t => .ok t
  | .timestamp, v => .error (.mismatch "timestamp" v.typeName)
  | .option _, .null => .ok none
  | .option t, v => (t.read v).map some
  | .list t, .array items => items.mapM t.read
  | .list _, v => .error (.mismatch "array" v.typeName)

end ParamSql
