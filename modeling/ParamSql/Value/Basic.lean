import ParamSql.Instant
import ParamSql.Uuid

/-!
# Value — parameters and result cells

A value is what a statement binds to a placeholder and what a cell of a result holds.

- `Value`, `Value.typeName`: the values and the names of their types.
- `Value.toJson`: the JSON form of a value.
- `Value.literal?`: the text of a value that may stand in a statement by itself.
-/

namespace ParamSql

/-- A parameter or a cell. -/
inductive Value
  | null
  | bool (b : Bool)
  | int (n : Int64)
  | float (x : Binary64)
  | text (s : String)
  | bytes (octets : List UInt8)
  | json (j : Json)
  | uuid (u : Uuid)
  | timestamp (t : Instant)
  | array (items : List Value)
  deriving Repr, Inhabited, BEq

namespace Value

def isNull : Value → Bool
  | .null => true
  | _ => false

/-- The name of the type of a value, as messages use it. -/
def typeName : Value → String
  | .null => "null"
  | .bool _ => "bool"
  | .int _ => "int"
  | .float _ => "float"
  | .text _ => "text"
  | .bytes _ => "bytes"
  | .json _ => "json"
  | .uuid _ => "uuid"
  | .timestamp _ => "timestamp"
  | .array _ => "array"

/-! ## JSON -/

mutual
/-- The JSON form of a value: bytes are an array of numbers, identifiers and instants are strings,
and a floating-point number that is not finite is null. -/
def toJson : Value → Json
  | .null => .null
  | .bool b => .bool b
  | .int n => .int n.toInt
  | .float x => if x.isFinite then .float x else .null
  | .text s => .string s
  | .bytes octets => .array (octets.map fun o => .int o.toNat)
  | .json j => j
  | .uuid u => .string u.text
  | .timestamp t => .string t.rfc3339
  | .array items => .array (toJsonList items)

/-- The JSON forms of several values. -/
def toJsonList : List Value → List Json
  | [] => []
  | v :: vs => v.toJson :: toJsonList vs
end

/-! ## Literals -/

/-- Numbers in a statement are always positional, whole ones without a point; of two equally near
numerals the upper one is taken. -/
def numberLayout : NumberLayout where
  tie := .up
  isPlain _ := true
  wholePoint := false

/-- The text of a primitive value; a text stands for itself. -/
def literal? : Value → Option String
  | .null => some "NULL"
  | .bool b => some (if b then "true" else "false")
  | .int n => some (toString n.toInt)
  | .float x => if x.isFinite then some (numberLayout.write x) else none
  | .text s => some s
  | _ => none

end Value
end ParamSql
