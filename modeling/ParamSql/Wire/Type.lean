/-!
# Type — the types of parameters and columns on the wire

- `ScalarType`, `WireType`: the built-in types and the arrays of them.
- `ScalarType.number`: the number by which the server knows a type.
-/

namespace ParamSql

/-- A built-in type that is no array. -/
inductive ScalarType
  | bool
  | bytea
  | char
  | name
  | int8
  | int2
  | int4
  | text
  | oid
  | json
  | float4
  | float8
  | unknown
  | bpchar
  | varchar
  | date
  | timestamp
  | timestamptz
  | numeric
  | uuid
  | jsonb
  deriving DecidableEq, Repr

/-- The type of a parameter or a column. -/
inductive WireType
  | scalar (t : ScalarType)
  | array (element : ScalarType)
  deriving DecidableEq, Repr

namespace ScalarType

/-- The number of a type. -/
def number : ScalarType → Nat
  | .bool => 16
  | .bytea => 17
  | .char => 18
  | .name => 19
  | .int8 => 20
  | .int2 => 21
  | .int4 => 23
  | .text => 25
  | .oid => 26
  | .json => 114
  | .float4 => 700
  | .float8 => 701
  | .unknown => 705
  | .bpchar => 1042
  | .varchar => 1043
  | .date => 1082
  | .timestamp => 1114
  | .timestamptz => 1184
  | .numeric => 1700
  | .uuid => 2950
  | .jsonb => 3802

/-- The name of a type. -/
def label : ScalarType → String
  | .bool => "bool"
  | .bytea => "bytea"
  | .char => "char"
  | .name => "name"
  | .int8 => "int8"
  | .int2 => "int2"
  | .int4 => "int4"
  | .text => "text"
  | .oid => "oid"
  | .json => "json"
  | .float4 => "float4"
  | .float8 => "float8"
  | .unknown => "unknown"
  | .bpchar => "bpchar"
  | .varchar => "varchar"
  | .date => "date"
  | .timestamp => "timestamp"
  | .timestamptz => "timestamptz"
  | .numeric => "numeric"
  | .uuid => "uuid"
  | .jsonb => "jsonb"

end ScalarType

/-- The name of a type; that of an array begins with an underscore. -/
def WireType.label : WireType → String
  | .scalar t => t.label
  | .array element => "_" ++ element.label

end ParamSql
