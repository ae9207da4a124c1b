import ParamSql.Value.Cell
import ParamSql.Wire.Type

/-!
# Decode — cells in the binary format of results

- `Octets.takeInt?`: integers at the head of a message.
- `ScalarType.decode?`, `decodeItems?`: the octets of a cell, and those of an array.
- `WireType.decode`: a cell of a column.
-/

namespace ParamSql
namespace Octets

/-- Octets at the head of a message, and what follows them. -/
def take? (width : Nat) (octets : List UInt8) : Option (List UInt8 × List UInt8) :=
  if width ≤ octets.length then some (octets.take width, octets.drop width) else none

/-- An integer at the head of a message, and what follows it. -/
def takeInt? (width : Nat) (octets : List UInt8) : Option (Int × List UInt8) :=
  (take? width octets).map fun (head, rest) => (ofSignedBigEndian head, rest)

/-- Octets of an exact number, read as an integer. -/
def int? (width : Nat) (octets : List UInt8) : Option Int64 :=
  if octets.length = width then some (.ofInt (ofSignedBigEndian octets)) else none

end Octets

/-- The JSON of octets in UTF-8. -/
def decodeJson? (octets : List UInt8) : Option Value :=
  ((Octets.ofUtf8? octets).bind Json.parse?).map .json

/-- The value of octets that are no array. Types that no value stands for cannot be read. -/
def ScalarType.decode? (t : ScalarType) (octets : List UInt8) : Option Value :=
  match t with
  | .bool =>
      match octets with
      | [o] => some (.bool (o ≠ 0))
      | _ => none
  | .int2 => (Octets.int? 2 octets).map .int
  | .int4 => (Octets.int? 4 octets).map .int
  | .int8 => (Octets.int? 8 octets).map .int
  | .float4 =>
      if octets.length = 4 then
        some (.float (.ofSingle (UInt32.ofNat (Octets.ofBigEndian octets))))
      else none
  | .float8 =>
      if octets.length = 8 then some (.float ⟨UInt64.ofNat (Octets.ofBigEndian octets)⟩) else none
  | .bytea => some (.bytes octets)
  | .json => decodeJson? octets
  | .jsonb =>
      match octets with
      | 1 :: rest => decodeJson? rest
      | _ => none
  | .uuid => (Uuid.ofOctets? octets).map .uuid
  | .timestamp => ((Octets.int? 8 octets).bind fun n => Instant.ofMicros? n.toInt).map .timestamp
  | .timestamptz => ((Octets.int? 8 octets).bind fun n => Instant.ofMicros? n.toInt).map .timestamp
  | .text => (Octets.ofUtf8? octets).map .text
  | .varchar => (Octets.ofUtf8? octets).map .text
  | .bpchar => (Octets.ofUtf8? octets).map .text
  | .name => (Octets.ofUtf8? octets).map .text
  | .unknown => (Octets.ofUtf8? octets).map .text
  | _ => none

/-! ## Arrays -/

/-- So many items and nothing behind them. There are no nulls among the items of an array that is
read. -/
def decodeItems? (element : ScalarType) : Nat → List UInt8 → Option (List Value)
  | 0, octets => if octets.isEmpty then some [] else none
  | n + 1, octets => do
      let (size, rest) ← Octets.takeInt? 4 octets
      guard (0 ≤ size)
      let (item, rest) ← Octets.take? size.toNat rest
      let v ← element.decode? item
      let vs ← decodeItems? element n rest
      return v :: vs

/-- The items of an array, which has one dimension at most. -/
def decodeArray? (element : ScalarType) (octets : List UInt8) : Option (List Value) := do
  let (dimensions, rest) ← Octets.takeInt? 4 octets
  let (_, rest) ← Octets.takeInt? 4 rest
  let (_, rest) ← Octets.takeInt? 4 rest
  if dimensions = 0 then decodeItems? element 0 rest
  else do
    guard (dimensions = 1)
    let (size, rest) ← Octets.takeInt? 4 rest
    let (_, rest) ← Octets.takeInt? 4 rest
    guard (0 ≤ size)
    decodeItems? element size.toNat rest

/-! ## Cells -/

namespace WireType

/-- Whether cells of a type can be read at all. -/
def isReadable : WireType → Bool
  | .scalar t => !(t ∈ [ScalarType.char, .oid, .date, .numeric])
  | .array element => element ∈ [ScalarType.int4, .int8, .text, .varchar]

/-- The value of octets. -/
def decodeOctets? (t : WireType) (octets : List UInt8) : Option Value :=
  match t with
  | .scalar t => t.decode? octets
  | .array element => (decodeArray? element octets).map .array

/-- The value of a cell, in which a null has no octets. -/
def decode (t : WireType) (cell : Option (List UInt8)) : Except DecodeFault Value :=
  if !t.isReadable then .error (.notOctets t.label)
  else
    match cell with
    | none => .ok .null
    | some octets =>
        match t.decodeOctets? octets with
        | some v => .ok v
        | none => .error (.notOctets t.label)

end WireType
end ParamSql
