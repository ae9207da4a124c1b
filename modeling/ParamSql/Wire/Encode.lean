import ParamSql.Value.Basic
import ParamSql.Wire.Type

/-!
# Encode — values in the binary format of parameters

The value decides about the format, and the type only where a value has several formats.

- `EncodeFault`: why a value cannot be sent as a type.
- `Value.encode`: the octets of a value, or the null that has none.
-/

namespace ParamSql

/-- Why a value cannot be sent: an integer is beyond the type, or a length beyond 32 bits, or an
array is sent as a type whose elements are unknown. -/
inductive EncodeFault
  | outOfRange
  | notArray
  deriving DecidableEq, Repr

/-- The octets of an integer in two's complement, if it fits them. -/
def encodeInt (width : Nat) (n : Int) : Except EncodeFault (List UInt8) :=
  let bound : Nat := Nat.pow 2 (8 * width - 1)
  if -(bound : Int) ≤ n && n < (bound : Int) then .ok (Octets.signedBigEndian width n)
  else .error .outOfRange

/-- The octets of a number in double precision. -/
def encodeDouble (x : Binary64) : List UInt8 :=
  Octets.bigEndian 8 x.bits.toNat

/-- The octets of a number in single precision. -/
def encodeSingle (x : Binary64) : List UInt8 :=
  Octets.bigEndian 4 x.toSingle.toNat

/-- The length of the octets before them, or a length below zero for a null. -/
def encodeItem : Option (List UInt8) → List UInt8
  | some octets => Octets.signedBigEndian 4 octets.length ++ octets
  | none => Octets.signedBigEndian 4 (-1)

/-- What stands before the items of an array: its one dimension, whether there are nulls, the type
of the items, how many there are, and the index of the first one. -/
def arrayHeader (element : ScalarType) (items : List (Option (List UInt8))) : List UInt8 :=
  Octets.signedBigEndian 4 1 ++
    Octets.signedBigEndian 4 (if items.any Option.isNone then 1 else 0) ++
    Octets.bigEndian 4 element.number ++ Octets.signedBigEndian 4 items.length ++
    Octets.signedBigEndian 4 1

/-- Whether there is a length of 32 bits, of which one is the sign. -/
def isLength (size : Nat) : Bool :=
  size < Nat.pow 2 31

/-- The octets of an array, if it has a length and its items have. -/
def encodeArray (element : ScalarType) (items : List (Option (List UInt8))) :
    Except EncodeFault (List UInt8) :=
  if isLength items.length &&
      items.all fun item => item.all fun octets => isLength octets.length then
    .ok (arrayHeader element items ++ items.flatMap encodeItem)
  else .error .outOfRange

mutual
/-- The octets of a value sent as a type; a null has none. -/
def Value.encode (t : WireType) : Value → Except EncodeFault (Option (List UInt8))
  | .null => .ok none
  | .bool b => .ok (some [if b then 1 else 0])
  | .int n =>
      match t with
      | .scalar .int2 => (encodeInt 2 n.toInt).map some
      | .scalar .int4 => (encodeInt 4 n.toInt).map some
      | .scalar .float8 => .ok (some (encodeDouble (.ofInt n.toInt)))
      | _ => .ok (some (Octets.signedBigEndian 8 n.toInt))
  | .float x =>
      match t with
      | .scalar .float4 => .ok (some (encodeSingle x))
      | _ => .ok (some (encodeDouble x))
  | .text s => .ok (some (Octets.utf8 s))
  | .bytes octets => .ok (some octets)
  | .json j =>
      let octets := Octets.utf8 j.text
      .ok (some (if t = .scalar .jsonb then 1 :: octets else octets))
  | .uuid u => .ok (some u.octets)
  | .timestamp time => .ok (some (Octets.signedBigEndian 8 time.micros))
  | .array items =>
      match t with
      | .array element => do
          let items ← encodeAll (.scalar element) items
          (encodeArray element items).map some
      | .scalar _ => .error .notArray

/-- The octets of values that are all sent as one type. -/
def encodeAll (t : WireType) : List Value → Except EncodeFault (List (Option (List UInt8)))
  | [] => .ok []
  | v :: vs => do
      let first ← v.encode t
      let rest ← encodeAll t vs
      return first :: rest
end

end ParamSql
