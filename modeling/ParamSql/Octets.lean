/-!
# Octets — numbers and hexadecimal text as sequences of octets

- `bigEndian`, `ofBigEndian`: a natural number in a fixed number of octets, first the most
  significant one.
- `signedBigEndian`, `ofSignedBigEndian`: the same for integers in two's complement.
- `utf8`, `ofUtf8?`: the octets of a text.
-/

namespace ParamSql
namespace Octets

/-! ## Numbers -/

/-- A natural number modulo `256 ^ width` in `width` octets. -/
def bigEndian : Nat → Nat → List UInt8
  | 0, _ => []
  | width + 1, n => UInt8.ofNat (n / Nat.pow 256 width) :: bigEndian width n

/-- The natural number that octets stand for. -/
def ofBigEndian (octets : List UInt8) : Nat :=
  octets.foldl (fun n o => 256 * n + o.toNat) 0

/-- An integer in two's complement. -/
def signedBigEndian (width : Nat) (n : Int) : List UInt8 :=
  bigEndian width (n % (Nat.pow 256 width : Nat)).toNat

/-- The integer that octets stand for in two's complement. -/
def ofSignedBigEndian (octets : List UInt8) : Int :=
  (ofBigEndian octets : Int).bmod (Nat.pow 256 octets.length)

/-! ## Texts -/

/-- The UTF-8 octets of a text. -/
def utf8 (s : String) : List UInt8 :=
  s.toUTF8.data.toList

/-- The text whose UTF-8 octets are given, if they are well formed. -/
def ofUtf8? (octets : List UInt8) : Option String :=
  String.fromUTF8? ⟨octets.toArray⟩

end Octets
end ParamSql
