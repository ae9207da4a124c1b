import ParamSql.Json.Reader
import ParamSql.Octets

/-!
# Uuid — universally unique identifiers

- `Uuid`: 128 bits.
- `Uuid.text`: the hyphenated form in lower case.
- `Uuid.parse?`: reads 32 digits, or the hyphenated form, bare, in braces or as a URN.
- `Uuid.octets`, `Uuid.ofOctets?`: the sixteen octets of the wire format.
-/

namespace ParamSql

/-- A universally unique identifier. -/
structure Uuid where
  bits : BitVec 128
  deriving DecidableEq, Repr

namespace Uuid

/-! ## Octets -/

/-- The sixteen octets, first the most significant one. -/
def octets (u : Uuid) : List UInt8 :=
  Octets.bigEndian 16 u.bits.toNat

/-- The identifier with the given octets, if there are sixteen of them. -/
def ofOctets? (octets : List UInt8) : Option Uuid :=
  if octets.length = 16 then some ⟨BitVec.ofNat 128 (Octets.ofBigEndian octets)⟩ else none

/-! ## Text -/

/-- The lengths of the groups of digits between hyphens. -/
def groups : List Nat := [8, 4, 4, 4, 12]

/-- The 32 hexadecimal digits, in lower case. -/
def digits (u : Uuid) : List Char :=
  u.octets.flatMap fun o => [Nat.digitChar (o.toNat / 16), Nat.digitChar (o.toNat % 16)]

/-- Digits cut into groups of the given lengths, joined by hyphens. -/
def hyphenate : List Nat → List Char → List Char
  | [], _ => []
  | [n], cs => cs.take n
  | n :: ns, cs => cs.take n ++ '-' :: hyphenate ns (cs.drop n)

/-- The hyphenated form. -/
def text (u : Uuid) : String :=
  String.ofList (hyphenate groups u.digits)

/-- The digits of a text in which hyphens stand between groups of the given lengths and nowhere
else. -/
def unhyphenate? : List Nat → List Char → Option (List Char)
  | [], cs => if cs.isEmpty then some [] else none
  | [n], cs => if cs.length = n then some cs else none
  | n :: ns, cs =>
      match cs.drop n with
      | '-' :: rest => (unhyphenate? ns rest).map (cs.take n ++ ·)
      | _ => none

/-- The identifier with 32 hexadecimal digits in either case. -/
def ofDigits? (cs : List Char) : Option Uuid := do
  guard (cs.length = 32)
  let values ← cs.mapM Json.hexValue?
  return ⟨BitVec.ofNat 128 (values.foldl (fun n v => 16 * n + v) 0)⟩

/-- Reads 32 digits, the hyphenated form, the hyphenated form in braces, or its URN, whose scheme
and namespace may be written in either case. -/
def parse? (s : String) : Option Uuid :=
  let cs := s.toList
  if cs.length = 32 then ofDigits? cs
  else if cs.length = 36 then (unhyphenate? groups cs).bind ofDigits?
  else if cs.head? = some '\x7b' && cs.getLast? = some '\x7d' then
    (unhyphenate? groups (cs.drop 1).dropLast).bind ofDigits?
  else if (cs.take 9).map Char.toLower = "urn:uuid:".toList then
    (unhyphenate? groups (cs.drop 9)).bind ofDigits?
  else none

end Uuid
end ParamSql
