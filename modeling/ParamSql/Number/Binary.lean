/-!
# Binary — floating-point numbers by their bit patterns

A number is its interchange bit pattern, and every operation is exact arithmetic on natural
numbers followed by one rounding to the nearest pattern, ties to the even one.

- `BinaryFormat`, `binary32`, `binary64`: the layout of a format.
- `BinaryFormat.round`: the pattern nearest to a quotient of natural numbers.
- `Binary64`: a 64-bit number; `Binary64.ofInt`, `Binary64.toSingle`, `Binary64.ofSingle`.
-/

namespace ParamSql

/-! ## Formats -/

/-- A binary format: the bits of its significand, the exponent of its least positive number, and
the pattern of infinity. -/
structure BinaryFormat where
  precision : Nat
  least : Int
  infinity : Nat
  deriving DecidableEq, Repr

/-- Single precision. -/
def binary32 : BinaryFormat := ⟨24, -149, 0x7F800000⟩

/-- Double precision. -/
def binary64 : BinaryFormat := ⟨53, -1074, 0x7FF0000000000000⟩

/-- The quotient rounded to the nearest natural number, a half going to the even neighbour. -/
def roundHalfEven (num den : Nat) : Nat :=
  let q := num / den
  let twice := 2 * (num % den)
  if twice < den then q else if den < twice then q + 1 else q + q % 2

/-- The quotient of `num` by `den · 2 ^ e`, as a pair of natural numbers. -/
def scaleBinary (num den : Nat) (e : Int) : Nat × Nat :=
  if 0 ≤ e then (num, den * Nat.pow 2 e.toNat) else (num * Nat.pow 2 (-e).toNat, den)

namespace BinaryFormat

/-- The exponent of the last place of the number nearest to `num / den`. -/
def exponentFor (f : BinaryFormat) (num den : Nat) : Int :=
  let guess : Int := (num.log2 : Int) - (den.log2 : Int) - (f.precision : Int)
  let (n, d) := scaleBinary num den guess
  let exact := if d * Nat.pow 2 f.precision ≤ n then guess + 1 else guess
  max exact f.least

/-- The unsigned pattern nearest to `num / den`; what is too large becomes infinity. -/
def round (f : BinaryFormat) (num den : Nat) : Nat :=
  if num = 0 then 0
  else
    let e := f.exponentFor num den
    let (n, d) := scaleBinary num den e
    min ((e - f.least).toNat * Nat.pow 2 (f.precision - 1) + roundHalfEven n d) f.infinity

/-- The significand and the exponent of an unsigned finite pattern. -/
def parts (f : BinaryFormat) (pattern : Nat) : Nat × Int :=
  let unit := Nat.pow 2 (f.precision - 1)
  let field := pattern / unit
  if field = 0 then (pattern % unit, f.least)
  else (pattern % unit + unit, f.least + (field : Int) - 1)

/-- An unsigned finite pattern as a quotient of natural numbers. -/
def ratio (f : BinaryFormat) (pattern : Nat) : Nat × Nat :=
  let (m, e) := f.parts pattern
  if 0 ≤ e then (m * Nat.pow 2 e.toNat, 1) else (m, Nat.pow 2 (-e).toNat)

/-- The product of two unsigned finite patterns, rounded once. -/
def mul (f : BinaryFormat) (a b : Nat) : Nat :=
  let (an, ad) := f.ratio a
  let (bn, bd) := f.ratio b
  f.round (an * bn) (ad * bd)

/-- The quotient of an unsigned finite pattern by a positive one, rounded once. -/
def div (f : BinaryFormat) (a b : Nat) : Nat :=
  let (an, ad) := f.ratio a
  let (bn, bd) := f.ratio b
  f.round (an * bd) (ad * bn)

end BinaryFormat

/-! ## Double precision -/

/-- A double-precision number, given by its bits. -/
structure Binary64 where
  bits : UInt64
  deriving DecidableEq, Repr, Inhabited

namespace Binary64

/-- The number with a sign and an unsigned pattern. -/
def ofPattern (negative : Bool) (pattern : Nat) : Binary64 :=
  ⟨UInt64.ofNat (if negative then Nat.pow 2 63 + pattern else pattern)⟩

/-- The sign bit. -/
def isNegative (x : Binary64) : Bool :=
  Nat.pow 2 63 ≤ x.bits.toNat

/-- The bits without the sign. -/
def pattern (x : Binary64) : Nat :=
  x.bits.toNat % Nat.pow 2 63

def isFinite (x : Binary64) : Bool :=
  x.pattern < binary64.infinity

def isNaN (x : Binary64) : Bool :=
  binary64.infinity < x.pattern

/-- The not-a-number that stands for all of them. -/
def nan : Binary64 := ⟨0x7FF8000000000000⟩

/-- The infinity of a sign. -/
def infinite (negative : Bool) : Binary64 :=
  ofPattern negative binary64.infinity

/-- The same number, every not-a-number being replaced by `nan`. -/
def canonical (x : Binary64) : Binary64 :=
  if x.isNaN then nan else x

/-- The number nearest to an integer. -/
def ofInt (n : Int) : Binary64 :=
  ofPattern (n < 0) (binary64.round n.natAbs 1)

/-! ## Single precision -/

/-- The bits of the single-precision number nearest to `x`. A not-a-number keeps its sign and the
leading bits of its payload and becomes quiet. -/
def toSingle (x : Binary64) : UInt32 :=
  let sign := if x.isNegative then Nat.pow 2 31 else 0
  if x.isNaN then
    let payload := x.pattern / Nat.pow 2 29 % Nat.pow 2 22
    UInt32.ofNat (sign + binary32.infinity + Nat.pow 2 22 + payload)
  else if x.isFinite then
    let (num, den) := binary64.ratio x.pattern
    UInt32.ofNat (sign + binary32.round num den)
  else UInt32.ofNat (sign + binary32.infinity)

/-- The number whose single-precision bits are given. -/
def ofSingle (bits : UInt32) : Binary64 :=
  let negative := decide (Nat.pow 2 31 ≤ bits.toNat)
  let p := bits.toNat % Nat.pow 2 31
  if binary32.infinity < p then
    let payload := p % Nat.pow 2 22 * Nat.pow 2 29
    ofPattern negative (binary64.infinity + Nat.pow 2 51 + payload)
  else if p < binary32.infinity then
    let (num, den) := binary32.ratio p
    ofPattern negative (binary64.round num den)
  else infinite negative

end Binary64
end ParamSql
