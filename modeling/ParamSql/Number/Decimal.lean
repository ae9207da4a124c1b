import ParamSql.Number.Binary

/-!
# Decimal — decimal text of binary numbers

- `Numeral`: a decimal number, digits times a power of ten.
- `Numeral.toBinary64`: the double-precision number nearest to a numeral.
- `shortest`: the numeral with the fewest digits that reads back, the nearest of those.
- `NumberLayout`: how a format writes a numeral, and `NumberLayout.write`.
-/

namespace ParamSql

/-! ## Numerals -/

/-- The decimal number `± digits · 10 ^ exponent`. -/
structure Numeral where
  negative : Bool
  digits : Nat
  exponent : Int
  deriving DecidableEq, Repr

namespace Numeral

/-- How many decimal digits a natural number has; zero has one. -/
def digitCount (n : Nat) : Nat :=
  (Nat.toDigits 10 n).length

/-- The unsigned pattern of a format nearest to a numeral. Numerals far outside the range of every
format are settled by their magnitude alone. -/
def toPattern (f : BinaryFormat) (x : Numeral) : Nat :=
  let magnitude : Int := (digitCount x.digits : Int) + x.exponent
  if x.digits = 0 then 0
  else if magnitude > 400 then f.infinity
  else if magnitude < -400 then 0
  else if 0 ≤ x.exponent then f.round (x.digits * Nat.pow 10 x.exponent.toNat) 1
  else f.round x.digits (Nat.pow 10 (-x.exponent).toNat)

/-- The double-precision number nearest to a numeral. -/
def toBinary64 (x : Numeral) : Binary64 :=
  .ofPattern x.negative (x.toPattern binary64)

/-- The bits of the single-precision number nearest to a numeral. -/
def toBinary32 (x : Numeral) : UInt32 :=
  UInt32.ofNat ((if x.negative then Nat.pow 2 31 else 0) + x.toPattern binary32)

/-! ## Reading -/

/-- A natural number written in decimal digits, and nothing else. -/
def digits? (cs : List Char) : Option Nat :=
  if cs.all Char.isDigit then some (cs.foldl (fun n c => 10 * n + (c.toNat - '0'.toNat)) 0)
  else none

/-- The number of an optional plus sign and at least one decimal digit, if it fits into a word of so
many bits. -/
def word? (bits : Nat) (cs : List Char) : Option Nat :=
  let digits := match cs with
    | '+' :: rest => rest
    | cs => cs
  if digits.isEmpty then none else (digits? digits).filter (· < Nat.pow 2 bits)

/-- A sign, if there is one, and the rest; the sign is true for minus. -/
def takeSign : List Char → Bool × List Char
  | '-' :: rest => (true, rest)
  | '+' :: rest => (false, rest)
  | rest => (false, rest)

/-- The numeral that a text writes, with a sign, a point and an exponent where it has them. -/
def parse? (text : String) : Option Numeral := do
  let (negative, unsigned) := takeSign text.toList
  let mantissa := unsigned.takeWhile fun c => c ≠ 'e' && c ≠ 'E'
  let exponent ← match unsigned.drop mantissa.length with
    | [] => some 0
    | _ :: rest => do
        let (minus, ds) := takeSign rest
        guard (!ds.isEmpty)
        let n ← digits? ds
        some (if minus then -(n : Int) else n)
  let whole := mantissa.takeWhile (· ≠ '.')
  let fraction := mantissa.drop (whole.length + 1)
  guard (!(whole ++ fraction).isEmpty)
  let ds ← digits? (whole ++ fraction)
  return ⟨negative, ds, exponent - (fraction.length : Int)⟩

end Numeral

/-- A number that no numeral writes: a sign, if there is one, and a word for an infinity or for
not-a-number, in upper or lower case. -/
def Binary64.special? (text : String) : Option Binary64 :=
  let (negative, word) := Numeral.takeSign text.toList
  match String.ofList (word.map Char.toLower) with
  | "nan" => some (.ofPattern negative Binary64.nan.bits.toNat)
  | "inf" => some (.infinite negative)
  | "infinity" => some (.infinite negative)
  | _ => none

/-- The double-precision number that a text writes, the nearest one to a numeral. -/
def Binary64.parse? (text : String) : Option Binary64 :=
  (special? text).or ((Numeral.parse? text).map Numeral.toBinary64)

/-- The single-precision number that a text writes, the nearest one to a numeral, widened. -/
def Binary64.parseSingle? (text : String) : Option Binary64 :=
  (special? text).or ((Numeral.parse? text).map fun x => .ofSingle x.toBinary32)

/-! ## Shortest numerals -/

/-- Which of two equally near numerals is taken. -/
inductive TieRule
  | toEven
  | up
  deriving DecidableEq, Repr

/-- The reals that round to a positive finite number, over one denominator: the number itself, the
two ends of the interval, and whether the ends belong to it. -/
structure RoundingInterval where
  value : Nat
  low : Nat
  high : Nat
  den : Nat
  closed : Bool
  deriving DecidableEq, Repr

/-- The interval of a positive finite pattern. Below a power of two the neighbours are half as far
apart as above it. -/
def RoundingInterval.of (f : BinaryFormat) (pattern : Nat) : RoundingInterval :=
  let (m, e) := f.parts pattern
  let below := if m = Nat.pow 2 (f.precision - 1) && f.least < e then 1 else 2
  let scale (n : Nat) := if 0 ≤ e then n * Nat.pow 2 e.toNat else n
  let den := if 0 ≤ e then 4 else 4 * Nat.pow 2 (-e).toNat
  ⟨scale (4 * m), scale (4 * m - below), scale (4 * m + 2), den, m % 2 = 0⟩

/-- Whether `n / den` lies in the interval, for a point given over another denominator. -/
def RoundingInterval.holds (r : RoundingInterval) (num den : Nat) : Bool :=
  let point := num * r.den
  let low := r.low * den
  let high := r.high * den
  if r.closed then low ≤ point && point ≤ high else low < point && point < high

/-- The exponent of the leading decimal digit of `num / den`. -/
def leadingExponent (num den : Nat) : Int :=
  let guess : Int := (Numeral.digitCount num : Int) - (Numeral.digitCount den : Int)
  let reaches :=
    if 0 ≤ guess then den * Nat.pow 10 guess.toNat ≤ num else den ≤ num * Nat.pow 10 (-guess).toNat
  if reaches then guess else guess - 1

/-- The point of the grid of multiples of `10 ^ k` that lies in the interval next to its number:
the neighbour below or above, whichever is nearer. -/
def gridPoint? (tie : TieRule) (r : RoundingInterval) (k : Int) : Option Nat :=
  let (stepNum, stepDen) := if 0 ≤ k then (Nat.pow 10 k.toNat, 1) else (1, Nat.pow 10 (-k).toNat)
  let num := r.value * stepDen
  let den := r.den * stepNum
  let below := num / den
  let hits (c : Nat) := r.holds (c * stepNum) stepDen
  match hits below && 0 < below, hits (below + 1) with
  | true, true =>
      let twice := 2 * (num % den)
      if twice < den then some below
      else if den < twice then some (below + 1)
      else match tie with
        | .toEven => some (below + below % 2)
        | .up => some (below + 1)
  | true, false => some below
  | false, true => some (below + 1)
  | false, false => none

/-- Without the zeros at the end of a natural number, which are counted into the exponent. -/
def dropTrailingZeros : Nat → Nat → Int → Nat × Int
  | 0, n, e => (n, e)
  | fuel + 1, n, e =>
      if n ≠ 0 && n % 10 = 0 then dropTrailingZeros fuel (n / 10) (e + 1) else (n, e)

/-- The numeral with the fewest digits that reads back as a finite number, the nearest of those.
Seventeen digits always suffice. -/
def shortest (tie : TieRule) (x : Binary64) : Numeral :=
  if x.pattern = 0 then ⟨x.isNegative, 0, 0⟩
  else
    let r := RoundingInterval.of binary64 x.pattern
    let lead := leadingExponent r.value r.den
    let grid (n : Nat) : Option (Nat × Int) :=
      let k := lead - (n : Int)
      (gridPoint? tie r k).map fun c => (c, k)
    let (n, k) := ((List.range 17).findSome? grid).getD (0, 0)
    let (digits, exponent) := dropTrailingZeros 18 n k
    ⟨x.isNegative, digits, exponent⟩

/-! ## Layouts -/

/-- How a format writes numerals: which of two equally near numerals it takes, the exponents of the
leading digit that it writes without an exponent, and whether whole numbers keep a point. -/
structure NumberLayout where
  tie : TieRule
  isPlain : Int → Bool
  wholePoint : Bool

/-- A text of `n` zeros. -/
def zeros (n : Nat) : String :=
  String.ofList (List.replicate n '0')

/-- Positional notation of digits whose first stands at `10 ^ lead`. -/
def NumberLayout.plain (l : NumberLayout) (digits : List Char) (lead : Int) : String :=
  if lead < 0 then "0." ++ zeros (-lead - 1).toNat ++ String.ofList digits
  else
    let wholeLength := lead.toNat + 1
    let whole := String.ofList (digits.take wholeLength) ++ zeros (wholeLength - digits.length)
    let fraction := digits.drop wholeLength
    if !fraction.isEmpty then whole ++ "." ++ String.ofList fraction
    else if l.wholePoint then whole ++ ".0"
    else whole

/-- Scientific notation of digits whose first stands at `10 ^ lead`. -/
def NumberLayout.scientific (digits : List Char) (lead : Int) : String :=
  let mantissa := match digits with
    | [] => ""
    | [d] => String.singleton d
    | d :: ds => String.singleton d ++ "." ++ String.ofList ds
  mantissa ++ (if lead < 0 then "e-" else "e+") ++ toString lead.natAbs

/-- A finite number in a layout. -/
def NumberLayout.write (l : NumberLayout) (x : Binary64) : String :=
  let n := shortest l.tie x
  let digits := Nat.toDigits 10 n.digits
  let lead := if n.digits = 0 then 0 else n.exponent + (digits.length : Int) - 1
  (if n.negative then "-" else "") ++
    if l.isPlain lead then l.plain digits lead else NumberLayout.scientific digits lead

end ParamSql
