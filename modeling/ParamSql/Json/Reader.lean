import ParamSql.Json.Basic

/-!
# Reader — reading JSON texts

A text is cut into tokens, and the tokens are read with an explicit stack of open containers, so
that the reader is one pass over the tokens. The reader is strict: no comments, no leading zeros,
no lone surrogates, and at most `maxDepth` containers inside each other.

- `Json.Token`, `Json.tokens?`: the lexical structure.
- `Json.numberOf?`: the value of a number.
- `Json.parse?`: the value that a text stands for.
-/

namespace ParamSql
namespace Json

/-! ## Numbers -/

/-- The largest integer that a number token is read as exactly. -/
def maxUnsigned : Nat := Nat.pow 2 64 - 1

/-- Takes up decimal digits into a number as long as it fits 64 bits; what follows is left over. -/
def absorb (n : Nat) : List Char → Nat × List Char
  | [] => (n, [])
  | c :: cs =>
      let next := 10 * n + (c.toNat - '0'.toNat)
      if maxUnsigned < next then (n, c :: cs) else absorb next cs

/-- An unsigned pattern times a power of ten. Each multiplication or division by a power of ten
that is itself a double-precision number rounds once; there is no result beyond the range. -/
def scaleDecimal : Nat → Nat → Int → Option Nat
  | 0, pattern, _ => some pattern
  | fuel + 1, pattern, exponent =>
      let power (n : Nat) := binary64.round (Nat.pow 10 n) 1
      if exponent.natAbs ≤ 308 then
        if 0 ≤ exponent then
          let product := binary64.mul pattern (power exponent.natAbs)
          if binary64.infinity ≤ product then none else some product
        else some (binary64.div pattern (power exponent.natAbs))
      else if pattern = 0 then some 0
      else if 0 ≤ exponent then none
      else scaleDecimal fuel (binary64.div pattern (power 308)) (exponent + 308)

/-- The floating-point number `± digits · 10 ^ exponent`. -/
def floatOf? (negative : Bool) (digits : Nat) (exponent : Int) : Option Json :=
  (scaleDecimal 5 (binary64.round digits 1) exponent).map fun p => .float (.ofPattern negative p)

/-- The value of a number given by its sign, its digits before and behind the point, and its
exponent. Integers of 64 bits are exact; other numbers are floating-point. -/
def numberOf? (negative : Bool) (whole : List Char) (fraction : Option (List Char))
    (exponent : Option (Bool × List Char)) : Option Json :=
  let (head, skipped) := absorb 0 whole
  let (digits, dropped) := absorb head (fraction.getD [])
  let point : Int :=
    (skipped.length : Int) - (((fraction.getD []).length : Int) - (dropped.length : Int))
  match fraction, exponent, skipped with
  | none, none, [] =>
      if !negative then some (.int digits)
      else if digits = 0 || Nat.pow 2 63 < digits then floatOf? true digits 0
      else some (.int (-digits))
  | _, none, _ => floatOf? negative digits point
  | _, some (minus, ds), _ =>
      let size := ds.foldl (fun n c => 10 * n + (c.toNat - '0'.toNat)) 0
      if Nat.pow 2 31 ≤ size then
        if digits = 0 || minus then some (.float (.ofPattern negative 0)) else none
      else floatOf? negative digits (if minus then point - size else point + size)

/-! ## Tokens -/

/-- A token: a mark of structure, or a scalar that is a value by itself. -/
inductive Token
  | beginArray
  | endArray
  | beginObject
  | endObject
  | colon
  | comma
  | string (s : String)
  | scalar (j : Json)
  deriving Repr, BEq

/-- The value of a hexadecimal digit. -/
def hexValue? (c : Char) : Option Nat :=
  if c.isDigit then some (c.toNat - '0'.toNat)
  else if 'a' ≤ c && c ≤ 'f' then some (c.toNat - 'a'.toNat + 10)
  else if 'A' ≤ c && c ≤ 'F' then some (c.toNat - 'A'.toNat + 10)
  else none

/-- Four hexadecimal digits as a number. -/
def hex4? (a b c d : Char) : Option Nat := do
  return ((← hexValue? a) * 16 + (← hexValue? b)) * 256 + (← hexValue? c) * 16 + (← hexValue? d)

/-- The character of an escape of one letter. -/
def simpleEscape? : Char → Option Char
  | '"' => some '"'
  | '\\' => some '\\'
  | '/' => some '/'
  | 'b' => some '\x08'
  | 'f' => some '\x0C'
  | 'n' => some '\n'
  | 'r' => some '\r'
  | 't' => some '\t'
  | _ => none

/-- The rest of a quoted string behind its opening mark, and what follows the closing one. The
first argument holds the characters so far, last one first. -/
def stringRest? (done : List Char) : List Char → Option (String × List Char)
  | '"' :: rest => some (String.ofList done.reverse, rest)
  | '\\' :: 'u' :: a :: b :: c :: d :: rest =>
      match hex4? a b c d with
      | none => none
      | some n =>
          if 0xD800 ≤ n && n < 0xDC00 then
            match rest with
            | '\\' :: 'u' :: e :: f :: g :: h :: rest =>
                match hex4? e f g h with
                | none => none
                | some low =>
                    if 0xDC00 ≤ low && low < 0xE000 then
                      let pair := 0x10000 + (n - 0xD800) * 0x400 + (low - 0xDC00)
                      stringRest? (Char.ofNat pair :: done) rest
                    else none
            | _ => none
          else if 0xDC00 ≤ n && n < 0xE000 then none
          else stringRest? (Char.ofNat n :: done) rest
  | '\\' :: c :: rest =>
      match simpleEscape? c with
      | none => none
      | some e => stringRest? (e :: done) rest
  | c :: rest => if c = '\\' || c.toNat < 0x20 then none else stringRest? (c :: done) rest
  | [] => none

/-- A number at the head of a text, and what follows it. -/
def number? (cs : List Char) : Option (Json × List Char) := do
  let (negative, cs) := match cs with
    | '-' :: rest => (true, rest)
    | rest => (false, rest)
  let whole := cs.takeWhile Char.isDigit
  guard (!whole.isEmpty && (whole.head? ≠ some '0' || whole.length = 1))
  let cs := cs.drop whole.length
  let (fraction, cs) ← match cs with
    | '.' :: rest => do
        let ds := rest.takeWhile Char.isDigit
        guard (!ds.isEmpty)
        some (some ds, rest.drop ds.length)
    | rest => some (none, rest)
  let (exponent, cs) ← match cs with
    | e :: rest =>
        if e = 'e' || e = 'E' then do
          let (minus, rest) := Numeral.takeSign rest
          let ds := rest.takeWhile Char.isDigit
          guard (!ds.isEmpty)
          some (some (minus, ds), rest.drop ds.length)
        else some (none, e :: rest)
    | [] => some (none, [])
  let value ← numberOf? negative whole fraction exponent
  return (value, cs)

/-- The token at the head of a text, and what follows it. -/
def token? : List Char → Option (Token × List Char)
  | '[' :: rest => some (.beginArray, rest)
  | ']' :: rest => some (.endArray, rest)
  | '\x7b' :: rest => some (.beginObject, rest)
  | '\x7d' :: rest => some (.endObject, rest)
  | ':' :: rest => some (.colon, rest)
  | ',' :: rest => some (.comma, rest)
  | '"' :: rest => (stringRest? [] rest).map fun (s, rest) => (.string s, rest)
  | 'n' :: 'u' :: 'l' :: 'l' :: rest => some (.scalar .null, rest)
  | 't' :: 'r' :: 'u' :: 'e' :: rest => some (.scalar (.bool true), rest)
  | 'f' :: 'a' :: 'l' :: 's' :: 'e' :: rest => some (.scalar (.bool false), rest)
  | cs => (number? cs).map fun (j, rest) => (.scalar j, rest)

/-- The characters that may stand between tokens. -/
def isSpace (c : Char) : Bool :=
  c = ' ' || c = '\n' || c = '\t' || c = '\r'

/-- The tokens of a text, given those read so far, last one first. Each token takes a character at
least, so the length of the text bounds their number. -/
def tokensFrom? (done : List Token) : Nat → List Char → Option (List Token)
  | 0, cs => if cs.isEmpty then some done.reverse else none
  | fuel + 1, cs =>
      match cs.dropWhile isSpace with
      | [] => some done.reverse
      | cs =>
          match token? cs with
          | none => none
          | some (t, rest) => tokensFrom? (t :: done) fuel rest

/-- The tokens of a text. -/
def tokens? (s : String) : Option (List Token) :=
  let cs := s.toList
  tokensFrom? [] (cs.length + 1) cs

/-! ## Values -/

/-- How many containers may stand inside each other. -/
def maxDepth : Nat := 127

/-- A container whose end has not been reached: an array with its items so far, last one first, or
an object with its members so far and the key whose value is being read. -/
inductive Frame
  | array (items : List Json)
  | object (members : List (String × Json)) (key : String)
  deriving Repr, BEq

/-- What the reader expects next. -/
inductive Expectation
  | value
  | itemOrEnd
  | keyOrEnd
  | key (members : List (String × Json))
  | colon (members : List (String × Json)) (key : String)
  | done (value : Json)
  deriving Repr, BEq

/-- The beginning of a value: a scalar, or a container that opens inside the frames. -/
def beginValue? (t : Token) (frames : List Frame) : Option Expectation :=
  match t with
  | .scalar j => some (.done j)
  | .string s => some (.done (.string s))
  | .beginArray => if frames.length < maxDepth then some .itemOrEnd else none
  | .beginObject => if frames.length < maxDepth then some .keyOrEnd else none
  | _ => none

/-- One token: the next expectation and the open containers. -/
def step? (e : Expectation) (frames : List Frame) (t : Token) :
    Option (Expectation × List Frame) :=
  match e, t, frames with
  | .value, t, _ => (beginValue? t frames).map (·, frames)
  | .itemOrEnd, .endArray, _ => some (.done (.array []), frames)
  | .itemOrEnd, t, _ =>
      (beginValue? t (.array [] :: frames)).map (·, .array [] :: frames)
  | .keyOrEnd, .endObject, _ => some (.done (.object []), frames)
  | .keyOrEnd, .string k, _ => some (.colon [] k, frames)
  | .key members, .string k, _ => some (.colon members k, frames)
  | .colon members k, .colon, _ => some (.value, .object members k :: frames)
  | .done v, .comma, .array items :: rest => some (.value, .array (v :: items) :: rest)
  | .done v, .endArray, .array items :: rest => some (.done (.array (v :: items).reverse), rest)
  | .done v, .comma, .object members k :: rest => some (.key (insert k v members), rest)
  | .done v, .endObject, .object members k :: rest =>
      some (.done (.object (insert k v members)), rest)
  | _, _, _ => none

/-- The value that a list of tokens stands for. -/
def ofTokens? (e : Expectation) (frames : List Frame) : List Token → Option Json
  | [] => match e, frames with
      | .done v, [] => some v
      | _, _ => none
  | t :: ts =>
      match step? e frames t with
      | none => none
      | some (e, frames) => ofTokens? e frames ts

/-- The value that a text stands for. -/
def parse? (s : String) : Option Json :=
  (tokens? s).bind (ofTokens? .value [])

end Json
end ParamSql
