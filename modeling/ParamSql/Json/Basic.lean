import ParamSql.Number.Decimal

/-!
# Json — JSON values and their compact text

An object lists its members by key, in the order of code points and each key once, so that equal
objects are equal lists.

- `Json`: a JSON value; integers and floating-point numbers are told apart.
- `Json.insert`: a member put in its place, over an older one of the same key.
- `Json.text`: the text without spaces.
-/

namespace ParamSql

/-- A JSON value. -/
inductive Json
  | null
  | bool (b : Bool)
  | int (n : Int)
  | float (x : Binary64)
  | string (s : String)
  | array (items : List Json)
  | object (members : List (String × Json))
  deriving Repr, Inhabited, BEq

namespace Json

/-! ## Members -/

/-- Puts a member in its place among sorted ones; an older member of that key is replaced. -/
def insert (key : String) (value : Json) : List (String × Json) → List (String × Json)
  | [] => [(key, value)]
  | (k, v) :: rest =>
      if key < k then (key, value) :: (k, v) :: rest
      else if key = k then (key, value) :: rest
      else (k, v) :: insert key value rest

/-- The object with the given members; of members with one key the last is kept. -/
def ofMembers (members : List (String × Json)) : Json :=
  .object (members.foldl (fun sorted (k, v) => insert k v sorted) [])

/-- The member of an object, if there is one. -/
def member? (key : String) : Json → Option Json
  | .object members => members.lookup key
  | _ => none

/-! ## Text -/

/-- Numbers are positional while the leading digit stands between the fifth place behind the point
and the sixteenth before it; a point is always written, and ties go to the even digit. -/
def numberLayout : NumberLayout where
  tie := .toEven
  isPlain lead := -5 ≤ lead && lead ≤ 15
  wholePoint := true

/-- The text of a number; infinities and not-a-number have none and are written as null. -/
def floatText (x : Binary64) : String :=
  if x.isFinite then numberLayout.write x else "null"

/-- A hexadecimal digit in lower case. -/
def hexDigit (n : Nat) : Char :=
  (Nat.digitChar n)

/-- A character inside a quoted string: quotation marks, backslashes and control characters are
escaped. -/
def escape (c : Char) : List Char :=
  if c = '"' then ['\\', '"']
  else if c = '\\' then ['\\', '\\']
  else if c = '\x08' then ['\\', 'b']
  else if c = '\x0C' then ['\\', 'f']
  else if c = '\n' then ['\\', 'n']
  else if c = '\r' then ['\\', 'r']
  else if c = '\t' then ['\\', 't']
  else if c.toNat < 0x20 then
    ['\\', 'u', '0', '0', hexDigit (c.toNat / 16), hexDigit (c.toNat % 16)]
  else [c]

/-- A quoted string. -/
def quote (s : String) : String :=
  "\"" ++ String.ofList (s.toList.flatMap escape) ++ "\""

mutual
/-- The text of a value, behind what has been written already. -/
def writeAfter (done : String) : Json → String
  | .null => done ++ "null"
  | .bool b => done ++ if b then "true" else "false"
  | .int n => done ++ toString n
  | .float x => done ++ floatText x
  | .string s => done ++ quote s
  | .array [] => done ++ "[]"
  | .array (item :: items) => writeItemsAfter (writeAfter (done ++ "[") item) items ++ "]"
  | .object [] => done ++ "\x7b\x7d"
  | .object ((key, value) :: members) =>
      writeMembersAfter (writeAfter (done ++ "\x7b" ++ quote key ++ ":") value) members ++ "\x7d"

/-- The items after the first of an array, behind what has been written already. -/
def writeItemsAfter (done : String) : List Json → String
  | [] => done
  | item :: items => writeItemsAfter (writeAfter (done ++ ",") item) items

/-- The members after the first of an object, behind what has been written already. -/
def writeMembersAfter (done : String) : List (String × Json) → String
  | [] => done
  | (key, value) :: members =>
      writeMembersAfter (writeAfter (done ++ "," ++ quote key ++ ":") value) members
end

/-- The text of a value, without spaces. -/
def text (j : Json) : String :=
  writeAfter "" j

end Json
end ParamSql
