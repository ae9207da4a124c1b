import ParamSql.Text.CharClass

/-!
# Split — cutting texts into parts

- `splitOn`: the parts between the occurrences of a character.
- `splitLast?`, `splitFirst?`: the two sides of the last separator, and of the first occurrence of
  a pattern.
- `trim`, `blankWords`: texts without blanks around and between their words.
-/

namespace ParamSql
namespace Text

/-! ## Separators -/

/-- The parts between the occurrences of `sep`: one more than there are occurrences. -/
def splitOn (sep : Char) : List Char → List (List Char)
  | [] => [[]]
  | c :: cs =>
      match splitOn sep cs with
      | [] => [[c]]
      | part :: parts => if c = sep then [] :: part :: parts else (c :: part) :: parts

/-- What stands before and after the last `sep`, if there is one. -/
def splitLast? (sep : Char) : List Char → Option (List Char × List Char)
  | [] => none
  | c :: cs =>
      match splitLast? sep cs with
      | some (before, behind) => some (c :: before, behind)
      | none => if c = sep then some ([], cs) else none

/-- What stands before and after the first occurrence of `pattern`, if there is one. -/
def splitFirst? (pattern : List Char) : List Char → Option (List Char × List Char)
  | [] => if pattern.isEmpty then some ([], []) else none
  | c :: cs =>
      if pattern.isPrefixOf (c :: cs) then some ([], (c :: cs).drop pattern.length)
      else (splitFirst? pattern cs).map fun (before, behind) => (c :: before, behind)

/-- Whether `pattern` occurs in a text. -/
def occursIn (pattern text : String) : Bool :=
  (splitFirst? pattern.toList text.toList).isSome

/-! ## Blanks -/

/-- A text without the blanks at its two ends. -/
def trim (cs : List Char) : List Char :=
  ((cs.dropWhile isBlank).reverse.dropWhile isBlank).reverse

/-- The words of a text that blanks separate. -/
def blankWords (cs : List Char) : List (List Char) :=
  go [] cs
where
  /-- The words of the rest, the first of which has begun with `word` (last character first). -/
  go (word : List Char) : List Char → List (List Char)
    | [] => if word.isEmpty then [] else [word.reverse]
    | c :: rest =>
        if isBlank c then (if word.isEmpty then go [] rest else word.reverse :: go [] rest)
        else go (c :: word) rest

end Text
end ParamSql
