import ParamSql.Text.LowerCase

/-!
# Words — word boundaries inside an identifier

A name written in any mixture of cases is cut into words: at every character that is neither a
letter nor a digit, between a lower-case and an upper-case letter, and before the last of several
upper-case letters when a lower-case one follows.

- `words`: the words of a text, in order, none of them empty.
- `snakeCase`: the words in lower case, joined by underscores.
-/

namespace ParamSql
namespace Text

/-! ## Boundaries -/

/-- What the letters since the last boundary say about the next one. -/
inductive WordMode
  | boundary
  | lower
  | upper
  deriving DecidableEq, Repr

/-- The mode after a character; characters without case keep it. -/
def WordMode.after (mode : WordMode) (c : Char) : WordMode :=
  if isLower c then .lower else if isUpper c then .upper else mode

/-- A finished word, given last character first, unless it is empty. -/
def finishWord : List Char → List (List Char)
  | [] => []
  | word => [word.reverse]

/-- The words of `rest`, the first of which has begun with `word` (last character first). -/
def wordsFrom (mode : WordMode) (word : List Char) : List Char → List (List Char)
  | [] => finishWord word
  | c :: rest =>
      if !isAlphanumeric c then finishWord word ++ wordsFrom .boundary [] rest
      else
        let follows (p : Char → Bool) := rest.head?.any fun n => isAlphanumeric n && p n
        let next := mode.after c
        if next == .lower && follows isUpper then
          finishWord (c :: word) ++ wordsFrom .boundary [] rest
        else if mode == .upper && isUpper c && follows isLower then
          finishWord word ++ wordsFrom .boundary [c] rest
        else wordsFrom next (c :: word) rest

/-- The words of a text. -/
def words (cs : List Char) : List (List Char) :=
  wordsFrom .boundary [] cs

/-! ## Case -/

/-- A word in lower case; a capital sigma that ends the word takes its final form. -/
def lowerWord : List Char → List Char
  | [] => []
  | [c] => if c = 'Σ' then ['ς'] else lowerCase c
  | c :: rest => lowerCase c ++ lowerWord rest

/-- The words of a name in lower case, joined by underscores. -/
def snakeCase (s : String) : String :=
  String.intercalate "_" ((words s.toList).map fun w => String.ofList (lowerWord w))

end Text
end ParamSql
