import ParamSql.Error
import ParamSql.Number.Decimal

/-!
# Report — how a server reports a failure

A report is a row of fields. A field is a letter, which says what the field is about, and a text
that ends with a zero character; a zero character in the place of a letter ends the report. So a
text that has zero characters in it is read as several fields.

- `ServerFailure`: what a server reports, and when.
- `ServerFailure.fields`, `ServerFailure.fields?`: the fields as they are sent, and as they are
  read.
- `ServerFailure.error`: the cause that the reader of a report makes out.
-/

namespace ParamSql

/-- When a server reports a failure: in the place of an answer, or behind the rows. -/
inductive Phase
  | prepare
  | execute
  | rows
  deriving DecidableEq, Repr

/-- A failure that a server reports. -/
structure ServerFailure where
  phase : Phase
  sqlState : String
  message : String
  constraint : Option String
  deriving Repr

namespace ServerFailure

/-- The letter of the field with the SQLSTATE code. -/
def stateLetter : Char := 'C'

/-- The letter of the field with the message. -/
def messageLetter : Char := 'M'

/-- The letter of the field with the name of a violated constraint. -/
def constraintLetter : Char := 'n'

/-- The severities that a report may state for programs. -/
def severities : List String :=
  ["PANIC", "FATAL", "ERROR", "WARNING", "NOTICE", "DEBUG", "INFO", "LOG"]

/-- Whether a field may have such a text: places in a statement and lines are numbers. -/
def isField (letter : Char) (text : List Char) : Bool :=
  match letter with
  | 'V' => severities.contains (String.ofList text)
  | 'P' | 'p' | 'L' => (Numeral.word? 32 text).isSome
  | _ => true

/-- The fields as they are sent, each of them as its letter and its text. -/
def fields (f : ServerFailure) : List (List Char) :=
  "SERROR".toList :: (stateLetter :: f.sqlState.toList) :: (messageLetter :: f.message.toList) ::
    (f.constraint.map (constraintLetter :: ·.toList)).toList

/-- Whether fields go together: a place in an internal statement needs that statement with it,
unless a place in the statement of the caller is given. -/
def isCoherent (fields : List (Char × List Char)) : Bool :=
  let has (letter : Char) := fields.any (·.1 = letter)
  has 'P' || !has 'p' || has 'q'

/-- The fields as they are read. A report that ends before all of it has been read, one with a text
that its field cannot have, and one whose fields do not go together are not understood. -/
def fields? (f : ServerFailure) : Option (List (Char × List Char)) :=
  ((f.fields.flatMap (Text.splitOn '\x00')).mapM fun
    | [] => none
    | letter :: text => if isField letter text then some (letter, text) else none).filter isCoherent

/-- The text of the last field with a letter. -/
def text? (letter : Char) (fields : List (Char × List Char)) : Option String :=
  (fields.reverse.find? (·.1 = letter)).map (String.ofList ·.2)

/-- The cause of a failure, as it is made out from the report. -/
def error (f : ServerFailure) : Error :=
  match f.fields? with
  | some fields =>
      .ofServer ((text? stateLetter fields).getD f.sqlState)
        ((text? messageLetter fields).getD f.message) (text? constraintLetter fields)
  | none => .query .unreadable

end ServerFailure
end ParamSql
