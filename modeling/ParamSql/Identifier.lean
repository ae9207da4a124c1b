import ParamSql.Text.Split
import ParamSql.Text.Words

/-!
# Identifier — quoted names and column references

- `Identifier`: a name that can be quoted, which is any text without NUL that is not empty.
- `Identifier.quoted`: the name in double quotes, a quote inside it being doubled.
- `Path`: a name qualified by a schema, written with dots.
- `Naming`: how the logical name of a column relates to the physical one.
- `ColumnRef`: a column as the caller writes it, `column` or `table.column`.
-/

namespace ParamSql

/-! ## Identifiers -/

/-- Why a text is not an identifier. -/
inductive IdentifierFault
  | empty
  | nul
  deriving DecidableEq, Repr

def IdentifierFault.message : IdentifierFault → String
  | .empty => "Empty identifier"
  | .nul => "Identifier cannot contain NUL character"

/-- A name that can be quoted. -/
structure Identifier where
  text : String
  ne_empty : text ≠ ""
  no_nul : '\x00' ∉ text.toList
  deriving DecidableEq, Repr

namespace Identifier

/-- The identifier with a given text. -/
def of (s : String) : Except IdentifierFault Identifier :=
  if empty : s = "" then .error .empty
  else if nul : '\x00' ∈ s.toList then .error .nul
  else .ok ⟨s, empty, nul⟩

/-- The characters between the quotes. -/
def escape : List Char → List Char
  | [] => []
  | c :: cs => if c = '"' then '"' :: '"' :: escape cs else c :: escape cs

/-- The name in double quotes. -/
def quoted (i : Identifier) : String :=
  String.ofList ('"' :: escape i.text.toList ++ ['"'])

end Identifier

/-- A text in double quotes, if it is an identifier. -/
def quote (s : String) : Except IdentifierFault String :=
  (Identifier.of s).map Identifier.quoted

/-! ## Paths -/

/-- A name with the names that qualify it, outermost first. -/
abbrev Path := List Identifier

namespace Path

/-- The path whose parts are written with dots between them. -/
def of (s : String) : Except IdentifierFault Path :=
  (Text.splitOn '.' s.toList).mapM fun part => Identifier.of (String.ofList part)

/-- The quoted parts with dots between them. -/
def quoted (p : Path) : String :=
  String.intercalate "." (p.map Identifier.quoted)

end Path

/-- A dotted text with every part in double quotes, if all of them are identifiers. -/
def quotePath (s : String) : Except IdentifierFault String :=
  (Path.of s).map Path.quoted

/-! ## Columns -/

/-- How logical column names relate to physical ones. -/
inductive Naming
  | verbatim
  | snakeCase
  deriving DecidableEq, Repr, Inhabited

namespace Naming

def ofSnakeCase (enabled : Bool) : Naming :=
  if enabled then .snakeCase else .verbatim

/-- The physical name of a column. -/
def physical : Naming → String → String
  | .verbatim, name => name
  | .snakeCase, name => Text.snakeCase name

end Naming

/-- A column as the caller writes it, with the table it is taken from where that is named. -/
structure ColumnRef where
  table : Option String
  name : String
  deriving DecidableEq, Repr, Inhabited

namespace ColumnRef

/-- Reads `column` or `table.column`; the last dot separates them, unless nothing stands before
it. -/
def parse (s : String) : ColumnRef :=
  match Text.splitLast? '.' s.toList with
  | some (table, name) =>
      if table.isEmpty then ⟨none, s⟩ else ⟨some (String.ofList table), String.ofList name⟩
  | none => ⟨none, s⟩

/-- Whether the reference is to all columns. -/
def isStar (c : ColumnRef) : Bool :=
  c.name = "*"

end ColumnRef
end ParamSql
