import ParamSql.Sql.Lexeme

/-!
# Columns — column references inside a statement

- `Columns`: how a statement qualifies and names its columns.
- `Columns.reference`: a column as it is written.
- `Clauses.columns`: the rule for a statement, which follows from where its rows come from.
-/

namespace ParamSql

/-- How a statement refers to its columns: the table that a column without one belongs to, and the
naming of the columns. -/
structure Columns where
  qualifier : Option String
  naming : Naming
  deriving Repr

namespace Columns

variable {ω : Type} [Output ω]

/-- A column that is assigned to or listed by itself. -/
def target (cs : Columns) (column : String) : Rendering ω :=
  .name (cs.naming.physical column)

/-- A column with its table; `*` stands for all columns. -/
def reference (cs : Columns) (c : ColumnRef) : Rendering ω :=
  let column := if c.isStar then .fixed "*" else cs.target c.name
  match c.table.or cs.qualifier with
  | some table => .path table ++ .fixed "." ++ column
  | none => column

/-- References with commas between them. -/
def references (cs : Columns) (columns : List ColumnRef) : Rendering ω :=
  .commas (columns.map cs.reference)

/-- Columns with commas between them, without their tables. -/
def targets (cs : Columns) (columns : List String) : Rendering ω :=
  .commas (columns.map cs.target)

end Columns

namespace Clauses

variable {Q : Type}

/-- The rows of a table are qualified by its name and named as it says, or else by `naming`; rows of
a wrapped query already have the names under which they are known. -/
def columns (naming : Naming) (c : Clauses Q) : Columns :=
  match c.source with
  | .table t => ⟨some t.name, t.naming.getD naming⟩
  | .query _ name => ⟨some name, .verbatim⟩
  | .fragment _ name => ⟨some name, .verbatim⟩
  | .nothing => ⟨none, naming⟩

/-- The declared columns of the table, if all columns are selected by listing them: their physical
names would not be the names under which they are known. -/
def expandedColumns (cs : Columns) (c : Clauses Q) : List String :=
  match c.table?, cs.naming with
  | some t, .snakeCase => t.columns
  | _, _ => []

end Clauses
end ParamSql
