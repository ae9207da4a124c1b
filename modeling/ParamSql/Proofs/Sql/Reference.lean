import ParamSql.Sql.Statement
import ParamSql.Proofs.Logic.Formula

/-!
# Reference — the columns that a statement refers to

A column may stand in almost every part of a statement.  The references are listed here part by
part, in the order of the text and as often as they are written: an empty list of values is decided
without its column, a cross join has no condition in a SELECT, and behind a set operation the
columns of ORDER BY are names of the result unless they name their table.

* `Columns.conditionReferences`, `Columns.itemReferences` and the like — the references of the
  parts;
* `Clauses.references` — those of a statement, outside of the queries in it.
-/

namespace ParamSql

variable {Q : Type}

/-! ## Conditions -/

def Operand.references : Operand Q → List ColumnRef
  | .column c => [c]
  | .value _ | .fragment _ | .query _ => []

def Predicate.references : Predicate Q → List ColumnRef
  | .compare column _ operand => column :: operand.references
  | .nullCheck column _ => [column]
  | .inList column values _ => if values.isEmpty then [] else [column]
  | .inQuery column _ _ => [column]
  | .between column _ _ _ => [column]
  | .existence .. | .fragment _ | .constant _ => []

def Formula.references (f : Formula (Predicate Q)) : List ColumnRef :=
  f.atoms.flatMap Predicate.references

/-! ## Rows -/

def SelectItem.references : SelectItem Q → List ColumnRef
  | .column c _ => [c]
  | .aggregate _ argument _ _ => argument.toList
  | .fragment .. | .window .. | .query .. | .existence .. => []

/-- The column of an entry of ORDER BY. -/
def Order.references (o : Order) : List ColumnRef :=
  match o.target with
  | .column c => [c]
  | .fragment _ => []

def Window.references (w : Window) : List ColumnRef :=
  w.partitionBy ++ w.orderBy.flatMap Order.references

/-- The references of a join of a SELECT. -/
def Join.references (j : Join Q) : List ColumnRef :=
  if j.kind = .cross then [] else j.on.toList.flatMap Formula.references

namespace Clauses

variable (cs : Columns) (c : Clauses Q)

/-! ## SELECT -/

def distinctReferences : List ColumnRef :=
  match c.distinct with
  | some (.on columns) => columns
  | _ => []

/-- The references of the select list, or else of the declared columns where these are listed. -/
def listReferences : List ColumnRef :=
  if !c.select.isEmpty then c.select.flatMap SelectItem.references
  else (c.expandedColumns cs).map ColumnRef.parse

/-- Behind a set operation a column without a table is the name of a result column. -/
def orderReferences (column : ColumnRef) : List ColumnRef :=
  if !c.setOps.isEmpty && column.table.isNone then [] else [column]

def selectionReferences : List ColumnRef :=
  c.distinctReferences ++ c.listReferences cs ++ c.joins.flatMap Join.references ++
    c.filters.flatMap Formula.references ++ c.group.flatMap Operand.references ++
    c.having.flatMap Formula.references ++ c.windows.flatMap Window.references ++
    c.order.flatMap fun o => o.references.flatMap c.orderReferences

/-! ## Changes -/

/-- A column that is assigned to is no reference, but its old value is one. -/
def assignmentReferences (r : Record Q) : List ColumnRef :=
  r.assignments.flatMap fun a => if a.value.isRelative then [.parse a.column] else []

/-- An insertion refers to columns only where it updates the row that is in its way. -/
def conflictReferences (o : OnConflict Q) : List ColumnRef :=
  match o.action with
  | .update r => assignmentReferences r
  | _ => []

def changeReferences : List ColumnRef :=
  (c.joins.filterMap Join.on ++ c.filters).flatMap Formula.references

def mutationReferences : Mutation Q → List ColumnRef
  | .insert _ conflict => conflict.toList.flatMap conflictReferences
  | .update r => assignmentReferences r ++ c.changeReferences
  | .delete _ => c.changeReferences

/-! ## Statements -/

/-- All columns that a statement refers to. -/
def references : List ColumnRef :=
  match c.mutation with
  | none => c.selectionReferences cs
  | some m => c.mutationReferences m ++ c.returning.flatMap SelectItem.references

end Clauses
end ParamSql
