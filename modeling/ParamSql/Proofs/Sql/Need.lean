import ParamSql.Proofs.Query.Subquery

/-!
# Need — the names and values of a statement

Besides the queries inside it, a statement is written from names and values of the caller.  They are
listed here part by part, as the statement has a use for them: a SELECT has none for RETURNING, an
INSERT none for conditions, and a cross join none for its condition.

* `Need` — a name that is quoted, or a value that is bound;
* `Need.path`, `Need.fragment` — what a dotted name and a fragment need;
* `Clauses.needs` — what a statement needs outside of the queries in it, in the order of its text.
-/

namespace ParamSql

variable {Q : Type}

/-- A name that is quoted, or a value that is bound. -/
inductive Need
  | name (s : String)
  | value
  deriving DecidableEq, Repr

namespace Need

/-- The names of a dotted text. -/
def path (s : String) : List Need :=
  (Text.splitOn '.' s.toList).map fun part => .name (String.ofList part)

/-- The names behind AS. -/
def title (name : Option String) : List Need :=
  name.toList.map .name

def fragment (f : Fragment) : List Need :=
  f.values.map fun _ => .value

/-- How many values there are. -/
def values (needs : List Need) : Nat :=
  needs.count .value

end Need

/-! ## Conditions -/

namespace Columns

variable (cs : Columns)

def targetNeeds (column : String) : List Need :=
  [.name (cs.naming.physical column)]

/-- A column is quoted behind its table; a star is not quoted. -/
def referenceNeeds (c : ColumnRef) : List Need :=
  (c.table.or cs.qualifier).toList.flatMap Need.path ++
    if c.isStar then [] else cs.targetNeeds c.name

def operandNeeds : Operand Q → List Need
  | .column c => cs.referenceNeeds c
  | .value _ => [.value]
  | .fragment f => Need.fragment f
  | .query _ => []

/-- The column of an empty list of values is not written. -/
def predicateNeeds : Predicate Q → List Need
  | .compare column _ operand => cs.referenceNeeds column ++ cs.operandNeeds operand
  | .nullCheck column _ => cs.referenceNeeds column
  | .inList column values _ =>
      if values.isEmpty then [] else cs.referenceNeeds column ++ values.map fun _ => .value
  | .inQuery column _ _ => cs.referenceNeeds column
  | .existence _ _ => []
  | .between column _ _ _ => cs.referenceNeeds column ++ [.value, .value]
  | .fragment f => Need.fragment f
  | .constant _ => []

def conditionNeeds (f : Formula (Predicate Q)) : List Need :=
  f.atoms.flatMap cs.predicateNeeds

/-! ## Rows -/

def itemNeeds : SelectItem Q → List Need
  | .column c name => cs.referenceNeeds c ++ Need.title (cs.columnName c name)
  | .fragment f name => Need.fragment f ++ Need.title name
  | .aggregate _ column _ name => column.toList.flatMap cs.referenceNeeds ++ Need.title name
  | .window call window name => Need.fragment call ++ .name window :: Need.title name
  | .query _ name => [.name name]
  | .existence _ name => [.name name]

/-- An entry of ORDER BY, whose columns need what `column` says. -/
def orderNeeds (column : ColumnRef → List Need) (o : Order) : List Need :=
  match o.target with
  | .column c => column c
  | .fragment f => Need.fragment f

def windowNeeds (w : Window) : List Need :=
  .name w.name :: w.partitionBy.flatMap cs.referenceNeeds ++
    w.orderBy.flatMap (orderNeeds cs.referenceNeeds) ++ w.frame.toList.flatMap Need.fragment

end Columns

def JoinSource.needs : JoinSource Q → List Need
  | .table path name => Need.path path ++ Need.title name
  | .query _ name => [.name name]

def LockTable.needs : LockTable → List Need
  | .path name => Need.path name
  | .fragment f => Need.fragment f

def Lock.needs (l : Lock) : List Need :=
  l.tables.flatMap LockTable.needs

def CteBody.needs : CteBody Q → List Need
  | .query _ => []
  | .fragment f => Need.fragment f

def Cte.needs (cte : Cte Q) : List Need :=
  .name cte.name :: cte.columns.map .name ++ cte.body.needs

/-- A join of a SELECT. -/
def Join.needs (cs : Columns) (j : Join Q) : List Need :=
  j.source.needs ++ if j.kind = .cross then [] else j.on.toList.flatMap cs.conditionNeeds

namespace Clauses

variable (cs : Columns) (c : Clauses Q)

/-! ## SELECT -/

def sourceNeeds : List Need :=
  match c.source with
  | .nothing => []
  | .table t => Need.path t.path
  | .query _ name => [.name name]
  | .fragment f name => Need.fragment f ++ [.name name]

/-- The items or the declared columns; a star is qualified by the source if others are joined to
it. -/
def listNeeds : List Need :=
  if !c.select.isEmpty then c.select.flatMap cs.itemNeeds
  else
    match c.expandedColumns cs with
    | [] => if c.joins.isEmpty then [] else cs.qualifier.toList.flatMap Need.path
    | columns => columns.flatMap fun column => cs.itemNeeds (.ofColumn column : SelectItem Q)

def distinctNeeds : List Need :=
  match c.distinct with
  | some (.on columns) => columns.flatMap cs.referenceNeeds
  | _ => []

/-- A column in ORDER BY, which goes by its name in the result behind a set operation. -/
def orderColumnNeeds (column : ColumnRef) : List Need :=
  if !c.setOps.isEmpty && column.table.isNone then [.name (c.outputName cs column.name)]
  else cs.referenceNeeds column

def selectionNeeds : List Need :=
  c.distinctNeeds cs ++ c.listNeeds cs ++ c.sourceNeeds ++ c.joins.flatMap (Join.needs cs) ++
    c.filters.flatMap cs.conditionNeeds ++ c.group.flatMap cs.operandNeeds ++
    c.having.flatMap cs.conditionNeeds ++ c.windows.flatMap cs.windowNeeds ++
    c.order.flatMap (Columns.orderNeeds (c.orderColumnNeeds cs)) ++
    c.limit.toList.map (fun _ => .value) ++ c.offset.toList.map (fun _ => .value) ++
    c.lock.toList.flatMap Lock.needs

/-! ## Changes -/

/-- The names of the table that is changed. -/
def tableNeeds : List Need :=
  c.table?.toList.flatMap fun t => Need.path t.path

def newValueNeeds (column : String) : SetValue Q → List Need
  | .value _ => [.value]
  | .fragment f => Need.fragment f
  | .increment _ => cs.referenceNeeds (.parse column) ++ [.value]
  | .decrement _ => cs.referenceNeeds (.parse column) ++ [.value]
  | .query _ => []
  | .default => []

def assignmentNeeds (r : Record Q) : List Need :=
  r.assignments.flatMap fun a => cs.targetNeeds a.column ++ newValueNeeds cs a.column a.value

/-- The records of an INSERT are written column by column. -/
def rowNeeds : InsertRows Q → List Need
  | .records rs =>
      (recordColumns rs).flatMap cs.targetNeeds ++
        rs.flatMap fun r => (recordColumns rs).flatMap fun column =>
          (r.get? column).toList.flatMap (newValueNeeds cs column)
  | .query columns _ => columns.flatMap cs.targetNeeds

def conflictNeeds (o : OnConflict Q) : List Need :=
  o.columns.flatMap cs.targetNeeds ++
    match o.action with
    | .nothing => []
    | .merge columns => columns.flatMap fun column => cs.targetNeeds column ++ cs.targetNeeds column
    | .update r => assignmentNeeds cs r

/-- The joined sources of a change, and the conditions in its WHERE. -/
def changeNeeds : List Need :=
  c.joins.flatMap (fun j => j.source.needs) ++
    (c.joins.filterMap Join.on ++ c.filters).flatMap cs.conditionNeeds

/-- A statement without its common table expressions. -/
def bodyNeeds : List Need :=
  match c.mutation with
  | none => c.selectionNeeds cs
  | some (.insert rows conflict) =>
      c.tableNeeds ++ rowNeeds cs rows ++ conflict.toList.flatMap (conflictNeeds cs) ++
        c.returning.flatMap cs.itemNeeds
  | some (.update r) =>
      c.tableNeeds ++ assignmentNeeds cs r ++ c.changeNeeds cs ++ c.returning.flatMap cs.itemNeeds
  | some (.delete hard) =>
      c.tableNeeds ++ (c.deletionMark hard).toList.flatMap cs.targetNeeds ++ c.changeNeeds cs ++
        c.returning.flatMap cs.itemNeeds

/-! ## Statements -/

/-- What a statement needs outside of the queries in it. -/
def needs (naming : Naming) : List Need :=
  c.ctes.flatMap Cte.needs ++ c.bodyNeeds (c.columns naming)

end Clauses
end ParamSql
