import ParamSql.Query.Basic
import ParamSql.Sql.Columns

/-!
# Statement — writing a query as one statement

The functions write parts of a statement whose inner queries are renderings already, so that a
query inside another one is written as it would be by itself, and only where it is used.

- `Columns.condition`, `Columns.clauseOf`: conditions, and the clauses they stand in.
- `Clauses.selection`, `Clauses.insertion`, `Clauses.updating`, `Clauses.deletion`: the four kinds
  of statement.
- `Clauses.statement`: a statement with its common table expressions.
- `Query.rendering`: a query inside another one.
-/

namespace ParamSql

variable {Q ω : Type} [Output ω]

namespace Columns

/-! ## Conditions -/

/-- A query between brackets, or one of the other operands. -/
def operand (cs : Columns) : Operand (Rendering ω) → Rendering ω
  | .column c => cs.reference c
  | .value v => .bind v
  | .fragment f => .fragment f
  | .query q => .bracketed q

/-- A predicate. A list without values is decided at once. -/
def predicate (cs : Columns) : Predicate (Rendering ω) → Rendering ω
  | .compare column op rhs =>
      cs.reference column ++ .fixed (" " ++ op.sql ++ " ") ++ cs.operand rhs
  | .nullCheck column isNull =>
      cs.reference column ++ .fixed (if isNull then " IS NULL" else " IS NOT NULL")
  | .inList column values negated =>
      if values.isEmpty then .fixed (if negated then "TRUE" else "FALSE")
      else
        cs.reference column ++ .fixed (if negated then " NOT IN (" else " IN (") ++
          .commas (values.map .bind) ++ .fixed ")"
  | .inQuery column q negated =>
      cs.reference column ++ .fixed (if negated then " NOT IN (" else " IN (") ++ q ++ .fixed ")"
  | .existence q negated =>
      .fixed (if negated then "NOT EXISTS (" else "EXISTS (") ++ q ++ .fixed ")"
  | .between column low high negated =>
      cs.reference column ++ .fixed (if negated then " NOT BETWEEN " else " BETWEEN ") ++
        .bind low ++ .fixed " AND " ++ .bind high
  | .fragment f => .fragment f
  | .constant b => .fixed (if b then "TRUE" else "FALSE")

/-- A predicate, a connective or a bracket of a condition. -/
def mark (cs : Columns) : Mark (Predicate (Rendering ω)) → Rendering ω
  | .atom p => cs.predicate p
  | .and => .fixed " AND "
  | .or => .fixed " OR "
  | .notOpen => .fixed "NOT ("
  | .opening => .fixed "("
  | .closing => .fixed ")"

def condition (cs : Columns) (f : Formula (Predicate (Rendering ω))) : Rendering ω :=
  .concat (f.marks.map cs.mark)

/-- The conjunction of conditions behind a keyword; nothing at all is written if there are no
predicates in them. -/
def clauseOf (cs : Columns) (keyword : String) (fs : List (Formula (Predicate (Rendering ω)))) :
    Rendering ω :=
  if Formula.areEmpty fs then .nothing else .fixed keyword ++ cs.condition (.all fs)

/-! ## Rows -/

/-- The name given to a result column. -/
def itemName (name : Option String) : Rendering ω :=
  Rendering.optional (fun name => .fixed " AS " ++ .name name) name

/-- The name of a selected column: the one that it is given, or else its logical name where the
physical one differs. -/
def columnName (cs : Columns) (c : ColumnRef) (name : Option String) : Option String :=
  match name with
  | some name => some name
  | none => if !c.isStar && cs.naming.physical c.name ≠ c.name then some c.name else none

/-- An item of a select list with its name. -/
def item (cs : Columns) : SelectItem (Rendering ω) → Rendering ω
  | .column c name => cs.reference c ++ itemName (cs.columnName c name)
  | .fragment f name => .fragment f ++ itemName name
  | .aggregate function column isDistinct name =>
      .fixed (function.sql ++ "(" ++ if isDistinct then "DISTINCT " else "") ++
        (match column with
          | some c => cs.reference c
          | none => .fixed "*") ++
        .fixed ")" ++ itemName name
  | .window call window name =>
      .fragment call ++ .fixed " OVER " ++ .name window ++ itemName name
  | .query q name => .bracketed q ++ itemName (some name)
  | .existence q name => .fixed "EXISTS " ++ .bracketed q ++ itemName (some name)

def items (cs : Columns) (is : List (SelectItem (Rendering ω))) : Rendering ω :=
  .commas (is.map cs.item)

/-- An entry of ORDER BY, whose columns are written by `column`. -/
def orderEntry (column : ColumnRef → Rendering ω) (o : Order) : Rendering ω :=
  (match o.target with
    | .column c => column c
    | .fragment f => .fragment f) ++
    .fixed (" " ++ o.direction.sql) ++
    Rendering.optional (fun (n : Nulls) => .fixed (" " ++ n.sql)) o.nulls

/-- The definition of a window, whose parts are separated by blanks. -/
def windowBody (cs : Columns) (w : Window) : Rendering ω :=
  let partition :=
    if w.partitionBy.isEmpty then [] else [.fixed "PARTITION BY " ++ cs.references w.partitionBy]
  let order :=
    if w.orderBy.isEmpty then []
    else [.clause "ORDER BY " (w.orderBy.map (orderEntry cs.reference))]
  let frame := w.frame.toList.map Rendering.fragment
  .separated " " (partition ++ order ++ frame)

def window (cs : Columns) (w : Window) : Rendering ω :=
  .name w.name ++ .fixed " AS " ++ .bracketed (cs.windowBody w)

end Columns

/-! ## Sources -/

def JoinSource.rendering : JoinSource (Rendering ω) → Rendering ω
  | .table path name => .path path ++ Columns.itemName name
  | .query q name => .bracketed q ++ Columns.itemName (some name)

def LockTable.rendering : LockTable → Rendering ω
  | .path name => .path name
  | .fragment f => .fragment f

def Lock.rendering (l : Lock) : Rendering ω :=
  .fixed (" " ++ l.mode.sql) ++ .clause " OF " (l.tables.map LockTable.rendering) ++
    Rendering.optional (fun (w : WaitPolicy) => .fixed (" " ++ w.sql)) l.wait

/-- A common table expression with the names of its columns. -/
def Cte.rendering (cte : Cte (Rendering ω)) : Rendering ω :=
  .name cte.name ++
    (if cte.columns.isEmpty then .nothing else .bracketed (.commas (cte.columns.map .name))) ++
    .fixed " AS " ++
    .bracketed
      (match cte.body with
        | .query q => q
        | .fragment f => .fragment f)

/-- A join of a SELECT; a condition without predicates is always true. -/
def Join.rendering (cs : Columns) (j : Join (Rendering ω)) : Rendering ω :=
  .fixed (" " ++ j.kind.sql ++ " ") ++ j.source.rendering ++
    if j.kind = .cross then .nothing
    else
      .fixed " ON " ++
        match j.on with
        | some on => if on.isEmpty then .fixed "TRUE" else cs.condition on
        | none => .fixed "TRUE"

namespace Clauses

/-- The table that a statement changes. -/
def target (verb : Verb) (c : Clauses (Rendering ω)) : Rendering ω :=
  match c.table? with
  | some t => .path t.path
  | none => .fault (.noTable verb)

def fromClause (c : Clauses (Rendering ω)) : Rendering ω :=
  match c.source with
  | .nothing => .nothing
  | .table t => .fixed " FROM " ++ .path t.path
  | .query q name => .fixed " FROM " ++ .bracketed q ++ Columns.itemName (some name)
  | .fragment f name => .fixed " FROM " ++ .fragment f ++ Columns.itemName (some name)

def withClause (c : Clauses (Rendering ω)) : Rendering ω :=
  if c.ctes.isEmpty then .nothing
  else
    .fixed (if c.ctes.any Cte.isRecursive then "WITH RECURSIVE " else "WITH ") ++
      .commas (c.ctes.map Cte.rendering) ++ .fixed " "

/-! ## SELECT -/

/-- What is selected: the items, or else all columns, which are the declared ones where these have
to be named, and those of the source where others are joined to it. -/
def selectList (cs : Columns) (c : Clauses (Rendering ω)) : Rendering ω :=
  if !c.select.isEmpty then cs.items c.select
  else
    match c.expandedColumns cs with
    | [] =>
        match cs.qualifier with
        | some table => if c.joins.isEmpty then .fixed "*" else .path table ++ .fixed ".*"
        | none => .fixed "*"
    | columns => cs.items (columns.map .ofColumn)

/-- The name of a column in the result: the logical one if it is listed or expanded, the physical
one if it comes from `*`. -/
def outputName (cs : Columns) (c : Clauses Q) (column : String) : String :=
  if c.select.isEmpty && (c.expandedColumns cs).isEmpty then cs.naming.physical column else column

/-- A column in ORDER BY. Behind a set operation only the names of the result are known. -/
def orderColumn (cs : Columns) (c : Clauses (Rendering ω)) (column : ColumnRef) : Rendering ω :=
  if !c.setOps.isEmpty && column.table.isNone then .name (c.outputName cs column.name)
  else cs.reference column

def distinctClause (cs : Columns) (c : Clauses (Rendering ω)) : Rendering ω :=
  match c.distinct with
  | none => .nothing
  | some .rows => .fixed "DISTINCT "
  | some (.on columns) => .fixed "DISTINCT ON (" ++ cs.references columns ++ .fixed ") "

/-- The conditions of the caller and the default filters behind them. -/
def filters (c : Clauses Q) : List (Formula (Predicate Q)) :=
  c.conditions ++ c.scopes.map Scope.condition

def setOperation (op : SetOp (Rendering ω)) : Rendering ω :=
  .fixed (" " ++ op.kind.sql ++ " ") ++ .bracketed op.query

def selection (cs : Columns) (c : Clauses (Rendering ω)) : Rendering ω :=
  .concat
    [.fixed "SELECT ", c.distinctClause cs, c.selectList cs, c.fromClause,
      .concat (c.joins.map (Join.rendering cs)),
      cs.clauseOf " WHERE " c.filters,
      .clause " GROUP BY " (c.group.map cs.operand),
      cs.clauseOf " HAVING " c.having,
      .clause " WINDOW " (c.windows.map cs.window),
      .concat (c.setOps.map setOperation),
      .clause " ORDER BY " (c.order.map (Columns.orderEntry (c.orderColumn cs))),
      Rendering.optional (fun n => .fixed " LIMIT " ++ .bind (.int n)) c.limit,
      Rendering.optional (fun n => .fixed " OFFSET " ++ .bind (.int n)) c.offset,
      Rendering.optional Lock.rendering c.lock]

/-! ## Assignments -/

/-- The new value of a column. -/
def newValue (cs : Columns) (column : String) : SetValue (Rendering ω) → Rendering ω
  | .value v => .bind v
  | .fragment f => .fragment f
  | .increment v => cs.reference (.parse column) ++ .fixed " + " ++ .bind v
  | .decrement v => cs.reference (.parse column) ++ .fixed " - " ++ .bind v
  | .query q => .bracketed q
  | .default => .fixed "DEFAULT"

def assignments (cs : Columns) (r : Record (Rendering ω)) : Rendering ω :=
  .commas
    (r.assignments.map fun a =>
      cs.target a.column ++ .fixed " = " ++ newValue cs a.column a.value)

/-! ## INSERT -/

/-- The columns of records, each one where it comes first. -/
def recordColumns (rs : List (Record Q)) : List String :=
  (rs.flatMap Record.columns).foldl (fun seen c => if c ∈ seen then seen else seen ++ [c]) []

/-- The value of a record for a column of the insertion. There is no old value for it to depend
on. -/
def insertedValue (cs : Columns) (r : Record (Rendering ω)) (column : String) : Rendering ω :=
  match r.get? column with
  | some value =>
      if value.isRelative then .fault (.relativeInsert column) else newValue cs column value
  | none => .fixed "DEFAULT"

/-- A row for each record; a record without columns can only stand by itself. -/
def insertedRecords (cs : Columns) (rs : List (Record (Rendering ω))) : Rendering ω :=
  match rs, recordColumns rs with
  | [], _ => .fault .noRecords
  | [_], [] => .fixed " DEFAULT VALUES"
  | _, [] => .fault .noColumns
  | rs, columns =>
      .fixed " (" ++ cs.targets columns ++ .fixed ") VALUES " ++
        .commas (rs.map fun r => .bracketed (.commas (columns.map (insertedValue cs r))))

def insertedRows (cs : Columns) : InsertRows (Rendering ω) → Rendering ω
  | .records rs => insertedRecords cs rs
  | .query columns q =>
      (if columns.isEmpty then .nothing else .fixed " (" ++ cs.targets columns ++ .fixed ")") ++
        .fixed " " ++ q

/-- The conflicting row takes the new value of a column. -/
def mergedColumn (cs : Columns) (column : String) : Rendering ω :=
  cs.target column ++ .fixed " = EXCLUDED." ++ cs.target column

def conflictClause (cs : Columns) (conflict : OnConflict (Rendering ω)) : Rendering ω :=
  .fixed " ON CONFLICT" ++
    (if conflict.columns.isEmpty then .nothing
      else .fixed " (" ++ cs.targets conflict.columns ++ .fixed ")") ++
    match conflict.action with
    | .nothing => .fixed " DO NOTHING"
    | .merge columns =>
        if conflict.columns.isEmpty then .fault .noConflictTarget
        else if columns.isEmpty then .fault .emptyMerge
        else .fixed " DO UPDATE SET " ++ .commas (columns.map (mergedColumn cs))
    | .update r =>
        if conflict.columns.isEmpty then .fault .noConflictTarget
        else .fixed " DO UPDATE SET " ++ assignments cs r

def insertion (cs : Columns) (c : Clauses (Rendering ω)) (rows : InsertRows (Rendering ω))
    (conflict : Option (OnConflict (Rendering ω))) : Rendering ω :=
  .fixed "INSERT INTO " ++ c.target .insert ++ insertedRows cs rows ++
    Rendering.optional (conflictClause cs) conflict

/-! ## UPDATE and DELETE -/

/-- Whether a change is restricted to some rows by a condition of the caller. -/
def isNarrowed (c : Clauses Q) : Bool :=
  c.conditions.any (!·.isEmpty) || c.joins.any fun j => j.on.any (!·.isEmpty)

/-- A change has to be restricted, or stated to be meant for every row. -/
def guarded (verb : Verb) (c : Clauses (Rendering ω)) (r : Rendering ω) : Rendering ω :=
  if c.isNarrowed || c.all then r else .fault (.unguarded verb)

/-- A joined source of a change. -/
def changeSource (j : Join (Rendering ω)) : Rendering ω :=
  if j.kind = .inner || j.kind = .cross then j.source.rendering else .fault (.outerJoin j.kind)

/-- The joined sources behind a keyword, and the conditions of the joins with all others. -/
def changeFilter (cs : Columns) (keyword : String) (c : Clauses (Rendering ω)) : Rendering ω :=
  .clause keyword (c.joins.map changeSource) ++
    cs.clauseOf " WHERE " (c.joins.filterMap Join.on ++ c.filters)

def updating (cs : Columns) (c : Clauses (Rendering ω)) (r : Record (Rendering ω)) : Rendering ω :=
  guarded .update c
    (if r.assignments.isEmpty then .fault .emptyUpdate
      else
        .fixed "UPDATE " ++ c.target .update ++ .fixed " SET " ++ assignments cs r ++
          c.changeFilter cs " FROM ")

/-- The column that marks deleted rows, unless rows are really to be removed. -/
def deletionMark (c : Clauses Q) (hard : Bool) : Option String :=
  if hard then none else c.table?.bind TableInfo.softDelete

def deletion (cs : Columns) (c : Clauses (Rendering ω)) (hard : Bool) : Rendering ω :=
  guarded .delete c
    (match c.deletionMark hard with
      | some column =>
          .fixed "UPDATE " ++ c.target .delete ++ .fixed " SET " ++ cs.target column ++
            .fixed " = now()" ++ c.changeFilter cs " FROM "
      | none => .fixed "DELETE FROM " ++ c.target .delete ++ c.changeFilter cs " USING ")

/-! ## Statements -/

/-- The columns of changed rows that are delivered. A change that stands in a common table
expression always delivers something. -/
def returningClause (cs : Columns) (c : Clauses (Rendering ω)) (inCte : Bool) : Rendering ω :=
  if c.returning.isEmpty then (if inCte then .fixed " RETURNING 1" else .nothing)
  else .fixed " RETURNING " ++ cs.items c.returning

/-- The statement without its common table expressions. -/
def body (cs : Columns) (c : Clauses (Rendering ω)) (inCte : Bool) : Rendering ω :=
  match c.mutation with
  | none => c.selection cs
  | some (.insert rows conflict) => c.insertion cs rows conflict ++ c.returningClause cs inCte
  | some (.update r) => c.updating cs r ++ c.returningClause cs inCte
  | some (.delete hard) => c.deletion cs hard ++ c.returningClause cs inCte

/-- The statement. -/
def statement (naming : Naming) (inCte : Bool) (c : Clauses (Rendering ω)) : Rendering ω :=
  c.withClause ++ c.body (c.columns naming) inCte

/-- The statement of a query inside another one, which cannot have appended statements. -/
def nested (naming : Naming)
    (parts : Unit → Clauses (Rendering ω) × List (Appended (Rendering ω))) : Rendering ω :=
  .delayed fun _ =>
    let (c, appended) := parts ()
    if appended.isEmpty then c.statement naming false else .fault .nestedAppend

end Clauses

namespace Query

/-- A query as it is written inside another one. -/
def rendering (naming : Naming) : Query → Rendering ω :=
  fold (Clauses.nested naming)

/-- The statement of clauses. -/
def statement (naming : Naming) (inCte : Bool) (c : Clauses Query) : Rendering ω :=
  (foldClauses (Clauses.nested naming) c).statement naming inCte

end Query
end ParamSql
