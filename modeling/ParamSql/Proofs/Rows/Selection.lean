import ParamSql.Proofs.Query.Map
import ParamSql.Proofs.Rows.Server
import ParamSql.Proofs.Sql.SetOperations

/-!
# Selection — the rows of a SELECT

The clauses of a SELECT take effect one after another, in an order that is not that of the text:

* `Server.joined`, `Server.matched` — the rows of FROM, and those of them that pass WHERE;
* `Server.isAggregated`, `Server.units` — what a row of the result is made of: a row, or a group of
  rows with HAVING;
* `Server.selected`, `Server.combined`, `Server.paged` — the select list and DISTINCT, set
  operations and ORDER BY, and LIMIT;
* `Server.meaning` — the rows of a query, whose inner queries have rows in every setting;
* `Server.sourceRows` — the rows that a statement of a query is made of.
-/

namespace ParamSql

variable {κ Q : Type}

/-- The rows that are joined so far, and the row of nulls that stands for one that is missing. -/
structure Joined (κ : Type) where
  nulls : JoinedRow κ
  rows : List (JoinedRow κ)

namespace JoinKind

/-- Whether a row of the left-hand side without a match is kept. -/
def keepsLeft : JoinKind → Bool
  | .left => true
  | .full => true
  | _ => false

/-- Whether a row of the right-hand side without a match is kept. -/
def keepsRight : JoinKind → Bool
  | .right => true
  | .full => true
  | _ => false

end JoinKind

namespace Server

variable (S : Server κ)

/-! ## Aggregates -/

/-- Whether an item of a select list is made of a group of rows. -/
def aggregatesItem : SelectItem Q → Bool
  | .aggregate .. => true
  | .fragment f _ => S.isAggregate f
  | .window call _ _ => S.hasAggregate call
  | _ => false

def aggregatesOrder (o : Order) : Bool :=
  match o.target with
  | .column _ => false
  | .fragment f => S.isAggregate f

/-- Whether rows are put together though there is no GROUP BY: HAVING does this as well as an
aggregate function does.  An aggregate function in an inner query is about the rows of that query,
and ORDER BY behind a set operation is about the rows of the result. -/
def isAggregated (c : Clauses Q) : Bool :=
  c.select.any S.aggregatesItem || !Formula.areEmpty c.having ||
    (c.setOps.isEmpty && c.order.any S.aggregatesOrder) ||
    c.windows.any fun w => w.orderBy.any S.aggregatesOrder

variable [DecidableEq κ]

/-! ## FROM and WHERE -/

/-- A row of nulls in the place of one of a source. -/
def nullBinding (name : String) (r : Relation κ) : Binding κ :=
  ⟨name, r.columns, r.columns.map fun _ => S.null⟩

/-- The rows of a source, before others are joined to it. -/
def start (c : Clauses (Meaning κ)) (s : Setting κ) : Joined κ :=
  let rowsOf (name : String) (r : Relation κ) : Joined κ :=
    ⟨[S.nullBinding name r], (r.bindings name).map fun b => [b]⟩
  match c.source with
  | .nothing => ⟨[], [[]]⟩
  | .table t => rowsOf t.name (s.tables (pathParts t.path))
  | .query m name => rowsOf name (m s)
  | .fragment f name => rowsOf name (S.source f s)

end Server

/-- The rows of a joined source. -/
def JoinSource.relation (s : Setting κ) : JoinSource (Meaning κ) → Relation κ
  | .table path _ => s.tables (pathParts path)
  | .query m _ => m s

def JoinSource.bindings (s : Setting κ) (source : JoinSource (Meaning κ)) : List (Binding κ) :=
  (source.relation s).bindings source.reference

/-- What is selected: without a choice, all columns of the source, or those that it declares. -/
def Clauses.listed (cs : Columns) (c : Clauses Q) : List (SelectItem Q) :=
  if !c.select.isEmpty then c.select
  else
    match c.expandedColumns cs with
    | [] => [.column ⟨none, "*"⟩ none]
    | columns => columns.map .ofColumn

namespace Server

variable (S : Server κ) [DecidableEq κ]

/-- Whether a row of a join passes its ON, which is not written for a cross join. -/
def passes (cs : Columns) (s : Setting κ) (j : Join (Meaning κ)) (row : JoinedRow κ) : Bool :=
  j.kind = .cross || j.on.all fun f => S.holds cs (s.within [row]) f

/-- Joins the rows of one more source. -/
def join (cs : Columns) (s : Setting κ) (left : Joined κ) (j : Join (Meaning κ)) : Joined κ :=
  let nulls := S.nullBinding j.source.reference (j.source.relation s)
  let right := j.source.bindings s
  let isMatch (row : JoinedRow κ) (b : Binding κ) : Bool := S.passes cs s j (row ++ [b])
  let matched := left.rows.flatMap fun row => (right.filter (isMatch row)).map fun b => row ++ [b]
  let onlyLeft := left.rows.filter fun row => j.kind.keepsLeft && !right.any (isMatch row)
  let onlyRight := right.filter fun b => j.kind.keepsRight && !left.rows.any (isMatch · b)
  ⟨left.nulls ++ [nulls],
    matched ++ onlyLeft.map (fun row => row ++ [nulls]) ++ onlyRight.map fun b => left.nulls ++ [b]⟩

/-- The rows of FROM. -/
def joined (cs : Columns) (c : Clauses (Meaning κ)) (s : Setting κ) : Joined κ :=
  c.joins.foldl (S.join cs s) (S.start c s)

/-- The rows of FROM that pass WHERE. -/
def matched (cs : Columns) (c : Clauses (Meaning κ)) (s : Setting κ) : List (JoinedRow κ) :=
  (S.joined cs c s).rows.filter fun row => S.holds cs (s.within [row]) (.all c.filters)

/-! ## GROUP BY and HAVING -/

/-- What the rows of the result are made of: groups of rows that agree on the keys, all rows if they
are put together without keys, and otherwise single rows. -/
def groups (cs : Columns) (c : Clauses (Meaning κ)) (s : Setting κ) : List (List (JoinedRow κ)) :=
  let rows := S.matched cs c s
  if c.group.isEmpty then (if S.isAggregated c then [rows] else rows.map fun row => [row])
  else
    let key (row : JoinedRow κ) : List κ := c.group.map (S.operand cs (s.within [row]))
    (rows.map key).eraseDups.map fun k => rows.filter fun row => key row = k

/-- Those that pass HAVING. -/
def units (cs : Columns) (c : Clauses (Meaning κ)) (s : Setting κ) : List (List (JoinedRow κ)) :=
  (S.groups cs c s).filter fun unit => S.holds cs (s.within unit) (.all c.having)

/-! ## The select list -/

/-- The cell of an aggregate function, whose argument is taken from each row of a group.  Without an
argument, the rows are counted. -/
def aggregated (cs : Columns) (s : Setting κ) (unit : List (JoinedRow κ)) (function : Aggregate)
    (column : Option ColumnRef) (isDistinct : Bool) : κ :=
  match column with
  | none => S.number unit.length
  | some c =>
      let cells :=
        (unit.map fun row => S.column (cs.written c) (s.within [row])).filter (· ≠ S.null)
      let cells := if isDistinct then cells.eraseDups else cells
      if function = .count then S.number cells.length else S.aggregate function cells

/-- The cells of an item of a select list. -/
def item (cs : Columns) (windows : List Window) (units : List (List (JoinedRow κ))) (s : Setting κ)
    (unit : List (JoinedRow κ)) : SelectItem (Meaning κ) → List κ
  | .column c _ =>
      if c.isStar then S.allColumns (cs.written c).table (s.within unit)
      else [S.column (cs.written c) (s.within unit)]
  | .fragment f _ => [S.fragment f (s.within unit)]
  | .aggregate function column isDistinct _ => [S.aggregated cs s unit function column isDistinct]
  | .window call name _ =>
      [S.window call (windows.find? fun w => w.name = name) units (s.within unit)]
  | .query m _ => [S.scalar (m (s.within unit))]
  | .existence m _ => [S.ofBool !(m (s.within unit)).rows.isEmpty]

/-- The cells of a row of the result. -/
def cells (cs : Columns) (c : Clauses (Meaning κ)) (units : List (List (JoinedRow κ)))
    (s : Setting κ) (unit : List (JoinedRow κ)) : List κ :=
  (c.listed cs).flatMap (S.item cs c.windows units s unit)

/-- The rows ahead of set operations.  Where there are none, they are in order. -/
def selected (cs : Columns) (c : Clauses (Meaning κ)) (s : Setting κ) : List (List κ) :=
  let units := S.units cs c s
  let ordered := if c.setOps.isEmpty then S.sort cs c.order s units else units
  let row := S.cells cs c units s
  match c.distinct with
  | none => ordered.map row
  | some .rows => (ordered.map row).eraseDups
  | some (.on columns) =>
      let key (unit : List (JoinedRow κ)) : List κ :=
        columns.map fun column => S.column (cs.written column) (s.within unit)
      (ordered.eraseDupsBy fun u v => key u == key v).map row

/-! ## Set operations and pages -/

/-- The names of the columns of the result. -/
def resultNames (cs : Columns) (c : Clauses (Meaning κ)) (s : Setting κ) : List String :=
  S.names cs (c.listed cs) (S.joined cs c s).nulls

/-- The rows behind the set operations, which are read by precedence. -/
def combined (cs : Columns) (c : Clauses (Meaning κ)) (s : Setting κ) : List (List κ) :=
  if c.setOps.isEmpty then S.selected cs c s
  else
    let operands : List (Multiset (List κ)) :=
      (S.selected cs c s : Multiset (List κ)) ::
        c.setOps.map fun op => ((op.query s).rows : Multiset (List κ))
    S.enumerate c.order (S.resultNames cs c s)
      ((RowExpr.chain (c.setOps.map SetOp.kind)).value fun i => operands[i]?.getD 0)

/-- The rows of the page. -/
def paged (cs : Columns) (c : Clauses (Meaning κ)) (s : Setting κ) : List (List κ) :=
  let rows := (S.combined cs c s).drop (c.offset.elim 0 fun n => n.toInt.toNat)
  match c.limit with
  | none => rows
  | some n => rows.take n.toInt.toNat

/-! ## Queries -/

/-- The setting behind the common table expressions of a statement. -/
def inside (c : Clauses (Meaning κ)) (s : Setting κ) : Setting κ :=
  { s with tables := S.define c.ctes s }

/-- The rows of a statement. -/
def statement (naming : Naming) (c : Clauses (Meaning κ)) (s : Setting κ) : Relation κ :=
  let cs := c.columns naming
  match c.mutation with
  | none => ⟨S.resultNames cs c (S.inside c s), S.paged cs c (S.inside c s)⟩
  | some _ => S.returned cs c s

/-- The rows of a query without appended statements. -/
def meaning (naming : Naming) : Query → Meaning κ :=
  Query.fold fun parts => S.statement naming (parts ()).1

/-- A query has the rows of its statement, the inner queries of which have theirs. -/
theorem meaning_of (naming : Naming) (c : Clauses Query) (as : List (Appended Query)) :
    S.meaning naming (.of c as) = S.statement naming (c.map (S.meaning naming)) := by
  rw [meaning, Query.fold_of]

/-- The rows of the sources of a statement that pass its WHERE. -/
def sourceRows (naming : Naming) (c : Clauses Query) (s : Setting κ) : List (JoinedRow κ) :=
  let d := c.map (S.meaning naming)
  S.matched (d.columns naming) d (S.inside d s)

end Server
end ParamSql
