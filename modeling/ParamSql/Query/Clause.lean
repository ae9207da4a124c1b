import ParamSql.Formula
import ParamSql.Fragment
import ParamSql.Keyed

/-!
# Clause — the parts of a query

Columns stay as the caller writes them; they are qualified, named and quoted when the query is
written out. The parts that may contain another query take its type as a parameter `Q`, so that the
same part can hold a query, or what has been made of it.

- `Order`, `Window`, `Lock`, `Distinct`: parts without queries.
- `Operand`, `Predicate`: what stands in WHERE, HAVING and ON, where formulas combine predicates.
- `SelectItem`, `Source`, `Join`, `SetOp`, `Cte`: what rows are made of.
- `Record`, `Mutation`: what is inserted, assigned or deleted.
- `Clauses`: all parts of one statement.
-/

namespace ParamSql

/-! ## Keywords -/

/-- A comparison. -/
inductive CompareOp
  | eq
  | ne
  | gt
  | gte
  | lt
  | lte
  | like
  | ilike
  | notLike
  | notIlike
  deriving DecidableEq, Repr

def CompareOp.sql : CompareOp → String
  | .eq => "="
  | .ne => "<>"
  | .gt => ">"
  | .gte => ">="
  | .lt => "<"
  | .lte => "<="
  | .like => "LIKE"
  | .ilike => "ILIKE"
  | .notLike => "NOT LIKE"
  | .notIlike => "NOT ILIKE"

/-- An aggregate function. -/
inductive Aggregate
  | count
  | sum
  | avg
  | min
  | max
  deriving DecidableEq, Repr

def Aggregate.sql : Aggregate → String
  | .count => "count"
  | .sum => "sum"
  | .avg => "avg"
  | .min => "min"
  | .max => "max"

inductive Direction
  | asc
  | desc
  deriving DecidableEq, Repr

def Direction.sql : Direction → String
  | .asc => "ASC"
  | .desc => "DESC"

/-- Where nulls are sorted. -/
inductive Nulls
  | first
  | last
  deriving DecidableEq, Repr

def Nulls.sql : Nulls → String
  | .first => "NULLS FIRST"
  | .last => "NULLS LAST"

inductive JoinKind
  | inner
  | left
  | right
  | full
  | cross
  deriving DecidableEq, Repr

def JoinKind.sql : JoinKind → String
  | .inner => "JOIN"
  | .left => "LEFT JOIN"
  | .right => "RIGHT JOIN"
  | .full => "FULL JOIN"
  | .cross => "CROSS JOIN"

/-- The strength of a row lock. -/
inductive LockMode
  | update
  | noKeyUpdate
  | share
  | keyShare
  deriving DecidableEq, Repr

def LockMode.sql : LockMode → String
  | .update => "FOR UPDATE"
  | .noKeyUpdate => "FOR NO KEY UPDATE"
  | .share => "FOR SHARE"
  | .keyShare => "FOR KEY SHARE"

/-- What to do about rows that others have locked, other than to wait for them. -/
inductive WaitPolicy
  | noWait
  | skipLocked
  deriving DecidableEq, Repr

def WaitPolicy.sql : WaitPolicy → String
  | .noWait => "NOWAIT"
  | .skipLocked => "SKIP LOCKED"

inductive SetOpKind
  | union
  | unionAll
  | intersect
  | intersectAll
  | except
  | exceptAll
  deriving DecidableEq, Repr

def SetOpKind.sql : SetOpKind → String
  | .union => "UNION"
  | .unionAll => "UNION ALL"
  | .intersect => "INTERSECT"
  | .intersectAll => "INTERSECT ALL"
  | .except => "EXCEPT"
  | .exceptAll => "EXCEPT ALL"

/-! ## Parts without queries -/

/-- Which rows count as duplicates: equal ones, or those that agree on some columns. -/
inductive Distinct
  | rows
  | on (columns : List ColumnRef)
  deriving Repr

inductive OrderTarget
  | column (c : ColumnRef)
  | fragment (f : Fragment)
  deriving Repr

/-- An entry of ORDER BY. -/
structure Order where
  target : OrderTarget
  direction : Direction := .asc
  nulls : Option Nulls := none
  deriving Repr

namespace Order

def asc (column : String) : Order :=
  ⟨.column (.parse column), .asc, none⟩

def desc (column : String) : Order :=
  ⟨.column (.parse column), .desc, none⟩

def fragment (f : Fragment) : Order :=
  ⟨.fragment f, .asc, none⟩

end Order

/-- A named window. -/
structure Window where
  name : String
  partitionBy : List ColumnRef := []
  orderBy : List Order := []
  frame : Option Fragment := none
  deriving Repr

/-- A table that a lock is restricted to. -/
inductive LockTable
  | path (name : String)
  | fragment (f : Fragment)
  deriving Repr

/-- A row lock. -/
structure Lock where
  mode : LockMode
  tables : List LockTable := []
  wait : Option WaitPolicy := none
  deriving Repr

/-! ## Conditions -/

/-- The right-hand side of a comparison, or a key of GROUP BY. -/
inductive Operand (Q : Type)
  | column (c : ColumnRef)
  | value (v : Value)
  | fragment (f : Fragment)
  | query (q : Q)
  deriving Repr

/-- An atom of a condition. -/
inductive Predicate (Q : Type)
  | compare (column : ColumnRef) (op : CompareOp) (operand : Operand Q)
  | nullCheck (column : ColumnRef) (isNull : Bool)
  | inList (column : ColumnRef) (values : List Value) (negated : Bool)
  | inQuery (column : ColumnRef) (query : Q) (negated : Bool)
  | existence (query : Q) (negated : Bool)
  | between (column : ColumnRef) (low high : Value) (negated : Bool)
  | fragment (f : Fragment)
  | constant (b : Bool)
  deriving Repr

/-! ## Rows -/

/-- An entry of a select list or of RETURNING. -/
inductive SelectItem (Q : Type)
  | column (c : ColumnRef) (name : Option String)
  | fragment (f : Fragment) (name : Option String)
  | aggregate (function : Aggregate) (column : Option ColumnRef) (isDistinct : Bool)
      (name : Option String)
  | window (call : Fragment) (window : String) (name : Option String)
  | query (q : Q) (name : String)
  | existence (q : Q) (name : String)
  deriving Repr

/-- The item of a column under its own name. -/
def SelectItem.ofColumn {Q : Type} (column : String) : SelectItem Q :=
  .column (.parse column) none

/-- What is joined. -/
inductive JoinSource (Q : Type)
  | table (path : String) (name : Option String)
  | query (q : Q) (name : String)
  deriving Repr

/-- The name by which other clauses refer to the joined rows. -/
def JoinSource.reference {Q : Type} : JoinSource Q → String
  | .table _ (some name) => name
  | .table path none =>
      match Text.splitLast? '.' path.toList with
      | some (_, last) => String.ofList last
      | none => path
  | .query _ name => name

structure Join (Q : Type) where
  kind : JoinKind
  source : JoinSource Q
  on : Option (Formula (Predicate Q))
  deriving Repr

/-- A set operation with its right-hand side. -/
structure SetOp (Q : Type) where
  kind : SetOpKind
  query : Q
  deriving Repr

inductive CteBody (Q : Type)
  | query (q : Q)
  | fragment (f : Fragment)
  deriving Repr

/-- A common table expression. -/
structure Cte (Q : Type) where
  name : String
  columns : List String
  body : CteBody Q
  isRecursive : Bool
  deriving Repr

/-- A table as the queries on it see it. -/
structure TableInfo where
  name : String
  schema : Option String := none
  columns : List String := []
  naming : Option Naming := none
  softDelete : Option String := none
  deriving Repr

/-- The name with its schema. -/
def TableInfo.path (t : TableInfo) : String :=
  match t.schema with
  | some schema => schema ++ "." ++ t.name
  | none => t.name

/-- Where a query takes its rows from. -/
inductive Source (Q : Type)
  | nothing
  | table (t : TableInfo)
  | query (q : Q) (name : String)
  | fragment (f : Fragment) (name : String)
  deriving Repr

/-- A default filter with the name by which it can be dropped. -/
structure Scope (Q : Type) where
  name : String
  condition : Formula (Predicate Q)
  deriving Repr

/-! ## Changes -/

/-- The right-hand side of an assignment. -/
inductive SetValue (Q : Type)
  | value (v : Value)
  | fragment (f : Fragment)
  | increment (amount : Value)
  | decrement (amount : Value)
  | query (q : Q)
  | default
  deriving Repr

/-- Whether the new value depends on the old one. -/
def SetValue.isRelative {Q : Type} : SetValue Q → Bool
  | .increment _ => true
  | .decrement _ => true
  | _ => false

structure Assignment (Q : Type) where
  column : String
  value : SetValue Q
  deriving Repr

/-- The assignments to the columns of one row, in the order in which the columns were named
first. -/
structure Record (Q : Type) where
  assignments : List (Assignment Q)
  deriving Repr

namespace Record

variable {Q : Type}

def empty : Record Q := ⟨[]⟩

/-- Assigns to a column; an older assignment to it is replaced in its place. -/
def assign (r : Record Q) (column : String) (value : SetValue Q) : Record Q :=
  ⟨Keyed.put Assignment.column ⟨column, value⟩ r.assignments⟩

/-- The record that assigns values to columns. -/
def ofPairs (pairs : List (String × Value)) : Record Q :=
  pairs.foldl (fun r (column, v) => r.assign column (.value v)) empty

def columns (r : Record Q) : List String :=
  r.assignments.map Assignment.column

/-- What is assigned to a column. -/
def get? (r : Record Q) (column : String) : Option (SetValue Q) :=
  (Keyed.find? Assignment.column column r.assignments).map Assignment.value

end Record

/-- What to do about a row that conflicts with one that is there. -/
inductive ConflictAction (Q : Type)
  | nothing
  | merge (columns : List String)
  | update (r : Record Q)
  deriving Repr

structure OnConflict (Q : Type) where
  columns : List String
  action : ConflictAction Q
  deriving Repr

/-- The rows of an INSERT. -/
inductive InsertRows (Q : Type)
  | records (rs : List (Record Q))
  | query (columns : List String) (q : Q)
  deriving Repr

/-- A change to the rows of a table. -/
inductive Mutation (Q : Type)
  | insert (rows : InsertRows Q) (onConflict : Option (OnConflict Q))
  | update (r : Record Q)
  | delete (hard : Bool)
  deriving Repr

/-! ## Statements -/

/-- The form in which a result is delivered. -/
inductive Shape
  | all
  | one
  | oneOptional
  | value
  | valueOptional
  | pluck
  | rowCount
  | void
  deriving DecidableEq, Repr

/-- The parts of one statement. -/
structure Clauses (Q : Type) where
  source : Source Q := .nothing
  select : List (SelectItem Q) := []
  distinct : Option Distinct := none
  conditions : List (Formula (Predicate Q)) := []
  joins : List (Join Q) := []
  group : List (Operand Q) := []
  having : List (Formula (Predicate Q)) := []
  order : List Order := []
  limit : Option Int64 := none
  offset : Option Int64 := none
  windows : List Window := []
  lock : Option Lock := none
  setOps : List (SetOp Q) := []
  ctes : List (Cte Q) := []
  mutation : Option (Mutation Q) := none
  returning : List (SelectItem Q) := []
  scopes : List (Scope Q) := []
  all : Bool := false
  shape : Option Shape := none
  deriving Repr

namespace Clauses

variable {Q : Type}

/-- The table of the statement, if its rows come from one. -/
def table? (c : Clauses Q) : Option TableInfo :=
  match c.source with
  | .table t => some t
  | _ => none

/-- The name by which other clauses refer to the rows of the source. -/
def reference? (c : Clauses Q) : Option String :=
  match c.source with
  | .nothing => none
  | .table t => some t.name
  | .query _ name => some name
  | .fragment _ name => some name

end Clauses

/-- A statement that runs in the same round trip as another one, ahead of it. Nothing is returned
when it is required and has no rows. -/
structure Appended (Q : Type) where
  query : Q
  required : Bool
  deriving Repr

end ParamSql
