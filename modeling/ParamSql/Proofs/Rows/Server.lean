import Mathlib.Algebra.GroupWithZero.Nat
import Mathlib.Data.Multiset.Basic
import ParamSql.Proofs.Logic.Escape
import ParamSql.Query.Basic
import ParamSql.Sql.Columns

/-!
# Server — what a statement is evaluated against

A statement is sent to a server that has tables and computes cells.  How it computes them is its own
affair; what the parts of a statement do with them is not:

* `Relation`, `Binding`, `JoinedRow` — rows, a row of a source under its name, and a row of FROM;
* `Setting`, `Meaning` — what a statement is evaluated in, and the rows that it has there;
* `Server` — the cells, and the documented rules for them;
* `Server.predicateTerms`, `Server.holds` — whether a condition holds of a row or a group of rows.
-/

namespace ParamSql

/-! ## Rows -/

/-- Rows under the names of their columns. -/
structure Relation (κ : Type) where
  columns : List String
  rows : List (List κ)

/-- A row of a source, under the name of the source. -/
structure Binding (κ : Type) where
  name : String
  columns : List String
  cells : List κ
  deriving DecidableEq

/-- A row of FROM: a row of each of its sources. -/
abbrev JoinedRow (κ : Type) := List (Binding κ)

variable {κ : Type}

namespace Relation

/-- The rows as those of a source. -/
def bindings (name : String) (r : Relation κ) : List (Binding κ) :=
  r.rows.map fun cells => ⟨name, r.columns, cells⟩

/-- The first cell of the first row, which is what a single value is read from. -/
def value? (r : Relation κ) : Option κ :=
  r.rows.head?.bind List.head?

@[simp]
theorem length_bindings (name : String) (r : Relation κ) :
    (r.bindings name).length = r.rows.length :=
  List.length_map _

end Relation

/-- What a statement is evaluated in: the tables by the parts of their paths, and the rows that the
statements around it are at, the innermost one first.  One that has formed groups is at a whole
group of rows. -/
structure Setting (κ : Type) where
  tables : List String → Relation κ
  outer : List (List (JoinedRow κ))

/-- The setting of what stands inside a statement that is at some rows. -/
def Setting.within (s : Setting κ) (unit : List (JoinedRow κ)) : Setting κ :=
  { s with outer := unit :: s.outer }

/-- The rows of a query, wherever it stands. -/
abbrev Meaning (κ : Type) := Setting κ → Relation κ

/-- The names of a path, by which a table is found. -/
def pathParts (path : String) : List String :=
  (Text.splitOn '.' path.toList).map String.ofList

/-- A column as it is written: with its table, and under its physical name. -/
def Columns.written (cs : Columns) (c : ColumnRef) : ColumnRef :=
  ⟨c.table.or cs.qualifier, if c.isStar then c.name else cs.naming.physical c.name⟩

/-! ## Servers -/

/-- A server: its cells, of which equal ones are not distinct, and what it makes of expressions.
Its rules are those on which the meaning of statements depends. -/
structure Server (κ : Type) where
  /-- The cell that has no value. -/
  null : κ
  ofValue : Value → κ
  ofBool : Bool → κ
  /-- The cell of a number of rows. -/
  number : Nat → κ
  number_injective : Function.Injective number
  /-- The cell of a column, in the innermost statement that knows it. -/
  column : ColumnRef → Setting κ → κ
  /-- The cells of all columns, or of those of one source. -/
  allColumns : Option String → Setting κ → List κ
  /-- The names of the columns that are selected from sources of which a row is given. -/
  names : Columns → List (SelectItem (Meaning κ)) → JoinedRow κ → List String
  compare : CompareOp → κ → κ → Truth
  /-- The cell of an aggregate function for arguments that are not null. -/
  aggregate : Aggregate → List κ → κ
  /-- The cell of a fragment that stands as an expression. -/
  fragment : Fragment → Setting κ → κ
  /-- Whether a fragment calls an aggregate function for rows of the statement that it stands in. -/
  isAggregate : Fragment → Bool
  /-- Whether an aggregate function is called in an argument of a call. -/
  hasAggregate : Fragment → Bool
  /-- Whether a fragment reads a column outside of aggregate functions. -/
  readsRow : Fragment → Bool
  /-- The values of the terms of a fragment that stands as a condition. -/
  terms : Fragment → Setting κ → List Truth
  /-- Whether a fragment has an OR outside of brackets. -/
  isLoose : Fragment → Bool
  /-- Without such an OR there is a single term. -/
  exists_terms_eq : ∀ f s, isLoose f = false → ∃ u, terms f s = [u]
  /-- The cell of a window function, among all rows or groups that there are. -/
  window : Fragment → Option Window → List (List (JoinedRow κ)) → Setting κ → κ
  /-- The rows of a fragment that stands as a source. -/
  source : Fragment → Setting κ → Relation κ
  /-- The tables that can be seen behind some common table expressions. -/
  define : List (Cte (Meaning κ)) → Setting κ → List String → Relation κ
  /-- A common table expression hides the table of its name, and no other one. -/
  define_of_notMem : ∀ ctes s path, path ∉ ctes.map (fun cte => [cte.name]) →
    define ctes s path = s.tables path
  /-- The rows that a change delivers. -/
  returned : Columns → Clauses (Meaning κ) → Setting κ → Relation κ
  /-- The order in which rows or groups are delivered. -/
  sort : Columns → List Order → Setting κ → List (List (JoinedRow κ)) → List (List (JoinedRow κ))
  sort_perm : ∀ cs order s units, (sort cs order s units).Perm units
  /-- The order in which rows are delivered behind set operations. -/
  enumerate : List Order → List String → Multiset (List κ) → List (List κ)
  coe_enumerate : ∀ order names rows, (enumerate order names rows : Multiset (List κ)) = rows

namespace Server

variable [DecidableEq κ] (S : Server κ)

/-! ## Conditions -/

/-- The cell of a query that stands as an expression. -/
def scalar (r : Relation κ) : κ :=
  r.value?.getD S.null

def operand (cs : Columns) (s : Setting κ) : Operand (Meaning κ) → κ
  | .column c => S.column (cs.written c) s
  | .value v => S.ofValue v
  | .fragment f => S.fragment f s
  | .query m => S.scalar (m s)

/-- A truth value, or its negation. -/
def signed (negated : Bool) (u : Truth) : Truth :=
  if negated then u.not else u

/-- Whether a cell is equal to one of some others. -/
def isAmong (x : κ) (ys : List κ) : Truth :=
  .disjunction (ys.map (S.compare .eq x))

/-- The values of the terms of a predicate, which are several ones only of a loose fragment. -/
def predicateTerms (cs : Columns) (s : Setting κ) : Predicate (Meaning κ) → List Truth
  | .compare c op rhs => [S.compare op (S.column (cs.written c) s) (S.operand cs s rhs)]
  | .nullCheck c isNull => [.ofBool (decide (S.column (cs.written c) s = S.null) == isNull)]
  | .inList c values negated =>
      [signed negated (S.isAmong (S.column (cs.written c) s) (values.map S.ofValue))]
  | .inQuery c m negated =>
      [signed negated
        (S.isAmong (S.column (cs.written c) s) ((m s).rows.map fun row => row.headD S.null))]
  | .existence m negated => [.ofBool ((m s).rows.isEmpty == negated)]
  | .between c low high negated =>
      [signed negated
        ((S.compare .gte (S.column (cs.written c) s) (S.ofValue low)).and
          (S.compare .lte (S.column (cs.written c) s) (S.ofValue high)))]
  | .fragment f => S.terms f s
  | .constant b => [.ofBool b]

/-- Whether a condition holds as it is written; one without predicates is not written. -/
def holds (cs : Columns) (s : Setting κ) (f : Formula (Predicate (Meaning κ))) : Bool :=
  f.isEmpty || Truth.disjunction (f.terms (S.predicateTerms cs s)) = .yes

theorem holds_of_isEmpty {cs : Columns} {s : Setting κ} {f : Formula (Predicate (Meaning κ))}
    (h : f.isEmpty = true) : S.holds cs s f = true := by
  simp [holds, h]

end Server

/-- Whether a predicate is a fragment with an OR outside of brackets. -/
def Predicate.isLoose {Q : Type} (loose : Fragment → Bool) : Predicate Q → Bool
  | .fragment f => loose f
  | _ => false

namespace Server

variable [DecidableEq κ] (S : Server κ) {cs : Columns} {s : Setting κ}

theorem exists_predicateTerms_eq (p : Predicate (Meaning κ)) (h : p.isLoose S.isLoose = false) :
    ∃ u, S.predicateTerms cs s p = [u] := by
  cases p with
  | fragment f => exact S.exists_terms_eq f s h
  | _ => exact ⟨_, rfl⟩

end Server

/-! ## A server of numbers -/

/-- The cell of a column in a row, in the first source that has the column. -/
def cellOf (row : JoinedRow κ) (c : ColumnRef) : Option κ :=
  (row.filter fun b => c.table.all (· = b.name)).findSome? fun b =>
    (b.columns.zip b.cells).lookup c.name

/-- Whether a number compares to another one. -/
def CompareOp.holdsOf : CompareOp → Nat → Nat → Bool
  | .ne, m, n => m ≠ n
  | .gt, m, n => n < m
  | .gte, m, n => n ≤ m
  | .lt, m, n => m < n
  | .lte, m, n => m ≤ n
  | _, m, n => m = n

/-- Whether an item of a select list stands for several columns. -/
def SelectItem.isStar {Q : Type} : SelectItem Q → Bool
  | .column c _ => c.isStar
  | _ => false

/-- The name of the column that is made of an item. -/
def SelectItem.title {Q : Type} : SelectItem Q → String
  | .column c name => name.getD c.name
  | .fragment _ name => name.getD "?column?"
  | .aggregate function _ _ name => name.getD function.sql
  | .window _ _ name => name.getD "?column?"
  | .query _ name => name
  | .existence _ name => name

/-- A server whose cells are numbers or nothing, and that makes nothing of fragments. -/
noncomputable def Server.numbers : Server (Option Nat) where
  null := none
  ofValue
    | .int n => some n.toInt.toNat
    | _ => none
  ofBool b := some b.toNat
  number := some
  number_injective _ _ h := Option.some.inj h
  column c s := (s.outer.findSome? fun unit => unit.head?.bind (cellOf · c)).getD none
  allColumns table s :=
    (s.outer.head?.bind List.head?).elim [] fun row =>
      (row.filter fun b => table.all (· = b.name)).flatMap Binding.cells
  names _ items row :=
    items.flatMap fun item => if item.isStar then row.flatMap Binding.columns else [item.title]
  compare op x y :=
    match x, y with
    | some m, some n => .ofBool (op.holdsOf m n)
    | _, _ => .unknown
  aggregate function cells :=
    let ns := cells.filterMap id
    match function with
    | .count => some ns.length
    | .min => ns.min?
    | .max => ns.max?
    | .sum => if ns.isEmpty then none else some ns.sum
    | .avg => if ns.isEmpty then none else some (ns.sum / ns.length)
  fragment _ _ := none
  isAggregate _ := false
  hasAggregate _ := false
  readsRow _ := false
  terms _ _ := [.unknown]
  isLoose _ := false
  exists_terms_eq _ _ _ := ⟨_, rfl⟩
  window _ _ _ _ := none
  source _ _ := ⟨[], []⟩
  define ctes s path :=
    match ctes.find? (fun cte => [cte.name] = path), s with
    | none, s => s.tables path
    | some ⟨_, _, .query m, _⟩, s => m s
    | some _, _ => ⟨[], []⟩
  define_of_notMem ctes s path h := by
    have hnone : ctes.find? (fun cte => [cte.name] = path) = none := by
      rw [List.find?_eq_none]
      intro cte hcte hname
      exact h (List.mem_map.2 ⟨cte, hcte, by simpa using hname⟩)
    simp only [hnone]
  returned _ _ _ := ⟨[], []⟩
  sort _ _ _ units := units
  sort_perm _ _ _ _ := .refl _
  enumerate _ _ rows := rows.toList
  coe_enumerate _ _ rows := rows.coe_toList

end ParamSql
