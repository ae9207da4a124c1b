import Mathlib.Data.Multiset.Dedup
import Mathlib.Data.Multiset.UnionInter
import ParamSql.Query.Clause

/-!
# SetGrammar — the grammar of set operations

SQL reads set operations by their precedence.  INTERSECT binds more tightly than UNION and EXCEPT,
and operations of one precedence are applied from left to right:

* `RowToken`, `RowExpr` — the words of a row expression, and what they are read as;
* `SetOpKind.apply`, `RowExpr.value` — the rows that an operation has, and an expression;
* `RowExpr.Derives` — the grammar;
* `RowExpr.Derives.unique` — there is at most one reading, since the reader `RowExpr.parse` finds
  it.
-/

namespace ParamSql

/-- A word of a row expression: the rows of a query, a set operation or a bracket. -/
inductive RowToken (α : Type)
  | rows (a : α)
  | operation (kind : SetOpKind)
  | opening
  | closing
  deriving DecidableEq, Repr

/-- What a row expression is read as. -/
inductive RowExpr (α : Type)
  | rows (a : α)
  | combine (kind : SetOpKind) (e f : RowExpr α)
  deriving DecidableEq, Repr

/-! ## Rows -/

namespace SetOpKind

/-- INTERSECT, with or without ALL, binds more tightly than the other operations. -/
def isIntersection : SetOpKind → Bool
  | .intersect => true
  | .intersectAll => true
  | _ => false

variable {ρ : Type} [DecidableEq ρ]

/-- The rows of a set operation, with their multiplicities.  Only the operations with ALL leave a
row in the result more than once. -/
def apply : SetOpKind → Multiset ρ → Multiset ρ → Multiset ρ
  | .union, s, t => (s + t).dedup
  | .unionAll, s, t => s + t
  | .intersect, s, t => (s ∩ t).dedup
  | .intersectAll, s, t => s ∩ t
  | .except, s, t => s.dedup - t
  | .exceptAll, s, t => s - t

/-- Nothing is made of nothing. -/
theorem apply_zero_zero (k : SetOpKind) : k.apply (0 : Multiset ρ) 0 = 0 := by
  cases k <;> simp [apply]

/-- Nothing is common with no rows. -/
theorem apply_zero_of_isIntersection {k : SetOpKind} (hk : k.isIntersection = true)
    (s t : Multiset ρ) (h : s = 0 ∨ t = 0) : k.apply s t = 0 := by
  cases k with
  | intersect | intersectAll => rcases h with rfl | rfl <;> simp [apply]
  | union | unionAll | except | exceptAll => cases hk

/-- A row stays alone when it is intersected with itself. -/
theorem apply_singleton_of_isIntersection {k : SetOpKind} (hk : k.isIntersection = true) (r : ρ) :
    k.apply {r} {r} = {r} := by
  have hself : ({r} : Multiset ρ) ∩ {r} = {r} :=
    le_antisymm Multiset.inter_le_left (Multiset.le_inter le_rfl le_rfl)
  cases k with
  | intersect | intersectAll => simp [apply, hself]
  | union | unionAll | except | exceptAll => cases hk

/-- A row stays alone when no rows are added to it or taken from it. -/
theorem apply_singleton_zero {k : SetOpKind} (hk : k.isIntersection = false) (r : ρ) :
    k.apply {r} 0 = {r} := by
  cases k with
  | intersect | intersectAll => cases hk
  | union | unionAll | except | exceptAll => simp [apply]

end SetOpKind

namespace RowExpr

variable {α : Type}

/-- The rows of an expression whose queries have given rows. -/
def value {ρ : Type} [DecidableEq ρ] (rows : α → Multiset ρ) : RowExpr α → Multiset ρ
  | .rows a => rows a
  | .combine k e f => k.apply (e.value rows) (f.value rows)

/-! ## The grammar -/

/-- How tightly a row expression is held together. -/
inductive Precedence
  | primary
  | intersection
  | union

/-- The row expressions of each level. The operations associate to the left. -/
inductive Derives : Precedence → List (RowToken α) → RowExpr α → Prop
  | rows (a : α) : Derives .primary [.rows a] (.rows a)
  | brackets {ts : List (RowToken α)} {e : RowExpr α} :
      Derives .union ts e → Derives .primary (.opening :: ts ++ [.closing]) e
  | primary {ts : List (RowToken α)} {e : RowExpr α} :
      Derives .primary ts e → Derives .intersection ts e
  | intersect {ss ts : List (RowToken α)} {e f : RowExpr α} {k : SetOpKind}
      (hk : k.isIntersection = true) :
      Derives .intersection ss e → Derives .primary ts f →
      Derives .intersection (ss ++ .operation k :: ts) (.combine k e f)
  | intersection {ts : List (RowToken α)} {e : RowExpr α} :
      Derives .intersection ts e → Derives .union ts e
  | union {ss ts : List (RowToken α)} {e f : RowExpr α} {k : SetOpKind}
      (hk : k.isIntersection = false) :
      Derives .union ss e → Derives .intersection ts f →
      Derives .union (ss ++ .operation k :: ts) (.combine k e f)

/-! ## Reading -/

/-- An operation whose right-hand side is still to come, with what is on its left. -/
abbrev Pending (α : Type) := Option (RowExpr α × SetOpKind)

/-- An operation is applied to its right-hand side, if there is one. -/
def apply (p : Pending α) (f : RowExpr α) : RowExpr α :=
  match p with
  | none => f
  | some (e, k) => .combine k e f

/-- What the reader has seen between two brackets before the operand that it is at: the last UNION
or EXCEPT, and the last INTERSECT behind it. -/
structure Frame (α : Type) where
  union : Pending α
  intersection : Pending α

namespace Frame

def empty : Frame α := ⟨none, none⟩

/-- The frame behind an operand. -/
def settled (f : Frame α) : Frame α :=
  ⟨f.union, none⟩

end Frame

/-- Reads the rest of a row expression, either where an operand is to come or behind the operand
`e`. The frames of the brackets that are open are on the stack. -/
def parseFrom (stack : List (Frame α)) (f : Frame α) :
    Option (RowExpr α) → List (RowToken α) → Option (RowExpr α)
  -- an operand is to come
  | none, .rows a :: ts => parseFrom stack f.settled (some (apply f.intersection (.rows a))) ts
  | none, .opening :: ts => parseFrom (f :: stack) .empty none ts
  -- an operand has come, and belongs to what is before it
  | some e, .operation k :: ts =>
      if k.isIntersection then parseFrom stack ⟨f.union, some (e, k)⟩ none ts
      else parseFrom stack ⟨some (apply f.union e, k), none⟩ none ts
  | some e, .closing :: ts =>
      match stack with
      | [] => none
      | g :: stack =>
          parseFrom stack g.settled (some (apply g.intersection (apply f.union e))) ts
  | some e, [] => if stack.isEmpty then some (apply f.union e) else none
  | _, _ => none

/-- Reads a row expression. -/
def parse (ts : List (RowToken α)) : Option (RowExpr α) :=
  parseFrom [] .empty none ts

/-- Where the reader is behind an expression of each level. -/
def Precedence.Reads : Precedence → List (RowToken α) → RowExpr α → Prop
  | .primary, ts, e => ∀ stack f rest, parseFrom stack f none (ts ++ rest) =
      parseFrom stack f.settled (some (apply f.intersection e)) rest
  | .intersection, ts, e => ∀ stack u rest, parseFrom stack ⟨u, none⟩ none (ts ++ rest) =
      parseFrom stack ⟨u, none⟩ (some e) rest
  | .union, ts, e => ∃ u x, apply u x = e ∧ ∀ stack rest,
      parseFrom stack .empty none (ts ++ rest) = parseFrom stack ⟨u, none⟩ (some x) rest

namespace Derives

variable {l : Precedence} {ts : List (RowToken α)} {e e' : RowExpr α}

theorem reads (h : Derives l ts e) : l.Reads ts e := by
  -- by induction on the derivation, whatever the reader has seen before these words
  induction h with
  | rows a =>
      intro stack f rest
      rfl
  | @brackets ts e _ ih =>
      rcases ih with ⟨u, x, hx, hread⟩
      intro stack f rest
      -- the frame outside waits on the stack until the bracket is closed
      have hopen :
          (.opening :: ts ++ [.closing]) ++ rest = .opening :: (ts ++ .closing :: rest) := by
        simp
      rw [hopen, parseFrom, hread, parseFrom, hx]
  | primary _ ih =>
      intro stack u rest
      exact ih stack ⟨u, none⟩ rest
  | intersect hk _ _ ihs iht =>
      intro stack u rest
      -- the intersection on the left is taken by the operand behind the INTERSECT
      rw [List.append_assoc, ihs, List.cons_append, parseFrom, if_pos hk, iht]
      rfl
  | intersection _ ih => exact ⟨none, _, rfl, fun stack rest => ih stack none rest⟩
  | @union _ _ e f k hk _ _ ihs iht =>
      rcases ihs with ⟨u, x, hx, hread⟩
      -- what is on the left is closed, since no INTERSECT can reach into it any more
      refine ⟨some (e, k), f, rfl, ?_⟩
      intro stack rest
      rw [List.append_assoc, hread, List.cons_append, parseFrom, hk, hx]
      exact iht stack _ rest

/-- The reader finds every reading. -/
theorem parse_eq (h : Derives .union ts e) : parse ts = some e := by
  rcases h.reads with ⟨u, x, hx, hread⟩
  have hparse : parse ts = parseFrom [] ⟨u, none⟩ (some x) [] := by
    simpa [parse] using hread [] []
  rw [hparse, parseFrom, hx]
  rfl

/-- There is at most one reading. -/
theorem unique (h : Derives .union ts e) (h' : Derives .union ts e') : e' = e :=
  Option.some.inj (h'.parse_eq.symm.trans h.parse_eq)

example : parse [.rows 0, .operation .union, .rows 1, .operation .intersect, .rows 2,
    .operation .except, .rows 3] =
      some (.combine .except (.combine .union (.rows 0) (.combine .intersect (.rows 1) (.rows 2)))
        (.rows 3)) := by
  decide

end Derives
end RowExpr
end ParamSql
