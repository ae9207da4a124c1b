import ParamSql.Proofs.Logic.Truth
import Mathlib.Data.List.Chain

/-!
# Grammar — how SQL reads a condition

NOT binds more tightly than AND and AND more tightly than OR, and the AND behind the lower bound of
a range belongs to the range.  This file states that as a grammar and shows that it is unambiguous:

* `Token`, `Expr` — the words of a condition, and what they are read as;
* `Derives l ts e` — the words `ts` are an expression `e` of the level `l`;
* `parse` — a reader that keeps what it still has to combine on a stack;
* `Derives.unique` — there is no second reading, since the reader finds every one;
* `Derives.tidy` — no pair of brackets is empty, and no connective lacks an operand.
-/

namespace ParamSql

variable {α : Type}

/-- A word of a condition. A range has two words, between which its AND stands. -/
inductive Token (α : Type)
  | operand (a : α)
  | range (a : α)
  | bound (a : α)
  | and
  | or
  | not
  | opening
  | closing
  deriving DecidableEq, Repr

/-- What a condition is read as. -/
inductive Expr (α : Type)
  | atom (a : α)
  | not (e : Expr α)
  | and (e f : Expr α)
  | or (e f : Expr α)
  deriving DecidableEq, Repr

/-- The value of an expression whose atoms have given values. -/
def Expr.value (ρ : α → Truth) : Expr α → Truth
  | .atom a => ρ a
  | .not e => (e.value ρ).not
  | .and e f => (e.value ρ).and (f.value ρ)
  | .or e f => (e.value ρ).or (f.value ρ)

/-- How tightly an expression is held together. -/
inductive Precedence
  | primary
  | negation
  | conjunction
  | disjunction

/-- The expressions of each level. The connectives associate to the left. -/
inductive Derives : Precedence → List (Token α) → Expr α → Prop
  | operand (a : α) : Derives .primary [.operand a] (.atom a)
  | range (a : α) : Derives .primary [.range a, .and, .bound a] (.atom a)
  | brackets {ts : List (Token α)} {e : Expr α} :
      Derives .disjunction ts e → Derives .primary (.opening :: ts ++ [.closing]) e
  | primary {ts : List (Token α)} {e : Expr α} : Derives .primary ts e → Derives .negation ts e
  | not {ts : List (Token α)} {e : Expr α} :
      Derives .negation ts e → Derives .negation (.not :: ts) (.not e)
  | negation {ts : List (Token α)} {e : Expr α} :
      Derives .negation ts e → Derives .conjunction ts e
  | and {ss ts : List (Token α)} {e f : Expr α} :
      Derives .conjunction ss e → Derives .negation ts f →
      Derives .conjunction (ss ++ .and :: ts) (.and e f)
  | conjunction {ts : List (Token α)} {e : Expr α} :
      Derives .conjunction ts e → Derives .disjunction ts e
  | or {ss ts : List (Token α)} {e f : Expr α} :
      Derives .disjunction ss e → Derives .conjunction ts f →
      Derives .disjunction (ss ++ .or :: ts) (.or e f)

/-! ## Reading -/

/-- What the reader has seen between two brackets before the operand that it is at: the expression
before the last OR, the one between it and the last AND, and the number of NOTs behind that. -/
structure Frame (α : Type) where
  disjunction : Option (Expr α)
  conjunction : Option (Expr α)
  negations : Nat

namespace Frame

def empty : Frame α := ⟨none, none, 0⟩

def negated (f : Frame α) : Frame α :=
  { f with negations := f.negations + 1 }

/-- The frame behind an operand. -/
def settled (f : Frame α) : Frame α :=
  ⟨f.disjunction, none, 0⟩

/-- An operand with the NOTs and the AND before it. -/
def take (f : Frame α) (e : Expr α) : Expr α :=
  let negated := Expr.not^[f.negations] e
  match f.conjunction with
  | none => negated
  | some before => .and before negated

/-- A conjunction with the OR before it. -/
def close (f : Frame α) (e : Expr α) : Expr α :=
  match f.disjunction with
  | none => e
  | some before => .or before e

end Frame

/-- Reads the rest of a condition, either where an operand is to come or behind the operand `e`. The
frames of the brackets that are open are on the stack. -/
def parseFrom (stack : List (Frame α)) (f : Frame α) :
    Option (Expr α) → List (Token α) → Option (Expr α)
  -- an operand is to come
  | none, .operand a :: ts => parseFrom stack f.settled (some (f.take (.atom a))) ts
  | none, .range a :: .and :: .bound _ :: ts =>
      parseFrom stack f.settled (some (f.take (.atom a))) ts
  | none, .not :: ts => parseFrom stack f.negated none ts
  | none, .opening :: ts => parseFrom (f :: stack) .empty none ts
  -- an operand has come, and belongs to what is before it
  | some e, .and :: ts => parseFrom stack ⟨f.disjunction, some e, 0⟩ none ts
  | some e, .or :: ts => parseFrom stack ⟨some (f.close e), none, 0⟩ none ts
  | some e, .closing :: ts =>
      match stack with
      | [] => none
      | g :: stack => parseFrom stack g.settled (some (g.take (f.close e))) ts
  | some e, [] => if stack.isEmpty then some (f.close e) else none
  | _, _ => none

/-- Reads a condition. -/
def parse (ts : List (Token α)) : Option (Expr α) :=
  parseFrom [] .empty none ts

/-- Where the reader is behind an expression of each level. -/
def Precedence.Reads : Precedence → List (Token α) → Expr α → Prop
  | .primary, ts, e | .negation, ts, e => ∀ stack f rest,
      parseFrom stack f none (ts ++ rest) = parseFrom stack f.settled (some (f.take e)) rest
  | .conjunction, ts, e => ∀ stack d rest,
      parseFrom stack ⟨d, none, 0⟩ none (ts ++ rest) = parseFrom stack ⟨d, none, 0⟩ (some e) rest
  | .disjunction, ts, e => ∃ d x, Frame.close ⟨d, none, 0⟩ x = e ∧ ∀ stack rest,
      parseFrom stack .empty none (ts ++ rest) = parseFrom stack ⟨d, none, 0⟩ (some x) rest

namespace Derives

variable {l : Precedence} {ss ts : List (Token α)} {e e' f : Expr α}

theorem reads (h : Derives l ts e) : l.Reads ts e := by
  -- by induction on the derivation, whatever the reader has seen before these words
  induction h with
  | operand a =>
      intro stack f rest
      rfl
  | range a =>
      intro stack f rest
      rfl
  | @brackets ts e _ ih =>
      rcases ih with ⟨d, x, hx, hread⟩
      intro stack f rest
      -- the frame outside waits on the stack until the bracket is closed
      have hopen :
          (.opening :: ts ++ [.closing]) ++ rest = .opening :: (ts ++ .closing :: rest) := by
        simp
      rw [hopen, parseFrom, hread, parseFrom, hx]
  | primary _ ih => exact ih
  | not _ ih =>
      intro stack f rest
      rw [List.cons_append, parseFrom, ih]
      rfl
  | negation _ ih =>
      intro stack d rest
      exact ih stack ⟨d, none, 0⟩ rest
  | and _ _ ihs iht =>
      intro stack d rest
      -- the conjunction before the AND is taken by the negation behind it
      rw [List.append_assoc, ihs, List.cons_append, parseFrom, iht]
      rfl
  | conjunction _ ih =>
      exact ⟨none, _, rfl, fun stack rest => ih stack none rest⟩
  | or _ _ ihs iht =>
      rcases ihs with ⟨d, x, hx, hread⟩
      -- the disjunction before the OR is closed, since no AND can reach into it any more
      refine ⟨some _, _, rfl, ?_⟩
      intro stack rest
      rw [List.append_assoc, hread, List.cons_append, parseFrom, hx, iht]

/-- The reader finds every reading. -/
theorem parse_eq (h : Derives .disjunction ts e) : parse ts = some e := by
  rcases h.reads with ⟨d, x, hx, hread⟩
  have hparse : parse ts = parseFrom [] ⟨d, none, 0⟩ (some x) [] := by
    simpa [parse] using hread [] []
  rw [hparse, parseFrom, hx]
  rfl

/-- There is at most one reading. -/
theorem unique (h : Derives .disjunction ts e) (h' : Derives .disjunction ts e') : e' = e :=
  Option.some.inj (h'.parse_eq.symm.trans h.parse_eq)

example : parse [.not, .operand 0, .and, .range 1, .and, .bound 1, .or, .operand 2] =
    some (.or (.and (.not (.atom 0)) (.atom 1)) (.atom 2)) := by
  decide

/-! ## Looser readings -/

/-- An expression of any level stands alone as a disjunction. -/
theorem loosen (h : Derives l ts e) : Derives .disjunction ts e := by
  cases l with
  | primary => exact .conjunction (.negation (.primary h))
  | negation => exact .conjunction (.negation h)
  | conjunction => exact .conjunction h
  | disjunction => exact h

/-- A conjunction behind a conjunction is read as one conjunction. -/
theorem and_append (hs : Derives .conjunction ss e) (ht : Derives .conjunction ts f) :
    ∃ g, Derives .conjunction (ss ++ .and :: ts) g ∧
      ∀ ρ, g.value ρ = (e.value ρ).and (f.value ρ) := by
  -- the conjunction on the right is taken apart, the one on the left is kept whole
  generalize hl : Precedence.conjunction = l at ht
  induction ht with
  | operand | range | brackets | primary | not | conjunction | or => cases hl
  | negation ht => exact ⟨_, .and hs ht, fun _ => rfl⟩
  | @and ts us f₁ f₂ ht hu iht =>
      rcases iht hl with ⟨g, hg, hvalue⟩
      -- its last member comes last in the whole as well
      refine ⟨.and g f₂, ?_, fun ρ => ?_⟩
      · simpa using Derives.and hg hu
      · simp [Expr.value, hvalue, Truth.and_assoc]

/-- A disjunction behind a disjunction is read as one disjunction. -/
theorem or_append (hs : Derives .disjunction ss e) (ht : Derives .disjunction ts f) :
    ∃ g, Derives .disjunction (ss ++ .or :: ts) g ∧
      ∀ ρ, g.value ρ = (e.value ρ).or (f.value ρ) := by
  -- as for AND, only the disjunction on the right is taken apart
  generalize hl : Precedence.disjunction = l at ht
  induction ht with
  | operand | range | brackets | primary | not | negation | and => cases hl
  | conjunction ht => exact ⟨_, .or hs ht, fun _ => rfl⟩
  | @or ts us f₁ f₂ ht hu iht =>
      rcases iht hl with ⟨g, hg, hvalue⟩
      refine ⟨.or g f₂, ?_, fun ρ => ?_⟩
      · simpa using Derives.or hg hu
      · simp [Expr.value, hvalue, Truth.or_assoc]

end Derives

/-! ## Words next to each other -/

namespace Token

/-- Whether an operand may begin with a word. -/
def starts : Token α → Bool
  | .operand _ | .range _ | .bound _ | .not | .opening => true
  | .and | .or | .closing => false

/-- Whether an operand may end with a word. -/
def ends : Token α → Bool
  | .operand _ | .range _ | .bound _ | .closing => true
  | .and | .or | .not | .opening => false

/-- Whether a word may follow another one: an operand begins just where none has ended. -/
def Precedes (s t : Token α) : Prop :=
  t.starts = !s.ends

end Token

/-- An operand comes first and last, and no operand follows another one. -/
structure Linked (ts : List (Token α)) : Prop where
  first : ∃ t ∈ ts.head?, t.starts = true
  last : ∃ t ∈ ts.getLast?, t.ends = true
  next : ts.IsChain Token.Precedes

namespace Linked

variable {ss ts : List (Token α)} {t : Token α}

theorem precedes_first (h : Linked ts) (ht : t.ends = false) : ∀ u ∈ ts.head?, t.Precedes u := by
  intro u hu
  rcases h.first with ⟨v, hv, hstarts⟩
  obtain rfl : v = u := by simpa [Option.mem_def.1 hv] using hu
  simp [Token.Precedes, ht, hstarts]

theorem last_precedes (h : Linked ts) (ht : t.starts = false) :
    ∀ s ∈ ts.getLast?, s.Precedes t := by
  intro s hs
  rcases h.last with ⟨v, hv, hends⟩
  obtain rfl : v = s := by simpa [Option.mem_def.1 hv] using hs
  simp [Token.Precedes, ht, hends]

theorem next_append (h : Linked ss) (ht : t.starts = false)
    (hts : (t :: ts).IsChain Token.Precedes) : (ss ++ t :: ts).IsChain Token.Precedes := by
  refine List.isChain_append.2 ⟨h.next, hts, ?_⟩
  intro s hs u hu
  obtain rfl : t = u := by simpa using hu
  exact h.last_precedes ht s hs

/-- Two operands with a connective between them. -/
theorem join (hs : Linked ss) (ht : Linked ts) (hstarts : t.starts = false)
    (hends : t.ends = false) : Linked (ss ++ t :: ts) := by
  rcases hs.first with ⟨s, hs₁, hs₂⟩
  rcases ht.last with ⟨u, hu₁, hu₂⟩
  refine ⟨⟨s, ?_, hs₂⟩, ⟨u, ?_, hu₂⟩, ?_⟩
  · simp [List.head?_append, Option.mem_def.1 hs₁]
  · simp [List.getLast?_append, List.getLast?_cons, Option.mem_def.1 hu₁]
  · exact hs.next_append hstarts (List.isChain_cons.2 ⟨ht.precedes_first hends, ht.next⟩)

end Linked

theorem Derives.linked {l : Precedence} {ts : List (Token α)} {e : Expr α} (h : Derives l ts e) :
    Linked ts := by
  induction h with
  | operand a =>
      exact ⟨⟨_, rfl, rfl⟩, ⟨_, rfl, rfl⟩, .singleton _⟩
  | range a =>
      refine ⟨⟨_, rfl, rfl⟩, ⟨_, rfl, rfl⟩, ?_⟩
      simp [Token.Precedes, Token.starts, Token.ends]
  | @brackets ts e _ ih =>
      -- the words in the brackets begin and end with an operand, as those outside expect it
      refine ⟨⟨_, rfl, rfl⟩, ⟨.closing, by simp [List.getLast?_cons], rfl⟩, ?_⟩
      refine List.isChain_cons.2 ⟨?_, ih.next_append rfl (.singleton _)⟩
      rcases ih.first with ⟨u, hu, _⟩
      simpa [List.head?_append, Option.mem_def.1 hu] using
        ih.precedes_first (t := .opening) rfl u hu
  | primary _ ih | negation _ ih | conjunction _ ih => exact ih
  | not _ ih =>
      rcases ih.last with ⟨u, hu₁, hu₂⟩
      refine ⟨⟨_, rfl, rfl⟩, ⟨u, ?_, hu₂⟩, ?_⟩
      · simp [List.getLast?_cons, Option.mem_def.1 hu₁]
      · exact List.isChain_cons.2 ⟨ih.precedes_first rfl, ih.next⟩
  | and _ _ ihs iht => exact ihs.join iht rfl rfl
  | or _ _ ihs iht => exact ihs.join iht rfl rfl

/-- No pair of brackets is empty, every AND and OR stands between two operands, and every NOT before
one. -/
structure Tidy (ts : List (Token α)) : Prop where
  brackets : ∀ before behind, ts ≠ before ++ .opening :: .closing :: behind
  connectives : ∀ before t behind, t = .and ∨ t = .or → ts = before ++ t :: behind →
    (∃ s ∈ before.getLast?, s.ends = true) ∧ ∃ u ∈ behind.head?, u.starts = true
  negations : ∀ before behind, ts = before ++ .not :: behind →
    ∃ u ∈ behind.head?, u.starts = true

/-- A word after which an operand has to come is followed by one. -/
theorem Linked.exists_starts {ts before behind : List (Token α)} {t : Token α} (h : Linked ts)
    (ht : t.ends = false) (hts : ts = before ++ t :: behind) :
    ∃ u ∈ behind.head?, u.starts = true := by
  -- the last word of all ends an operand, so that another word must follow `t`
  subst hts
  cases behind with
  | nil =>
      rcases h.last with ⟨u, hu₁, hu₂⟩
      obtain rfl : t = u := by simpa [List.getLast?_append] using hu₁
      simp [ht] at hu₂
  | cons u behind =>
      have hchain := (List.isChain_append.1 h.next).2.1
      have hu : u.starts = !t.ends := (List.isChain_cons.1 hchain).1 u rfl
      exact ⟨u, rfl, by simp [hu, ht]⟩

/-- A word before which an operand has to come stands behind one. -/
theorem Linked.exists_ends {ts before behind : List (Token α)} {t : Token α} (h : Linked ts)
    (ht : t.starts = false) (hts : ts = before ++ t :: behind) :
    ∃ s ∈ before.getLast?, s.ends = true := by
  -- the first word of all begins an operand, so that another word must precede `t`
  subst hts
  cases hlast : before.getLast? with
  | none =>
      obtain rfl : before = [] := by simpa using hlast
      rcases h.first with ⟨u, hu₁, hu₂⟩
      obtain rfl : t = u := by simpa using hu₁
      simp [ht] at hu₂
  | some s =>
      have hs : t.starts = !s.ends := (List.isChain_append.1 h.next).2.2 s hlast t rfl
      exact ⟨s, rfl, by simpa [ht] using hs⟩

/-- What can be read is tidy. -/
theorem Derives.tidy {l : Precedence} {ts : List (Token α)} {e : Expr α} (h : Derives l ts e) :
    Tidy ts := by
  refine ⟨?_, ?_, ?_⟩
  · -- between empty brackets no operand begins
    intro before behind hts
    rcases h.linked.exists_starts rfl hts with ⟨u, hu₁, hu₂⟩
    obtain rfl : Token.closing = u := by simpa using hu₁
    cases hu₂
  · intro before t behind ht hts
    rcases ht with rfl | rfl
    · exact ⟨h.linked.exists_ends rfl hts, h.linked.exists_starts rfl hts⟩
    · exact ⟨h.linked.exists_ends rfl hts, h.linked.exists_starts rfl hts⟩
  · intro before behind hts
    exact h.linked.exists_starts rfl hts

end ParamSql
