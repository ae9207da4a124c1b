import ParamSql.Proofs.Logic.Grammar

/-!
# Reading — what a written formula is read as

An atom is written as words of its own, which are not in brackets.  What a formula is read as is
computed from the terms between the ORs that are not in brackets:

* `Formula.tokens word f` — the words of a formula whose atoms are written as `word`;
* `Terms ts es` — the words `ts` are the conjunctions `es` with OR between them;
* `Truth.glue us vs` — the terms on both sides of an AND: those next to it become one;
* `Formula.terms τ f` — the values of the terms of a formula whose atoms have the terms `τ`;
* `Formula.exists_terms` — the words of a formula are read as those terms.
-/

namespace ParamSql

variable {α β : Type}

/-! ## Words -/

/-- The words of a mark, where atoms are written as `word`. -/
def Mark.tokens (word : α → List (Token β)) : Mark α → List (Token β)
  | .atom a => word a
  | .and => [.and]
  | .or => [.or]
  | .notOpen => [.not, .opening]
  | .opening => [.opening]
  | .closing => [.closing]

namespace Token

/-- Words in brackets, if they need them. -/
def bracketed (needed : Bool) (ts : List (Token β)) : List (Token β) :=
  if needed then .opening :: ts ++ [.closing] else ts

end Token

namespace Formula

variable (word : α → List (Token β))

/-- The words of a written formula. -/
def tokens (f : Formula α) : List (Token β) :=
  f.marks.flatMap (Mark.tokens word)

@[simp]
theorem tokens_atom (a : α) : (atom a).tokens word = word a := by
  simp [tokens, marks, Mark.tokens]

theorem tokens_not (f : Formula α) :
    (not f).tokens word = .not :: (.opening :: f.tokens word ++ [.closing]) := by
  simp [tokens, marks, Mark.tokens]

theorem flatMap_bracketed (needed : Bool) (f : Formula α) :
    (bracketed needed f.marks).flatMap (Mark.tokens word) =
      Token.bracketed needed (f.tokens word) := by
  cases needed <;> simp [bracketed, Token.bracketed, tokens, Mark.tokens]

/-- Marks with a connective between them are words with a connective between them. -/
theorem flatMap_intercalate {m : Mark α} {t : Token β} (hm : m.tokens word = [t])
    (ls : List (List (Mark α))) :
    ([m].intercalate ls).flatMap (Mark.tokens word) =
      [t].intercalate (ls.map fun l => l.flatMap (Mark.tokens word)) := by
  induction ls with
  | nil => rfl
  | cons l ls ih =>
      cases ls with
      | nil => simp
      | cons k ks =>
          -- the connective is a single word, so that it stays between the parts
          rw [List.intercalate_cons_cons, List.flatMap_append, List.flatMap_append, ih]
          simp [hm]

theorem tokens_all (fs : List (Formula α)) :
    (all fs).tokens word =
      [.and].intercalate ((written fs).map fun f => Token.bracketed f.isAny (f.tokens word)) := by
  rw [tokens, marks, flatMap_intercalate word (t := .and) rfl, conjuncts_eq, List.map_map]
  exact congrArg _ (List.map_congr_left fun f _ => flatMap_bracketed word f.isAny f)

theorem tokens_any (fs : List (Formula α)) :
    (any fs).tokens word =
      [.or].intercalate ((written fs).map fun f => Token.bracketed f.isAll (f.tokens word)) := by
  rw [tokens, marks, flatMap_intercalate word (t := .or) rfl, disjuncts_eq, List.map_map]
  exact congrArg _ (List.map_congr_left fun f _ => flatMap_bracketed word f.isAll f)

end Formula

/-! ## Terms -/

namespace Truth

/-- The terms on both sides of an AND: the last one before it and the first one behind it become
one. -/
def glue : List Truth → List Truth → List Truth
  | [], vs => vs
  | [u], [] => [u]
  | [u], v :: vs => u.and v :: vs
  | u :: u' :: us, vs => u :: glue (u' :: us) vs

@[simp]
theorem glue_nil (us : List Truth) : glue us [] = us := by
  induction us with
  | nil => rfl
  | cons u us ih =>
      cases us with
      | nil => rfl
      | cons u' us => simpa [glue] using ih

/-- The terms of an expression, which are a single one if it is in brackets. -/
def bracketed (needed : Bool) (us : List Truth) : List Truth :=
  if needed then [disjunction us] else us

end Truth

/-- The words of conjunctions with OR between them. -/
inductive Terms : List (Token β) → List (Expr β) → Prop
  | last {ts : List (Token β)} {e : Expr β} : Derives .conjunction ts e → Terms ts [e]
  | cons {ss ts : List (Token β)} {e : Expr β} {es : List (Expr β)} :
      Derives .conjunction ss e → Terms ts es → Terms (ss ++ .or :: ts) (e :: es)

namespace Terms

variable {ss ts : List (Token β)} {es fs : List (Expr β)} {e : Expr β}

/-- Terms with OR between them are a disjunction. -/
theorem exists_derives (h : Terms ts es) :
    ∃ e, Derives .disjunction ts e ∧
      ∀ ρ, e.value ρ = .disjunction (es.map (Expr.value ρ)) := by
  -- derivations associate to the left and terms are a list, which `or_append` makes up for
  induction h with
  | last h => exact ⟨_, .conjunction h, fun ρ => by simp⟩
  | cons h _ ih =>
      rcases ih with ⟨f, hf, hvalue⟩
      rcases Derives.or_append (.conjunction h) hf with ⟨g, hg, hor⟩
      exact ⟨g, hg, fun ρ => by simp [hor, hvalue]⟩

theorem or (hs : Terms ss es) (ht : Terms ts fs) : Terms (ss ++ .or :: ts) (es ++ fs) := by
  induction hs with
  | last h => exact .cons h ht
  | cons h _ ih => simpa using Terms.cons h ih

theorem and (hs : Terms ss es) (ht : Terms ts fs) :
    ∃ gs, Terms (ss ++ .and :: ts) gs ∧
      ∀ ρ, gs.map (Expr.value ρ) =
        Truth.glue (es.map (Expr.value ρ)) (fs.map (Expr.value ρ)) := by
  -- only the last term before the AND meets it, so that the terms before that one are kept
  induction hs with
  | last h =>
      -- and only the first term behind the AND meets it from there
      cases ht with
      | last hf =>
          rcases h.and_append hf with ⟨g, hg, hvalue⟩
          exact ⟨_, .last hg, fun ρ => by simp [hvalue, Truth.glue]⟩
      | cons hf hfs =>
          rcases h.and_append hf with ⟨g, hg, hvalue⟩
          exact ⟨_, by simpa using Terms.cons hg hfs, fun ρ => by simp [hvalue, Truth.glue]⟩
  | @cons ss us e es h hes ih =>
      rcases ih with ⟨gs, hgs, hvalue⟩
      refine ⟨_, by simpa using Terms.cons h hgs, ?_⟩
      intro ρ
      cases hes with
      | last | cons => simpa [Truth.glue] using hvalue ρ

/-- A disjunction is terms with OR between them. -/
theorem of_derives (h : Derives .disjunction ts e) :
    ∃ es, Terms ts es ∧ ∀ ρ, e.value ρ = .disjunction (es.map (Expr.value ρ)) := by
  -- below a disjunction nothing is taken apart
  generalize hl : Precedence.disjunction = l at h
  induction h with
  | operand | range | brackets | primary | not | negation | and => cases hl
  | conjunction h => exact ⟨_, .last h, fun ρ => by simp⟩
  | or _ ht ihs =>
      rcases ihs hl with ⟨es, hes, hvalue⟩
      refine ⟨_, hes.or (.last ht), ?_⟩
      intro ρ
      simp [Expr.value, hvalue, Truth.disjunction_append]

end Terms

/-- Words with terms whose values are known. -/
def ReadsAs (ts : List (Token β)) (values : (β → Truth) → List Truth) : Prop :=
  ∃ es, Terms ts es ∧ ∀ ρ, es.map (Expr.value ρ) = values ρ

namespace ReadsAs

variable {ss ts : List (Token β)} {us vs : (β → Truth) → List Truth}

theorem of_derives {e : Expr β} (h : Derives .conjunction ts e) :
    ReadsAs ts fun ρ => [e.value ρ] :=
  ⟨_, .last h, fun _ => rfl⟩

theorem exists_derives (h : ReadsAs ts us) :
    ∃ e, Derives .disjunction ts e ∧ ∀ ρ, e.value ρ = .disjunction (us ρ) := by
  rcases h with ⟨es, hes, hus⟩
  rcases hes.exists_derives with ⟨e, he, hvalue⟩
  exact ⟨e, he, fun ρ => by rw [hvalue, hus]⟩

theorem bracketed (needed : Bool) (h : ReadsAs ts us) :
    ReadsAs (Token.bracketed needed ts) fun ρ => Truth.bracketed needed (us ρ) := by
  cases needed with
  | false => exact h
  | true =>
      rcases h.exists_derives with ⟨e, he, hvalue⟩
      -- in brackets all of the terms are one primary expression
      refine ⟨_, .last (.negation (.primary (.brackets he))), ?_⟩
      intro ρ
      simp [Truth.bracketed, hvalue]

/-- Words with AND between them. -/
theorem intercalate_and {γ : Type} (xs : List γ) {word : γ → List (Token β)}
    {values : γ → (β → Truth) → List Truth} (hne : xs ≠ [])
    (h : ∀ x ∈ xs, ReadsAs (word x) (values x)) :
    ReadsAs ([.and].intercalate (xs.map word)) fun ρ =>
      (xs.map fun x => values x ρ).foldr Truth.glue [] := by
  induction xs with
  | nil => exact absurd rfl hne
  | cons x xs ih =>
      obtain ⟨es, hes, hvalues⟩ := h x (by simp)
      -- the last member has no AND behind it
      cases xs with
      | nil =>
          refine ⟨es, ?_, fun ρ => ?_⟩
          · simpa using hes
          · simpa using hvalues ρ
      | cons y ys =>
          obtain ⟨fs, hfs, hrest⟩ := ih (by simp) fun z hz => h z (by simp_all)
          rcases hes.and hfs with ⟨gs, hgs, hglue⟩
          refine ⟨gs, ?_, fun ρ => ?_⟩
          · simpa using hgs
          · simp only [hglue, hvalues, hrest, List.map_cons, List.foldr_cons]

/-- Words with OR between them. -/
theorem intercalate_or {γ : Type} (xs : List γ) {word : γ → List (Token β)}
    {values : γ → (β → Truth) → List Truth} (hne : xs ≠ [])
    (h : ∀ x ∈ xs, ReadsAs (word x) (values x)) :
    ReadsAs ([.or].intercalate (xs.map word)) fun ρ => xs.flatMap fun x => values x ρ := by
  induction xs with
  | nil => exact absurd rfl hne
  | cons x xs ih =>
      obtain ⟨es, hes, hvalues⟩ := h x (by simp)
      cases xs with
      | nil =>
          refine ⟨es, ?_, fun ρ => ?_⟩
          · simpa using hes
          · simpa using hvalues ρ
      | cons y ys =>
          obtain ⟨fs, hfs, hrest⟩ := ih (by simp) fun z hz => h z (by simp_all)
          refine ⟨es ++ fs, ?_, fun ρ => ?_⟩
          · simpa using hes.or hfs
          · simp [hvalues, hrest]

end ReadsAs

/-! ## Terms of a formula -/

namespace Formula

mutual
/-- The values of the terms of a written formula whose atoms have given terms. -/
def terms (τ : α → List Truth) : Formula α → List Truth
  | .atom a => τ a
  | .not f => [(Truth.disjunction (f.terms τ)).not]
  | .all fs => (conjunctTerms τ fs).foldr Truth.glue []
  | .any fs => (disjunctTerms τ fs).flatten

/-- The terms of each written member of a conjunction. -/
def conjunctTerms (τ : α → List Truth) : List (Formula α) → List (List Truth)
  | [] => []
  | f :: fs =>
      if f.isEmpty then conjunctTerms τ fs
      else Truth.bracketed f.isAny (f.terms τ) :: conjunctTerms τ fs

/-- The terms of each written member of a disjunction. -/
def disjunctTerms (τ : α → List Truth) : List (Formula α) → List (List Truth)
  | [] => []
  | f :: fs =>
      if f.isEmpty then disjunctTerms τ fs
      else Truth.bracketed f.isAll (f.terms τ) :: disjunctTerms τ fs
end

@[simp]
theorem conjunctTerms_eq (τ : α → List Truth) (fs : List (Formula α)) :
    conjunctTerms τ fs = (written fs).map fun f => Truth.bracketed f.isAny (f.terms τ) := by
  induction fs with
  | nil => rfl
  | cons f fs ih =>
      cases hf : f.isEmpty <;> simp [conjunctTerms, written, hf, ih]

@[simp]
theorem disjunctTerms_eq (τ : α → List Truth) (fs : List (Formula α)) :
    disjunctTerms τ fs = (written fs).map fun f => Truth.bracketed f.isAll (f.terms τ) := by
  induction fs with
  | nil => rfl
  | cons f fs ih =>
      cases hf : f.isEmpty <;> simp [disjunctTerms, written, hf, ih]

/-- A formula is read as its terms. -/
theorem readsAs (word : α → List (Token β)) (τ : (β → Truth) → α → List Truth) :
    ∀ f : Formula α, f.isEmpty = false →
      (∀ a ∈ f.atoms, ReadsAs (word a) fun ρ => τ ρ a) →
      ReadsAs (f.tokens word) fun ρ => f.terms (τ ρ) := by
  intro f
  -- by induction on the formula: brackets are around just those members that have terms of the
  -- other kind, so that the members of a group can be read one by one
  induction f using Formula.induction with
  | atom a =>
      intro _ h
      simpa [terms, atoms] using h a
  | not f ih =>
      intro hf h
      -- the body of NOT is in brackets and may be any disjunction
      rcases (ih hf h).exists_derives with ⟨e, he, hvalue⟩
      rw [tokens_not]
      refine ⟨_, .last (.negation (.not (.primary (.brackets he)))), ?_⟩
      intro ρ
      simp [Expr.value, hvalue, terms]
  | all fs ih =>
      intro hf h
      rw [tokens_all]
      simp only [terms, conjunctTerms_eq]
      -- members without atoms are not written
      apply ReadsAs.intercalate_and _ (written_ne_nil hf)
      intro f hmem
      rcases mem_written.1 hmem with ⟨hf', hwritten⟩
      exact (ih f hf' hwritten fun a ha => h a (mem_atoms_of_mem hf' ha)).bracketed f.isAny
  | any fs ih =>
      intro hf h
      rw [tokens_any]
      simp only [terms, disjunctTerms_eq, ← List.flatMap_def]
      apply ReadsAs.intercalate_or _ (written_ne_nil hf)
      intro f hmem
      rcases mem_written.1 hmem with ⟨hf', hwritten⟩
      exact (ih f hf' hwritten fun a ha => h a (mem_atoms_of_mem hf' ha)).bracketed f.isAll

end Formula
end ParamSql
