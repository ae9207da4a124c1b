import ParamSql.Proofs.Logic.Reading

/-!
# Confinement — when atoms may have ORs of their own

An atom that is written with an OR outside of brackets is loose.  It is read as one operand as long
as no AND stands beside it:

* `Formula.exposes loose f` — nothing separates a loose atom from what is written beside `f`;
* `Formula.confines loose f` — a conjunction that exposes a loose atom is written as that atom
  alone;
* `Formula.value_of_confines` — a formula that confines its loose atoms is read as what it is.
-/

namespace ParamSql

variable {α : Type}

namespace Truth

/-- Single terms with AND between them are a single term. -/
theorem foldr_glue_singletons {γ : Type} (v : γ → Truth) (xs : List γ) (hne : xs ≠ []) :
    (xs.map fun x => [v x]).foldr glue [] = [conjunction (xs.map v)] := by
  induction xs with
  | nil => exact absurd rfl hne
  | cons x xs ih =>
      cases xs with
      | nil => simp
      | cons y ys =>
          rw [List.map_cons, List.foldr_cons, ih (by simp)]
          rfl

end Truth

namespace Formula

variable (loose : α → Bool)

mutual
/-- Whether a loose atom of a formula is not in brackets, and an AND beside the formula therefore
beside the atom. -/
def exposes : Formula α → Bool
  | .atom a => loose a
  | .not _ => false
  | .all fs => anyExposes fs
  | .any _ => false

/-- Whether a formula of a list exposes a loose atom. -/
def anyExposes : List (Formula α) → Bool
  | [] => false
  | f :: fs => f.exposes || anyExposes fs
end

mutual
/-- Whether no AND stands beside a loose atom of a formula. -/
def confines : Formula α → Bool
  | .atom _ => true
  | .not f => f.confines
  | .all fs => allConfine fs && (!anyExposes loose fs || (written fs).length ≤ 1)
  | .any fs => allConfine fs

/-- Whether all formulas of a list confine their loose atoms. -/
def allConfine : List (Formula α) → Bool
  | [] => true
  | f :: fs => f.confines && allConfine fs
end

@[simp]
theorem anyExposes_eq (fs : List (Formula α)) : anyExposes loose fs = fs.any (exposes loose) := by
  induction fs with
  | nil => rfl
  | cons f fs ih =>
      simp [anyExposes, ih]

@[simp]
theorem allConfine_eq (fs : List (Formula α)) : allConfine loose fs = fs.all (confines loose) := by
  induction fs with
  | nil => rfl
  | cons f fs ih =>
      simp [allConfine, ih]

variable {loose}

/-- Without loose atoms there is nothing to confine. -/
theorem confines_of_tight (h : ∀ a, loose a = false) (f : Formula α) : f.confines loose = true := by
  -- nothing is exposed where nothing is loose
  have hexposes : ∀ f : Formula α, f.exposes loose = false := by
    intro f
    induction f using Formula.induction with
    | atom a =>
        exact h a
    | not f _ =>
        rfl
    | all fs ih =>
        simpa [exposes] using ih
    | any fs _ =>
        rfl
  induction f using Formula.induction with
  | atom a =>
      rfl
  | not f ih =>
      exact ih
  | all fs ih =>
      simpa [confines, hexposes] using ih
  | any fs ih =>
      simpa [confines] using ih

variable {τ : α → List Truth}

/-! ## Reading confined atoms -/

theorem disjunction_bracketed (needed : Bool) (us : List Truth) :
    Truth.disjunction (Truth.bracketed needed us) = Truth.disjunction us := by
  cases needed <;> simp [Truth.bracketed]

/-- A single term stays one in brackets, and any terms become one. -/
theorem bracketed_eq_singleton {needed : Bool} {us : List Truth}
    (h : needed = false → ∃ u, us = [u]) : Truth.bracketed needed us = [Truth.disjunction us] := by
  cases needed with
  | true => rfl
  | false =>
      rcases h rfl with ⟨u, rfl⟩
      simp [Truth.bracketed]

/-- A conjunction of single terms is a single term. -/
theorem terms_all_eq_of_members {fs : List (Formula α)} (hfs : areEmpty fs = false)
    (h : ∀ f ∈ written fs, f.isAny = false → ∃ u, f.terms τ = [u]) :
    (all fs).terms τ =
      [.conjunction ((written fs).map fun f => Truth.disjunction (f.terms τ))] := by
  rw [terms, conjunctTerms_eq,
    List.map_congr_left fun f hmem => bracketed_eq_singleton (h f hmem),
    Truth.foldr_glue_singletons _ _ (written_ne_nil hfs)]

/-- What is not a disjunction and exposes no loose atom is a single term. -/
theorem exists_terms_eq (hτ : ∀ a, loose a = false → ∃ u, τ a = [u]) :
    ∀ f : Formula α, f.isEmpty = false → f.isAny = false → f.exposes loose = false →
      ∃ u, f.terms τ = [u] := by
  intro f
  -- by induction on the formula: only the members of a conjunction are not in brackets
  induction f using Formula.induction with
  | atom a =>
      intro _ _ ha
      exact hτ a ha
  | not f _ =>
      intro _ _ _
      exact ⟨_, rfl⟩
  | all fs ih =>
      intro hf _ hexposes
      have hnone : ∀ f ∈ fs, f.exposes loose = false := by simpa [exposes] using hexposes
      refine ⟨_, terms_all_eq_of_members hf fun f hmem hany => ?_⟩
      rcases mem_written.1 hmem with ⟨hf', hwritten⟩
      exact ih f hf' hwritten hany (hnone f hf')
  | any fs _ =>
      intro _ hany
      cases hany

/-- A conjunction that exposes no loose atom is read as one. -/
theorem terms_all_eq (hτ : ∀ a, loose a = false → ∃ u, τ a = [u]) {fs : List (Formula α)}
    (hfs : areEmpty fs = false) (hnone : ∀ f ∈ fs, f.exposes loose = false) :
    (all fs).terms τ =
      [.conjunction ((written fs).map fun f => Truth.disjunction (f.terms τ))] := by
  apply terms_all_eq_of_members hfs
  intro f hmem hany
  rcases mem_written.1 hmem with ⟨hf, hwritten⟩
  exact exists_terms_eq hτ f hwritten hany (hnone f hf)

/-- A conjunction with one written member is read as that member. -/
theorem disjunction_terms_all {fs : List (Formula α)} {f : Formula α} (hfs : written fs = [f]) :
    Truth.disjunction ((all fs).terms τ) = Truth.disjunction (f.terms τ) := by
  rw [terms, conjunctTerms_eq, hfs]
  simp [disjunction_bracketed]

/-- A disjunction is read as one. -/
theorem disjunction_terms_any (fs : List (Formula α)) :
    Truth.disjunction ((any fs).terms τ) =
      .disjunction ((written fs).map fun f => Truth.disjunction (f.terms τ)) := by
  rw [terms, disjunctTerms_eq, Truth.disjunction_flatten, List.map_map]
  exact congrArg _ (List.map_congr_left fun f _ => disjunction_bracketed _ _)

/-- A formula that confines its loose atoms is read as what it is. -/
theorem value_of_confines (hτ : ∀ a, loose a = false → ∃ u, τ a = [u]) :
    ∀ f : Formula α, f.isEmpty = false → f.confines loose = true →
      Truth.disjunction (f.terms τ) = f.prune.value fun a => Truth.disjunction (τ a) := by
  intro f
  -- by induction on the formula; only in a conjunction do the terms of the members meet
  induction f using Formula.induction with
  | atom a =>
      intro _ _
      rfl
  | not f ih =>
      intro hf hconf
      simp [terms, prune, value, ih hf hconf]
  | all fs ih =>
      intro hf hconf
      simp only [confines, allConfine_eq, anyExposes_eq, Bool.and_eq_true, List.all_eq_true,
        Bool.or_eq_true, Bool.not_eq_true', decide_eq_true_eq] at hconf
      rcases hconf with ⟨hall, hexposes⟩
      have hvalue : ∀ f ∈ written fs, Truth.disjunction (f.terms τ) =
          f.prune.value fun a => Truth.disjunction (τ a) := by
        intro f hmem
        rcases mem_written.1 hmem with ⟨hf', hwritten⟩
        exact ih f hf' hwritten (hall f hf')
      rw [value_prune_all, ← List.map_congr_left hvalue]
      -- either every member is a single term, or there is one member only
      rcases hexposes with hnone | hone
      · rw [terms_all_eq hτ hf (by simpa using hnone)]
        simp
      · -- a member that is alone keeps its terms
        obtain ⟨f, hfs⟩ : ∃ f, written fs = [f] :=
          List.length_eq_one_iff.1 (Nat.le_antisymm hone
            (List.length_pos_iff.2 (written_ne_nil hf)))
        rw [disjunction_terms_all hfs, hfs]
        simp
  | any fs ih =>
      intro hf hconf
      have hall : ∀ f ∈ fs, f.confines loose = true := by simpa [confines] using hconf
      -- an OR beside the terms of a member leaves them as they are
      rw [disjunction_terms_any, value_prune_any]
      refine congrArg _ (List.map_congr_left fun f hmem => ?_)
      rcases mem_written.1 hmem with ⟨hf', hwritten⟩
      exact ih f hf' hwritten (hall f hf')

end Formula
end ParamSql
