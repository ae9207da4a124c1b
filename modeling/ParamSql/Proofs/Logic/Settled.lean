import ParamSql.Proofs.Logic.Escape

/-!
# Settled — formulas in which some atoms have their values already

The value of some atoms is settled by what they are, that of the others is open at every place where
they occur.

* `Formula.Valuation settled f` — a truth value for every occurrence of an atom in `f`;
* `Formula.settledValue settled f` — the value of `f` as far as the settled atoms decide it;
* `Formula.Valuation.refines` — no valuation contradicts this value;
* `Formula.steer` — the open occurrences can be given values that bring about either outcome where
  the settled atoms do not decide it;
* `Formula.settledValue_eq_yes_iff`, `Formula.exists_valuation_no` — so that a formula holds under
  all valuations just if it does by its settled atoms, and otherwise fails under one.
-/

namespace ParamSql

variable {α : Type}

namespace Truth

/-! ## Unknown values that turn out -/

/-- The value when what is unknown turns out as `b`. -/
def resolve (b : Bool) : Truth → Truth
  | .unknown => ofBool b
  | u => u

theorem resolve_ne_unknown (b : Bool) (u : Truth) : u.resolve b ≠ unknown := by
  cases u <;> cases b <;> simp [resolve, ofBool]

theorem resolve_ofBool (b c : Bool) : (ofBool c).resolve b = ofBool c := by
  cases c <;> rfl

theorem resolve_not (b : Bool) (u : Truth) : u.not.resolve b = (u.resolve (!b)).not := by
  cases u <;> cases b <;> rfl

theorem resolve_conjunction (b : Bool) (us : List Truth) :
    (conjunction us).resolve b = conjunction (us.map (resolve b)) := by
  have hand : ∀ u v : Truth, (u.and v).resolve b = (u.resolve b).and (v.resolve b) := by
    intro u v
    cases u <;> cases v <;> cases b <;> rfl
  induction us with
  | nil => rfl
  | cons u us ih => rw [conjunction_cons, hand, ih, List.map_cons, conjunction_cons]

theorem resolve_disjunction (b : Bool) (us : List Truth) :
    (disjunction us).resolve b = disjunction (us.map (resolve b)) := by
  have hor : ∀ u v : Truth, (u.or v).resolve b = (u.resolve b).or (v.resolve b) := by
    intro u v
    cases u <;> cases v <;> cases b <;> rfl
  induction us with
  | nil => rfl
  | cons u us ih => rw [disjunction_cons, hor, ih, List.map_cons, disjunction_cons]

/-- A value agrees with another one as far as it is known. -/
def Refines (v u : Truth) : Prop :=
  u = unknown ∨ v = u

theorem Refines.not {u v : Truth} (h : v.Refines u) : v.not.Refines u.not := by
  rcases h with rfl | rfl
  · exact .inl rfl
  · exact .inr rfl

theorem or_eq_not_and (u v : Truth) : u.or v = (u.not.and v.not).not := by
  cases u <;> cases v <;> rfl

theorem Refines.and {u u' v v' : Truth} (h : v.Refines u) (h' : v'.Refines u') :
    (v.and v').Refines (u.and u') := by
  -- an unknown value matters only beside one that does not decide the conjunction
  rcases h with rfl | rfl
  · rcases h' with rfl | rfl
    · exact .inl rfl
    · cases v' with
      | no => exact .inr (by cases v <;> rfl)
      | unknown => exact .inl rfl
      | yes => exact .inl rfl
  · rcases h' with rfl | rfl
    · cases v with
      | no => exact .inr rfl
      | unknown => exact .inl rfl
      | yes => exact .inl rfl
    · exact .inr rfl

theorem Refines.or {u u' v v' : Truth} (h : v.Refines u) (h' : v'.Refines u') :
    (v.or v').Refines (u.or u') := by
  -- a disjunction is the negation of the negated values' conjunction
  rw [or_eq_not_and, or_eq_not_and]
  exact (h.not.and h'.not).not

theorem Refines.conjunction {β : Type} {f g : β → Truth} {xs : List β}
    (h : ∀ x ∈ xs, (f x).Refines (g x)) :
    (Truth.conjunction (xs.map f)).Refines (Truth.conjunction (xs.map g)) := by
  induction xs with
  | nil => exact .inr rfl
  | cons x xs ih =>
      rcases List.forall_mem_cons.1 h with ⟨hx, hxs⟩
      exact hx.and (ih hxs)

theorem Refines.disjunction {β : Type} {f g : β → Truth} {xs : List β}
    (h : ∀ x ∈ xs, (f x).Refines (g x)) :
    (Truth.disjunction (xs.map f)).Refines (Truth.disjunction (xs.map g)) := by
  induction xs with
  | nil => exact .inr rfl
  | cons x xs ih =>
      rcases List.forall_mem_cons.1 h with ⟨hx, hxs⟩
      exact hx.or (ih hxs)

end Truth

namespace Formula

variable (settled : α → Option Bool)

/-! ## Values that are settled -/

/-- The value of an atom as far as it is settled. -/
def atomValue (a : α) : Truth :=
  match settled a with
  | some b => .ofBool b
  | none => .unknown

/-- The value of a formula, without its empty groups, as far as the settled atoms decide it. -/
def settledValue (f : Formula α) : Truth :=
  f.prune.value (atomValue settled)

@[simp]
theorem settledValue_atom (a : α) : (atom a).settledValue settled = atomValue settled a := rfl

@[simp]
theorem settledValue_not (f : Formula α) :
    (not f).settledValue settled = (f.settledValue settled).not := rfl

theorem settledValue_all (fs : List (Formula α)) :
    (all fs).settledValue settled = .conjunction ((written fs).map (settledValue settled)) :=
  value_prune_all _ fs

theorem settledValue_any (fs : List (Formula α)) :
    (any fs).settledValue settled = .disjunction ((written fs).map (settledValue settled)) :=
  value_prune_any _ fs

/-- A formula without settled atoms is open, unless it has no atoms at all. -/
theorem settledValue_of_open {f : Formula α} (hopen : ∀ a ∈ f.atoms, settled a = none)
    (hf : f.isEmpty = false) : f.settledValue settled = .unknown := by
  -- groups of both kinds have the members in common, which are open if they are written
  have hmember : ∀ {fs : List (Formula α)}, (∀ a ∈ atomsOf fs, settled a = none) →
      areEmpty fs = false → (∀ g ∈ fs, (∀ a ∈ g.atoms, settled a = none) → g.isEmpty = false →
        g.settledValue settled = .unknown) →
      Truth.Constant .unknown ((written fs).map (settledValue settled)) := by
    intro fs hopen hfs ih
    refine ⟨by simpa using written_ne_nil hfs, ?_⟩
    intro u hu
    rcases List.mem_map.1 hu with ⟨g, hg, rfl⟩
    rcases mem_written.1 hg with ⟨hmem, hempty⟩
    exact ih g hmem (fun a ha => hopen a (mem_atoms_of_mem hmem ha)) hempty
  induction f using Formula.induction with
  | atom a => simp [atomValue, hopen a (by simp [atoms])]
  | not f ih =>
      rw [settledValue_not, ih hopen hf]
      rfl
  | all fs ih =>
      rw [settledValue_all]
      exact (hmember hopen hf ih).conjunction
  | any fs ih =>
      rw [settledValue_any]
      exact (hmember hopen hf ih).disjunction

/-- A truth value for every occurrence of an atom, which is the settled one where there is one. -/
structure Valuation (f : Formula α) where
  marked : Formula (α × Truth)
  marked_map : marked.map Prod.fst = f
  settled_eq : ∀ p ∈ marked.atoms, ∀ b, settled p.1 = some b → p.2 = .ofBool b

namespace Valuation

variable {settled} {f : Formula α}

/-- The value of the formula, without its empty groups. -/
def value (v : Valuation settled f) : Truth :=
  v.marked.prune.value Prod.snd

/-- Nothing is unknown under the valuation. -/
def IsDefinite (v : Valuation settled f) : Prop :=
  ∀ p ∈ v.marked.atoms, p.2 ≠ .unknown

end Valuation

variable {settled}

/-- The values of occurrences do not contradict what is settled. -/
theorem refines_settledValue {g : Formula (α × Truth)}
    (h : ∀ p ∈ g.atoms, ∀ b, settled p.1 = some b → p.2 = .ofBool b) :
    (g.prune.value Prod.snd).Refines ((g.map Prod.fst).settledValue settled) := by
  -- what is known of a member is known of it as part of the group
  have hmember : ∀ {gs : List (Formula (α × Truth))},
      (∀ g ∈ gs, (∀ p ∈ g.atoms, ∀ b, settled p.1 = some b → p.2 = .ofBool b) →
        (g.prune.value Prod.snd).Refines ((g.map Prod.fst).settledValue settled)) →
      (∀ p ∈ atomsOf gs, ∀ b, settled p.1 = some b → p.2 = .ofBool b) →
      ∀ g ∈ written gs,
        (g.prune.value Prod.snd).Refines ((g.map Prod.fst).settledValue settled) := by
    intro gs ih h g hg
    have hmem : g ∈ gs := (mem_written.1 hg).1
    exact ih g hmem fun p hp => h p (mem_atoms_of_mem hmem hp)
  induction g using Formula.induction with
  | atom p =>
      cases hp : settled p.1 with
      | none => exact .inl (by simp [map, atomValue, hp])
      | some b =>
          have hvalue : p.2 = .ofBool b := h p (.head _) b hp
          exact .inr (by simp [map, prune, value, atomValue, hp, hvalue])
  | not g ih => exact (ih h).not
  | all gs ih =>
      have hmap : (all gs).map (Prod.fst : α × Truth → α) = all (gs.map (map Prod.fst)) := by
        simp [map]
      rw [hmap, value_prune_all, settledValue_all, written_map, List.map_map]
      exact Truth.Refines.conjunction (hmember ih h)
  | any gs ih =>
      have hmap : (any gs).map (Prod.fst : α × Truth → α) = any (gs.map (map Prod.fst)) := by
        simp [map]
      rw [hmap, value_prune_any, settledValue_any, written_map, List.map_map]
      exact Truth.Refines.disjunction (hmember ih h)

/-- No valuation contradicts what is settled. -/
theorem Valuation.refines {f : Formula α} (v : Valuation settled f) :
    v.value.Refines (f.settledValue settled) := by
  have h := refines_settledValue v.settled_eq
  rwa [v.marked_map] at h

/-! ## Values that bring about an outcome -/

variable (settled)

mutual
/-- The formula in which every open occurrence has the value that is best for the outcome `b`: under
a negation, that is the one that is best for the other outcome. -/
def steer : Bool → Formula α → Formula (α × Truth)
  | b, .atom a => .atom (a, (atomValue settled a).resolve b)
  | b, .not f => .not (steer (!b) f)
  | b, .all fs => .all (steerList b fs)
  | b, .any fs => .any (steerList b fs)

def steerList : Bool → List (Formula α) → List (Formula (α × Truth))
  | _, [] => []
  | b, f :: fs => steer b f :: steerList b fs
end

@[simp]
theorem steerList_eq_map (b : Bool) (fs : List (Formula α)) :
    steerList settled b fs = fs.map (steer settled b) := by
  induction fs with
  | nil => rfl
  | cons f fs ih => simp [steerList, ih]

theorem map_steer (f : Formula α) : ∀ b, (steer settled b f).map Prod.fst = f := by
  have hmembers : ∀ fs : List (Formula α), (∀ g ∈ fs, ∀ b, (steer settled b g).map Prod.fst = g) →
      ∀ b, (fs.map (steer settled b)).map (map Prod.fst) = fs := by
    intro fs ih b
    rw [List.map_map]
    exact (List.map_congr_left fun g hg => ih g hg b).trans (List.map_id' fs)
  induction f using Formula.induction with
  | atom a =>
      intro b
      rfl
  | not f ih =>
      intro b
      simp [steer, map, ih]
  | all fs ih =>
      intro b
      simpa [steer, map] using hmembers fs ih b
  | any fs ih =>
      intro b
      simpa [steer, map] using hmembers fs ih b

theorem isEmpty_steer (b : Bool) (f : Formula α) : (steer settled b f).isEmpty = f.isEmpty := by
  have hmap := isEmpty_map Prod.fst (steer settled b f)
  rw [map_steer] at hmap
  exact hmap.symm

theorem written_steer (b : Bool) (fs : List (Formula α)) :
    written (fs.map (steer settled b)) = (written fs).map (steer settled b) := by
  simp [written, List.filter_map, Function.comp_def, isEmpty_steer]

/-- Every occurrence has the settled value, or else a definite one. -/
theorem exists_resolve_of_mem_steer (f : Formula α) : ∀ b, ∀ p ∈ (steer settled b f).atoms,
    ∃ c, p.2 = (atomValue settled p.1).resolve c := by
  -- an occurrence in a group is one in a member of it
  have hmembers : ∀ fs : List (Formula α),
      (∀ g ∈ fs, ∀ b, ∀ p ∈ (steer settled b g).atoms,
        ∃ c, p.2 = (atomValue settled p.1).resolve c) →
      ∀ b, ∀ p ∈ atomsOf (fs.map (steer settled b)),
        ∃ c, p.2 = (atomValue settled p.1).resolve c := by
    intro fs ih b p hp
    rw [atomsOf_eq_flatMap, List.flatMap_map] at hp
    rcases List.mem_flatMap.1 hp with ⟨g, hg, hpg⟩
    exact ih g hg b p hpg
  induction f using Formula.induction with
  | atom a =>
      intro b p hp
      obtain rfl := List.mem_singleton.1 hp
      exact ⟨b, rfl⟩
  | not f ih =>
      intro b
      exact ih (!b)
  | all fs ih =>
      intro b
      simpa [steer, atoms] using hmembers fs ih b
  | any fs ih =>
      intro b
      simpa [steer, atoms] using hmembers fs ih b

/-- What is not settled comes out as it is steered. -/
theorem value_steer (f : Formula α) : ∀ b,
    (steer settled b f).prune.value Prod.snd = (f.settledValue settled).resolve b := by
  -- steering commutes with leaving out the members that are not written
  have hmembers : ∀ fs : List (Formula α),
      (∀ g ∈ fs, ∀ b, (steer settled b g).prune.value Prod.snd =
        (g.settledValue settled).resolve b) →
      ∀ b, (written (fs.map (steer settled b))).map (fun g => g.prune.value Prod.snd) =
        ((written fs).map (settledValue settled)).map (Truth.resolve b) := by
    intro fs ih b
    rw [written_steer, List.map_map, List.map_map]
    exact List.map_congr_left fun g hg => ih g (mem_written.1 hg).1 b
  induction f using Formula.induction with
  | atom a =>
      intro b
      rfl
  | not f ih =>
      intro b
      rw [settledValue_not, Truth.resolve_not, ← ih (!b)]
      rfl
  | all fs ih =>
      intro b
      rw [steer, steerList_eq_map, value_prune_all, hmembers fs ih b, settledValue_all,
        Truth.resolve_conjunction]
  | any fs ih =>
      intro b
      rw [steer, steerList_eq_map, value_prune_any, hmembers fs ih b, settledValue_any,
        Truth.resolve_disjunction]

/-- The valuation that is best for the outcome `b`. -/
def steered (b : Bool) (f : Formula α) : Valuation settled f where
  marked := steer settled b f
  marked_map := map_steer settled f b
  settled_eq := by
    intro p hp c hc
    rcases exists_resolve_of_mem_steer settled f b p hp with ⟨d, hd⟩
    rw [hd, atomValue, hc]
    exact Truth.resolve_ofBool d c

theorem isDefinite_steered (b : Bool) (f : Formula α) : (steered settled b f).IsDefinite := by
  intro p hp
  rcases exists_resolve_of_mem_steer settled f b p hp with ⟨c, hc⟩
  rw [hc]
  exact Truth.resolve_ne_unknown c _

variable {settled} {f : Formula α}

/-- A formula that does not hold by its settled atoms fails under a valuation without unknown
values. -/
theorem exists_valuation_no (h : f.settledValue settled ≠ .yes) :
    ∃ v : Valuation settled f, v.IsDefinite ∧ v.value = .no := by
  refine ⟨steered settled false f, isDefinite_steered settled false f, ?_⟩
  have hvalue : (steered settled false f).value = (f.settledValue settled).resolve false :=
    value_steer settled f false
  rw [hvalue]
  -- what is unknown turns out as false, and what is false already stays so
  cases hf : f.settledValue settled with
  | no => rfl
  | unknown => rfl
  | yes => exact absurd hf h

/-- A formula holds under all valuations just if it does by its settled atoms. -/
theorem settledValue_eq_yes_iff :
    f.settledValue settled = .yes ↔ ∀ v : Valuation settled f, v.value = .yes := by
  constructor
  · intro h v
    -- a value that is settled is the value under every valuation
    rcases v.refines with hunknown | heq
    · rw [h] at hunknown
      cases hunknown
    · rw [heq, h]
  · intro h
    by_contra hne
    rcases exists_valuation_no hne with ⟨v, -, hno⟩
    rw [h v] at hno
    cases hno

end Formula
end ParamSql
