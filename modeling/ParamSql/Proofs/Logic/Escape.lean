import ParamSql.Proofs.Logic.Confinement

/-!
# Escape — what happens to atoms that are not confined

A formula that does not confine its loose atoms is misread: there are atoms in the same places for
which what is written does not have the value of the formula.

* `Truth.Constant u us` — terms that all have the value `u`;
* `Fillers loose τ fill` — atoms of both kinds, true ones and false ones;
* `Formula.filled fill b S` — a formula of the shape `S` all of whose groups and atoms support the
  value `b`;
* `Formula.exists_escape` — every shape that does not confine its loose atoms is misread for some
  atoms.
-/

namespace ParamSql

variable {α : Type}

namespace Truth

/-! ## Constant terms -/

def ofBool : Bool → Truth
  | true => yes
  | false => no

@[simp]
theorem not_ofBool (b : Bool) : (ofBool b).not = ofBool (!b) := by
  cases b <;> rfl

@[simp]
theorem and_self (u : Truth) : u.and u = u := by
  cases u <;> rfl

@[simp]
theorem or_self (u : Truth) : u.or u = u := by
  cases u <;> rfl

/-- Terms that all have the same value. -/
structure Constant (u : Truth) (us : List Truth) : Prop where
  ne_nil : us ≠ []
  eq : ∀ v ∈ us, v = u

theorem Constant.disjunction {u : Truth} {us : List Truth} (h : Constant u us) :
    disjunction us = u := by
  rcases h with ⟨hne, heq⟩
  induction us with
  | nil => exact absurd rfl hne
  | cons v us ih =>
      obtain rfl : v = u := heq v (by simp)
      cases us with
      | nil => simp
      | cons w us =>
          rw [disjunction_cons, ih (by simp) fun x hx => heq x (List.mem_cons_of_mem _ hx), or_self]

theorem Constant.conjunction {u : Truth} {us : List Truth} (h : Constant u us) :
    conjunction us = u := by
  rcases h with ⟨hne, heq⟩
  induction us with
  | nil => exact absurd rfl hne
  | cons v us ih =>
      obtain rfl : v = u := heq v (by simp)
      cases us with
      | nil => simp
      | cons w us =>
          rw [conjunction_cons, ih (by simp) fun x hx => heq x (List.mem_cons_of_mem _ hx),
            and_self]

theorem Constant.bracketed {u : Truth} {us : List Truth} (needed : Bool) (h : Constant u us) :
    Constant u (Truth.bracketed needed us) := by
  cases needed with
  | false => exact h
  | true => exact ⟨by simp [Truth.bracketed], by simp [Truth.bracketed, h.disjunction]⟩

theorem Constant.mem_tail {u : Truth} {us : List Truth} (h : Constant u us)
    (hlength : 2 ≤ us.length) : u ∈ us.tail := by
  obtain ⟨v, w, ws, rfl⟩ : ∃ v w ws, us = v :: w :: ws := by
    match us, hlength with
    | v :: w :: ws, _ => exact ⟨v, w, ws, rfl⟩
  obtain rfl : w = u := h.eq w (by simp)
  simp

theorem Constant.mem_dropLast {u : Truth} {us : List Truth} (h : Constant u us)
    (hlength : 2 ≤ us.length) : u ∈ us.dropLast := by
  obtain ⟨v, w, ws, rfl⟩ : ∃ v w ws, us = v :: w :: ws := by
    match us, hlength with
    | v :: w :: ws, _ => exact ⟨v, w, ws, rfl⟩
  obtain rfl : v = u := h.eq v (by simp)
  simp

theorem disjunction_eq_yes {us : List Truth} (h : yes ∈ us) : disjunction us = yes := by
  induction us with
  | nil => cases h
  | cons u us ih =>
      rcases List.mem_cons.1 h with rfl | hus
      · rfl
      · simp [ih hus]

/-- Conditions that hold do not matter to a conjunction. -/
theorem conjunction_surrounded (n m : Nat) (u : Truth) :
    conjunction (List.replicate n (ofBool true) ++ u :: List.replicate m (ofBool true)) = u := by
  induction n with
  | zero => simp [ofBool]
  | succ n ih => simpa [List.replicate_succ, ofBool] using ih

/-- Conditions that do not hold do not matter to a disjunction. -/
theorem disjunction_surrounded (n m : Nat) (u : Truth) :
    disjunction (List.replicate n (ofBool false) ++ u :: List.replicate m (ofBool false)) = u := by
  induction n with
  | zero => simp [ofBool]
  | succ n ih => simpa [List.replicate_succ, ofBool] using ih

/-! ## Terms next to an AND -/

theorem length_glue {us vs : List Truth} (hus : us ≠ []) (hvs : vs ≠ []) :
    (glue us vs).length + 1 = us.length + vs.length := by
  -- one term of each side becomes one: the last of `us` and the first of `vs`
  induction us with
  | nil => exact absurd rfl hus
  | cons u us ih =>
      cases us with
      | nil =>
          cases vs with
          | nil => exact absurd rfl hvs
          | cons v vs => simp [glue, Nat.add_comm]
      | cons u' us =>
          have hlength := ih (by simp)
          simp only [glue, List.length_cons] at hlength ⊢
          omega

theorem mem_glue {us vs : List Truth} {w : Truth} (h : w ∈ glue us vs) :
    w ∈ us ∨ w ∈ vs ∨ ∃ u ∈ us, ∃ v ∈ vs, w = u.and v := by
  -- a term of the result is an old one, or the one next to the AND
  induction us with
  | nil => exact .inr (.inl h)
  | cons u us ih =>
      cases us with
      | nil =>
          cases vs with
          | nil => exact .inl h
          | cons v vs =>
              rcases List.mem_cons.1 h with rfl | hvs
              · exact .inr (.inr ⟨u, by simp, v, by simp, rfl⟩)
              · exact .inr (.inl (List.mem_cons_of_mem _ hvs))
      | cons u' us =>
          rcases List.mem_cons.1 h with rfl | hrest
          · exact .inl (by simp)
          · rcases ih hrest with hus | hvs | ⟨x, hx, v, hv, hw⟩
            · exact .inl (List.mem_cons_of_mem _ hus)
            · exact .inr (.inl hvs)
            · exact .inr (.inr ⟨x, List.mem_cons_of_mem _ hx, v, hv, hw⟩)

/-- All terms behind an AND but the first one stay as they are. -/
theorem mem_glue_of_mem_tail {us vs : List Truth} {w : Truth} (h : w ∈ vs.tail) :
    w ∈ glue us vs := by
  induction us with
  | nil => exact List.mem_of_mem_tail h
  | cons u us ih =>
      cases us with
      | nil =>
          cases vs with
          | nil => cases h
          | cons v vs => exact List.mem_cons_of_mem _ h
      | cons u' us => exact List.mem_cons_of_mem _ ih

/-- All terms before an AND but the last one stay as they are. -/
theorem mem_glue_of_mem_dropLast {us vs : List Truth} {w : Truth} (h : w ∈ us.dropLast) :
    w ∈ glue us vs := by
  induction us with
  | nil => cases h
  | cons u us ih =>
      cases us with
      | nil => cases h
      | cons u' us =>
          rcases List.mem_cons.1 h with rfl | hrest
          · simp [glue]
          · exact List.mem_cons_of_mem _ (ih hrest)

theorem Constant.glue {u : Truth} {us vs : List Truth} (hus : Constant u us)
    (hvs : Constant u vs) : Constant u (glue us vs) := by
  refine ⟨fun hnil => ?_, fun w hw => ?_⟩
  · -- there are terms on both sides, of which only two become one
    have hlength := length_glue hus.ne_nil hvs.ne_nil
    have hus' := List.length_pos_iff.2 hus.ne_nil
    have hvs' := List.length_pos_iff.2 hvs.ne_nil
    rw [hnil, List.length_nil] at hlength
    omega
  · rcases mem_glue hw with h | h | ⟨x, hx, v, hv, rfl⟩
    · exact hus.eq w h
    · exact hvs.eq w h
    · rw [hus.eq x hx, hvs.eq v hv, and_self]

theorem Constant.foldr_glue {γ : Type} {u : Truth} (row : γ → List Truth) (long : γ → Bool)
    (xs : List γ) (hne : xs ≠ [])
    (h : ∀ x ∈ xs, Constant u (row x) ∧ (long x = true → 2 ≤ (row x).length)) :
    Constant u ((xs.map row).foldr Truth.glue []) ∧
      (xs.any long = true → 2 ≤ ((xs.map row).foldr Truth.glue []).length) := by
  induction xs with
  | nil => exact absurd rfl hne
  | cons x xs ih =>
      obtain ⟨hx, hlong⟩ := h x (by simp)
      cases xs with
      | nil => simpa using ⟨hx, hlong⟩
      | cons y ys =>
          obtain ⟨hrest, hlongs⟩ := ih (by simp) fun z hz => h z (List.mem_cons_of_mem _ hz)
          have hlength := length_glue hx.ne_nil hrest.ne_nil
          have hx' := List.length_pos_iff.2 hx.ne_nil
          have hrest' := List.length_pos_iff.2 hrest.ne_nil
          refine ⟨hx.glue hrest, ?_⟩
          intro hany
          rw [List.map_cons, List.foldr_cons]
          -- a member with two terms leaves two, however many others there are
          rcases Bool.or_eq_true_iff.1 (List.any_cons ▸ hany) with hfirst | hothers
          · have htwo := hlong hfirst
            omega
          · have htwo := hlongs hothers
            omega

theorem Constant.flatten {γ : Type} {u : Truth} (row : γ → List Truth) (xs : List γ)
    (hne : xs ≠ []) (h : ∀ x ∈ xs, Constant u (row x)) : Constant u (xs.map row).flatten := by
  refine ⟨fun hnil => ?_, fun v hv => ?_⟩
  · rcases List.exists_mem_of_ne_nil xs hne with ⟨x, hx⟩
    exact (h x hx).ne_nil (List.flatten_eq_nil_iff.1 hnil _ (List.mem_map_of_mem hx))
  · rcases List.mem_flatten.1 hv with ⟨us, hus, hvus⟩
    rcases List.mem_map.1 hus with ⟨x, hx, rfl⟩
    exact (h x hx).eq v hvus

end Truth

namespace Formula

/-! ## Shapes -/

section Shapes

variable {β : Type} {loose : α → Bool}

theorem exposes_map (g : β → α) :
    ∀ f : Formula β, (f.map g).exposes loose = f.exposes (loose ∘ g) := by
  intro f
  -- by induction on the formula, of which only atoms and conjunctions expose anything
  induction f using Formula.induction with
  | atom a =>
      rfl
  | not f _ =>
      rfl
  | all fs ih =>
      have hmembers : fs.map (exposes loose ∘ map g) = fs.map (exposes (loose ∘ g)) :=
        List.map_congr_left ih
      simpa [map, exposes, Function.comp_def] using congrArg (List.any · id) hmembers
  | any fs _ =>
      rfl

theorem confines_map (g : β → α) :
    ∀ f : Formula β, (f.map g).confines loose = f.confines (loose ∘ g) := by
  -- the members of both kinds of group
  have hall : ∀ fs : List (Formula β),
      (∀ f ∈ fs, (f.map g).confines loose = f.confines (loose ∘ g)) →
      (fs.map (map g)).all (confines loose) = fs.all (confines (loose ∘ g)) := by
    intro fs ih
    have hmembers : fs.map (confines loose ∘ map g) = fs.map (confines (loose ∘ g)) :=
      List.map_congr_left ih
    simpa [Function.comp_def] using congrArg (List.all · id) hmembers
  intro f
  induction f using Formula.induction with
  | atom a =>
      rfl
  | not f ih =>
      exact ih
  | all fs ih =>
      have hexposes : (fs.map (map g)).any (exposes loose) = fs.any (exposes (loose ∘ g)) := by
        simp [Function.comp_def, exposes_map]
      simp only [map, mapList_eq_map, confines, allConfine_eq, anyExposes_eq, hall fs ih, hexposes,
        written_map, List.length_map]
  | any fs ih =>
      simpa only [map, mapList_eq_map, confines, allConfine_eq] using hall fs ih

/-- A formula without atoms has nothing to expose or to confine. -/
theorem confines_of_isEmpty : ∀ f : Formula α, f.isEmpty = true →
    f.exposes loose = false ∧ f.confines loose = true := by
  intro f
  induction f using Formula.induction with
  | atom a =>
      intro h
      cases h
  | not f ih =>
      intro h
      exact ⟨rfl, (ih h).2⟩
  | all fs ih =>
      intro h
      have hmembers := fun f hf => ih f hf (isEmpty_of_areEmpty h f hf)
      refine ⟨by simpa [exposes] using fun f hf => (hmembers f hf).1, ?_⟩
      simpa [confines, written_of_areEmpty h] using fun f hf => (hmembers f hf).2
  | any fs ih =>
      intro h
      refine ⟨rfl, ?_⟩
      simpa [confines] using fun f hf => (ih f hf (isEmpty_of_areEmpty h f hf)).2

end Shapes

/-! ## Formulas with one value throughout -/

/-- Atoms to fill a shape with: loose ones and others, each of them true or false, where a loose one
is written as two terms. -/
structure Fillers (loose : α → Bool) (τ : α → List Truth) (fill : Bool → Bool → α) : Prop where
  loose_fill : ∀ l b, loose (fill l b) = l
  terms_loose : ∀ b, τ (fill true b) = [.ofBool b, .ofBool b]
  terms_tight : ∀ b, τ (fill false b) = [.ofBool b]

variable (fill : Bool → Bool → α)

mutual
/-- A formula of a given shape that has the value `b`, as all of its parts do but for those under
NOT. -/
def filled (b : Bool) : Formula Bool → Formula α
  | .atom l => .atom (fill l b)
  | .not f => .not (filled (!b) f)
  | .all fs => .all (filledList b fs)
  | .any fs => .any (filledList b fs)

/-- Formulas of given shapes that have the value `b`. -/
def filledList (b : Bool) : List (Formula Bool) → List (Formula α)
  | [] => []
  | f :: fs => filled b f :: filledList b fs
end

@[simp]
theorem filledList_eq_map (b : Bool) (fs : List (Formula Bool)) :
    filledList fill b fs = fs.map (filled fill b) := by
  induction fs with
  | nil => rfl
  | cons f fs ih =>
      simp [filledList, ih]

variable {fill} {loose : α → Bool} {τ : α → List Truth} (hfill : Fillers loose τ fill)
include hfill

theorem map_filled : ∀ (S : Formula Bool) (b : Bool), (filled fill b S).map loose = S := by
  intro S
  induction S using Formula.induction with
  | atom l =>
      intro b
      simp [filled, map, hfill.loose_fill]
  | not f ih =>
      intro b
      simp [filled, map, ih]
  | all fs ih =>
      intro b
      have hfs : fs.map (map loose ∘ filled fill b) = fs.map id :=
        List.map_congr_left fun f hf => ih f hf b
      simpa [filled, map] using hfs
  | any fs ih =>
      intro b
      have hfs : fs.map (map loose ∘ filled fill b) = fs.map id :=
        List.map_congr_left fun f hf => ih f hf b
      simpa [filled, map] using hfs

theorem isEmpty_filled (b : Bool) (S : Formula Bool) : (filled fill b S).isEmpty = S.isEmpty := by
  rw [← isEmpty_map loose, map_filled hfill]

theorem isAny_filled (b : Bool) (S : Formula Bool) : (filled fill b S).isAny = S.isAny := by
  rw [← isAny_map loose, map_filled hfill]

theorem written_filled (b : Bool) (fs : List (Formula Bool)) :
    written (fs.map (filled fill b)) = (written fs).map (filled fill b) := by
  simp [written, List.filter_map, Function.comp_def, isEmpty_filled hfill]

theorem terms_filled : ∀ (S : Formula Bool) (b : Bool), S.isEmpty = false →
    Truth.Constant (.ofBool b) ((filled fill b S).terms τ) ∧
      (S.exposes id = true → 2 ≤ ((filled fill b S).terms τ).length) := by
  intro S
  -- by induction on the shape: that all terms have one value is kept by AND and OR, and that there
  -- are two of them by AND alone
  induction S using Formula.induction with
  | atom l =>
      intro b _
      cases l with
      | true => simpa [filled, terms, hfill.terms_loose] using ⟨by simp, by simp⟩
      | false => simpa [filled, terms, hfill.terms_tight, exposes] using ⟨by simp, by simp⟩
  | not f ih =>
      intro b hf
      refine ⟨⟨by simp [filled, terms], ?_⟩, fun h => by cases h⟩
      -- under NOT all terms have the opposite value
      have hdisj := (ih (!b) hf).1.disjunction
      simp [filled, terms, hdisj]
  | all fs ih =>
      intro b hf
      -- what exposes an atom is not a disjunction and not put in brackets
      have hrows : ∀ f ∈ written fs,
          Truth.Constant (.ofBool b) (Truth.bracketed f.isAny ((filled fill b f).terms τ)) ∧
          (f.exposes id = true →
            2 ≤ (Truth.bracketed f.isAny ((filled fill b f).terms τ)).length) := by
        intro f hmem
        rcases mem_written.1 hmem with ⟨hf', hwritten⟩
        rcases ih f hf' b hwritten with ⟨hconst, hlong⟩
        refine ⟨hconst.bracketed _, ?_⟩
        intro hexposes
        have hany : f.isAny = false := by
          cases f with
          | any => cases hexposes
          | _ => rfl
        simpa [Truth.bracketed, hany] using hlong hexposes
      obtain ⟨hconst, hlong⟩ :=
        Truth.Constant.foldr_glue _ _ (written fs) (written_ne_nil hf) hrows
      have hterms : (filled fill b (.all fs)).terms τ =
          ((written fs).map fun f => Truth.bracketed f.isAny ((filled fill b f).terms τ)).foldr
            Truth.glue [] := by
        simp [filled, terms, written_filled hfill, isAny_filled hfill, Function.comp_def]
      rw [hterms]
      refine ⟨hconst, fun hexposes => hlong ?_⟩
      obtain ⟨f, hf', hf''⟩ : ∃ f ∈ fs, f.exposes id = true := by simpa [exposes] using hexposes
      refine List.any_eq_true.2 ⟨f, mem_written.2 ⟨hf', ?_⟩, hf''⟩
      -- a member that exposes an atom is written
      cases hempty : f.isEmpty with
      | false => rfl
      | true => simp [(confines_of_isEmpty f hempty).1] at hf''
  | any fs ih =>
      intro b hf
      refine ⟨?_, fun h => by cases h⟩
      have hterms : (filled fill b (.any fs)).terms τ =
          ((written fs).map fun f =>
            Truth.bracketed (filled fill b f).isAll ((filled fill b f).terms τ)).flatten := by
        simp [filled, terms, written_filled hfill, Function.comp_def]
      rw [hterms]
      apply Truth.Constant.flatten _ _ (written_ne_nil hf)
      intro f hmem
      rcases mem_written.1 hmem with ⟨hf', hwritten⟩
      exact (ih f hf' b hwritten).1.bracketed _

/-- The value that a formula has. -/
theorem value_filled : ∀ (S : Formula Bool) (b : Bool), S.isEmpty = false →
    (filled fill b S).prune.value (fun a => Truth.disjunction (τ a)) = .ofBool b := by
  -- the members of both kinds of group
  have hconst : ∀ (fs : List (Formula Bool)) (b : Bool), areEmpty fs = false →
      (∀ f ∈ fs, ∀ c, f.isEmpty = false →
        (filled fill c f).prune.value (fun a => Truth.disjunction (τ a)) = .ofBool c) →
      Truth.Constant (.ofBool b) ((written (fs.map (filled fill b))).map fun f =>
        f.prune.value fun a => Truth.disjunction (τ a)) := by
    intro fs b hfs ih
    rw [written_filled hfill, List.map_map]
    refine ⟨by simpa using written_ne_nil hfs, ?_⟩
    intro v hv
    rcases List.mem_map.1 hv with ⟨f, hmem, rfl⟩
    rcases mem_written.1 hmem with ⟨hf, hwritten⟩
    exact ih f hf b hwritten
  intro f
  induction f using Formula.induction with
  | atom l =>
      intro b _
      cases l <;> simp [filled, prune, value, hfill.terms_loose, hfill.terms_tight]
  | not f ih =>
      intro b hf
      simp [filled, prune, value, ih (!b) hf]
  | all fs ih =>
      intro b hf
      rw [filled, filledList_eq_map, value_prune_all]
      exact (hconst fs b hf ih).conjunction
  | any fs ih =>
      intro b hf
      rw [filled, filledList_eq_map, value_prune_any]
      exact (hconst fs b hf ih).disjunction

/-! ## Misread formulas -/

/-- A formula that is read as the opposite of what it is. -/
structure Escape (loose : α → Bool) (τ : α → List Truth) (S : Formula Bool) (b : Bool)
    (g : Formula α) : Prop where
  shape : g.map loose = S
  reading : Truth.disjunction (g.terms τ) = .ofBool b
  meaning : g.prune.value (fun a => Truth.disjunction (τ a)) = .ofBool (!b)

omit hfill in
theorem written_cons_of_isEmpty {f : Formula α} (fs : List (Formula α)) (h : f.isEmpty = true) :
    written (f :: fs) = written fs := by
  simp [written, h]

omit hfill in
theorem written_cons_of_atoms {f : Formula α} (fs : List (Formula α)) (h : f.isEmpty = false) :
    written (f :: fs) = f :: written fs := by
  simp [written, h]

omit hfill in
/-- The terms of a conjunction and those of its first member. -/
theorem terms_all_cons {f : Formula α} (fs : List (Formula α)) (h : f.isEmpty = false) :
    (all (f :: fs)).terms τ =
      Truth.glue (Truth.bracketed f.isAny (f.terms τ)) ((all fs).terms τ) := by
  simp [terms, written_cons_of_atoms fs h]

/-- The value of a conjunction whose first member has one value and the others have another one. -/
theorem value_all_filled {f : Formula Bool} {fs : List (Formula Bool)} (hf : f.isEmpty = false)
    (hfs : areEmpty fs = false) (b c : Bool) :
    (all (filled fill b f :: fs.map (filled fill c))).prune.value
      (fun a => Truth.disjunction (τ a)) = (Truth.ofBool b).and (.ofBool c) := by
  have hrest : (all (fs.map (filled fill c)) : Formula α) = filled fill c (.all fs) := by
    simp [filled]
  rw [value_prune_all, written_cons_of_atoms _ (by rw [isEmpty_filled hfill, hf]), List.map_cons,
    Truth.conjunction_cons, value_filled hfill f b hf, ← value_prune_all, hrest,
    value_filled hfill (.all fs) c hfs]

/-- The terms of a conjunction whose first member has one value and the others have another one. -/
theorem terms_all_filled {f : Formula Bool} (fs : List (Formula Bool)) (hf : f.isEmpty = false)
    (b c : Bool) :
    (all (filled fill b f :: fs.map (filled fill c))).terms τ =
      Truth.glue (Truth.bracketed f.isAny ((filled fill b f).terms τ))
        ((filled fill c (.all fs)).terms τ) := by
  rw [terms_all_cons _ (by rw [isEmpty_filled hfill, hf]), isAny_filled hfill, filled,
    filledList_eq_map]

/-- A loose atom next to an AND escapes: it makes the conjunction hold though another member does
not. -/
theorem exists_exposed_escape (fs : List (Formula Bool)) (hexposes : fs.any (exposes id) = true)
    (hlength : 2 ≤ (written fs).length) :
    ∃ gs : List (Formula α), gs.map (map loose) = fs ∧ .yes ∈ (all gs).terms τ ∧
      (all gs).prune.value (fun a => Truth.disjunction (τ a)) = .no := by
  have hshapes : ∀ (b : Bool) (fs : List (Formula Bool)),
      (fs.map (filled fill b)).map (map loose) = fs := by
    intro b fs
    simp [Function.comp_def, map_filled hfill]
  induction fs with
  | nil => cases hexposes
  | cons f fs ih =>
      cases hf : f.isEmpty with
      | true =>
          -- the first member is not written, so that the atom is in the others
          rw [List.any_cons, (confines_of_isEmpty f hf).1, Bool.false_or] at hexposes
          rw [written_cons_of_isEmpty fs hf] at hlength
          rcases ih hexposes hlength with ⟨gs, hshape, hyes, hno⟩
          have hwritten : written (filled fill true f :: gs) = written gs :=
            written_cons_of_isEmpty gs (by rw [isEmpty_filled hfill, hf])
          refine ⟨filled fill true f :: gs, by simp [map_filled hfill, hshape], ?_, ?_⟩
          · simpa [terms, hwritten] using hyes
          · simpa [value_prune_all, hwritten] using hno
      | false =>
          rw [written_cons_of_atoms fs hf, List.length_cons] at hlength
          have hfs : areEmpty fs = false := by
            cases hempty : areEmpty fs with
            | false => rfl
            | true => simp [written_of_areEmpty hempty] at hlength
          cases hlater : fs.any (exposes id) with
          | true =>
              -- the atom is behind the first member, which alone does not hold
              rcases terms_filled hfill (.all fs) true hfs with ⟨hconst, hlong⟩
              have htwo := hlong (by simpa [exposes] using hlater)
              refine ⟨filled fill false f :: fs.map (filled fill true), ?_, ?_, ?_⟩
              · simpa [map_filled hfill] using hshapes true fs
              · rw [terms_all_filled hfill fs hf]
                exact Truth.mem_glue_of_mem_tail (hconst.mem_tail htwo)
              · exact value_all_filled hfill hf hfs false true
          | false =>
              -- the atom is in the first member, which alone holds
              have hfirst : f.exposes id = true := by simpa [hlater] using hexposes
              have hany : f.isAny = false := by
                cases f with
                | any => cases hfirst
                | _ => rfl
              rcases terms_filled hfill f true hf with ⟨hconst, hlong⟩
              have htwo := hlong hfirst
              refine ⟨filled fill true f :: fs.map (filled fill false), ?_, ?_, ?_⟩
              · simpa [map_filled hfill] using hshapes false fs
              · rw [terms_all_filled hfill fs hf, hany]
                exact Truth.mem_glue_of_mem_dropLast (hconst.mem_dropLast htwo)
              · exact value_all_filled hfill hf hfs true false

/-- Members that all have the value `b` around one that is misread. -/
def surrounded (fill : Bool → Bool → α) (b : Bool) (before : List (Formula Bool)) (g : Formula α)
    (behind : List (Formula Bool)) : List (Formula α) :=
  before.map (filled fill b) ++ g :: behind.map (filled fill b)

theorem map_surrounded {b : Bool} {before behind : List (Formula Bool)} {g : Formula α} :
    (surrounded fill b before g behind).map (map loose) = before ++ g.map loose :: behind := by
  simp [surrounded, Function.comp_def, map_filled hfill]

theorem written_surrounded {b : Bool} {before behind : List (Formula Bool)} {g : Formula α}
    (hg : g.isEmpty = false) : written (surrounded fill b before g behind) =
      (written before).map (filled fill b) ++ g :: (written behind).map (filled fill b) := by
  have happend : ∀ fs gs : List (Formula α), written (fs ++ gs) = written fs ++ written gs := by
    simp [written]
  rw [surrounded, happend, written_cons_of_atoms _ hg, written_filled hfill, written_filled hfill]

/-- What is seen of the written members that surround another one. -/
theorem map_written_surrounded {b : Bool} {before behind : List (Formula Bool)} {g : Formula α}
    (hg : g.isEmpty = false) {v : Formula α → Truth}
    (hv : ∀ S : Formula Bool, S.isEmpty = false → v (filled fill b S) = .ofBool b) :
    (written (surrounded fill b before g behind)).map v =
      List.replicate (written before).length (.ofBool b) ++
        v g :: List.replicate (written behind).length (.ofBool b) := by
  have hmap : ∀ fs : List (Formula Bool), ((written fs).map (filled fill b)).map v =
      List.replicate (written fs).length (.ofBool b) := by
    intro fs
    rw [List.map_map]
    exact List.map_eq_replicate_iff.2 fun S hS => hv S (mem_written.1 hS).2
  rw [written_surrounded hfill hg, List.map_append, List.map_cons, hmap, hmap]

theorem reading_filled (b : Bool) (S : Formula Bool) (hS : S.isEmpty = false) :
    Truth.disjunction ((filled fill b S).terms τ) = .ofBool b :=
  (terms_filled hfill S b hS).1.disjunction

namespace Escape

variable {S : Formula Bool} {b : Bool} {g : Formula α} {before behind : List (Formula Bool)}

/-- A disjunction is misread if one of its members is, and the others do not hold. -/
theorem any (hg : Escape loose τ S b g) (hatoms : g.isEmpty = false) :
    Escape loose τ (.any (before ++ S :: behind)) b
      (.any (surrounded fill false before g behind)) where
  shape := by
    simp [map, map_surrounded hfill, hg.shape]
  reading := by
    rw [disjunction_terms_any, map_written_surrounded hfill hatoms (reading_filled hfill false)]
    exact (Truth.disjunction_surrounded _ _ _).trans hg.reading
  meaning := by
    rw [value_prune_any,
      map_written_surrounded hfill hatoms fun S hS => value_filled hfill S false hS]
    exact (Truth.disjunction_surrounded _ _ _).trans hg.meaning

/-- A conjunction in which no AND stands beside a loose atom is misread if one of its members is,
and the others hold. -/
theorem all (hτ : ∀ a, loose a = false → ∃ u, τ a = [u]) (hg : Escape loose τ S b g)
    (hatoms : g.isEmpty = false)
    (h : (before ++ S :: behind).any (exposes id) = false ∨
      (written (before ++ S :: behind)).length < 2) :
    Escape loose τ (.all (before ++ S :: behind)) b
      (.all (surrounded fill true before g behind)) := by
  have hshape : (surrounded fill true before g behind).map (map loose) = before ++ S :: behind := by
    rw [map_surrounded hfill, hg.shape]
  refine ⟨by simp [map, hshape], ?_, ?_⟩
  · rcases h with hnone | hone
    · -- no member is loose: they are read one by one
      have hwritten : areEmpty (surrounded fill true before g behind) = false := by
        cases hempty : areEmpty (surrounded fill true before g behind) with
        | false => rfl
        | true => simpa [hatoms] using isEmpty_of_areEmpty hempty g (by simp [surrounded])
      have hnone' : ∀ k ∈ surrounded fill true before g behind, k.exposes loose = false := by
        intro k hk
        have hk' : k.map loose ∈ before ++ S :: behind := hshape ▸ List.mem_map_of_mem hk
        have hexposes := List.any_eq_false.1 hnone _ hk'
        rw [exposes_map] at hexposes
        simpa using hexposes
      rw [terms_all_eq hτ hwritten hnone',
        map_written_surrounded hfill hatoms (reading_filled hfill true),
        Truth.conjunction_surrounded, hg.reading]
      simp
    · -- a member that is alone is read as it stands
      have hlength : (written (surrounded fill true before g behind)).length < 2 := by
        rw [← List.length_map (f := map loose), ← written_map, hshape]
        exact hone
      have hmem : g ∈ written (surrounded fill true before g behind) := by
        simp [written_surrounded hfill hatoms]
      have halone : written (surrounded fill true before g behind) = [g] := by
        obtain ⟨k, hk⟩ := List.length_eq_one_iff.1
          (Nat.le_antisymm (Nat.le_of_lt_succ hlength) (List.length_pos_of_mem hmem))
        obtain rfl : g = k := by simpa [hk] using hmem
        exact hk
      rw [disjunction_terms_all halone, hg.reading]
  · rw [value_prune_all,
      map_written_surrounded hfill hatoms fun S hS => value_filled hfill S true hS]
    exact (Truth.conjunction_surrounded _ _ _).trans hg.meaning

omit hfill in
/-- There is something to misread. -/
theorem isEmpty_eq_false (hg : Escape loose τ S b g) (hS : S.confines id = false) :
    g.isEmpty = false := by
  cases hempty : g.isEmpty with
  | false => rfl
  | true =>
      rw [← isEmpty_map loose, hg.shape] at hempty
      simp [(confines_of_isEmpty S hempty).2] at hS

end Escape

/-- A formula that does not confine its loose atoms is misread for some atoms. -/
theorem exists_escape (hτ : ∀ a, loose a = false → ∃ u, τ a = [u]) :
    ∀ S : Formula Bool, S.confines id = false → ∃ b g, Escape loose τ S b g := by
  intro S
  -- by induction on the shape: an AND beside a loose atom is misread, and what is around it is
  -- filled so that it decides about the value
  induction S using Formula.induction with
  | atom l =>
      intro h
      cases h
  | not f ih =>
      intro h
      rcases ih h with ⟨b, g, hg⟩
      refine ⟨!b, .not g, by simp [map, hg.shape], ?_, ?_⟩
      · simp [terms, hg.reading]
      · simp [prune, value, hg.meaning]
  | all fs ih =>
      intro h
      cases hexposed : fs.any (exposes id) && decide (2 ≤ (written fs).length) with
      | true =>
          obtain ⟨hany, hlength⟩ : fs.any (exposes id) = true ∧ 2 ≤ (written fs).length := by
            simpa only [Bool.and_eq_true, decide_eq_true_eq] using hexposed
          -- the AND beside the loose atom is here
          rcases exists_exposed_escape hfill fs hany hlength with ⟨gs, hshape, hyes, hno⟩
          exact ⟨true, .all gs, by simp [map, hshape], Truth.disjunction_eq_yes hyes, hno⟩
      | false =>
          -- no AND stands beside a loose atom here, so that one does in one of the members
          have hone : fs.any (exposes id) = false ∨ (written fs).length < 2 := by
            simpa only [Bool.and_eq_false_iff, decide_eq_false_iff_not, Nat.not_le] using hexposed
          obtain ⟨f, hf, hconf⟩ : ∃ f ∈ fs, f.confines id = false := by
            by_contra hnone
            have hall : ∀ f ∈ fs, f.confines id = true := by simpa using hnone
            rcases hone with hone | hone
            · simp [confines, hone, List.all_eq_true.2 hall] at h
            · simp [confines, List.all_eq_true.2 hall, Nat.le_of_lt_succ hone] at h
          rcases ih f hf hconf with ⟨b, g, hg⟩
          rcases List.append_of_mem hf with ⟨before, behind, rfl⟩
          exact ⟨b, _, hg.all hfill hτ (hg.isEmpty_eq_false hconf) hone⟩
  | any fs ih =>
      intro h
      obtain ⟨f, hf, hconf⟩ : ∃ f ∈ fs, f.confines id = false := by simpa [confines] using h
      rcases ih f hf hconf with ⟨b, g, hg⟩
      rcases List.append_of_mem hf with ⟨before, behind, rfl⟩
      exact ⟨b, _, hg.any hfill (hg.isEmpty_eq_false hconf)⟩

end Formula
end ParamSql
