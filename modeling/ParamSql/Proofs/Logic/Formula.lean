import ParamSql.Formula

/-!
# Formula — the shape of formulas and of their written form

* `Formula.induction` — induction over a formula and the members of its groups;
* `Formula.map f φ` — the formula `φ` with `f a` in the place of every atom `a`;
* `Formula.atoms f` — the atoms of a formula;
* `Formula.written fs` — the members of a group that are written, which are those with atoms;
* `Formula.conjuncts_eq`, `Formula.disjuncts_eq` — the members of a group as marks.
-/

namespace ParamSql

variable {α β : Type}

namespace Formula

mutual
/-- What holds of atoms, and of a negation or a group whenever it holds of the members, holds of all
formulas. -/
theorem induction {P : Formula α → Prop} (atom : ∀ a, P (.atom a)) (not : ∀ f, P f → P (.not f))
    (all : ∀ fs, (∀ f ∈ fs, P f) → P (.all fs)) (any : ∀ fs, (∀ f ∈ fs, P f) → P (.any fs)) :
    ∀ f, P f
  | .atom a => atom a
  | .not f => not f (induction atom not all any f)
  | .all fs => all fs (inductionList atom not all any fs)
  | .any fs => any fs (inductionList atom not all any fs)

theorem inductionList {P : Formula α → Prop} (atom : ∀ a, P (.atom a))
    (not : ∀ f, P f → P (.not f)) (all : ∀ fs, (∀ f ∈ fs, P f) → P (.all fs))
    (any : ∀ fs, (∀ f ∈ fs, P f) → P (.any fs)) : ∀ (fs : List (Formula α)), ∀ f ∈ fs, P f
  | [], _, h => by
      cases h
  | g :: gs, f, h => by
      rcases List.mem_cons.1 h with hf | hf
      · rw [hf]
        exact induction atom not all any g
      · exact inductionList atom not all any gs f hf
end

mutual
/-- The formula with other atoms. -/
def map (f : α → β) : Formula α → Formula β
  | .atom a => .atom (f a)
  | .not g => .not (map f g)
  | .all gs => .all (mapList f gs)
  | .any gs => .any (mapList f gs)

/-- The formulas of a list with other atoms. -/
def mapList (f : α → β) : List (Formula α) → List (Formula β)
  | [] => []
  | g :: gs => map f g :: mapList f gs
end

@[simp]
theorem mapList_eq_map (f : α → β) (gs : List (Formula α)) : mapList f gs = gs.map (map f) := by
  induction gs with
  | nil => rfl
  | cons g gs ih =>
      simp [mapList, ih]

mutual
@[simp]
theorem isEmpty_map (f : α → β) : ∀ g : Formula α, (g.map f).isEmpty = g.isEmpty
  | .atom _ => rfl
  | .not g => by
      simp only [map, isEmpty, isEmpty_map f g]
  | .all gs => by
      simp only [map, isEmpty, areEmpty_mapList f gs]
  | .any gs => by
      simp only [map, isEmpty, areEmpty_mapList f gs]

theorem areEmpty_mapList (f : α → β) :
    ∀ gs : List (Formula α), areEmpty (mapList f gs) = areEmpty gs
  | [] => rfl
  | g :: gs => by
      simp only [mapList, areEmpty, isEmpty_map f g, areEmpty_mapList f gs]
end

@[simp]
theorem areEmpty_map (f : α → β) (gs : List (Formula α)) :
    areEmpty (gs.map (map f)) = areEmpty gs := by
  rw [← mapList_eq_map, areEmpty_mapList]

mutual
theorem map_map {γ : Type} (f : α → β) (g : β → γ) :
    ∀ h : Formula α, (h.map f).map g = h.map fun a => g (f a)
  | .atom _ => rfl
  | .not h => by
      simp only [map, map_map f g h]
  | .all hs => by
      simp only [map, mapList_mapList f g hs]
  | .any hs => by
      simp only [map, mapList_mapList f g hs]

theorem mapList_mapList {γ : Type} (f : α → β) (g : β → γ) :
    ∀ hs : List (Formula α), mapList g (mapList f hs) = mapList (fun a => g (f a)) hs
  | [] => rfl
  | h :: hs => by
      simp only [mapList, map_map f g h, mapList_mapList f g hs]
end

theorem map_comp {γ : Type} (f : α → β) (g : β → γ) : map g ∘ map f = map (g ∘ f) :=
  funext (map_map f g)

theorem map_id (f : Formula α) : f.map id = f := by
  -- what is mapped is the members, by the induction hypothesis each to itself
  induction f using Formula.induction with
  | atom a => rfl
  | not f ih => rw [map, ih]
  | all fs ih => rw [map, mapList_eq_map, List.map_congr_left ih, List.map_id']
  | any fs ih => rw [map, mapList_eq_map, List.map_congr_left ih, List.map_id']

@[simp]
theorem isAny_map (f : α → β) (g : Formula α) : (g.map f).isAny = g.isAny := by
  cases g <;> rfl

@[simp]
theorem isAll_map (f : α → β) (g : Formula α) : (g.map f).isAll = g.isAll := by
  cases g <;> rfl

/-! ## Atoms -/

mutual
/-- The atoms of a formula, from left to right. -/
def atoms : Formula α → List α
  | .atom a => [a]
  | .not f => f.atoms
  | .all fs => atomsOf fs
  | .any fs => atomsOf fs

/-- The atoms of several formulas. -/
def atomsOf : List (Formula α) → List α
  | [] => []
  | f :: fs => f.atoms ++ atomsOf fs
end

@[simp]
theorem atomsOf_eq_flatMap (fs : List (Formula α)) : atomsOf fs = fs.flatMap atoms := by
  induction fs with
  | nil => rfl
  | cons f fs ih =>
      simp [atomsOf, ih]

theorem mem_atoms_of_mem {fs : List (Formula α)} {f : Formula α} {a : α} (hf : f ∈ fs)
    (ha : a ∈ f.atoms) : a ∈ atomsOf fs := by
  rw [atomsOf_eq_flatMap]
  exact List.mem_flatMap.2 ⟨f, hf, ha⟩

mutual
theorem atoms_of_isEmpty : ∀ {f : Formula α}, f.isEmpty = true → f.atoms = []
  | .atom a, h => by
      cases h
  | .not f, h => atoms_of_isEmpty (f := f) h
  | .all fs, h => atomsOf_of_areEmpty h
  | .any fs, h => atomsOf_of_areEmpty h

theorem atomsOf_of_areEmpty : ∀ {fs : List (Formula α)}, areEmpty fs = true → atomsOf fs = []
  | [], _ => rfl
  | f :: fs, h => by
      obtain ⟨hf, hfs⟩ : f.isEmpty = true ∧ areEmpty fs = true := by simpa [areEmpty] using h
      rw [atomsOf, atoms_of_isEmpty hf, atomsOf_of_areEmpty hfs, List.nil_append]
end

mutual
theorem isEmpty_of_atoms : ∀ {f : Formula α}, f.atoms = [] → f.isEmpty = true
  | .atom a, h => by
      cases h
  | .not f, h => isEmpty_of_atoms (f := f) h
  | .all fs, h => areEmpty_of_atomsOf h
  | .any fs, h => areEmpty_of_atomsOf h

theorem areEmpty_of_atomsOf : ∀ {fs : List (Formula α)}, atomsOf fs = [] → areEmpty fs = true
  | [], _ => rfl
  | f :: fs, h => by
      obtain ⟨hf, hfs⟩ : f.atoms = [] ∧ atomsOf fs = [] := List.append_eq_nil_iff.1 h
      rw [areEmpty, isEmpty_of_atoms hf, areEmpty_of_atomsOf hfs, Bool.and_true]
end

/-- Empty formulas are those without atoms. -/
theorem isEmpty_iff {f : Formula α} : f.isEmpty = true ↔ f.atoms = [] :=
  ⟨atoms_of_isEmpty, isEmpty_of_atoms⟩

/-! ## Written members -/

/-- The members of a group that are written. -/
def written (fs : List (Formula α)) : List (Formula α) :=
  fs.filter fun f => !f.isEmpty

theorem conjuncts_eq (fs : List (Formula α)) :
    conjuncts fs = (written fs).map fun f => bracketed f.isAny f.marks := by
  induction fs with
  | nil => rfl
  | cons f fs ih =>
      cases hf : f.isEmpty <;> simp [conjuncts, written, hf, ih]

theorem disjuncts_eq (fs : List (Formula α)) :
    disjuncts fs = (written fs).map fun f => bracketed f.isAll f.marks := by
  induction fs with
  | nil => rfl
  | cons f fs ih =>
      cases hf : f.isEmpty <;> simp [disjuncts, written, hf, ih]

theorem written_map (g : α → β) (fs : List (Formula α)) :
    written (fs.map (map g)) = (written fs).map (map g) := by
  simp [written, List.filter_map, Function.comp_def]

theorem mem_written {fs : List (Formula α)} {f : Formula α} :
    f ∈ written fs ↔ f ∈ fs ∧ f.isEmpty = false := by
  simp [written]

theorem isEmpty_of_areEmpty {fs : List (Formula α)} (h : areEmpty fs = true) :
    ∀ f ∈ fs, f.isEmpty = true := by
  induction fs with
  | nil => simp
  | cons f fs ih =>
      obtain ⟨hf, hfs⟩ : f.isEmpty = true ∧ areEmpty fs = true := by simpa [areEmpty] using h
      simpa [hf] using ih hfs

/-- Something of a list with atoms is written. -/
theorem written_ne_nil {fs : List (Formula α)} (h : areEmpty fs = false) : written fs ≠ [] := by
  induction fs with
  | nil => cases h
  | cons f fs ih =>
      -- the first member is written, or something behind it is
      cases hf : f.isEmpty with
      | false => simp [written, hf]
      | true =>
          have hfs : areEmpty fs = false := by simpa [areEmpty, hf] using h
          simpa [written, hf] using ih hfs

/-- Nothing of a list without atoms is written. -/
theorem written_of_areEmpty {fs : List (Formula α)} (h : areEmpty fs = true) : written fs = [] := by
  induction fs with
  | nil => rfl
  | cons f fs ih =>
      obtain ⟨hf, hfs⟩ : f.isEmpty = true ∧ areEmpty fs = true := by simpa [areEmpty] using h
      simpa [written, hf] using ih hfs

end Formula
end ParamSql
