import Mathlib.Data.List.Forall2
import ParamSql.Proofs.Query.Ingredient
import ParamSql.Proofs.Query.Revaluation
import ParamSql.Proofs.Sql.Rendering
import ParamSql.Proofs.Sql.Vocabulary

/-!
# Correspondence — statements that differ in their values, written to two outputs

The functions that write statements only put parts behind each other, and never look at a value.
What they write of a statement, and of the statement with other values, is therefore related
whenever the relation is respected by the few ways in which parts are made and put together.  A
correspondence is such a relation.  It comes in three strengths, because no part may run into the
one before it: a part that is `led` must stand behind a text that leads it, one that is `begun`
begins with a text that it leads itself, and one that is `free` stands apart from whatever is before
it.

* `Correspondence Q ω ω'` — a relation between renderings to `ω` and to `ω'`, graded by the list of
  the inner queries that stand in them, which all writers respect;
* `Correspondence.Admits` — what the caller supplies has to be related by itself;
* `Correspondence.separated`, `Correspondence.clause`, `Correspondence.concat` — lists of parts.
-/

namespace ParamSql

/-- A relation between what is written to two outputs, for parts in which the queries of a list
stand, with the other values of the second one, and the names and fragments that it is about. -/
structure Correspondence (Q ω ω' : Type) [Output ω] [Output ω'] where
  values : Revaluation
  names : String → Prop
  paths : String → Prop
  fragments : Fragment → Prop
  free : List Q → Rendering ω → Rendering ω' → Prop
  begun : List Q → Rendering ω → Rendering ω' → Prop
  led : List Q → Rendering ω → Rendering ω' → Prop
  led_of_free : ∀ {l x y}, free l x y → led l x y
  led_of_begun : ∀ {l x y}, begun l x y → led l x y
  nothing : free [] .nothing .nothing
  fault : ∀ l f, free l (.fault f) (.fault f)
  begun_fault : ∀ l f, begun l (.fault f) (.fault f)
  append : ∀ {l m x x' y y'}, free l x y → free m x' y' → free (l ++ m) (x ++ x') (y ++ y')
  begun_append : ∀ {l m x x' y y'}, begun l x y → free m x' y' → begun (l ++ m) (x ++ x') (y ++ y')
  led_append : ∀ {l m x x' y y'}, led l x y → free m x' y' → led (l ++ m) (x ++ x') (y ++ y')
  -- fixed texts, by where they stand
  starting : ∀ {s l x y}, s ∈ starters → led l x y → begun l (.fixed s ++ x) (.fixed s ++ y)
  opening : ∀ {s l x y}, s ∈ openers → led l x y → free l (.fixed s ++ x) (.fixed s ++ y)
  closing : ∀ {s}, s ∈ closers → free [] (.fixed s) (.fixed s)
  constant : ∀ {s}, s ∈ constants → led [] (.fixed s) (.fixed s)
  -- values, which are other ones on the right
  bind : ∀ v, led [] (.bind v) (.bind (values.value v))
  bound : ∀ {s}, s ∈ bounds → ∀ n,
    free [] (.fixed s ++ .bind (.int n)) (.fixed s ++ .bind (.int (values.count n)))
  fragment : ∀ {f}, fragments f → led [] (.fragment f) (.fragment (f.revalue values))
  -- names, which are made from other names
  name : ∀ {s}, names s → led [] (.name s) (.name s)
  physical : ∀ {s} (n : Naming), names s → led [] (.name (n.physical s)) (.name (n.physical s))
  path : ∀ {s}, paths s → led [] (.path s) (.path s)
  column : ∀ {s l x y}, paths s → led l x y →
    led l (.path s ++ (.fixed "." ++ x)) (.path s ++ (.fixed "." ++ y))
  star : ∀ {s}, paths s → led [] (.path s ++ .fixed ".*") (.path s ++ .fixed ".*")
  path_of_name : ∀ {s}, names s → paths s
  qualified : ∀ {s t}, names s → names t → paths (s ++ "." ++ t)
  parsed : ∀ {s}, names s → (∀ t ∈ (ColumnRef.parse s).table, paths t) ∧
    names (ColumnRef.parse s).name

namespace Correspondence

variable {Q ω ω' : Type} [Output ω] [Output ω'] (C : Correspondence Q ω ω')

/-- What the caller supplies is something that the relation is about; an inner query is written to
the two outputs by `ρ` and by `ρ'`. -/
def Admits (ρ : Q → Rendering ω) (ρ' : Q → Rendering ω') : Ingredient Q → Prop
  | .name s => C.names s
  | .fragment f => C.fragments f
  | .query q => C.begun [q] (ρ q) (ρ' q)

/-- A column whose names are among those that the relation is about. -/
def Refers (c : ColumnRef) : Prop :=
  (∀ t ∈ c.table, C.paths t) ∧ C.names c.name

/-- The name that columns without a table are qualified by is one of those that the relation is
about. -/
def Qualifies (cs : Columns) : Prop :=
  ∀ table ∈ cs.qualifier, C.paths table

variable {C}
variable {l m : List Q} {x x' : Rendering ω} {y y' : Rendering ω'} {s : String}
variable {ρ : Q → Rendering ω} {ρ' : Q → Rendering ω'}

theorem refers {c : ColumnRef} (h : ∀ i ∈ c.ingredients, C.Admits ρ ρ' i) : C.Refers c := by
  simp only [ColumnRef.ingredients, List.forall_mem_append, List.forall_mem_map,
    Option.mem_toList, List.forall_mem_singleton] at h
  exact ⟨fun t ht => C.path_of_name (h.1 t ht), h.2⟩

theorem admits_names {names : List String} :
    (∀ i ∈ names.map Ingredient.name, C.Admits ρ ρ' i) ↔ ∀ s ∈ names, C.names s := by
  simp [Admits]

/-! ## Parts behind each other -/

/-- The queries of a part are a matter of fact, not of form. -/
theorem free_cast (h : C.free l x y) (heq : l = m) : C.free m x y :=
  heq ▸ h

theorem led_cast (h : C.led l x y) (heq : l = m) : C.led m x y :=
  heq ▸ h

theorem free_ite {p : Prop} [Decidable p] (h : C.free l x y) (h' : C.free l x' y') :
    C.free l (if p then x else x') (if p then y else y') := by
  split
  · exact h
  · exact h'

theorem begun_ite {p : Prop} [Decidable p] (h : C.begun l x y) (h' : C.begun l x' y') :
    C.begun l (if p then x else x') (if p then y else y') := by
  split
  · exact h
  · exact h'

/-- A part without queries behind another one. -/
theorem led_append_left (h : C.led l x y) (h' : C.free [] x' y') : C.led l (x ++ x') (y ++ y') :=
  List.append_nil l ▸ C.led_append h h'

theorem begun_append_left (h : C.begun l x y) (h' : C.free [] x' y') :
    C.begun l (x ++ x') (y ++ y') :=
  List.append_nil l ▸ C.begun_append h h'

theorem append_left (h : C.free l x y) (h' : C.free [] x' y') : C.free l (x ++ x') (y ++ y') :=
  List.append_nil l ▸ C.append h h'

/-- A part behind one without queries. -/
theorem begun_append_right (h : C.begun [] x y) (h' : C.free m x' y') :
    C.begun m (x ++ x') (y ++ y') :=
  C.begun_append h h'

theorem bracketed (h : C.led l x y) : C.free l (.bracketed x) (.bracketed y) :=
  append_left (C.opening (by simp [openers]) h) (C.closing (by simp [closers]))

variable {α : Type} {as : List α} {queries : α → List Q} {r : α → Rendering ω}
variable {r' : α → Rendering ω'}

theorem optional {o : Option α} (h : ∀ a ∈ o, C.free (queries a) (r a) (r' a)) :
    C.free (o.toList.flatMap queries) (Rendering.optional r o) (Rendering.optional r' o) := by
  cases o with
  | none => exact C.nothing
  | some a => simpa [Rendering.optional] using h a rfl

theorem concat (h : ∀ a ∈ as, C.free (queries a) (r a) (r' a)) :
    C.free (as.flatMap queries) (.concat (as.map r)) (.concat (as.map r')) := by
  induction as with
  | nil => exact C.nothing
  | cons a as ih =>
      simp only [List.map_cons, Rendering.concat_cons, List.flatMap_cons]
      exact C.append (h a (by simp)) (ih fun b hb => h b (by simp [hb]))

variable [LawfulOutput ω] [LawfulOutput ω']

/-- A part behind a fixed text that stands behind another one. -/
theorem append_opening (h : C.led l x y) (hs : s ∈ openers) (h' : C.led m x' y') :
    C.led (l ++ m) (x ++ .fixed s ++ x') (y ++ .fixed s ++ y') := by
  simpa only [Rendering.append_assoc] using C.led_append h (C.opening hs h')

/-! ## Lists of parts -/

/-- The separators lead all parts but the first. -/
theorem separated (hs : s ∈ openers) (h : ∀ a ∈ as, C.led (queries a) (r a) (r' a)) :
    C.led (as.flatMap queries) (.separated s (as.map r)) (.separated s (as.map r')) := by
  induction as with
  | nil => exact C.led_of_free C.nothing
  | cons a as ih =>
      have ha : C.led (queries a) (r a) (r' a) := h a (by simp)
      -- the first part has nothing before it and the last one no separator behind it
      cases as with
      | nil => simpa using ha
      | cons b bs =>
          have hrest := ih fun c hc => h c (by simp [hc])
          simp only [List.map_cons, Rendering.separated_cons_cons, List.flatMap_cons] at hrest ⊢
          exact C.led_append ha (C.opening hs hrest)

/-- Parts without queries with a text between them, whatever they are made from. -/
theorem separated_forall₂ (hs : s ∈ openers) {xs : List (Rendering ω)} {ys : List (Rendering ω')}
    (h : List.Forall₂ (C.led []) xs ys) : C.led [] (.separated s xs) (.separated s ys) := by
  induction h with
  | nil => exact C.led_of_free C.nothing
  | cons hxy hrest ih =>
      cases hrest with
      | nil => simpa using hxy
      | cons =>
          simp only [Rendering.separated_cons_cons] at ih ⊢
          exact C.led_append hxy (C.opening hs ih)

theorem commas (h : ∀ a ∈ as, C.led (queries a) (r a) (r' a)) :
    C.led (as.flatMap queries) (.commas (as.map r)) (.commas (as.map r')) :=
  separated (by simp [openers]) h

/-- Parts without queries with commas between them. -/
theorem commas_plain (h : ∀ a ∈ as, C.led [] (r a) (r' a)) :
    C.led [] (.commas (as.map r)) (.commas (as.map r')) :=
  led_cast (commas h) (List.flatMap_eq_nil_iff.2 fun _ _ => rfl)

theorem clause (hs : s ∈ openers) (h : ∀ a ∈ as, C.led (queries a) (r a) (r' a)) :
    C.free (as.flatMap queries) (.clause s (as.map r)) (.clause s (as.map r')) := by
  unfold Rendering.clause
  -- the keyword is not written without parts
  cases as with
  | nil => exact C.nothing
  | cons a as => exact C.opening hs (commas h)

/-- A clause without queries. -/
theorem clause_plain (hs : s ∈ openers) (h : ∀ a ∈ as, C.led [] (r a) (r' a)) :
    C.free [] (.clause s (as.map r)) (.clause s (as.map r')) :=
  free_cast (clause hs h) (List.flatMap_eq_nil_iff.2 fun _ _ => rfl)

end Correspondence
end ParamSql
