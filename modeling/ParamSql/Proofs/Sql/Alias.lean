import Mathlib.Data.List.Nodup
import Mathlib.Data.Nat.Count
import ParamSql.Sql.Alias

/-!
# Alias — which names are generated

A name tells its index, so that only finitely many indices can have names in use, and the search for
the next name ends at one that is not.

* `Aliases.nameAt_injective` — no two indices have one name;
* `Aliases.IsFree a index` — the name of an index may still be generated;
* `Aliases.exists_next` — the next name is that of the least free index, which is used up by it;
* `Aliases.exists_indices` — generated names have free indices, which increase;
* `Aliases.mem_generate_iff` — the first free indices are those whose names are generated.
-/

namespace ParamSql
namespace Aliases

/-! ## Names and indices -/

/-- The characters behind the `q` of a name. -/
def suffixAt (index : Nat) : List Char :=
  if index = 1 then [] else Nat.toDigits 10 index

theorem toList_nameAt (index : Nat) : (nameAt index).toList = 'q' :: suffixAt index := by
  unfold nameAt suffixAt
  by_cases h : index = 1
  · simp [h]
  · simp [h]

/-- No two indices have one name: the first one has no digits, and the digits of the others are
those of the index. -/
theorem nameAt_injective : Function.Injective nameAt := by
  intro i j h
  have hsuffix : suffixAt i = suffixAt j := by
    have hlist := congrArg String.toList h
    simpa only [toList_nameAt, List.cons.injEq, true_and] using hlist
  have hdigits : ∀ k, Nat.toDigits 10 k ≠ [] := fun k => Nat.toDigits_ne_nil
  unfold suffixAt at hsuffix
  -- only the first index has no digits, and digits can be read back
  by_cases hi : i = 1
  · by_cases hj : j = 1
    · rw [hi, hj]
    · simp only [hi, hj, if_true, if_false] at hsuffix
      exact absurd hsuffix.symm (hdigits j)
  · by_cases hj : j = 1
    · simp only [hi, hj, if_true, if_false] at hsuffix
      exact absurd hsuffix (hdigits i)
    · simp only [hi, hj, if_false] at hsuffix
      have hvalue := congrArg (fun ds => Nat.ofDigitChars 10 ds 0) hsuffix
      simpa using hvalue

/-! ## The next name -/

/-- The name of an index may still be generated: it comes behind those that were, and is not in
use. -/
def IsFree (a : Aliases) (index : Nat) : Prop :=
  a.last < index ∧ nameAt index ∉ a.used

instance (a : Aliases) : DecidablePred a.IsFree :=
  fun index => inferInstanceAs (Decidable (a.last < index ∧ nameAt index ∉ a.used))

/-- A used name is passed over. -/
theorem firstFree_of_mem {used : List String} {start : Nat} (h : nameAt start ∈ used)
    (tries : Nat) : firstFree used (tries + 1) start = firstFree used tries (start + 1) := by
  simp [firstFree, h]

theorem firstFree_of_notMem {used : List String} {start : Nat} (h : nameAt start ∉ used)
    (tries : Nat) : firstFree used tries start = start := by
  cases tries with
  | zero => rfl
  | succ tries => simp [firstFree, h]

/-- The search begins where it is told to and passes over used names only. -/
theorem firstFree_passes (used : List String) (tries : Nat) : ∀ start : Nat,
    start ≤ firstFree used tries start ∧
      ∀ i, start ≤ i → i < firstFree used tries start → nameAt i ∈ used := by
  induction tries with
  | zero =>
      intro start
      refine ⟨Nat.le_refl start, ?_⟩
      intro i hi hlt
      exact absurd hlt (Nat.not_lt.2 hi)
  | succ tries ih =>
      intro start
      -- a used name is passed over, and the search goes on behind it
      by_cases hstart : nameAt start ∈ used
      · rcases ih (start + 1) with ⟨hle, hpassed⟩
        rw [firstFree_of_mem hstart]
        refine ⟨Nat.le_of_succ_le hle, ?_⟩
        intro i hi hlt
        rcases Nat.eq_or_lt_of_le hi with heq | hbehind
        · exact heq ▸ hstart
        · exact hpassed i hbehind hlt
      · rw [firstFree_of_notMem hstart]
        refine ⟨Nat.le_refl start, ?_⟩
        intro i hi hlt
        exact absurd hlt (Nat.not_lt.2 hi)

/-- A search that has ended at a used name has passed over as many names as it had tries. -/
theorem firstFree_eq_of_mem (used : List String) (tries : Nat) : ∀ start : Nat,
    nameAt (firstFree used tries start) ∈ used → firstFree used tries start = start + tries := by
  induction tries with
  | zero =>
      intro start _
      rfl
  | succ tries ih =>
      intro start h
      by_cases hstart : nameAt start ∈ used
      · rw [firstFree_of_mem hstart] at h ⊢
        rw [ih (start + 1) h]
        omega
      · rw [firstFree_of_notMem hstart] at h
        exact absurd h hstart

/-- With a try for each name in use, the search ends at one that is not: otherwise there would be a
used name more than there are. -/
theorem firstFree_notMem (used : List String) (start : Nat) :
    nameAt (firstFree used used.length start) ∉ used := by
  intro h
  have hend : firstFree used used.length start = start + used.length :=
    firstFree_eq_of_mem used used.length start h
  -- all names from the start to the end of the search would be in use, and these are one too many
  have hpassed := (firstFree_passes used used.length start).2
  let passed : List String := (List.range' start (used.length + 1)).map nameAt
  have hnodup : passed.Nodup := List.Nodup.map nameAt_injective List.nodup_range'
  have hsubset : passed ⊆ used := by
    intro name hname
    rcases List.mem_map.1 hname with ⟨i, hi, rfl⟩
    have hrange : start ≤ i ∧ i < start + (used.length + 1) := by simpa using hi
    by_cases hlast : i = start + used.length
    · rw [hlast, ← hend]
      exact h
    · exact hpassed i hrange.1 (by omega)
  have hlength : passed.length ≤ used.length := hnodup.length_le_of_subset hsubset
  simp only [passed, List.length_map, List.length_range'] at hlength
  omega

/-- The aliases when the name of an index has been generated. -/
def advance (a : Aliases) (index : Nat) : Aliases :=
  ⟨index, nameAt index :: a.used⟩

/-- The next name is that of the least free index. -/
theorem exists_next (a : Aliases) : ∃ index, a.IsFree index ∧ (∀ i, a.IsFree i → index ≤ i) ∧
    a.next = (nameAt index, a.advance index) := by
  rcases firstFree_passes a.used a.used.length (a.last + 1) with ⟨hle, hpassed⟩
  refine ⟨firstFree a.used a.used.length (a.last + 1), ⟨hle, firstFree_notMem _ _⟩, ?_, rfl⟩
  -- an index below the end that is free would have been passed over, although it is not used
  intro i hi
  by_contra hlt
  exact hi.2 (hpassed i hi.1 (by omega))

/-- The least free index is used up by its name, and all others stay as they are. -/
theorem isFree_advance {a : Aliases} {index : Nat} (hleast : ∀ i, a.IsFree i → index ≤ i)
    (hfree : a.IsFree index) (i : Nat) :
    (a.advance index).IsFree i ↔ a.IsFree i ∧ i ≠ index := by
  -- an index behind the least free one is free behind it exactly if its name is not the one just
  -- used
  constructor
  · rintro ⟨hlt, hused⟩
    have hne : i ≠ index := by
      have hlt' : index < i := hlt
      omega
    refine ⟨⟨Nat.lt_trans hfree.1 hlt, ?_⟩, hne⟩
    exact fun hmem => hused (List.mem_cons_of_mem _ hmem)
  · rintro ⟨hi, hne⟩
    have hlt : index < i := Nat.lt_of_le_of_ne (hleast i hi) (Ne.symm hne)
    refine ⟨hlt, ?_⟩
    intro hmem
    rcases List.mem_cons.1 hmem with heq | hmem
    · exact hne (nameAt_injective heq)
    · exact hi.2 hmem

/-! ## Several names -/

/-- Generated names have free indices, which increase. -/
theorem exists_indices (n : Nat) : ∀ a : Aliases, ∃ indices : List Nat,
    a.generate n = indices.map nameAt ∧ indices.Pairwise (· < ·) ∧ ∀ i ∈ indices, a.IsFree i := by
  induction n with
  | zero =>
      intro a
      exact ⟨[], rfl, .nil, by simp⟩
  | succ n ih =>
      intro a
      -- the first name is that of the least free index, and the others are generated behind it
      rcases a.exists_next with ⟨index, hfree, hleast, hnext⟩
      rcases ih (a.advance index) with ⟨indices, hnames, hincreasing, hindices⟩
      refine ⟨index :: indices, ?_, ?_, ?_⟩
      · rw [generate, hnext, hnames]
        rfl
      · refine List.pairwise_cons.2 ⟨?_, hincreasing⟩
        intro i hi
        exact (hindices i hi).1
      · intro i hi
        rcases List.mem_cons.1 hi with rfl | hi
        · exact hfree
        · exact ((isFree_advance hleast hfree i).1 (hindices i hi)).1

/-- One free index less is counted behind one that has been used up. -/
theorem count_isFree {a : Aliases} {index : Nat} (hleast : ∀ i, a.IsFree i → index ≤ i)
    (hfree : a.IsFree index) (i : Nat) :
    Nat.count a.IsFree i =
      Nat.count (a.advance index).IsFree i + if index < i then 1 else 0 := by
  induction i with
  | zero => simp
  | succ i ih =>
      -- up to the least free index both counts are nought, and from there on they differ by one
      have hnext := isFree_advance hleast hfree i
      rw [Nat.count_succ, Nat.count_succ, ih]
      by_cases hi : a.IsFree i
      · by_cases heq : i = index
        · subst heq
          simp [hi, hnext]
        · have hlt : index < i := Nat.lt_of_le_of_ne (hleast i hi) (Ne.symm heq)
          have hlt' : index < i + 1 := Nat.lt_succ_of_lt hlt
          simp [hi, hnext, heq, hlt, hlt']
      · have hne : i ≠ index := fun heq => hi (heq ▸ hfree)
        have hiff : index < i + 1 ↔ index < i := by omega
        simp [hi, hnext, hiff]

/-- Just the names of the first `n` free indices are generated. -/
theorem mem_generate_iff {name : String} (n : Nat) : ∀ a : Aliases, name ∈ a.generate n ↔
    ∃ index, a.IsFree index ∧ Nat.count a.IsFree index < n ∧ name = nameAt index := by
  induction n with
  | zero =>
      intro a
      simp [generate]
  | succ n ih =>
      intro a
      rcases a.exists_next with ⟨index, hfree, hleast, hnext⟩
      have hnames : a.generate (n + 1) = nameAt index :: (a.advance index).generate n := by
        rw [generate, hnext]
      rw [hnames, List.mem_cons, ih]
      -- the first name, or one of those behind it, for which the count is one less
      constructor
      · rintro (rfl | ⟨i, hi, hlt, rfl⟩)
        · -- nothing is free below the least free index
          have hnone : Nat.count a.IsFree index = 0 :=
            Nat.count_iff_forall_not.2 fun i hi hfree => Nat.not_le.2 hi (hleast i hfree)
          exact ⟨index, hfree, by omega, rfl⟩
        · refine ⟨i, ((isFree_advance hleast hfree i).1 hi).1, ?_, rfl⟩
          rw [count_isFree hleast hfree]
          split <;> omega
      · rintro ⟨i, hi, hlt, rfl⟩
        by_cases heq : i = index
        · exact .inl (by rw [heq])
        · refine .inr ⟨i, (isFree_advance hleast hfree i).2 ⟨hi, heq⟩, ?_, rfl⟩
          have hbehind : index < i := Nat.lt_of_le_of_ne (hleast i hi) (Ne.symm heq)
          rw [count_isFree hleast hfree, if_pos hbehind] at hlt
          omega

/-! ## Names that are kept from being generated -/

theorem foldl_reserve (names : List String) :
    ∀ a : Aliases, (names.foldl reserve a).last = a.last ∧
      ∀ name, name ∈ (names.foldl reserve a).used ↔ name ∈ names ∨ name ∈ a.used := by
  induction names with
  | nil =>
      intro a
      simp
  | cons first names ih =>
      intro a
      rcases ih (a.reserve first) with ⟨hlast, hused⟩
      refine ⟨hlast, ?_⟩
      intro name
      rw [List.foldl_cons, hused]
      simp only [reserve, List.mem_cons]
      tauto

/-- Of fresh names, those with an index from 1 on may be generated that are not reserved. -/
theorem isFree_reserved (names : List String) (index : Nat) :
    (names.foldl reserve empty).IsFree index ↔ 0 < index ∧ nameAt index ∉ names := by
  rcases foldl_reserve names empty with ⟨hlast, hused⟩
  unfold IsFree
  rw [hlast, hused]
  simp [empty]

end Aliases
end ParamSql
