import Mathlib.Data.List.Induction
import Mathlib.Order.Bounds.Defs
import ParamSql.Proofs.Sql.Alias

/-!
# Allocation — names over a run of calls

Names are reserved and generated in any order.  Whatever has been reserved, the search for the next
name ends without a bound on its tries, and the names of a run are those of increasing indices.

* `Aliases.Call`, `Aliases.names`, `Aliases.after` — a run of calls, the names that it returns, and
  where it leads to;
* `Aliases.Search` — the search that tries one index behind the other until a name may be generated;
* `Aliases.History` — what the aliases know of the calls that have led to them, which each call
  keeps;
* `Aliases.allocates_least` — every call for a name in every run.
-/

namespace ParamSql
namespace Aliases

/-! ## Runs -/

/-- A call on aliases. -/
inductive Call
  | reserve (name : String)
  | next
  deriving DecidableEq, Repr

/-- The aliases behind a call. -/
def advanced (a : Aliases) : Call → Aliases
  | .reserve name => a.reserve name
  | .next => a.next.2

/-- The aliases behind a run of calls. -/
def after (a : Aliases) (calls : List Call) : Aliases :=
  calls.foldl advanced a

/-- The names that a run of calls returns, in order. -/
def names (a : Aliases) : List Call → List String
  | [] => []
  | .reserve name :: calls => (a.reserve name).names calls
  | .next :: calls => a.next.1 :: a.next.2.names calls

theorem after_append (a : Aliases) (calls more : List Call) :
    a.after (calls ++ more) = (a.after calls).after more :=
  List.foldl_append

theorem names_append (calls more : List Call) : ∀ a : Aliases,
    a.names (calls ++ more) = a.names calls ++ (a.after calls).names more := by
  induction calls with
  | nil =>
      intro a
      rfl
  | cons call calls ih =>
      intro a
      -- only a call for a name returns one
      cases call with
      | reserve name => exact ih (a.reserve name)
      | next => exact congrArg (a.next.1 :: ·) (ih a.next.2)

/-- A name is taken by calls that have reserved it or returned it. -/
def Taken (calls : List Call) (name : String) : Prop :=
  .reserve name ∈ calls ∨ name ∈ empty.names calls

theorem taken_reserve_iff (calls : List Call) (reserved name : String) :
    Taken (calls ++ [.reserve reserved]) name ↔ name = reserved ∨ Taken calls name := by
  simp [Taken, names_append, names]
  tauto

/-! ## The search -/

/-- Indices are tried one behind the other, for as long as their names are taken: the search that
begins with one index ends with another. -/
inductive Search (taken : String → Prop) : Nat → Nat → Prop
  | found {index : Nat} (h : ¬taken (nameAt index)) : Search taken index index
  | passed {start index : Nat} (h : taken (nameAt start)) (rest : Search taken (start + 1) index) :
      Search taken start index

/-- A search ends as soon as there is an index where it can. -/
theorem search_of_isLeast {taken : String → Prop} {start index : Nat}
    (h : IsLeast {i | start ≤ i ∧ ¬taken (nameAt i)} index) : Search taken start index := by
  obtain ⟨⟨hle, hfree⟩, hleast⟩ := h
  -- by induction on the indices that are left to be tried
  induction hd : index - start generalizing start with
  | zero =>
      obtain rfl : start = index := by omega
      exact .found hfree
  | succ d ih =>
      have htaken : taken (nameAt start) := by
        by_contra hstart
        have hlow : index ≤ start := hleast ⟨Nat.le_refl start, hstart⟩
        omega
      have hne : start ≠ index := fun heq => hfree (heq ▸ htaken)
      have hrest : index ∈ lowerBounds {i | start + 1 ≤ i ∧ ¬taken (nameAt i)} := by
        intro i hi
        exact hleast ⟨Nat.le_of_succ_le hi.1, hi.2⟩
      exact .passed htaken (ih hrest (by omega) (by omega))

/-! ## What is kept -/

/-- The aliases are behind some calls, and the names that these have returned are those of some
indices: the last one has been tried last, and the names in use are those that are taken. -/
structure History (calls : List Call) (indices : List Nat) : Prop where
  names_eq : empty.names calls = indices.map nameAt
  increasing : indices.Pairwise (· < ·)
  last_eq : (empty.after calls).last = indices.getLastD 0
  le_last : ∀ i ∈ indices, i ≤ (empty.after calls).last
  used_iff : ∀ name, name ∈ (empty.after calls).used ↔ Taken calls name

namespace History

variable {calls : List Call} {indices : List Nat}

theorem nil : History [] [] where
  names_eq := rfl
  increasing := .nil
  last_eq := rfl
  le_last := by simp
  used_iff name := by simp [after, empty, Taken, names]

theorem nodup (h : History calls indices) : (empty.names calls).Nodup := by
  have hindices : indices.Nodup := h.increasing.imp fun hlt => Nat.ne_of_lt hlt
  rw [h.names_eq]
  exact hindices.map nameAt_injective

theorem reserve (h : History calls indices) (name : String) :
    History (calls ++ [.reserve name]) indices := by
  have hafter : empty.after (calls ++ [.reserve name]) = (empty.after calls).reserve name :=
    after_append ..
  have hnames : empty.names (calls ++ [.reserve name]) = empty.names calls := by
    rw [names_append]
    exact List.append_nil _
  refine ⟨hnames.trans h.names_eq, h.increasing, ?last, ?le, ?used⟩
  case last =>
    rw [hafter]
    exact h.last_eq
  case le =>
    rw [hafter]
    exact h.le_last
  case used =>
    intro other
    rw [taken_reserve_iff, ← h.used_iff other, hafter]
    exact List.mem_cons

/-- The next name is that of the least index, behind the last one tried, whose name is not taken. -/
theorem next (h : History calls indices) : ∃ index,
    IsLeast {i | indices.getLastD 0 < i ∧ ¬Taken calls (nameAt i)} index ∧
      History (calls ++ [.next]) (indices ++ [index]) := by
  obtain ⟨index, ⟨hlast, hfree⟩, hleast, hnext⟩ := (empty.after calls).exists_next
  have hafter : empty.after (calls ++ [.next]) = (empty.after calls).advance index := by
    rw [after_append]
    exact congrArg Prod.snd hnext
  have hnames : empty.names (calls ++ [.next]) = empty.names calls ++ [nameAt index] := by
    rw [names_append]
    exact congrArg (fun found => empty.names calls ++ [found.1]) hnext
  refine ⟨index, ⟨?free, ?least⟩, ?names, ?increasing, ?last, ?le, ?used⟩
  case free => exact ⟨h.last_eq ▸ hlast, fun htaken => hfree ((h.used_iff _).2 htaken)⟩
  case least =>
    intro i hi
    exact hleast i ⟨h.last_eq ▸ hi.1, fun hused => hi.2 ((h.used_iff _).1 hused)⟩
  case names => rw [hnames, h.names_eq, List.map_append, List.map_singleton]
  case increasing =>
    refine List.pairwise_append.2 ⟨h.increasing, List.pairwise_singleton _ _, ?_⟩
    intro i hi j hj
    rw [List.mem_singleton.1 hj]
    exact Nat.lt_of_le_of_lt (h.le_last i hi) hlast
  case last => simp [hafter, advance]
  case le =>
    rw [hafter]
    intro i hi
    rcases List.mem_append.1 hi with hi | hi
    · exact Nat.le_of_lt (Nat.lt_of_le_of_lt (h.le_last i hi) hlast)
    · exact Nat.le_of_eq (List.mem_singleton.1 hi)
  case used =>
    intro name
    have hcons : name ∈ ((empty.after calls).advance index).used ↔
        name = nameAt index ∨ name ∈ (empty.after calls).used := List.mem_cons
    rw [hafter, hcons, h.used_iff]
    -- the name that has been returned is taken as well, and whatever was taken before still is
    simp only [Taken, hnames, List.mem_append, List.mem_singleton, reduceCtorEq, or_false]
    tauto

/-- More calls return more names, behind those that were returned. -/
theorem extend (h : History calls indices) (more : List Call) :
    ∃ later, History (calls ++ more) (indices ++ later) := by
  induction more using List.reverseRecOn with
  | nil => exact ⟨[], by simpa using h⟩
  | append_singleton more call ih =>
      -- by induction on the calls that come later, the last one first
      obtain ⟨later, hmore⟩ := ih
      rw [← List.append_assoc]
      cases call with
      | reserve name => exact ⟨later, hmore.reserve name⟩
      | next =>
          obtain ⟨index, -, hnext⟩ := hmore.next
          exact ⟨later ++ [index], by rwa [← List.append_assoc]⟩

theorem exists_of (calls : List Call) : ∃ indices, History calls indices :=
  nil.extend calls

end History

/-- A call for a name comes to an end, wherever it stands in a run of calls: indices are tried
behind the last one tried before, until there is one whose name has been neither reserved nor
returned, and this is the least one.  All names of the run are different, and their indices
increase. -/
theorem allocates_least (before behind : List Call) : ∃ (earlier later : List Nat) (index : Nat),
    empty.names before = earlier.map nameAt ∧
      empty.names (before ++ .next :: behind) = (earlier ++ index :: later).map nameAt ∧
      Search (Taken before) (earlier.getLastD 0 + 1) index ∧
      IsLeast {i | earlier.getLastD 0 < i ∧ .reserve (nameAt i) ∉ before ∧
        nameAt i ∉ empty.names before} index ∧
      (earlier ++ index :: later).Pairwise (· < ·) ∧
      (empty.names (before ++ .next :: behind)).Nodup := by
  obtain ⟨earlier, hbefore⟩ := History.exists_of before
  obtain ⟨index, hleast, hnext⟩ := hbefore.next
  obtain ⟨later, hrun⟩ := hnext.extend behind
  rw [List.append_assoc, List.append_assoc] at hrun
  refine ⟨earlier, later, index, hbefore.names_eq, hrun.names_eq, search_of_isLeast hleast, ?_,
    hrun.increasing, hrun.nodup⟩
  simpa only [Taken, not_or] using hleast

/-- The second index is passed over when its name has been reserved, and a name that never is
generated may be reserved as well. -/
example : empty.names [.next, .reserve "q2", .reserve "q1", .next, .reserve "q", .next] =
    ["q", "q3", "q4"] := by
  decide +kernel

end Aliases
end ParamSql
