import ParamSql.Proofs.Sql.Filtered

/-!
# JoinConditions — where the conditions of joins are written

A SELECT has the condition of a join behind the join, and a change has it in its WHERE.  Behind a
cross join there is no place for one.

* `Join.demanded`, `Join.kept` — the condition of a join, and what a SELECT writes of it;
* `Join.filterMap_kept_eq_iff` — a SELECT writes all conditions, unless a cross join has one;
* `Query.WrittenJoin` — a join as it is written;
* `Query.exists_writtenJoins` — every SELECT that is written has its joins ahead of its WHERE.
-/

namespace ParamSql

variable {Q R : Type}

namespace Join

/-! ## Conditions -/

/-- The condition of a join, if there is a predicate in it. -/
def demanded (j : Join Q) : Option (Formula (Predicate Q)) :=
  j.on.filter fun f => !f.isEmpty

/-- The condition that is written behind a join of a SELECT. -/
def kept (j : Join Q) : Option (Formula (Predicate Q)) :=
  if j.kind = .cross then none else j.demanded

theorem kept_of_cross {j : Join Q} (h : j.kind = .cross) : j.kept = none :=
  if_pos h

theorem kept_of_ne_cross {j : Join Q} (h : j.kind ≠ .cross) : j.kept = j.demanded :=
  if_neg h

/-- A join that demands nothing has a condition without predicates, or none. -/
theorem demanded_eq_none_iff {j : Join Q} :
    j.demanded = none ↔ ∀ f ∈ j.on, f.isEmpty = true := by
  unfold demanded
  cases j.on <;> simp [Option.filter_some]

/-- The conditions that are written in the WHERE of a change. -/
theorem written_filterMap_on (joins : List (Join Q)) :
    Formula.written (joins.filterMap Join.on) = joins.filterMap demanded := by
  induction joins with
  | nil => rfl
  | cons j joins ih =>
      rw [List.filterMap_cons, List.filterMap_cons, ← ih]
      unfold demanded
      cases j.on with
      | none => rfl
      | some f => cases hf : f.isEmpty <;> simp [Formula.written, Option.filter_some, hf]

theorem length_filterMap_kept_le (joins : List (Join Q)) :
    (joins.filterMap kept).length ≤ (joins.filterMap demanded).length := by
  induction joins with
  | nil => exact Nat.le_refl _
  | cons j joins ih =>
      rw [List.filterMap_cons, List.filterMap_cons]
      -- a cross join keeps nothing, and any other join what it demands
      by_cases hkind : j.kind = .cross
      · rw [kept_of_cross hkind]
        cases j.demanded with
        | none => exact ih
        | some f => exact Nat.le_succ_of_le ih
      · rw [kept_of_ne_cross hkind]
        cases j.demanded with
        | none => exact ih
        | some f => exact Nat.succ_le_succ ih

/-- A SELECT writes the conditions that a change writes, unless there is one for a cross join. -/
theorem filterMap_kept_eq_iff (joins : List (Join Q)) :
    joins.filterMap kept = joins.filterMap demanded ↔
      ∀ j ∈ joins, j.kind = .cross → j.demanded = none := by
  induction joins with
  | nil => simp
  | cons j joins ih =>
      rw [List.forall_mem_cons, List.filterMap_cons, List.filterMap_cons, ← ih]
      by_cases hkind : j.kind = .cross
      · rw [kept_of_cross hkind]
        cases j.demanded with
        | none => simp
        | some f =>
            -- there is one condition less behind the joins
            have hlength := length_filterMap_kept_le joins
            simp only [hkind, forall_const, reduceCtorEq, false_and, iff_false]
            intro heq
            rw [heq, List.length_cons] at hlength
            exact absurd hlength (Nat.not_succ_le_self _)
      · rw [kept_of_ne_cross hkind]
        cases j.demanded <;> simp [hkind]

end Join

/-! ## Written joins -/

theorem Rendering.result_concat_eq_ok {rs : List (Rendering (List Lexeme))} {ls : List Lexeme}
    (h : (concat rs).result = .ok ls) :
    ∃ items, List.Forall₂ (fun r item => r.result = .ok item) rs items ∧ ls = items.flatten := by
  induction rs generalizing ls with
  | nil =>
      cases h
      exact ⟨[], .nil, rfl⟩
  | cons r rs ih =>
      rw [concat_cons] at h
      rcases result_append_eq_ok h with ⟨item, rest, hitem, hrest, rfl⟩
      rcases ih hrest with ⟨items, hitems, rfl⟩
      exact ⟨item :: items, .cons hitem hitems, rfl⟩

namespace Query

variable {naming : Naming} {c : Clauses Query}

/-- What is written behind the source of a join of `c`: its condition behind ON.  Without predicates
that is TRUE, and behind a cross join there is none. -/
def WrittenOn (naming : Naming) (c : Clauses Query) (j : Join Query) (on : List Lexeme) : Prop :=
  match j.kept with
  | some f =>
      ∃ ls, ((c.columns naming).condition (f.map (Predicate.map (rendering naming)))).result =
      .ok ls ∧ on = .fixed " ON " :: ls
  | none => on = if j.kind = .cross then [] else [.fixed " ON ", .fixed "TRUE"]

/-- A join of `c` as it is written: its keyword, its source, and its condition. -/
def WrittenJoin (naming : Naming) (c : Clauses Query) (j : Join Query) (item : List Lexeme) :
    Prop :=
  ∃ source on, (j.source.map (rendering naming)).rendering.result = .ok source ∧
    WrittenOn naming c j on ∧ item = .fixed (" " ++ j.kind.sql ++ " ") :: source ++ on

theorem writtenJoin_of_result {j : Join Query} {item : List Lexeme}
    (h : ((j.map (rendering naming)).rendering (c.columns naming)).result = .ok item) :
    WrittenJoin naming c j item := by
  rcases j with ⟨kind, source, on⟩
  -- from behind: the condition, then the source, then the keyword
  rcases Rendering.result_append_eq_ok h with ⟨front, rear, hfront, hrear, rfl⟩
  rcases Rendering.result_append_eq_ok hfront with ⟨keyword, body, hkeyword, hbody, rfl⟩
  cases hkeyword
  refine ⟨body, rear, hbody, ?_, rfl⟩
  by_cases hkind : kind = .cross
  · simp only [Join.map, hkind, if_true] at hrear
    cases hrear
    unfold WrittenOn
    rw [Join.kept_of_cross hkind]
    exact (if_pos hkind).symm
  · simp only [Join.map, hkind, if_false] at hrear
    rcases Rendering.result_append_eq_ok hrear with ⟨before, condition, hbefore, hcondition, rfl⟩
    cases hbefore
    unfold WrittenOn
    rw [Join.kept_of_ne_cross hkind, Join.demanded]
    -- a condition without predicates is written as none
    cases on with
    | none =>
        cases hcondition
        exact (if_neg hkind).symm
    | some f =>
        rw [Option.filter_some]
        cases hf : f.isEmpty with
        | true =>
            simp only [Option.map_some, Formula.isEmpty_map, hf, if_true] at hcondition
            cases hcondition
            exact (if_neg hkind).symm
        | false =>
            simp only [Option.map_some, Formula.isEmpty_map, hf, Bool.false_eq_true, if_false]
              at hcondition
            exact ⟨_, hcondition, rfl⟩

/-- A SELECT that is written has its joins ahead of its WHERE. -/
theorem exists_writtenJoins {inCte : Bool} (hselect : c.mutation = none)
    (parts : FilterParts naming inCte c) :
    ∃ front joins, parts.head = front ++ joins.flatten ∧
      List.Forall₂ (WrittenJoin naming c) c.joins joins := by
  let d : Clauses (Rendering (List Lexeme)) := c.map (rendering naming)
  let cs := c.columns naming
  have hd : d.mutation = none := by simp [d, hselect]
  have hahead : d.ahead cs = d.withClause ++
      .concat [.fixed "SELECT ", d.distinctClause cs, d.selectList cs, d.fromClause] ++
        .concat (d.joins.map (Join.rendering cs)) := by
    simp only [Clauses.ahead, hd, Clauses.selectionHead, Rendering.concat_cons,
      Rendering.concat_nil, Rendering.append_nothing, Rendering.append_assoc]
  have hhead := parts.head_eq
  change (d.ahead cs).result = .ok parts.head at hhead
  rw [hahead] at hhead
  rcases Rendering.result_append_eq_ok hhead with ⟨front, rear, -, hjoins, heq⟩
  rcases Rendering.result_concat_eq_ok hjoins with ⟨items, hitems, rfl⟩
  refine ⟨front, items, heq, ?_⟩
  have hmap : d.joins = c.joins.map (Join.map (rendering naming)) := rfl
  rw [hmap, List.map_map, List.forall₂_map_left_iff] at hitems
  exact hitems.imp fun j item hitem => writtenJoin_of_result hitem

end Query
end ParamSql
