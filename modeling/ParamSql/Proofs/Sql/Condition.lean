import ParamSql.Proofs.Query.Map
import ParamSql.Proofs.Sql.Rendering

/-!
# Condition — the shape of written conditions

A condition is written mark by mark.  Seen from above, the written form follows the tree:

* `Columns.condition_not` — NOT is followed by its condition in brackets;
* `Columns.condition_all`, `Columns.condition_any` — a group is the members that have atoms with the
  connective between them, a member that is a group of the other kind being put in brackets.
-/

namespace ParamSql

variable {α ω : Type} [Output ω] [LawfulOutput ω]

namespace Rendering

/-- A list of lists with one mark between them is written as parts with its text between them. -/
theorem concat_intercalate {f : α → Rendering ω} {a : α} {s : String} (ha : f a = fixed s)
    (ls : List (List α)) :
    concat (([a].intercalate ls).map f) = separated s (ls.map fun l => concat (l.map f)) := by
  -- both stand between two parts and not behind the last one
  induction ls with
  | nil => rfl
  | cons l ls ih =>
      cases ls with
      | nil => simp
      | cons k ks =>
          rw [List.intercalate_cons_cons, List.append_assoc, List.map_append, concat_append,
            List.singleton_append, List.map_cons, concat_cons, ha, ih]
          simp only [List.map_cons, separated_cons_cons]

end Rendering

namespace Columns

variable (cs : Columns)

/-- A member of a group, in brackets if it needs them. -/
def member (needed : Formula (Predicate (Rendering ω)) → Bool)
    (f : Formula (Predicate (Rendering ω))) : Rendering ω :=
  if needed f then .bracketed (cs.condition f) else cs.condition f

@[simp]
theorem condition_atom (p : Predicate (Rendering ω)) :
    cs.condition (.atom p) = cs.predicate p := by
  simp [condition, Formula.marks, mark]

theorem condition_not (f : Formula (Predicate (Rendering ω))) :
    cs.condition (.not f) = .fixed "NOT (" ++ cs.condition f ++ .fixed ")" := by
  simp [condition, Formula.marks, mark, Rendering.concat_append, Rendering.append_assoc]

theorem concat_bracketed (needed : Formula (Predicate (Rendering ω)) → Bool)
    (f : Formula (Predicate (Rendering ω))) :
    .concat ((Formula.bracketed (needed f) f.marks).map cs.mark) = cs.member needed f := by
  cases hf : needed f <;>
    simp [member, hf, Formula.bracketed, Rendering.bracketed, condition, mark,
      Rendering.concat_append, Rendering.append_assoc]

theorem condition_all (fs : List (Formula (Predicate (Rendering ω)))) :
    cs.condition (.all fs) =
      .separated " AND " ((Formula.written fs).map (cs.member Formula.isAny)) := by
  have hmark : cs.mark .and = (.fixed " AND " : Rendering ω) := rfl
  rw [condition, Formula.marks, Rendering.concat_intercalate hmark,
    Formula.conjuncts_eq, List.map_map]
  exact congrArg _ (List.map_congr_left fun f _ => concat_bracketed cs Formula.isAny f)

theorem condition_any (fs : List (Formula (Predicate (Rendering ω)))) :
    cs.condition (.any fs) =
      .separated " OR " ((Formula.written fs).map (cs.member Formula.isAll)) := by
  have hmark : cs.mark .or = (.fixed " OR " : Rendering ω) := rfl
  rw [condition, Formula.marks, Rendering.concat_intercalate hmark,
    Formula.disjuncts_eq, List.map_map]
  exact congrArg _ (List.map_congr_left fun f _ => concat_bracketed cs Formula.isAll f)

end Columns
end ParamSql
