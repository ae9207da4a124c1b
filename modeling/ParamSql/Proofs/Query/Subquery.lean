import ParamSql.Proofs.Query.Ingredient
import ParamSql.Sql.Statement

/-!
# Subquery — the queries that a statement contains

Not every query among the ingredients of a statement is written: a SELECT has no use for RETURNING,
an INSERT none for conditions, and a cross join none for its condition.

* `Clauses.subqueries c` — the queries that the statement of `c` contains, in the order in which
  they stand in its text.
-/

namespace ParamSql

variable {Q : Type}

/-! ## Parts of a statement -/

def Operand.subqueries : Operand Q → List Q
  | .query q => [q]
  | _ => []

def Predicate.subqueries : Predicate Q → List Q
  | .compare _ _ operand => operand.subqueries
  | .inQuery _ q _ => [q]
  | .existence q _ => [q]
  | _ => []

def Formula.subqueries (f : Formula (Predicate Q)) : List Q :=
  f.atoms.flatMap Predicate.subqueries

theorem Formula.subqueries_all (fs : List (Formula (Predicate Q))) :
    (Formula.all fs).subqueries = fs.flatMap Formula.subqueries := by
  simp only [subqueries, atoms, atomsOf_eq_flatMap, List.flatMap_assoc]
  rfl

theorem Formula.subqueries_any (fs : List (Formula (Predicate Q))) :
    (Formula.any fs).subqueries = fs.flatMap Formula.subqueries :=
  subqueries_all fs

def SelectItem.subqueries : SelectItem Q → List Q
  | .query q _ => [q]
  | .existence q _ => [q]
  | _ => []

@[simp]
theorem SelectItem.subqueries_ofColumn (column : String) :
    (SelectItem.ofColumn column : SelectItem Q).subqueries = [] := rfl

def Source.subqueries : Source Q → List Q
  | .query q _ => [q]
  | _ => []

def JoinSource.subqueries : JoinSource Q → List Q
  | .query q _ => [q]
  | _ => []

/-- The queries in a join of a SELECT. -/
def Join.subqueries (j : Join Q) : List Q :=
  j.source.subqueries ++ if j.kind = .cross then [] else j.on.toList.flatMap Formula.subqueries

def Cte.subqueries (cte : Cte Q) : List Q :=
  match cte.body with
  | .query q => [q]
  | .fragment _ => []

def SetValue.subqueries : SetValue Q → List Q
  | .query q => [q]
  | _ => []

def Record.subqueries (r : Record Q) : List Q :=
  r.assignments.flatMap fun a => a.value.subqueries

def ConflictAction.subqueries : ConflictAction Q → List Q
  | .update r => r.subqueries
  | _ => []

/-- The queries in the rows of an INSERT, whose records are written column by column. -/
def InsertRows.subqueries : InsertRows Q → List Q
  | .records rs =>
      rs.flatMap fun r =>
        (Clauses.recordColumns rs).flatMap fun column => (r.get? column).toList.flatMap
          SetValue.subqueries
  | .query _ q => [q]

namespace Clauses

/-! ## Statements -/

/-- The queries in a SELECT behind its common table expressions. -/
def selectionSubqueries (c : Clauses Q) : List Q :=
  c.select.flatMap SelectItem.subqueries ++ c.source.subqueries ++
    c.joins.flatMap Join.subqueries ++ c.filters.flatMap Formula.subqueries ++
    c.group.flatMap Operand.subqueries ++ c.having.flatMap Formula.subqueries ++
    c.setOps.map SetOp.query

/-- The queries in the joined sources and the conditions of a change. -/
def changeSubqueries (c : Clauses Q) : List Q :=
  c.joins.flatMap (fun j => j.source.subqueries) ++
    (c.joins.filterMap Join.on ++ c.filters).flatMap Formula.subqueries

/-- The queries in a statement behind its common table expressions. -/
def bodySubqueries (c : Clauses Q) : List Q :=
  match c.mutation with
  | none => c.selectionSubqueries
  | some (.insert rows conflict) =>
      rows.subqueries ++ conflict.toList.flatMap (fun o => o.action.subqueries) ++
        c.returning.flatMap SelectItem.subqueries
  | some (.update r) =>
      r.subqueries ++ c.changeSubqueries ++ c.returning.flatMap SelectItem.subqueries
  | some (.delete _) => c.changeSubqueries ++ c.returning.flatMap SelectItem.subqueries

/-- The queries in a statement, in the order in which they stand in its text. -/
def subqueries (c : Clauses Q) : List Q :=
  c.ctes.flatMap Cte.subqueries ++ c.bodySubqueries

end Clauses

/-! ## Subqueries are ingredients -/

section Ingredients

variable {q : Q}

theorem Operand.query_mem_ingredients {operand : Operand Q} (h : q ∈ operand.subqueries) :
    .query q ∈ operand.ingredients := by
  cases operand <;> simp_all [subqueries, ingredients]

theorem Predicate.query_mem_ingredients {p : Predicate Q} (h : q ∈ p.subqueries) :
    .query q ∈ p.ingredients := by
  cases p with
  | compare column op operand =>
      exact List.mem_append_right _ (Operand.query_mem_ingredients h)
  | _ => simp_all [subqueries, ingredients]

theorem Formula.query_mem_ingredients {f : Formula (Predicate Q)} (h : q ∈ f.subqueries) :
    .query q ∈ f.ingredients := by
  rcases List.mem_flatMap.1 h with ⟨p, hp, hq⟩
  exact List.mem_flatMap.2 ⟨p, hp, Predicate.query_mem_ingredients hq⟩

theorem SelectItem.query_mem_ingredients {item : SelectItem Q} (h : q ∈ item.subqueries) :
    .query q ∈ item.ingredients := by
  cases item <;> simp_all [subqueries, ingredients]

theorem Source.query_mem_ingredients {source : Source Q} (h : q ∈ source.subqueries) :
    .query q ∈ source.ingredients := by
  cases source <;> simp_all [subqueries, ingredients]

theorem JoinSource.query_mem_ingredients {source : JoinSource Q} (h : q ∈ source.subqueries) :
    .query q ∈ source.ingredients := by
  cases source <;> simp_all [subqueries, ingredients]

theorem Cte.query_mem_ingredients {cte : Cte Q} (h : q ∈ cte.subqueries) :
    .query q ∈ cte.ingredients := by
  unfold subqueries at h
  unfold ingredients
  split at h
  case h_1 r hbody => simp_all
  case h_2 => cases h

theorem SetValue.query_mem_ingredients {v : SetValue Q} (h : q ∈ v.subqueries) :
    .query q ∈ v.ingredients := by
  cases v <;> simp_all [subqueries, ingredients]

theorem Record.query_mem_ingredients {r : Record Q} (h : q ∈ r.subqueries) :
    .query q ∈ r.ingredients := by
  rcases List.mem_flatMap.1 h with ⟨a, ha, hq⟩
  exact List.mem_flatMap.2
    ⟨a, ha, List.mem_cons_of_mem _ (SetValue.query_mem_ingredients hq)⟩

theorem OnConflict.query_mem_ingredients {o : OnConflict Q} (h : q ∈ o.action.subqueries) :
    .query q ∈ o.ingredients := by
  unfold ingredients
  cases haction : o.action with
  | update r =>
      rw [haction] at h
      exact List.mem_append_right _ (Record.query_mem_ingredients h)
  | _ => simp [haction, ConflictAction.subqueries] at h

theorem InsertRows.query_mem_ingredients {rows : InsertRows Q} (h : q ∈ rows.subqueries) :
    .query q ∈ rows.ingredients := by
  cases rows with
  | records rs =>
      -- a value that is written for a column is one of the record
      simp only [subqueries, List.mem_flatMap, Option.mem_toList] at h
      rcases h with ⟨r, hr, column, -, v, hv, hq⟩
      exact List.mem_flatMap.2
        ⟨r, hr, Record.mem_ingredients hv (SetValue.query_mem_ingredients hq)⟩
  | query columns r => simp_all [subqueries, ingredients]

namespace Clauses

variable {c : Clauses Q}

theorem each_ingredients (c : Clauses Q) : c.Each (· ∈ c.ingredients) :=
  each_iff.2 fun _ hi => hi

theorem query_mem_ingredients_of_filters (h : q ∈ c.filters.flatMap Formula.subqueries) :
    .query q ∈ c.ingredients := by
  have each := c.each_ingredients
  rcases List.mem_flatMap.1 h with ⟨f, hf, hq⟩
  -- a condition of the caller, or that of a default filter
  rcases List.mem_append.1 hf with hown | hdefault
  · exact each.conditions f hown _ (Formula.query_mem_ingredients hq)
  · rcases List.mem_map.1 hdefault with ⟨s, hs, rfl⟩
    exact each.scopes s hs _ (Formula.query_mem_ingredients hq)

theorem query_mem_ingredients_of_returning
    (h : q ∈ c.returning.flatMap SelectItem.subqueries) : .query q ∈ c.ingredients := by
  rcases List.mem_flatMap.1 h with ⟨item, hitem, hq⟩
  exact c.each_ingredients.returning item hitem _ (SelectItem.query_mem_ingredients hq)

/-- The condition of a join of a SELECT is not always written. -/
theorem query_mem_ingredients_of_joins (h : q ∈ c.joins.flatMap Join.subqueries) :
    .query q ∈ c.ingredients := by
  rcases List.mem_flatMap.1 h with ⟨j, hj, hq⟩
  refine c.each_ingredients.joins j hj _ ?_
  rcases List.mem_append.1 hq with hsource | hon
  · exact List.mem_append_left _ (JoinSource.query_mem_ingredients hsource)
  · split at hon
    · cases hon
    · rcases List.mem_flatMap.1 hon with ⟨f, hf, hq⟩
      exact List.mem_append_right _
        (List.mem_flatMap.2 ⟨f, hf, Formula.query_mem_ingredients hq⟩)

theorem query_mem_ingredients_of_selection (h : q ∈ c.selectionSubqueries) :
    .query q ∈ c.ingredients := by
  have each := c.each_ingredients
  simp only [selectionSubqueries, List.mem_append, or_assoc] at h
  -- clause by clause, in the order in which they are written
  rcases h with hselect | hsource | hjoins | hfilters | hgroup | hhaving | hops
  · rcases List.mem_flatMap.1 hselect with ⟨item, hitem, hq⟩
    exact each.select item hitem _ (SelectItem.query_mem_ingredients hq)
  · exact each.source _ (Source.query_mem_ingredients hsource)
  · exact query_mem_ingredients_of_joins hjoins
  · exact query_mem_ingredients_of_filters hfilters
  · rcases List.mem_flatMap.1 hgroup with ⟨operand, hoperand, hq⟩
    exact each.group operand hoperand _ (Operand.query_mem_ingredients hq)
  · rcases List.mem_flatMap.1 hhaving with ⟨f, hf, hq⟩
    exact each.having f hf _ (Formula.query_mem_ingredients hq)
  · rcases List.mem_map.1 hops with ⟨op, hop, rfl⟩
    exact each.setOps op hop _ (List.mem_singleton.2 rfl)

theorem query_mem_ingredients_of_change (h : q ∈ c.changeSubqueries) :
    .query q ∈ c.ingredients := by
  have each := c.each_ingredients
  simp only [changeSubqueries, List.flatMap_append, List.mem_append] at h
  -- a change has its joined sources in FROM, and their conditions in WHERE
  rcases h with hsource | hon | hfilters
  · rcases List.mem_flatMap.1 hsource with ⟨j, hj, hq⟩
    exact each.joins j hj _ (List.mem_append_left _ (JoinSource.query_mem_ingredients hq))
  · simp only [List.mem_flatMap, List.mem_filterMap] at hon
    rcases hon with ⟨f, ⟨j, hj, hf⟩, hq⟩
    exact each.joins j hj _ (List.mem_append_right _ (List.mem_flatMap.2
      ⟨f, Option.mem_toList.2 hf, Formula.query_mem_ingredients hq⟩))
  · exact query_mem_ingredients_of_filters hfilters

/-- The queries that a statement contains are among its ingredients. -/
theorem query_mem_ingredients (h : q ∈ c.subqueries) : .query q ∈ c.ingredients := by
  have each := c.each_ingredients
  rcases List.mem_append.1 h with hcte | hbody
  · rcases List.mem_flatMap.1 hcte with ⟨cte, hcte, hq⟩
    exact each.ctes cte hcte _ (Cte.query_mem_ingredients hq)
  · unfold bodySubqueries at hbody
    split at hbody
    case h_1 => exact query_mem_ingredients_of_selection hbody
    case h_2 rows conflict hm =>
      simp only [List.mem_append, or_assoc] at hbody
      rcases hbody with hrows | hconflict | hreturning
      · exact each.mutation _ hm _
          (List.mem_append_left _ (InsertRows.query_mem_ingredients hrows))
      · rcases List.mem_flatMap.1 hconflict with ⟨o, ho, hq⟩
        exact each.mutation _ hm _ (List.mem_append_right _
          (List.mem_flatMap.2 ⟨o, ho, OnConflict.query_mem_ingredients hq⟩))
      · exact query_mem_ingredients_of_returning hreturning
    case h_3 r hm =>
      simp only [List.mem_append, or_assoc] at hbody
      rcases hbody with hrecord | hchange | hreturning
      · exact each.mutation _ hm _ (Record.query_mem_ingredients hrecord)
      · exact query_mem_ingredients_of_change hchange
      · exact query_mem_ingredients_of_returning hreturning
    case h_4 hard hm =>
      rcases List.mem_append.1 hbody with hchange | hreturning
      · exact query_mem_ingredients_of_change hchange
      · exact query_mem_ingredients_of_returning hreturning

end Clauses
end Ingredients
end ParamSql
