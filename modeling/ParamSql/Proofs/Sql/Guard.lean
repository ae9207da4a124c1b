import ParamSql.Proofs.Sql.Change
import ParamSql.Proofs.Sql.Condition
import ParamSql.Proofs.Sql.Within

/-!
# Guard — changes are narrowed

An UPDATE or DELETE is written only if it is stated to be meant for every row, or if the caller
demands something of the rows; wherever it stands, what is demanded is written in its own WHERE.

* `Clauses.demands` — what the caller demands of the rows of a change;
* `Clauses.isNarrowed_iff` — a change is narrowed if there is a predicate in a demand;
* `Clauses.unfiltered` — the same change of every row;
* `ChangeParts` — a change is written as that of every row, with a WHERE behind it;
* `Query.changes_are_narrowed` — every change that is written for a compiled query is guarded, and
  others are not compiled.
-/

namespace ParamSql

namespace Clauses

variable {Q : Type}

/-! ## Demands -/

/-- What the caller demands of the rows of a change: the conditions of its joins, and its own.  The
default filters are not among them. -/
def demands (c : Clauses Q) : List (Formula (Predicate Q)) :=
  c.joins.filterMap Join.on ++ c.conditions

/-- A change is narrowed if there is a predicate in one of the demands. -/
theorem isNarrowed_iff {c : Clauses Q} :
    c.isNarrowed = true ↔ ∃ f ∈ c.demands, f.atoms ≠ [] := by
  have hpredicate : ∀ f : Formula (Predicate Q), (!f.isEmpty) = true ↔ f.atoms ≠ [] := by
    intro f
    rw [Bool.not_eq_true', ← Bool.not_eq_true, Formula.isEmpty_iff]
  simp only [isNarrowed, demands, Bool.or_eq_true, List.any_eq_true, Option.any_eq_true,
    hpredicate, List.mem_append, List.mem_filterMap]
  constructor
  · rintro (⟨f, hf, hatoms⟩ | ⟨j, hj, f, hon, hatoms⟩)
    · exact ⟨f, .inr hf, hatoms⟩
    · exact ⟨f, .inl ⟨j, hj, hon⟩, hatoms⟩
  · rintro ⟨f, ⟨j, hj, hon⟩ | hf, hatoms⟩
    · exact .inr ⟨j, hj, f, hon, hatoms⟩
    · exact .inl ⟨f, hf, hatoms⟩

theorem demands_append_scopes (c : Clauses Q) :
    c.demands ++ c.scopes.map Scope.condition = c.joins.filterMap Join.on ++ c.filters :=
  List.append_assoc _ _ _

theorem guard_map {R : Type} (f : Q → R) (c : Clauses Q) :
    ((c.map f).isNarrowed || (c.map f).all) = (c.isNarrowed || c.all) := by
  rw [isNarrowed_map]
  rfl

/-- The same change of every row, of which nothing is delivered. -/
def unfiltered (c : Clauses Q) : Clauses Q :=
  { c with
    joins := c.joins.map fun j => { j with on := none }
    conditions := []
    scopes := []
    returning := []
    all := true }

theorem unfiltered_map {R : Type} (f : Q → R) (c : Clauses Q) :
    (c.map f).unfiltered = c.unfiltered.map f := by
  simp [unfiltered, map, Join.map, Function.comp_def]

/-! ## Changes -/

variable {ω : Type} [Output ω] (cs : Columns)

/-- The sources of a change are followed by its WHERE, which that of every row does not have. -/
theorem changeFilter_eq [LawfulOutput ω] (keyword : String) (c : Clauses (Rendering ω)) :
    c.changeFilter cs keyword = c.unfiltered.changeFilter cs keyword ++
      cs.clauseOf " WHERE " (c.joins.filterMap Join.on ++ c.filters) := by
  -- a change of every row has the same sources, and nothing behind WHERE
  have hsources : c.unfiltered.joins.map changeSource = c.joins.map changeSource := by
    simp [unfiltered, changeSource, Function.comp_def]
  have hnone : c.unfiltered.joins.filterMap Join.on ++ c.unfiltered.filters = [] := by
    simp [unfiltered, filters]
  have hempty : cs.clauseOf " WHERE " ([] : List (Formula (Predicate (Rendering ω)))) = .nothing :=
    rfl
  simp only [changeFilter, hsources, hnone, hempty, Rendering.append_nothing]

/-- A guarded change is that of every row with a WHERE behind it. -/
theorem changing_eq [LawfulOutput ω] {c : Clauses (Rendering ω)} {m : Mutation (Rendering ω)}
    (hm : c.mutation = some m) (hchange : c.isChange = true)
    (hguard : (c.isNarrowed || c.all) = true) :
    c.changing cs m = c.unfiltered.changing cs m ++
      cs.clauseOf " WHERE " (c.joins.filterMap Join.on ++ c.filters) := by
  have hall : (c.unfiltered.isNarrowed || c.unfiltered.all) = true := Bool.or_true _
  have htarget : ∀ verb, c.unfiltered.target verb = c.target verb := fun _ => rfl
  cases m with
  | insert rows conflict => simp [isChange, hm] at hchange
  | update r =>
      simp only [changing, updating, guarded, hguard, hall, if_true, htarget]
      -- an update without assignments fails in either case
      cases r.assignments.isEmpty with
      | true => simp only [if_true, Rendering.fault_append]
      | false =>
          simp only [Bool.false_eq_true, if_false, changeFilter_eq cs " FROM " c,
            Rendering.append_assoc]
  | delete hard =>
      have hmark : c.unfiltered.deletionMark hard = c.deletionMark hard := rfl
      simp only [changing, deletion, guarded, hguard, hall, if_true, htarget, hmark]
      -- a row that is marked is updated, and one without a mark is deleted
      cases c.deletionMark hard with
      | none => simp only [changeFilter_eq cs " USING " c, Rendering.append_assoc]
      | some column => simp only [changeFilter_eq cs " FROM " c, Rendering.append_assoc]

/-- Any other change cannot be written. -/
theorem changing_fault {c : Clauses (Rendering ω)} {m : Mutation (Rendering ω)}
    (hm : c.mutation = some m) (hchange : c.isChange = true)
    (hguard : (c.isNarrowed || c.all) = false) :
    ∃ verb, c.changing cs m = .fault (.unguarded verb) := by
  cases m with
  | insert rows conflict => simp [isChange, hm] at hchange
  | update r => exact ⟨.update, by simp [changing, updating, guarded, hguard]⟩
  | delete hard => exact ⟨.delete, by simp [changing, deletion, guarded, hguard]⟩

/-! ## WHERE clauses -/

/-- The lexemes of a WHERE clause with some items, which is left out if there are none. -/
def whereOf (items : List (List Lexeme)) : List Lexeme :=
  if items.isEmpty then [] else .fixed " WHERE " :: [.fixed " AND "].intercalate items

/-- What is written behind WHERE are items for the members that have predicates. -/
theorem clauseOf_eq_ok_iff {cs : Columns}
    {fs : List (Formula (Predicate (Rendering (List Lexeme))))} {ls : List Lexeme} :
    (cs.clauseOf " WHERE " fs).result = .ok ls ↔
      ∃ items, List.Forall₂ (fun f item => (cs.member Formula.isAny f).result = .ok item)
        (Formula.written fs) items ∧ ls = whereOf items := by
  unfold Columns.clauseOf
  cases hempty : Formula.areEmpty fs with
  | true =>
      rw [Formula.written_of_areEmpty hempty, if_pos rfl]
      simp only [List.forall₂_nil_left_iff, exists_eq_left]
      exact ⟨fun h => (Except.ok.inj h).symm, fun h => h ▸ rfl⟩
  | false =>
      have hwhere : ∀ items, List.Forall₂
          (fun f item => (cs.member Formula.isAny f).result = .ok item) (Formula.written fs) items →
            whereOf items = .fixed " WHERE " :: [.fixed " AND "].intercalate items := by
        intro items hitems
        -- one of the members is written, so that there is an item for it
        have hsome : items ≠ [] := by
          rintro rfl
          rw [List.forall₂_nil_right_iff] at hitems
          exact Formula.written_ne_nil hempty hitems
        rw [whereOf, if_neg (by simpa using hsome)]
      rw [if_neg Bool.false_ne_true, Columns.condition_all]
      constructor
      · intro h
        rcases Rendering.result_append_eq_ok h
          with ⟨keyword, conditions, hkeyword, hconditions, rfl⟩
        rcases Rendering.result_separated_eq_ok_iff.1 hconditions with ⟨items, hitems, rfl⟩
        rw [List.forall₂_map_left_iff] at hitems
        cases hkeyword
        refine ⟨items, hitems, ?_⟩
        rw [hwhere items hitems, join_intersperse]
        rfl
      · rintro ⟨items, hitems, rfl⟩
        have hconditions : (Rendering.separated " AND "
            ((Formula.written fs).map (cs.member Formula.isAny))).result =
              .ok ([.fixed " AND "].intercalate items) :=
          Rendering.result_separated_eq_ok_iff.2
            ⟨items, List.forall₂_map_left_iff.2 hitems, (join_intersperse _ _).symm⟩
        have hkeyword : (Rendering.fixed " WHERE " : Rendering (List Lexeme)).result =
            .ok [.fixed " WHERE "] := rfl
        rw [hwhere items hitems]
        exact Rendering.result_append_ok hkeyword hconditions

end Clauses

/-! ## Parts of a change -/

/-- A change is written as that of every row, with a WHERE behind it whose items are the written
demands and default filters, and what it delivers behind that. -/
structure ChangeParts (naming : Naming) (inCte : Bool) (c : Clauses Query) where
  head : List Lexeme
  items : List (List Lexeme)
  tail : List Lexeme
  head_eq : (Query.statement naming false c.unfiltered : Rendering (List Lexeme)).result = .ok head
  items_eq : List.Forall₂
    (fun f item => ((c.columns naming).member Formula.isAny
      (f.map (Predicate.map (Query.rendering naming)))).result = .ok item)
    (Formula.written (c.demands ++ c.scopes.map Scope.condition)) items
  tail_eq : ((c.map (Query.rendering naming)).returningClause (c.columns naming) inCte :
    Rendering (List Lexeme)).result = .ok tail

def ChangeParts.lexemes {naming : Naming} {inCte : Bool} {c : Clauses Query}
    (p : ChangeParts naming inCte c) : List Lexeme :=
  p.head ++ Clauses.whereOf p.items ++ p.tail

namespace Query

variable {naming : Naming}

/-- A guarded change as it is written. -/
theorem statement_change (inCte : Bool) {c : Clauses Query} (hchange : c.isChange = true)
    (hguard : (c.isNarrowed || c.all) = true) :
    (statement naming inCte c : Rendering (List Lexeme)) =
      statement naming false c.unfiltered ++
        ((c.columns naming).clauseOf " WHERE "
          ((c.demands ++ c.scopes.map Scope.condition).map
            (Formula.map (Predicate.map (rendering naming)))) ++
        (c.map (rendering naming)).returningClause (c.columns naming) inCte) := by
  let d : Clauses (Rendering (List Lexeme)) := c.map (rendering naming)
  let cs := c.columns naming
  have hd : d.isChange = true := (Clauses.isChange_map _ c).trans hchange
  have hdguard : (d.isNarrowed || d.all) = true := (Clauses.guard_map _ c).trans hguard
  obtain ⟨m, hm⟩ : ∃ m, d.mutation = some m := Clauses.exists_mutation hd
  have hconditions : d.joins.filterMap Join.on ++ d.filters =
      (c.demands ++ c.scopes.map Scope.condition).map
        (Formula.map (Predicate.map (rendering naming))) := by
    rw [Clauses.demands_append_scopes]
    exact Clauses.changeConditions_map _ c
  have hbare : (statement naming false c.unfiltered : Rendering (List Lexeme)) =
      d.withClause ++ d.unfiltered.changing cs m := by
    have hcs : d.unfiltered.columns naming = cs := Clauses.columns_map _ c naming
    rw [statement_eq_map, ← Clauses.unfiltered_map, Clauses.statement, hcs]
    exact congrArg (d.withClause ++ ·) (Clauses.body_without_returning (c := d.unfiltered) hm cs)
  calc (statement naming inCte c : Rendering (List Lexeme))
      = d.withClause ++ d.body cs inCte := by
        rw [statement_eq_map, Clauses.statement, Clauses.columns_map]
    _ = d.withClause ++ (d.unfiltered.changing cs m ++
          cs.clauseOf " WHERE " (d.joins.filterMap Join.on ++ d.filters) ++
            d.returningClause cs inCte) := by
        rw [Clauses.body_of_mutation hm, Clauses.changing_eq cs hm hd hdguard]
    _ = _ := by
        rw [hbare, hconditions, Rendering.append_assoc, Rendering.append_assoc]

/-- A change that is not guarded cannot be written. -/
theorem statement_unguarded (inCte : Bool) {c : Clauses Query} (hchange : c.isChange = true)
    (hguard : (c.isNarrowed || c.all) = false) (ls : List Lexeme) :
    (statement naming inCte c : Rendering (List Lexeme)).result ≠ .ok ls := by
  let d : Clauses (Rendering (List Lexeme)) := c.map (rendering naming)
  have hd : d.isChange = true := (Clauses.isChange_map _ c).trans hchange
  have hdguard : (d.isNarrowed || d.all) = false := (Clauses.guard_map _ c).trans hguard
  obtain ⟨m, hm⟩ : ∃ m, d.mutation = some m := Clauses.exists_mutation hd
  rcases Clauses.changing_fault (c.columns naming) hm hd hdguard with ⟨verb, hfault⟩
  intro h
  rw [statement_eq_map, Clauses.statement, Clauses.columns_map, Clauses.body_of_mutation hm, hfault,
    Rendering.fault_append] at h
  rcases Rendering.result_append_eq_ok h with ⟨_, _, _, hbody, _⟩
  cases hbody

/-- A change that is written is guarded, and written in its parts. -/
theorem exists_changeParts {inCte : Bool} {c : Clauses Query} (hchange : c.isChange = true)
    {ls : List Lexeme} (h : (statement naming inCte c : Rendering (List Lexeme)).result = .ok ls) :
    (c.all = true ∨ ∃ f ∈ c.demands, f.atoms ≠ []) ∧
      ∃ parts : ChangeParts naming inCte c, ls = parts.lexemes := by
  cases hguard : c.isNarrowed || c.all with
  | false => exact absurd h (statement_unguarded inCte hchange hguard ls)
  | true =>
      rw [statement_change inCte hchange hguard] at h
      rcases Rendering.result_append_eq_ok h with ⟨head, rest, hhead, hrest, rfl⟩
      rcases Rendering.result_append_eq_ok hrest with ⟨filter, tail, hfilter, htail, rfl⟩
      rcases Clauses.clauseOf_eq_ok_iff.1 hfilter with ⟨items, hitems, rfl⟩
      rw [Formula.written_map, List.forall₂_map_left_iff] at hitems
      refine ⟨?_, ⟨head, items, tail, hhead, hitems, htail⟩, (List.append_assoc _ _ _).symm⟩
      rcases Bool.or_eq_true_iff.1 hguard with hnarrowed | hall
      · exact .inr (Clauses.isNarrowed_iff.1 hnarrowed)
      · exact .inl hall

/-! ## Guarded queries -/

/-- Every change that is written for a compiled query, at any depth, is meant for every row or is
narrowed by a predicate of the caller, and is written with its demands and default filters as the
items of its own WHERE.  A query for which any other change is written does not compile, whatever
default filters there are. -/
theorem changes_are_narrowed (options : CompileOptions) :
    (∀ (q : Query) compiled, q.compile options = .ok compiled →
      ∀ c, q.Writes c → c.isChange = true →
        (c.all = true ∨ ∃ f ∈ c.demands, f.atoms ≠ []) ∧
        ∃ inCte, ∃ (parts : ChangeParts options.naming inCte c) (before behind : List Lexeme),
          compiled.sql = Lexeme.text (before ++ parts.lexemes ++ behind) ∧
            compiled.params = Lexeme.params (before ++ parts.lexemes ++ behind)) ∧
    ∀ (q : Query) c, q.Writes c → c.isChange = true → c.all = false →
      (∀ f ∈ c.demands, f.atoms = []) → ∃ fault, q.compile options = .error fault := by
  refine ⟨?written, ?refused⟩
  case written =>
    intro q compiled h c hc hchange
    rcases compile_of_writes hc h with ⟨inCte, before, body, behind, hbody, hsql, hparams⟩
    rcases exists_changeParts hchange hbody with ⟨hguard, parts, rfl⟩
    exact ⟨hguard, inCte, parts, before, behind, hsql, hparams⟩
  case refused =>
    intro q c hc hchange hall hnone
    cases h : q.compile options with
    | error fault => exact ⟨fault, rfl⟩
    | ok compiled =>
        rcases compile_of_writes hc h with ⟨inCte, before, body, behind, hbody, -, -⟩
        -- what is written is narrowed or meant for all, and this change is neither
        rcases (exists_changeParts hchange hbody).1 with htrue | ⟨f, hf, hatoms⟩
        · simp [hall] at htrue
        · exact absurd (hnone f hf) hatoms

/-- Accounts, beside which the orders are deleted that nobody has paid. -/
def accountsBesideOrders : Query :=
  (Table.named "account").query.withCte ⟨"gone", [], .query unpaidOrders, false⟩

/-- Marks all orders as deleted, of which only those without a mark are seen. -/
def everyOrder : Query :=
  ((Table.named "order").softDelete "gone").query.delete false

theorem changes_are_narrowed_orders :
    (∃ compiled inCte, ∃ (parts : ChangeParts .verbatim inCte unpaidOrders.clauses)
        (before behind : List Lexeme), accountsBesideOrders.compile {} = .ok compiled ∧
      (unpaidOrders.clauses.all = true ∨ ∃ f ∈ unpaidOrders.clauses.demands, f.atoms ≠ []) ∧
      compiled.sql = Lexeme.text (before ++ parts.lexemes ++ behind)) ∧
    (everyOrder.clauses.scopes ≠ [] ∧
      ∃ fault, ((Table.named "account").query.append everyOrder false).compile {} =
        .error fault) := by
  rcases changes_are_narrowed {} with ⟨hwritten, hrefused⟩
  refine ⟨?written, ?filtered, ?refused⟩
  case written =>
    have hwrites : accountsBesideOrders.Writes unpaidOrders.clauses := by
      refine ⟨accountsBesideOrders.clauses, ?_, .inside (q := unpaidOrders) ?_ .self⟩
      · exact .head _
      · exact .head _
    obtain ⟨hguard, inCte, parts, before, behind, hsql, -⟩ :=
      hwritten accountsBesideOrders _ rfl unpaidOrders.clauses hwrites rfl
    exact ⟨_, inCte, parts, before, behind, rfl, hguard, hsql⟩
  case filtered => simp [everyOrder, delete, mutate, modify, Table.query, Table.softDelete,
    Table.scope, Keyed.putLast, clauses]
  case refused =>
    have hwrites : ((Table.named "account").query.append everyOrder false).Writes
        everyOrder.clauses :=
      ⟨everyOrder.clauses, .head _, .self⟩
    exact hrefused _ everyOrder.clauses hwrites rfl rfl (by
      intro f hf
      cases hf)

end Query
end ParamSql
