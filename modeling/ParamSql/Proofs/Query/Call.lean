import Mathlib.Data.List.Induction
import ParamSql.Proofs.Query.Ingredient
import ParamSql.Query.Change
import ParamSql.Query.Result
import ParamSql.Query.Table

/-!
# Call — queries as they are built

A query is built by calls, one behind another.  A call edits the statement of the query, runs
another statement ahead of it, or wraps it in a new statement.  Whatever is called, default filters
stay with the statement they were meant for.

* `Query.Call`, `Query.run` — the calls, and the query that is built by some of them;
* `Call.given`, `Call.wraps` — what is supplied with a call, and whether it makes a new statement;
* `Call.scopes_apply` — the default filters behind a call;
* `Query.mem_scopes_run` — default filters are there from the beginning, or have been added by name;
* `Query.conditions_run` — what the caller asks does not depend on default filters;
* `Query.origin_of_holds` — every statement in a query is one of those that the query has been built
  from.
-/

namespace ParamSql

/-! ## Lists of entries with a key -/

namespace Keyed

variable {α : Type} {key : α → String} {a b : α} {entries : List α}

theorem mem_of_mem_put (h : b ∈ put key a entries) : b = a ∨ b ∈ entries := by
  induction entries with
  | nil => exact .inl (List.mem_singleton.1 h)
  | cons c entries ih =>
      unfold put at h
      split at h
      · -- the entry takes the place of `c`
        rcases List.mem_cons.1 h with rfl | hrest
        · exact .inl rfl
        · exact .inr (List.mem_cons_of_mem c hrest)
      · rcases List.mem_cons.1 h with rfl | hrest
        · exact .inr List.mem_cons_self
        · exact (ih hrest).imp_right (List.mem_cons_of_mem c)

theorem mem_of_mem_remove {k : String} (h : b ∈ remove key k entries) : b ∈ entries :=
  (List.mem_filter.1 h).1

theorem mem_of_mem_putLast (h : b ∈ putLast key a entries) : b = a ∨ b ∈ entries := by
  rcases List.mem_append.1 h with hold | hnew
  · exact .inr (mem_of_mem_remove hold)
  · exact .inl (List.mem_singleton.1 hnew)

end Keyed

/-- The same statement up to its order and the form of its result. -/
def Clauses.Resembles {Q : Type} (c d : Clauses Q) : Prop :=
  c = { d with order := c.order, shape := c.shape }

theorem Clauses.Resembles.refl {Q : Type} (c : Clauses Q) : c.Resembles c := rfl

theorem Clauses.Resembles.trans {Q : Type} {c d e : Clauses Q} (h : c.Resembles d)
    (h' : d.Resembles e) : c.Resembles e := by
  unfold Resembles at h
  rw [h'] at h
  exact h

namespace Query

/-! ## Calls -/

/-- A call that makes a query of another one. -/
inductive Call
  -- filters
  | filter (condition : Condition)
  | orFilter (condition : Condition)
  | scope (name : String) (condition : Condition)
  | unscope (name : String)
  | allRows
  -- rows
  | select (items : List (SelectItem Query))
  | addSelect (item : SelectItem Query)
  | distinct (d : Distinct)
  | join (j : Join Query)
  | groupBy (keys : List (Operand Query))
  | havingAll (condition : Condition)
  | orderBy (order : Order)
  | limit (n : Int64)
  | offset (n : Int64)
  | window (w : Window)
  | lock (l : Lock)
  | setOp (kind : SetOpKind) (other : Query)
  | withCte (cte : Cte Query)
  | append (other : Query) (required : Bool)
  -- changes
  | mutate (m : Mutation Query)
  | onConflict (columns : List String) (action : ConflictAction Query)
  | assign (column : String) (value : SetValue Query)
  | returning (columns : List String)
  -- results
  | deliver (shape : Shape)
  | clear (part : Part)
  | count
  | ofQuery (name : String)
  | existence
  | json

namespace Call

/-- The query that a call makes. -/
def apply : Call → Query → Query
  | .filter condition, q => q.filter condition
  | .orFilter condition, q => q.orFilter condition
  | .scope name condition, q => q.scope name condition
  | .unscope name, q => q.unscope name
  | .allRows, q => q.allRows
  | .select items, q => q.select items
  | .addSelect item, q => q.addSelect item
  | .distinct d, q => q.distinct d
  | .join j, q => q.join j
  | .groupBy keys, q => q.groupBy keys
  | .havingAll condition, q => q.havingAll condition
  | .orderBy order, q => q.orderBy order
  | .limit n, q => q.limit n
  | .offset n, q => q.offset n
  | .window w, q => q.window w
  | .lock l, q => q.lock l
  | .setOp kind other, q => q.setOp kind other
  | .withCte cte, q => q.withCte cte
  | .append other required, q => q.append other required
  | .mutate m, q => q.mutate m
  | .onConflict columns action, q => q.onConflict columns action
  | .assign column value, q => q.assign column value
  | .returning columns, q => q.returning columns
  | .deliver shape, q => q.deliver shape
  | .clear part, q => q.clear part
  | .count, q => q.count
  | .ofQuery name, q => q.ofQuery name
  | .existence, q => q.existence
  | .json, q => q.json

/-- What is supplied to a statement with a call. -/
def given : Call → List (Ingredient Query)
  | .filter condition => condition.ingredients
  | .orFilter condition => condition.ingredients
  | .scope _ condition => condition.ingredients
  | .select items => items.flatMap SelectItem.ingredients
  | .addSelect item => item.ingredients
  | .distinct d => d.ingredients
  | .join j => j.ingredients
  | .groupBy keys => keys.flatMap Operand.ingredients
  | .havingAll condition => condition.ingredients
  | .orderBy order => order.ingredients
  | .window w => w.ingredients
  | .lock l => l.ingredients
  | .setOp _ other => [.query other]
  | .withCte cte => cte.ingredients
  | .append other _ => [.query other]
  | .mutate m => m.ingredients
  | .onConflict columns action => (OnConflict.mk columns action).ingredients
  | .assign column value => (Assignment.mk column value).ingredients
  | .returning columns =>
      columns.flatMap fun column => (SelectItem.ofColumn column : SelectItem Query).ingredients
  | .count => [.name "count"]
  | _ => []

/-- Whether the query becomes a part of a new statement. -/
def wraps (q : Query) : Call → Bool
  | .count => isRegrouped q.clauses
  | .ofQuery _ => true
  | .existence => true
  | .json => true
  | _ => false

end Call

/-- The query that is built by some calls in a row. -/
def run (q : Query) (calls : List Call) : Query :=
  calls.foldl (fun q call => call.apply q) q

theorem run_append (q : Query) (calls more : List Call) :
    q.run (calls ++ more) = (q.run calls).run more :=
  List.foldl_append

theorem run_concat (q : Query) (calls : List Call) (call : Call) :
    q.run (calls ++ [call]) = call.apply (q.run calls) :=
  run_append q calls [call]

/-- Other functions that build queries are calls with values of their own, or some calls in a
row. -/
theorem builders_are_runs (q : Query) :
    (∀ condition, q.filterNot condition = q.run [.filter (.not condition)]) ∧
    (∀ column value, ∃ calls, q.filterEq? column value = q.run calls) ∧
    q.includeDeleted = q.run [.unscope deletedScope] ∧
    (∀ kind text on, q.joinTable kind text on = q.run [.join ⟨kind, .ofText text, on⟩]) ∧
    (∀ kind other name on,
      q.joinQuery kind other name on = q.run [.join ⟨kind, .query other name, on⟩]) ∧
    (∀ page perPage, ∃ n m, q.paginate page perPage = q.run [.limit n, .offset m]) ∧
    (∀ name columns base step, q.withRecursive name columns base step =
      q.run [.withCte ⟨name, columns, .query (base.run [.setOp .unionAll step]), true⟩]) ∧
    (∀ records, q.insert records = q.run [.mutate (.insert (.records records) none)]) ∧
    (∀ columns other,
      q.insertFrom columns other = q.run [.mutate (.insert (.query columns other) none)]) ∧
    (∀ r, q.update r = q.run [.mutate (.update r)]) ∧
    (∀ hard, q.delete hard = q.run [.mutate (.delete hard)]) ∧
    (∀ column, ∃ calls, q.onlyColumn column = q.run calls) ∧
    (∃ calls, q.limitOne = q.run calls) := by
  refine ⟨fun _ => rfl, ?equal, rfl, fun _ _ _ => rfl, fun _ _ _ _ => rfl, fun _ _ => ⟨_, _, rfl⟩,
    fun _ _ _ _ => rfl, fun _ => rfl, fun _ _ => rfl, fun _ => rfl, fun _ => rfl, ?column, ?one⟩
  case equal =>
    rintro column (- | v)
    · exact ⟨[], rfl⟩
    · exact ⟨[.filter (.compare column .eq (.value v))], rfl⟩
  case column =>
    intro column
    cases hm : q.clauses.mutation.isSome with
    | true =>
        exact ⟨[.returning [column]], by simp [onlyColumn, modify, hm, run, Call.apply, returning]⟩
    | false =>
        exact ⟨[.select [.ofColumn column]],
          by simp [onlyColumn, modify, hm, run, Call.apply, select]⟩
  case one =>
    unfold limitOne
    split
    · exact ⟨[], rfl⟩
    · exact ⟨[.limit 1], rfl⟩

/-! ## Edits -/

section Edits

variable {q : Query} {P : Ingredient Query → Prop}

/-- Another change in the place of the one there is. -/
theorem each_mutate (h : q.clauses.Each P) {m : Mutation Query} (hm : ∀ i ∈ m.ingredients, P i) :
    (q.mutate m).clauses.Each P := by
  have hmutation : ∀ m' ∈ some m, ∀ i ∈ m'.ingredients, P i := by simpa using hm
  exact { h with mutation := hmutation }

theorem each_onConflict (h : q.clauses.Each P) {columns : List String}
    {action : ConflictAction Query}
    (hgiven : ∀ i ∈ (OnConflict.mk columns action).ingredients, P i) :
    (q.onConflict columns action).clauses.Each P := by
  unfold onConflict
  split
  case h_1 rows conflict hm =>
    have hrows := (List.forall_mem_append.1 (h.mutation _ hm)).1
    exact each_mutate h (List.forall_mem_append.2 ⟨hrows, by simpa using hgiven⟩)
  case h_2 => exact h

theorem each_assign (h : q.clauses.Each P) {column : String} {value : SetValue Query}
    (hgiven : ∀ i ∈ (Assignment.mk column value).ingredients, P i) :
    (q.assign column value).clauses.Each P := by
  unfold assign
  split
  case h_1 r hm =>
    refine each_mutate h (List.forall_mem_flatMap.2 fun a ha => ?_)
    rcases Keyed.mem_of_mem_put ha with rfl | hold
    · exact hgiven
    · exact List.forall_mem_flatMap.1 (h.mutation _ hm) a hold
  case h_2 =>
    refine each_mutate h (List.forall_mem_flatMap.2 fun a ha => ?_)
    rw [List.mem_singleton.1 ha]
    exact hgiven

theorem each_clear (h : q.clauses.Each P) (part : Part) : (q.clear part).clauses.Each P := by
  cases part with
  | select => exact { h with select := List.forall_mem_nil _ }
  | distinct => exact { h with distinct := by rintro _ ⟨⟩ }
  | conditions => exact { h with conditions := List.forall_mem_nil _ }
  | joins => exact { h with joins := List.forall_mem_nil _ }
  | group => exact { h with group := List.forall_mem_nil _ }
  | having => exact { h with having := List.forall_mem_nil _ }
  | order => exact { h with order := List.forall_mem_nil _ }
  | limit => exact { h with }
  | offset => exact { h with }
  | windows => exact { h with windows := List.forall_mem_nil _ }
  | lock => exact { h with lock := by rintro _ ⟨⟩ }
  | setOps => exact { h with setOps := List.forall_mem_nil _ }
  | ctes => exact { h with ctes := List.forall_mem_nil _ }
  | returning => exact { h with returning := List.forall_mem_nil _ }
  | appended => exact h

/-- Where nothing but filters and joins decide about the rows, a count is the query itself. -/
theorem count_of_plain (h : isRegrouped q.clauses = false) :
    q.count = ((q.clear .order).select
      [.aggregate .count none false (some "count")]).deliver .value := by
  simp [count, h]

theorem count_of_regrouped (h : isRegrouped q.clauses = true) :
    q.count = ((ofQuery (q.deliver .all) wrapped).select
      [.aggregate .count none false (some "count")]).deliver .value := by
  simp [count, h]

theorem each_orFilter (h : q.clauses.Each P) {condition : Condition}
    (hgiven : ∀ i ∈ condition.ingredients, P i) : (q.orFilter condition).clauses.Each P := by
  have hgroup : ∀ i ∈ (if q.clauses.conditions.isEmpty then condition
      else .any [.all q.clauses.conditions, condition]).ingredients, P i := by
    split
    case isTrue => exact hgiven
    case isFalse =>
      -- the atoms of a group are those of its members
      intro i hi
      simp only [Formula.ingredients, Formula.atoms, Formula.atomsOf, List.append_nil,
        List.flatMap_append, List.mem_append] at hi
      rcases hi with hi | hi
      · rw [Formula.atomsOf_eq_flatMap, List.flatMap_assoc, List.mem_flatMap] at hi
        rcases hi with ⟨f, hf, hi⟩
        exact h.conditions f hf i hi
      · exact hgiven i hi
  exact { h with conditions := List.forall_mem_singleton.2 hgroup }

/-- A query in the place of another one is made of the parts of that and of what is supplied. -/
theorem Call.each_apply {call : Call} (hwraps : call.wraps q = false) (h : q.clauses.Each P)
    (hgiven : ∀ i ∈ call.given, P i) : (call.apply q).clauses.Each P := by
  cases call with
  | filter condition =>
      have hconditions :=
        List.forall_mem_append.2 ⟨h.conditions, List.forall_mem_singleton.2 hgiven⟩
      exact { h with conditions := hconditions }
  | orFilter condition => exact each_orFilter h hgiven
  | scope name condition =>
      have hscopes : ∀ s ∈ (q.scope name condition).clauses.scopes, ∀ i ∈ s.ingredients, P i := by
        intro s hs
        rcases Keyed.mem_of_mem_putLast hs with rfl | hold
        · exact hgiven
        · exact h.scopes s hold
      exact { h with scopes := hscopes }
  | unscope name => exact { h with scopes := fun s hs => h.scopes s (Keyed.mem_of_mem_remove hs) }
  | allRows => exact { h with }
  | select items => exact { h with select := List.forall_mem_flatMap.1 hgiven }
  | addSelect item =>
      have hitems := List.forall_mem_append.2 ⟨h.select, List.forall_mem_singleton.2 hgiven⟩
      exact { h with select := hitems }
  | distinct d =>
      have hd : ∀ i ∈ d.ingredients, P i := hgiven
      have hdistinct : ∀ d' ∈ some d, ∀ i ∈ d'.ingredients, P i := by simpa using hd
      exact { h with distinct := hdistinct }
  | join j =>
      have hjoins := List.forall_mem_append.2 ⟨h.joins, List.forall_mem_singleton.2 hgiven⟩
      exact { h with joins := hjoins }
  | groupBy keys =>
      have hkeys := List.forall_mem_append.2 ⟨h.group, List.forall_mem_flatMap.1 hgiven⟩
      exact { h with group := hkeys }
  | havingAll condition =>
      have hhaving := List.forall_mem_append.2 ⟨h.having, List.forall_mem_singleton.2 hgiven⟩
      exact { h with having := hhaving }
  | orderBy order =>
      have horder := List.forall_mem_append.2 ⟨h.order, List.forall_mem_singleton.2 hgiven⟩
      exact { h with order := horder }
  | limit n => exact { h with }
  | offset n => exact { h with }
  | window w =>
      have hwindows : ∀ w' ∈ (q.window w).clauses.windows, ∀ i ∈ w'.ingredients, P i := by
        intro w' hw
        rcases Keyed.mem_of_mem_put hw with rfl | hold
        · exact hgiven
        · exact h.windows w' hold
      exact { h with windows := hwindows }
  | lock l =>
      have hl : ∀ i ∈ l.ingredients, P i := hgiven
      have hlock : ∀ l' ∈ some l, ∀ i ∈ l'.ingredients, P i := by simpa using hl
      exact { h with lock := hlock }
  | setOp kind other =>
      have hop : ∀ i ∈ (SetOp.mk kind other).ingredients, P i := hgiven
      have hops := List.forall_mem_append.2 ⟨h.setOps, List.forall_mem_singleton.2 hop⟩
      exact { h with setOps := hops }
  | withCte cte =>
      have hctes : ∀ c ∈ (q.withCte cte).clauses.ctes, ∀ i ∈ c.ingredients, P i := by
        intro c hc
        rcases Keyed.mem_of_mem_putLast hc with rfl | hold
        · exact hgiven
        · exact h.ctes c hold
      exact { h with ctes := hctes }
  | append other required => exact h
  | mutate m => exact each_mutate h hgiven
  | onConflict columns action => exact each_onConflict h hgiven
  | assign column value => exact each_assign h hgiven
  | returning columns =>
      have hitems : ∀ item ∈ columns.map SelectItem.ofColumn, ∀ i ∈ item.ingredients, P i := by
        rw [List.forall_mem_map]
        exact List.forall_mem_flatMap.1 hgiven
      exact { h with returning := hitems }
  | deliver shape => exact { h with }
  | clear part => exact each_clear h part
  | count =>
      have hitems : ∀ item ∈ [SelectItem.aggregate .count none false (some "count")],
          ∀ i ∈ item.ingredients, P i := List.forall_mem_singleton.2 hgiven
      rw [Call.apply, count_of_plain hwraps]
      exact { each_clear h .order with select := hitems }
  | ofQuery name => cases hwraps
  | existence => cases hwraps
  | json => cases hwraps

end Edits

namespace Call

variable {q : Query} {call : Call}

/-- Other statements are appended by name. -/
theorem mem_appended_apply (hwraps : call.wraps q = false) {a : Appended Query}
    (ha : a ∈ (call.apply q).appended) : a ∈ q.appended ∨ .query a.query ∈ call.given := by
  cases call with
  | append other required =>
      rcases List.mem_append.1 ha with hold | hnew
      · exact .inl hold
      · rw [List.mem_singleton.1 hnew]
        exact .inr (List.mem_singleton.2 rfl)
  | onConflict columns action =>
      rw [apply, Query.onConflict] at ha
      split at ha <;> exact .inl ha
  | assign column value =>
      rw [apply, Query.assign] at ha
      split at ha <;> exact .inl ha
  | clear part =>
      cases part with
      | appended => cases ha
      | _ => exact .inl ha
  | count =>
      rw [apply, count_of_plain hwraps] at ha
      exact .inl ha
  | ofQuery name => cases hwraps
  | existence => cases hwraps
  | json => cases hwraps
  | _ => exact .inl ha

/-! ## Wrappers -/

/-- `outer` is a new statement around `inner`, which is `q` up to its order and the form of its
result.  The new statement has no filters of its own. -/
structure IsWrapper (q outer inner : Query) : Prop where
  resembles : inner.clauses.Resembles q.clauses
  ingredients : inner.clauses.ingredients ⊆ q.clauses.ingredients
  appended : inner.appended = q.appended
  only : ∀ r, .query r ∈ outer.clauses.ingredients → r = inner
  outer_scopes : outer.clauses.scopes = []
  outer_conditions : outer.clauses.conditions = []
  outer_appended : outer.appended = []

/-- A query as the source of a new statement, in which no other query is selected. -/
theorem isWrapper_of_source (q inner : Query) (hresembles : inner.clauses.Resembles q.clauses)
    (hingredients : inner.clauses.ingredients = q.clauses.ingredients)
    (happended : inner.appended = q.appended) {name : String} {items : List (SelectItem Query)}
    (hitems : ∀ item ∈ items, ∀ r, .query r ∉ item.ingredients) {shape : Option Shape} :
    IsWrapper q (.of { source := .query inner name, select := items, shape } []) inner where
  resembles := hresembles
  ingredients := by
    rw [hingredients]
    exact List.Subset.refl _
  appended := happended
  only r hr := by
    have hcases : r = inner ∨ ∃ item ∈ items, .query r ∈ item.ingredients := by
      simpa [clauses, Clauses.ingredients, Source.ingredients] using hr
    rcases hcases with rfl | ⟨item, hitem, hquery⟩
    · rfl
    · exact absurd hquery (hitems item hitem r)
  outer_scopes := rfl
  outer_conditions := rfl
  outer_appended := rfl

theorem exists_wrapper (h : call.wraps q = true) : ∃ inner, IsWrapper q (call.apply q) inner := by
  cases call with
  | count =>
      rw [apply, count_of_regrouped h]
      refine ⟨q.deliver .all, isWrapper_of_source q (q.deliver .all) rfl rfl rfl
        (List.forall_mem_singleton.2 fun r => ?_)⟩
      simp [SelectItem.ingredients]
  | ofQuery name =>
      refine ⟨q, isWrapper_of_source q q rfl rfl rfl ?_⟩
      simp
  | existence =>
      have hcleared : ((q.clear .order).deliver .all).clauses.ingredients ⊆ q.clauses.ingredients :=
        fun i hi => Clauses.each_iff.1 (each_clear (Clauses.each_iff.2 fun _ hi => hi) .order) i hi
      have honly : ∀ r, .query r ∈ q.existence.clauses.ingredients →
          r = (q.clear .order).deliver .all := by
        intro r hr
        simpa [Query.existence, Query.select, Query.deliver, modify, empty, clauses,
          Clauses.ingredients, Source.ingredients, SelectItem.ingredients] using hr
      exact ⟨(q.clear .order).deliver .all, rfl, hcleared, rfl, honly, rfl, rfl, rfl⟩
  | json =>
      refine ⟨q.deliver .all, isWrapper_of_source q (q.deliver .all) rfl rfl rfl
        (List.forall_mem_singleton.2 fun r => ?_)⟩
      simp [SelectItem.ingredients]
  | _ => cases h

/-! ## Default filters -/

/-- The default filters of the query that a call makes. -/
def scopes (q : Query) : Call → List (Scope Query)
  | .scope name condition => Keyed.putLast Scope.name ⟨name, condition⟩ q.clauses.scopes
  | .unscope name => Keyed.remove Scope.name name q.clauses.scopes
  | call => if call.wraps q then [] else q.clauses.scopes

theorem scopes_apply (call : Call) (q : Query) : (call.apply q).clauses.scopes = call.scopes q := by
  cases hwraps : call.wraps q with
  | true =>
      rcases exists_wrapper hwraps with ⟨inner, hwrapper⟩
      rw [hwrapper.outer_scopes]
      cases call with
      | count => exact (if_pos hwraps).symm
      | ofQuery name => rfl
      | existence => rfl
      | json => rfl
      | _ => cases hwraps
  | false =>
      cases call with
      | onConflict columns action =>
          rw [apply, Query.onConflict]
          split <;> rfl
      | assign column value =>
          rw [apply, Query.assign]
          split <;> rfl
      | clear part => cases part <;> rfl
      | count =>
          rw [apply, count_of_plain hwraps]
          exact (if_neg (by simp [hwraps])).symm
      | ofQuery name => cases hwraps
      | existence => cases hwraps
      | json => cases hwraps
      | _ => rfl

theorem mem_of_mem_scopes {s : Scope Query} (h : s ∈ (call.apply q).clauses.scopes) :
    s ∈ q.clauses.scopes ∨ call = .scope s.name s.condition := by
  rw [scopes_apply] at h
  unfold scopes at h
  split at h
  case h_1 name condition =>
    rcases Keyed.mem_of_mem_putLast h with rfl | hold
    · exact .inr rfl
    · exact .inl hold
  case h_2 name => exact .inl (Keyed.mem_of_mem_remove h)
  case h_3 =>
    split at h
    · cases h
    · exact .inl h

end Call

/-- A default filter is there from the beginning, or has been added by its name. -/
theorem mem_scopes_run {q : Query} {calls : List Call} {s : Scope Query}
    (h : s ∈ (q.run calls).clauses.scopes) :
    s ∈ q.clauses.scopes ∨ Call.scope s.name s.condition ∈ calls := by
  induction calls generalizing q with
  | nil => exact .inl h
  | cons call calls ih =>
      rcases ih h with hfirst | hrest
      · rcases Call.mem_of_mem_scopes hfirst with hold | rfl
        · exact .inl hold
        · exact .inr List.mem_cons_self
      · exact .inr (List.mem_cons_of_mem call hrest)

/-! ## Conditions -/

/-- A statement apart from its default filters, and from what it selects from where. -/
def plain (c : Clauses Query) : Query :=
  .of { c with source := .nothing, select := [], scopes := [] } []

/-- Nothing else depends on these. -/
theorem plain_apply (call : Call) (q : Query) :
    plain (call.apply q).clauses = plain (call.apply (plain q.clauses)).clauses := by
  cases call with
  | onConflict columns action =>
      rcases q
        with ⟨⟨source, select, distinct, conditions, joins, group, having, order, limit, offset,
        windows, lock, setOps, ctes, mutation, returning, scopes, all, shape⟩, as⟩
      rcases mutation with _ | (_ | _ | _) <;> rfl
  | assign column value =>
      rcases q
        with ⟨⟨source, select, distinct, conditions, joins, group, having, order, limit, offset,
        windows, lock, setOps, ctes, mutation, returning, scopes, all, shape⟩, as⟩
      rcases mutation with _ | (_ | _ | _) <;> rfl
  | clear part => cases part <;> rfl
  | count =>
      have hplain : isRegrouped (plain q.clauses).clauses = isRegrouped q.clauses := rfl
      cases hregrouped : isRegrouped q.clauses with
      | true =>
          rw [hregrouped] at hplain
          rw [Call.apply, Call.apply, count_of_regrouped hregrouped, count_of_regrouped hplain]
          rfl
      | false =>
          rw [hregrouped] at hplain
          rw [Call.apply, Call.apply, count_of_plain hregrouped, count_of_plain hplain]
          rfl
  | _ => rfl

theorem plain_run {q r : Query} (h : plain q.clauses = plain r.clauses) (calls : List Call) :
    plain (q.run calls).clauses = plain (r.run calls).clauses := by
  induction calls generalizing q r with
  | nil => exact h
  | cons call calls ih =>
      refine ih ?_
      rw [plain_apply, h, ← plain_apply]

/-- What the caller asks of the rows does not depend on the default filters: none of them becomes a
part of a condition, whatever is called. -/
theorem conditions_run (q : Query) (scopes : List (Scope Query)) (calls : List Call) :
    ((q.modify fun c => { c with scopes }).run calls).clauses.conditions =
      (q.run calls).clauses.conditions := by
  have hstart : plain (q.modify fun c => { c with scopes }).clauses = plain q.clauses := rfl
  have hconditions := congrArg (fun p : Query => p.clauses.conditions) (plain_run hstart calls)
  exact hconditions

/-! ## Statements in a query -/

/-- `d` is the statement of a query, or of a query in it or appended to it, at any depth. -/
inductive Holds (d : Clauses Query) : Query → Prop
  | own {as : List (Appended Query)} : Holds d (.of d as)
  | inner {c : Clauses Query} {as : List (Appended Query)} {r : Query}
      (hr : .query r ∈ c.ingredients) (h : Holds d r) : Holds d (.of c as)
  | appended {c : Clauses Query} {as : List (Appended Query)} {a : Appended Query} (ha : a ∈ as)
      (h : Holds d a.query) : Holds d (.of c as)

theorem holds_iff {d : Clauses Query} {q : Query} :
    q.Holds d ↔ d = q.clauses ∨ (∃ r, .query r ∈ q.clauses.ingredients ∧ r.Holds d) ∨
      ∃ a ∈ q.appended, a.query.Holds d := by
  rcases q with ⟨c, as⟩
  constructor
  · intro h
    cases h with
    | own => exact .inl rfl
    | inner hr h => exact .inr (.inl ⟨_, hr, h⟩)
    | appended ha h => exact .inr (.inr ⟨_, ha, h⟩)
  · rintro (rfl | ⟨r, hr, h⟩ | ⟨a, ha, h⟩)
    · exact .own
    · exact .inner hr h
    · exact .appended ha h

/-- Where a statement in a query that has been built by calls comes from, up to its order and the
form of its result: it is a statement in the first query or in one that has been supplied with a
call, or it is that of the query itself, as it was behind some of the calls. -/
inductive Origin (q : Query) (calls : List Call) (d : Clauses Query) : Prop
  | start {e : Clauses Query} (h : q.Holds e) (hd : d.Resembles e)
  | given {call : Call} {r : Query} {e : Clauses Query} (hcall : call ∈ calls)
      (hr : .query r ∈ call.given) (h : r.Holds e) (hd : d.Resembles e)
  | built {first : List Call} (h : first <+: calls) (hd : d.Resembles (q.run first).clauses)

theorem Origin.mono {q : Query} {calls : List Call} {call : Call} {d e : Clauses Query}
    (h : Origin q calls e) (hd : d.Resembles e) : Origin q (calls ++ [call]) d := by
  cases h with
  | start h he => exact .start h (hd.trans he)
  | given hcall hr h he => exact .given (List.mem_append_left _ hcall) hr h (hd.trans he)
  | built hfirst he => exact .built (hfirst.trans (List.prefix_append _ _)) (hd.trans he)

/-- A call leaves all statements as they are, but its own. -/
theorem Call.resembles_of_holds {call : Call} {q : Query} {d : Clauses Query}
    (h : (call.apply q).Holds d) :
    d = (call.apply q).clauses ∨ (∃ r, .query r ∈ call.given ∧ r.Holds d) ∨
      ∃ e, q.Holds e ∧ d.Resembles e := by
  cases hwraps : call.wraps q with
  | false =>
      have hingredients : ∀ i ∈ (call.apply q).clauses.ingredients,
          i ∈ q.clauses.ingredients ∨ i ∈ call.given :=
        Clauses.each_iff.1 (each_apply hwraps (Clauses.each_iff.2 fun _ hi => .inl hi)
          fun _ hi => .inr hi)
      rcases holds_iff.1 h with hown | ⟨r, hr, hd⟩ | ⟨a, ha, hd⟩
      · exact .inl hown
      · rcases hingredients _ hr with hold | hgiven
        · exact .inr (.inr ⟨d, holds_iff.2 (.inr (.inl ⟨r, hold, hd⟩)), .refl d⟩)
        · exact .inr (.inl ⟨r, hgiven, hd⟩)
      · rcases mem_appended_apply hwraps ha with hold | hgiven
        · exact .inr (.inr ⟨d, holds_iff.2 (.inr (.inr ⟨a, hold, hd⟩)), .refl d⟩)
        · exact .inr (.inl ⟨a.query, hgiven, hd⟩)
  | true =>
      -- only the wrapped query is in the new statement
      rcases exists_wrapper hwraps with ⟨inner, hwrapper⟩
      rcases holds_iff.1 h with hown | ⟨r, hr, hd⟩ | ⟨a, ha, -⟩
      · exact .inl hown
      · obtain rfl := hwrapper.only r hr
        refine .inr (.inr ?_)
        rcases holds_iff.1 hd with rfl | ⟨s, hs, hd⟩ | ⟨a, ha, hd⟩
        · exact ⟨q.clauses, holds_iff.2 (.inl rfl), hwrapper.resembles⟩
        · exact ⟨d, holds_iff.2 (.inr (.inl ⟨s, hwrapper.ingredients hs, hd⟩)), .refl d⟩
        · exact ⟨d, holds_iff.2 (.inr (.inr ⟨a, hwrapper.appended ▸ ha, hd⟩)), .refl d⟩
      · rw [hwrapper.outer_appended] at ha
        cases ha

/-- Every statement in a query that has been built by calls is one of those that the query has been
built from: none is put together from several ones. -/
theorem origin_of_holds {q : Query} {calls : List Call} {d : Clauses Query}
    (h : (q.run calls).Holds d) : Origin q calls d := by
  -- by induction on the calls, from the last one backwards
  induction calls using List.reverseRecOn generalizing d with
  | nil => exact .start h (.refl d)
  | append_singleton calls call ih =>
      rw [run_concat] at h
      rcases Call.resembles_of_holds h with rfl | ⟨r, hr, hd⟩ | ⟨e, he, hd⟩
      · rw [← run_concat]
        exact .built (List.prefix_refl _) (.refl _)
      · exact .given (List.mem_append_right _ List.mem_cons_self) hr hd (.refl d)
      · exact (ih he).mono hd

end Query
end ParamSql
