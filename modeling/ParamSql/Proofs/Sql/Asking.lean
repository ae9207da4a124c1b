import ParamSql.Proofs.Sql.Filters
import ParamSql.Query.Condition
import ParamSql.Query.Table

/-!
# Asking — what a sequence of filters adds up to

A condition is demanded besides those there are, accepted in their place, or demanded not to hold.
Calls of these kinds in any sequence add up from the left: each one changes the truth value that the
conditions before it have, and a condition without predicates changes nothing.

* `Formula.value?` — the truth value of a formula, which one without predicates does not have;
* `Ask`, `Query.ask` — one of the three ways to ask for a condition;
* `Ask.step` — what a call makes of the truth value there is;
* `Ask.value?_on` — the step from one call to the next;
* `Query.asks_add_up` — all calls of a sequence, on the conditions as they are written.
-/

namespace ParamSql

variable {α β : Type}

/-! ## Truth values that may be missing -/

namespace Formula

mutual
/-- The truth value of a formula; one without atoms has none, and counts for nothing in a group. -/
def value? (ρ : α → Truth) : Formula α → Option Truth
  | .atom a => some (ρ a)
  | .not f => (f.value? ρ).map Truth.not
  | .all fs => merged ρ Truth.and fs
  | .any fs => merged ρ Truth.or fs

/-- The truth values of the members of a group that have one, combined. -/
def merged (ρ : α → Truth) (op : Truth → Truth → Truth) : List (Formula α) → Option Truth
  | [] => none
  | f :: fs => Option.merge op (f.value? ρ) (merged ρ op fs)
end

variable {ρ : α → Truth}

theorem merged_append {op : Truth → Truth → Truth} [Std.Associative op] (fs gs : List (Formula α)) :
    merged ρ op (fs ++ gs) = Option.merge op (merged ρ op fs) (merged ρ op gs) := by
  induction fs with
  | nil => simp [merged]
  | cons f fs ih =>
      rw [List.cons_append, merged, merged, ih]
      exact (Std.Associative.assoc _ _ _).symm

/-- If the members of a group have a value exactly where they have atoms, the group has the value of
the members that are written. -/
theorem merged_eq {op : Truth → Truth → Truth} {unit : Truth} (hunit : ∀ u, op u unit = u)
    {fs : List (Formula α)}
    (h : ∀ f ∈ fs, f.value? ρ = if f.isEmpty then none else some (f.prune.value ρ)) :
    merged ρ op fs =
      if areEmpty fs then none
      else some (((written fs).map fun f => f.prune.value ρ).foldr op unit) := by
  induction fs with
  | nil => rfl
  | cons f fs ih =>
      have hrest := ih fun g hg => h g (List.mem_cons_of_mem f hg)
      rw [merged, h f List.mem_cons_self, hrest]
      -- a member without atoms counts for nothing, in the value as well as in what is written
      cases hf : f.isEmpty with
      | true => simp [areEmpty, written, hf]
      | false =>
          have hwritten : written (f :: fs) = f :: written fs := by simp [written, hf]
          cases hfs : areEmpty fs with
          | true => simp [areEmpty, hf, hwritten, written_of_areEmpty hfs, hunit]
          | false => simp [areEmpty, hf, hwritten]

/-- A formula has a truth value exactly if it has atoms, and then that of its written form. -/
theorem value?_eq (f : Formula α) :
    f.value? ρ = if f.isEmpty then none else some (f.prune.value ρ) := by
  induction f using Formula.induction with
  | atom a => rfl
  | not f ih =>
      rw [value?, ih, isEmpty]
      cases f.isEmpty <;> simp [prune, value]
  | all fs ih =>
      rw [value?, merged_eq Truth.and_yes ih, isEmpty, value_prune_all]
      rfl
  | any fs ih =>
      rw [value?, merged_eq Truth.or_no ih, isEmpty, value_prune_any]
      rfl

theorem value?_all_append (fs gs : List (Formula α)) :
    (all (fs ++ gs)).value? ρ =
      Option.merge Truth.and ((all fs).value? ρ) ((all gs).value? ρ) :=
  have : Std.Associative Truth.and := ⟨Truth.and_assoc⟩
  merged_append fs gs

@[simp]
theorem value?_all_singleton (f : Formula α) : (all [f]).value? ρ = f.value? ρ := by
  simp [value?, merged]

theorem value?_any_pair (f g : Formula α) :
    (any [f, g]).value? ρ = Option.merge Truth.or (f.value? ρ) (g.value? ρ) := by
  simp [value?, merged]

end Formula

/-! ## Ways to ask -/

/-- A way to ask for a condition. -/
inductive Ask (α : Type)
  | demand (f : Formula α)
  | accept (f : Formula α)
  | refuse (f : Formula α)

namespace Ask

def map (g : α → β) : Ask α → Ask β
  | .demand f => .demand (f.map g)
  | .accept f => .accept (f.map g)
  | .refuse f => .refuse (f.map g)

/-- What becomes of the truth value there is. A missing one takes the value of the condition, and a
condition without a value leaves it as it is. -/
def step (ρ : α → Truth) (value : Option Truth) : Ask α → Option Truth
  | .demand f => Option.merge Truth.and value (f.value? ρ)
  | .accept f => Option.merge Truth.or value (f.value? ρ)
  | .refuse f => Option.merge Truth.and value ((f.value? ρ).map Truth.not)

/-- What becomes of the conditions there are. -/
def on (fs : List (Formula α)) : Ask α → List (Formula α)
  | .demand f => fs ++ [f]
  | .accept f => [if fs.isEmpty then f else .any [.all fs, f]]
  | .refuse f => fs ++ [.not f]

theorem on_map (g : α → β) (fs : List (Formula α)) (a : Ask α) :
    (a.map g).on (fs.map (Formula.map g)) = (a.on fs).map (Formula.map g) := by
  cases a with
  | demand f => simp [on, map]
  | accept f => cases fs <;> simp [on, map, Formula.map]
  | refuse f => simp [on, map, Formula.map]

/-- One call takes the conditions from one value to the next. -/
theorem value?_on (ρ : α → Truth) (fs : List (Formula α)) (a : Ask α) :
    (Formula.all (a.on fs)).value? ρ = a.step ρ ((Formula.all fs).value? ρ) := by
  cases a with
  | demand f => simp [on, step, Formula.value?_all_append]
  | accept f =>
      -- beside nothing that has been asked, a condition stands by itself
      cases fs with
      | nil => simp [on, step, Formula.value?, Formula.merged]
      | cons g gs => simp [on, step, Formula.value?_any_pair]
  | refuse f =>
      rw [on, Formula.value?_all_append, Formula.value?_all_singleton, Formula.value?, step]

theorem value?_foldl_on (ρ : α → Truth) (asks : List (Ask α)) (fs : List (Formula α)) :
    (Formula.all (asks.foldl on fs)).value? ρ =
      asks.foldl (step ρ) ((Formula.all fs).value? ρ) := by
  induction asks generalizing fs with
  | nil => rfl
  | cons a asks ih => rw [List.foldl_cons, ih, value?_on, List.foldl_cons]

end Ask

namespace Query

/-- The query in which a condition is asked for. -/
def ask (q : Query) : Ask (Predicate Query) → Query
  | .demand f => q.filter f
  | .accept f => q.orFilter f
  | .refuse f => q.filterNot f

/-- The query with other conditions. -/
def withConditions (q : Query) (fs : List Condition) : Query :=
  q.modify fun c => { c with conditions := fs }

theorem ask_eq (q : Query) (a : Ask (Predicate Query)) :
    q.ask a = q.withConditions (a.on q.clauses.conditions) := by
  cases a <;> rfl

theorem foldl_ask (asks : List (Ask (Predicate Query))) (q : Query) :
    asks.foldl ask q = q.withConditions (asks.foldl Ask.on q.clauses.conditions) := by
  induction asks generalizing q with
  | nil => cases q; rfl
  | cons a asks ih =>
      rw [List.foldl_cons, ih, ask_eq]
      rfl

end Query

theorem Ask.foldl_on_map (leaf : α → β) (asks : List (Ask α)) (fs : List (Formula α)) :
    (asks.map (Ask.map leaf)).foldl on (fs.map (Formula.map leaf)) =
      (asks.foldl on fs).map (Formula.map leaf) := by
  induction asks generalizing fs with
  | nil => rfl
  | cons a asks ih => rw [List.map_cons, List.foldl_cons, on_map, ih, List.foldl_cons]

/-! ## Conditions as they are written -/

/-- What is written for some conditions: nothing if they have no value, and otherwise, behind a
keyword, words that are read in one way only and have that value. -/
def Columns.Denotes {Q : Type} (cs : Columns) (render : Q → Rendering Draft)
    (leaf : α → Predicate Q) (keyword : String) (value : (α → Truth) → Option Truth)
    (r : Rendering Draft) : Prop :=
  (r = .nothing ∧ ∀ ρ, value ρ = none) ∨
    ∃ ts e, r = .fixed keyword ++ .concat (ts.map (cs.token render leaf)) ∧ Tidy ts ∧
      Derives .disjunction ts e ∧ (∀ e', Derives .disjunction ts e' → e' = e) ∧
      ∀ ρ, value ρ = some (e.value ρ)

theorem Columns.denotes_clauseOf {Q : Type} (cs : Columns) (render : Q → Rendering Draft)
    (leaf : α → Predicate Q) (keyword : String) (fs : List (Formula α)) :
    cs.Denotes render leaf keyword (fun ρ => (Formula.all fs).value? ρ)
      (cs.clauseOf keyword
        ((fs.map (Formula.map leaf)).map (Formula.map (Predicate.map render)))) := by
  have hrestates := cs.restatesAll_clauseOf render keyword (fs.map (Formula.map leaf))
  unfold Columns.RestatesAll at hrestates
  rw [Formula.areEmpty_map] at hrestates
  -- without atoms nothing is written, and otherwise one text, read in one way
  cases hfs : Formula.areEmpty fs with
  | true =>
      rw [if_pos hfs] at hrestates
      exact .inl ⟨hrestates, fun ρ => by simp [Formula.value?_eq, Formula.isEmpty, hfs]⟩
  | false =>
      rw [if_neg (by simp [hfs])] at hrestates
      obtain ⟨body, hbody, hrest⟩ := hrestates
      obtain ⟨ts, e, rfl, htidy, hreading, hunique, hvalue⟩ :=
        hrest α leaf (.all fs) (by simp [Formula.map])
      refine .inr ⟨ts, e, hbody, htidy, hreading, hunique, fun ρ => ?_⟩
      simp [Formula.value?_eq, Formula.isEmpty, hfs, hvalue]

namespace Query

/-- Conditions that are asked for one after another add up from the left, whatever values their
predicates have; the default filters stay as they are.  What is written for all of them has the
value that the calls add up to, and that of the default filters.  Where a column is asked to have a
value that is not given, nothing is asked. -/
theorem asks_add_up (leaf : α → Predicate Query) {q : Query} {fs hs : List (Formula α)}
    (hfs : q.clauses.conditions = fs.map (Formula.map leaf))
    (hhs : q.clauses.scopes.map Scope.condition = hs.map (Formula.map leaf))
    (asks : List (Ask α)) :
    let asked := (asks.map (Ask.map leaf)).foldl ask q
    (∃ gs : List (Formula α),
      asked = q.withConditions (gs.map (Formula.map leaf)) ∧
      ∀ ρ, (Formula.all gs).value? ρ = asks.foldl (Ask.step ρ) ((Formula.all fs).value? ρ)) ∧
    asked.clauses.scopes = q.clauses.scopes ∧
    (∀ naming (cs : Columns) keyword,
      cs.Denotes (rendering naming) leaf keyword
        (fun ρ =>
          Option.merge Truth.and (asks.foldl (Ask.step ρ) ((Formula.all fs).value? ρ))
            ((Formula.all hs).value? ρ))
        (cs.clauseOf keyword
          (foldClauses (Clauses.nested naming) asked.clauses).filters)) ∧
    ∀ column (value : Option Value),
      asked.filterEq? column value =
        (value.toList.map fun v => .demand (Condition.compare column .eq (.value v))).foldl ask
          asked := by
  intro asked
  have hasked : asked = q.withConditions ((asks.foldl Ask.on fs).map (Formula.map leaf)) := by
    rw [← Ask.foldl_on_map, ← hfs]
    exact foldl_ask _ q
  have hvalue : ∀ ρ, (Formula.all (asks.foldl Ask.on fs)).value? ρ =
      asks.foldl (Ask.step ρ) ((Formula.all fs).value? ρ) := fun ρ => Ask.value?_foldl_on ρ asks fs
  have hscopes : asked.clauses.scopes = q.clauses.scopes := by
    rw [hasked]
    rfl
  refine ⟨⟨_, hasked, hvalue⟩, hscopes, fun naming cs keyword => ?_,
    fun column value => by cases value <;> rfl⟩
  -- the default filters are written behind what the calls have left
  have hfilters : asked.clauses.filters =
      (asks.foldl Ask.on fs ++ hs).map (Formula.map leaf) := by
    have hconditions : asked.clauses.conditions =
        (asks.foldl Ask.on fs).map (Formula.map leaf) := by
      rw [hasked]
      rfl
    rw [Clauses.filters, hconditions, hscopes, hhs, List.map_append]
  have hdenotes := cs.denotes_clauseOf (rendering naming) leaf keyword (asks.foldl Ask.on fs ++ hs)
  rw [foldClauses_eq_map, Clauses.filters_map, hfilters]
  simpa only [Formula.value?_all_append, hvalue, rendering] using hdenotes

/-- Orders that are not deleted, with a group without predicates in the place of a condition. -/
def currentOrders : Query :=
  ((Table.named "o").softDelete "gone").query.filter (.all [])

/-- The predicate that a column of the orders is null. -/
def missing (column : String) : Predicate Query :=
  .nullCheck (.parse column) true

theorem asks_add_up_currentOrders :
    currentOrders.clauses.conditions = [Formula.all []].map (Formula.map missing) ∧
    currentOrders.clauses.scopes.map Scope.condition =
      [Formula.atom "gone"].map (Formula.map missing) ∧
    ∃ gs : List (Formula String),
      ([.demand (.atom "paid"), .refuse (.any []), .accept (.atom "sent"),
          .refuse (.atom "void")].map (Ask.map missing)).foldl ask currentOrders =
        currentOrders.withConditions (gs.map (Formula.map missing)) ∧
      ∀ ρ, (Formula.all gs).value? ρ =
        some (((ρ "paid").or (ρ "sent")).and (ρ "void").not) := by
  have hconditions : currentOrders.clauses.conditions =
      [Formula.all []].map (Formula.map missing) := rfl
  have hscopes : currentOrders.clauses.scopes.map Scope.condition =
      [Formula.atom "gone"].map (Formula.map missing) := rfl
  obtain ⟨⟨gs, hasked, hvalue⟩, -⟩ := asks_add_up missing hconditions hscopes
    [.demand (.atom "paid"), .refuse (.any []), .accept (.atom "sent"), .refuse (.atom "void")]
  exact ⟨hconditions, hscopes, gs, hasked, hvalue⟩

end Query
end ParamSql
