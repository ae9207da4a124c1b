import ParamSql.Proofs.Sql.Statements
import ParamSql.Sql.Compiled

/-!
# Rendered — whole queries respect correspondences

A query is written with the queries inside it, and with its appended statements.

* `Query.Supplies i q` — `i` is an ingredient of `q`, of a query inside `q` or of an appended one;
* `Query.chainOf write q` — the chain of common table expressions of `q`, whose statements are
  written by `write`;
* `Query.Exchanges` — a function exchanges the values in a query, as `Query.revalue` does;
* `Correspondence.chainOf` — chains respect correspondences that relate their statements;
* `Correspondence.rendered` — so do whole queries, by induction on the queries inside them.
-/

namespace ParamSql

/-! ## Generated names -/

namespace Aliases

theorem mem_generate {a : Aliases} {n : Nat} {name : String} (h : name ∈ a.generate n) :
    ∃ index, name = nameAt index := by
  induction n generalizing a with
  | zero => cases h
  | succ n ih =>
      rcases List.mem_cons.1 h with hfirst | hrest
      · exact ⟨_, hfirst⟩
      · exact ih hrest

@[simp]
theorem length_generate (a : Aliases) (n : Nat) : (a.generate n).length = n := by
  induction n generalizing a with
  | zero => rfl
  | succ n ih => simp [generate, ih]

end Aliases

namespace Query

/-- What a query supplies to its statement, at any depth. -/
inductive Supplies (i : Ingredient Query) : Query → Prop
  | own {c : Clauses Query} {as : List (Appended Query)} (h : i ∈ c.ingredients) :
      Supplies i (.of c as)
  | inner {c : Clauses Query} {as : List (Appended Query)} {q : Query}
      (hq : .query q ∈ c.ingredients) (h : Supplies i q) : Supplies i (.of c as)
  | appended {c : Clauses Query} {as : List (Appended Query)} {a : Appended Query} (ha : a ∈ as)
      (h : Supplies i a.query) : Supplies i (.of c as)

/-- What holds of the ingredients of a query, and of what the queries inside it and the appended
ones supply, holds of all that it supplies. -/
theorem forall_supplies {P : Ingredient Query → Prop} {q : Query}
    (hown : ∀ i ∈ q.clauses.ingredients, P i)
    (hinner : ∀ r, .query r ∈ q.clauses.ingredients → ∀ i, r.Supplies i → P i)
    (happended : ∀ a ∈ q.appended, ∀ i, a.query.Supplies i → P i) : ∀ i, q.Supplies i → P i := by
  intro i hi
  cases hi with
  | own h => exact hown i h
  | inner hq h => exact hinner _ hq i h
  | appended ha h => exact happended _ ha i h

/-- The clauses of a query supply nothing that the query does not. -/
theorem supplies_clauses {i : Ingredient Query} {q : Query} (h : (of q.clauses []).Supplies i) :
    q.Supplies i := by
  rcases q with ⟨c, as⟩
  cases h with
  | own h => exact .own h
  | inner hq h => exact .inner hq h
  | appended ha h => cases ha

theorem dependents_of (c : Clauses Query) (as : List (Appended Query)) :
    (of c as).dependents =
      as.flatMap fun a => ⟨a.query.clauses, a.required⟩ :: a.query.dependents := by
  rw [dependents]
  induction as with
  | nil => rfl
  | cons a rest ih =>
      rcases a with ⟨q, required⟩
      simp [dependentsOf, ih]

/-- The appended statements supply nothing that the query does not. -/
theorem supplies_dependent {i : Ingredient Query} {q : Query} :
    ∀ d ∈ q.dependents, (of d.clauses []).Supplies i → q.Supplies i := by
  -- by induction on the query: the appended statements of an appended one are appended as well
  induction q using Query.induction with
  | step c as _ ih =>
      intro d hd hi
      rw [dependents_of, List.mem_flatMap] at hd
      rcases hd with ⟨a, ha, hd⟩
      refine .appended ha ?_
      rcases List.mem_cons.1 hd with rfl | hd
      · exact supplies_clauses hi
      · exact ih a ha d hd hi

/-! ## Chains -/

section Chain

variable {ω : Type} [Output ω] (write : Clauses Query → Rendering ω)

/-- A statement as a common table expression. -/
def memberOf (name : String) (c : Clauses Query) : Rendering ω :=
  .name name ++ .fixed " AS " ++ .bracketed (write c)

/-- The statements of a chain with their names: the appended ones, and the query's own. -/
def namedMembers (q : Query) : List (String × Clauses Query) :=
  let names := (reservedNames q).foldl Aliases.reserve .empty
  let aliases := names.generate (q.dependents.length + 1)
  (aliases.zip q.dependents).map (fun (name, d) => (name, d.clauses)) ++
    [(aliases.getLastD "", q.clauses)]

/-- The names of the required statements of a chain. -/
def requiredNames (q : Query) : List String :=
  let names := (reservedNames q).foldl Aliases.reserve .empty
  let aliases := names.generate (q.dependents.length + 1)
  ((aliases.zip q.dependents).filter fun (_, d) => d.required).map Prod.fst

/-- The name of the query's own statement in a chain. -/
def mainName (q : Query) : String :=
  let names := (reservedNames q).foldl Aliases.reserve .empty
  (names.generate (q.dependents.length + 1)).getLastD ""

/-- A chain whose statements are written by `write`. -/
def chainOf (q : Query) : Rendering ω :=
  Rendering.fixed "WITH " ++
    Rendering.commas (q.namedMembers.map fun (name, c) => memberOf write name c) ++
    Rendering.fixed " SELECT * FROM " ++ Rendering.name q.mainName ++ guards q.requiredNames

theorem chain_eq (naming : Naming) (q : Query) :
    (chain naming q : Rendering ω) = chainOf (statement naming true) q := by
  simp only [chain, chainOf, namedMembers, List.map_append, List.map_map, List.map_cons,
    List.map_nil]
  rfl

/-- The names in a chain are generated ones. -/
theorem names_of_chain (q : Query) :
    (∀ member ∈ q.namedMembers, ∃ index, member.1 = Aliases.nameAt index) ∧
      (∀ name ∈ q.requiredNames, ∃ index, name = Aliases.nameAt index) ∧
      ∃ index, q.mainName = Aliases.nameAt index := by
  have hmain : ∃ index, q.mainName = Aliases.nameAt index := by
    unfold mainName
    generalize hnames : ((reservedNames q).foldl Aliases.reserve .empty) = names
    -- a name is left for the query itself
    have hne : names.generate (q.dependents.length + 1) ≠ [] := by
      simp [← List.length_eq_zero_iff]
    rw [List.getLastD_eq_getLast?, List.getLast?_eq_getLast_of_ne_nil hne]
    exact Aliases.mem_generate (List.getLast_mem hne)
  refine ⟨?_, ?_, hmain⟩
  · intro member hmember
    rcases List.mem_append.1 hmember with hdependent | hlast
    · rcases List.mem_map.1 hdependent with ⟨⟨name, d⟩, hzip, rfl⟩
      exact Aliases.mem_generate (List.of_mem_zip hzip).1
    · rw [List.mem_singleton.1 hlast]
      exact hmain
  · intro name hname
    rcases List.mem_map.1 hname with ⟨⟨name, d⟩, hfilter, rfl⟩
    exact Aliases.mem_generate (List.of_mem_zip (List.mem_filter.1 hfilter).1).1

/-- The statements of a chain are the query's own and the appended ones. -/
theorem mem_namedMembers {q : Query} {member : String × Clauses Query}
    (h : member ∈ q.namedMembers) :
    member.2 = q.clauses ∨ ∃ d ∈ q.dependents, member.2 = d.clauses := by
  rcases List.mem_append.1 h with hdependent | hlast
  · rcases List.mem_map.1 hdependent with ⟨⟨name, d⟩, hzip, rfl⟩
    exact .inr ⟨d, (List.of_mem_zip hzip).2, rfl⟩
  · exact .inl (by rw [List.mem_singleton.1 hlast])

end Chain

/-- The names that a statement refers to are not those of the queries in it. -/
theorem ownNames_map {Q : Type} (f : Q → Query) (c : Clauses Q) :
    ownNames (c.map f) = c.reference?.toList ++ c.ctes.map Cte.name := by
  have hreference : (c.map f).reference? = c.reference? := by
    rcases c with ⟨source⟩
    cases source <;> rfl
  have hctes : (c.map f).ctes.map Cte.name = c.ctes.map Cte.name := by
    simp [Clauses.map, Cte.map, Function.comp_def]
  rw [ownNames, hreference, hctes]

/-! ## Exchanging values -/

/-- A function on queries exchanges all values that are bound in them. -/
def Exchanges (r : Revaluation) (change : Query → Query) : Prop :=
  ∀ c as, change (of c as) = of ((c.revalue r).map change) (as.map (Appended.map change))

theorem exchanges_revalue (r : Revaluation) : Exchanges r (revalue r) := by
  intro c as
  rw [revalue_of, Clauses.revalue_map]

theorem exchanges_id : Exchanges .same id := by
  intro c as
  have happended : as.map (Appended.map id) = as := List.map_id as
  rw [Clauses.revalue_same, Clauses.map_id, happended, id]

namespace Exchanges

variable {r : Revaluation} {change : Query → Query} (h : Exchanges r change)
include h

theorem clauses (q : Query) : (change q).clauses = (q.clauses.revalue r).map change := by
  rcases q with ⟨c, as⟩
  rw [h c as]
  rfl

theorem appended (q : Query) : (change q).appended = q.appended.map (Appended.map change) := by
  rcases q with ⟨c, as⟩
  rw [h c as]
  rfl

theorem dependents (q : Query) :
    (change q).dependents =
      q.dependents.map fun d => ⟨(d.clauses.revalue r).map change, d.required⟩ := by
  induction q using Query.induction with
  | step c as _ ih =>
      rw [h c as, dependents_of, dependents_of, List.flatMap_map, List.map_flatMap]
      refine List.flatMap_congr fun a ha => ?_
      simp [Appended.map, h.clauses, ih a ha]

/-- Generated names have nothing to do with values. -/
theorem reservedNames (q : Query) : (change q).reservedNames = q.reservedNames := by
  have hown (c : Clauses Query) : ownNames ((c.revalue r).map change) = ownNames c := by
    have hreference : (c.revalue r).reference? = c.reference? := by
      rcases c with ⟨source⟩
      cases source <;> rfl
    rw [ownNames_map, hreference]
    simp [ownNames, Cte.revalue, Function.comp_def]
  simp only [Query.reservedNames, h.clauses, h.dependents, hown, List.flatMap_map]

theorem chainOf {ω : Type} [Output ω] (write : Clauses Query → Rendering ω) (q : Query) :
    (change q).chainOf write = q.chainOf fun c => write ((c.revalue r).map change) := by
  simp [Query.chainOf, namedMembers, requiredNames, mainName, h.clauses, h.dependents,
    h.reservedNames, List.zip_map_right, List.filter_map, Function.comp_def, memberOf]

end Exchanges

end Query

namespace Correspondence

/-! ## Chains respect correspondences -/

section Chain

variable {Q ω ω' : Type} [Output ω] [Output ω'] [LawfulOutput ω] [LawfulOutput ω']
variable {C : Correspondence Q ω ω'}

theorem guards {names : List String} (h : ∀ name ∈ names, C.led [] (.name name) (.name name)) :
    C.free [] (Query.guards names) (Query.guards names) := by
  have hguard : ∀ name ∈ names, C.led [] (Query.guardCondition name)
      (Query.guardCondition name) := fun name hname =>
    C.led_of_free (append_left (C.opening (by simp [openers]) (h name hname))
      (C.closing (by simp [closers, notFoundMarker])))
  have hguards := led_cast (separated (s := " AND ") (by simp [openers]) hguard)
    (List.flatMap_eq_nil_iff.2 fun _ _ => rfl)
  exact free_ite C.nothing (C.opening (by simp [openers]) hguards)

/-- Chains are related if their statements are. -/
theorem chainOf (queries : Clauses Query → List Q) {write : Clauses Query → Rendering ω}
    {write' : Clauses Query → Rendering ω'} {q : Query}
    (halias : ∀ index, C.led [] (.name (Aliases.nameAt index)) (.name (Aliases.nameAt index)))
    (h : ∀ member ∈ q.namedMembers,
      C.begun (queries member.2) (write member.2) (write' member.2)) :
    C.begun (q.namedMembers.flatMap fun member => queries member.2) (q.chainOf write)
      (q.chainOf write') := by
  rcases q.names_of_chain with ⟨hnames, hrequired, mainIndex, hmain⟩
  -- a statement stands in brackets, so that it may be anything that is led
  have hmember : ∀ member ∈ q.namedMembers, C.led (queries member.2)
      (Query.memberOf write member.1 member.2) (Query.memberOf write' member.1 member.2) := by
    intro member hmember
    rcases hnames member hmember with ⟨index, hindex⟩
    have hname : C.led [] (.name member.1) (.name member.1) := hindex ▸ halias index
    have hstatement := C.led_of_begun (h member hmember)
    exact append_opening hname (by simp [openers]) (C.led_of_free (bracketed hstatement))
  have hname : C.led [] (.name q.mainName) (.name q.mainName) := hmain ▸ halias mainIndex
  have hselected := C.opening (s := " SELECT * FROM ") (by simp [openers]) hname
  have hguards := guards (C := C) fun name hname => by
    rcases hrequired name hname with ⟨index, hindex⟩
    exact hindex ▸ halias index
  have hmembers := C.starting (s := "WITH ") (by simp [starters]) (commas hmember)
  have hall := begun_append_left (begun_append_left hmembers hselected) hguards
  simpa only [Query.chainOf, Rendering.append_assoc] using hall

end Chain

/-! ## Queries respect correspondences -/

section Queries

variable {ω ω' : Type} [Output ω] [Output ω'] [LawfulOutput ω] [LawfulOutput ω']
variable {C : Correspondence Query ω ω'} {change : Query → Query}

variable (C) in
/-- The names and fragments that the relation is about. -/
def Supports : Ingredient Query → Prop
  | .name s => C.names s
  | .fragment f => C.fragments f
  | .query _ => True

/-- If it does not matter which queries stand in a part, the queries inside a statement are related
as soon as what they supply is supported. -/
theorem rendering (hchange : Query.Exchanges C.values change)
    (huniform : ∀ {l m x y}, C.begun l x y → C.begun m x y) (naming : Naming) {q : Query}
    (h : ∀ i, q.Supplies i → C.Supports i) :
    C.begun [q] (q.rendering naming) ((change q).rendering naming) := by
  -- by induction on the query, which supplies what the queries inside it supply
  induction q using Query.induction with
  | step c as hinner _ =>
      have hadmits : ∀ i ∈ c.ingredients,
          C.Admits (Query.rendering naming) (Query.rendering naming ∘ change) i := by
        intro i hi
        cases i with
        | name s => exact h _ (.own hi)
        | fragment f => exact h _ (.own hi)
        | query r => exact hinner r hi fun j hj => h j (.inner hi hj)
      have hstatement := huniform (m := [.of c as]) (statement hadmits naming false)
      rw [← Clauses.map_map] at hstatement
      -- a query with appended statements is not written inside another one
      simp only [hchange c as, Query.rendering, Query.fold_of, Clauses.nested, Rendering.delayed_eq,
        List.isEmpty_map] at hstatement ⊢
      exact begun_ite hstatement (C.begun_fault _ _)

/-- The statement of clauses whose supplies are supported. -/
theorem queryStatement (hchange : Query.Exchanges C.values change)
    (huniform : ∀ {l m x y}, C.begun l x y → C.begun m x y) (naming : Naming) (inCte : Bool)
    {c : Clauses Query} (h : ∀ i, (Query.of c []).Supplies i → C.Supports i) (l : List Query) :
    C.begun l (Query.statement naming inCte c)
      (Query.statement naming inCte ((c.revalue C.values).map change)) := by
  have hadmits : ∀ i ∈ c.ingredients,
      C.Admits (Query.rendering naming) (Query.rendering naming ∘ change) i := by
    intro i hi
    cases i with
    | name s => exact h _ (.own hi)
    | fragment f => exact h _ (.own hi)
    | query r => exact rendering hchange huniform naming fun j hj => h j (.inner hi hj)
  have hstatement := huniform (m := l) (statement hadmits naming inCte)
  rw [← Clauses.map_map] at hstatement
  simp only [Query.statement, Query.foldClauses_eq_map]
  exact hstatement

/-- Whole queries are related as soon as what they supply is supported. -/
theorem rendered (hchange : Query.Exchanges C.values change)
    (huniform : ∀ {l m x y}, C.begun l x y → C.begun m x y)
    (halias : ∀ index, C.led [] (.name (Aliases.nameAt index)) (.name (Aliases.nameAt index)))
    (naming : Naming) {q : Query} (h : ∀ i, q.Supplies i → C.Supports i) :
    C.begun [q] (q.rendered naming) ((change q).rendered naming) := by
  -- the clauses supply what the query does
  have hclauses : ∀ i, (Query.of q.clauses []).Supplies i → C.Supports i :=
    fun i hi => h i (Query.supplies_clauses hi)
  simp only [Query.rendered, hchange.appended, hchange.clauses, List.isEmpty_map, Query.chain_eq,
    hchange.chainOf]
  refine begun_ite (queryStatement hchange huniform naming false hclauses _)
    (huniform (chainOf (fun _ => []) halias ?_))
  intro member hmember
  refine queryStatement hchange huniform naming true (fun i hi => ?_) []
  rcases Query.mem_namedMembers hmember with hown | ⟨d, hd, hdependent⟩
  · exact hclauses i (hown ▸ hi)
  · exact h i (Query.supplies_dependent d hd (hdependent ▸ hi))

end Queries
end Correspondence

/-! ## Compilation -/

/-- A query is compiled if it can be written and does not bind too many values. -/
theorem Query.compile_eq_ok_iff {q : Query} {options : CompileOptions} {c : Compiled} :
    q.compile options = .ok c ↔
      ∃ ls, (q.rendered options.naming : Rendering (List Lexeme)).result = .ok ls ∧
        (Lexeme.params ls).length ≤ options.maxParams ∧
          c = ⟨Lexeme.text ls, Lexeme.params ls, q.isGuarded⟩ := by
  unfold compile
  cases hls : (q.rendered options.naming : Rendering (List Lexeme)).result with
  | error f =>
      constructor
      · intro h
        cases h
      · rintro ⟨ls, hfalse, -⟩
        cases hfalse
  | ok ls =>
      change (if (Lexeme.params ls).length ≤ options.maxParams then
        (.ok ⟨Lexeme.text ls, Lexeme.params ls, q.isGuarded⟩ : Except CompileFault Compiled)
          else _) = _ ↔ _
      constructor
      · intro h
        split at h
        case isTrue hlimit =>
          cases h
          exact ⟨ls, rfl, hlimit, rfl⟩
        case isFalse => cases h
      · rintro ⟨ms, hms, hlimit, rfl⟩
        cases hms
        rw [if_pos hlimit]

end ParamSql
