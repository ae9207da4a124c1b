import Mathlib.Algebra.GroupWithZero.Nat
import ParamSql.Error
import ParamSql.Proofs.Sql.Link
import ParamSql.Proofs.Sql.Soundness
import ParamSql.Proofs.Sql.Within

/-!
# WellFormed — the queries that compile

A query compiles if every statement that is written for it is well formed, and not too many values
are bound in all of them.

* `Rendering.Traces` — a fault in a statement is one of its own or one of a query inside it;
* `Clauses.IsWellFormed` — the names of a statement can be quoted, the queries in it stand alone,
  and a change is sound and guarded;
* `Query.exists_result_statement_iff`, `Query.bound_statement`, `Query.guard_statement` — a
  statement is written if all statements in it are well formed, by induction on the queries inside
  it;
* `Query.compiles_iff_well_formed` — a query compiles exactly if what is written for it is well
  formed.
-/

namespace ParamSql

variable {Q : Type}

/-! ## Faults in outlines -/

/-- The values of filled places are counted behind those between the places. -/
theorem Slot.length_params_fill (lexemes : Q → List Lexeme) (slots : List (Slot Q)) :
    (Lexeme.params (fill lexemes slots)).length =
      bound slots + ((queries slots).map fun q => (Lexeme.params (lexemes q)).length).sum := by
  induction slots with
  | nil => rfl
  | cons slot slots ih =>
      cases slot with
      | lexeme l =>
          have hbound : bound (lexeme l :: slots) = (Lexeme.params [l]).length + bound slots :=
            bound_append [lexeme l] slots
          have hfill : fill lexemes (lexeme l :: slots) = [l] ++ fill lexemes slots := rfl
          have hqueries : queries (lexeme l :: slots) = queries slots := rfl
          rw [hfill, Lexeme.params_append, List.length_append, ih, hbound, hqueries, Nat.add_assoc]
      | query q =>
          have hbound : bound (query q :: slots) = bound slots := by simp [bound]
          rw [fill_query, Lexeme.params_append, List.length_append, ih, hbound, queries_query,
            List.map_cons, List.sum_cons, Nat.add_left_comm]

namespace Rendering

/-- `y` is `x` with its places filled, and a fault in `y` is one in `x` or in a query at one of the
places. -/
structure Traces (ρ : Q → Rendering (List Lexeme)) (qs : List Q) (x : Rendering (List (Slot Q)))
    (y : Rendering (List Lexeme)) : Prop extends Fills ρ qs x y where
  blame : ∀ f, y.result = .error f → x.result = .error f ∨ ∃ q ∈ qs, (ρ q).result = .error f

namespace Traces

variable {ρ : Q → Rendering (List Lexeme)} {qs rs : List Q}
variable {x x' : Rendering (List (Slot Q))} {y y' : Rendering (List Lexeme)}

theorem lexemes (ls : List Lexeme) : Traces ρ [] (.lexemes ls) (.lexemes ls) :=
  ⟨.lexemes ls, fun f hf => by cases hf⟩

theorem fault (qs : List Q) (f : CompileFault) : Traces ρ qs (.fault f) (.fault f) :=
  ⟨.fault qs f, fun g hg => .inl (by cases hg; rfl)⟩

theorem name (s : String) : Traces ρ [] (.name s) (.name s) := by
  unfold Rendering.name
  cases Identifier.of s with
  | error f => exact .fault [] _
  | ok i => exact .lexemes _

theorem path (s : String) : Traces ρ [] (.path s) (.path s) := by
  unfold Rendering.path
  cases Path.of s with
  | error f => exact .fault [] _
  | ok p => exact .lexemes _

theorem append (h : Traces ρ qs x y) (h' : Traces ρ rs x' y') :
    Traces ρ (qs ++ rs) (x ++ x') (y ++ y') where
  toFills := h.toFills.append h'.toFills
  blame f hf := by
    -- the second part has the fault only if the first one is written
    rcases result_append_eq_error hf with hf | ⟨⟨ls, hls⟩, hf⟩
    · rcases h.blame f hf with hx | ⟨q, hq, hqf⟩
      · exact .inl (result_append_error x' hx)
      · exact .inr ⟨q, List.mem_append_left rs hq, hqf⟩
    · rcases h'.blame f hf with hx' | ⟨q, hq, hqf⟩
      · rcases (h.written ls hls).1 with ⟨slots, hslots⟩
        exact .inl (result_append_ok_error hslots hx')
      · exact .inr ⟨q, List.mem_append_right qs hq, hqf⟩

theorem place (q : Q) : Traces ρ [q] (Slot.place q) (ρ q) :=
  ⟨.place q, fun _ hf => .inr ⟨q, List.mem_singleton_self q, hf⟩⟩

variable {p : Prop} {needs : List Need}

/-- What an outline takes, the statement takes besides its queries. -/
theorem exists_result_iff (h : Traces ρ qs x y) (hx : x.Takes p needs) :
    (∃ ls, y.result = .ok ls) ↔ (p ∧ ∀ n ∈ needs, n.IsMet) ∧ ∀ q ∈ qs, (ρ q).IsWritten := by
  rw [← hx.written]
  constructor
  · rintro ⟨ls, hls⟩
    exact h.written ls hls
  · rintro ⟨⟨slots, hslots⟩, hwritten⟩
    exact ⟨_, h.fill slots hslots hwritten⟩

theorem length_params (h : Traces ρ qs x y) (hx : x.Takes p needs) {ls : List Lexeme}
    (hls : y.result = .ok ls) :
    (Lexeme.params ls).length =
      Need.values needs + (qs.map fun q => (Lexeme.params (ρ q).lexemesOf).length).sum := by
  rcases h.written ls hls with ⟨⟨slots, hslots⟩, hwritten⟩
  have hfill := h.fill slots hslots hwritten
  rw [hls] at hfill
  rw [Except.ok.inj hfill, Slot.length_params_fill, hx.bound slots hslots, h.places slots hslots]

/-- The fault of an unguarded change is that of one of the queries. -/
theorem exists_guard (h : Traces ρ qs x y) (hx : x.Takes p needs) {f : CompileFault}
    (hf : y.result = .error f) (hguard : f.isGuard = true) : ∃ q ∈ qs, (ρ q).result = .error f := by
  rcases h.blame f hf with hfault | hquery
  · simp [hx.plain f hfault] at hguard
  · exact hquery

end Traces
end Rendering

/-- The faults of statements are those of their outlines and of the queries in them. -/
def Agreement.tracing (ρ : Q → Rendering (List Lexeme)) :
    Agreement Q (List (Slot Q)) (List Lexeme) where
  names _ := True
  fragments _ := True
  free qs x y := Rendering.Traces ρ qs x y
  led qs x y := Rendering.Traces ρ qs x y
  led_of_free h := h
  nothing := .lexemes []
  fault := .fault
  behind _ h := (Rendering.Traces.lexemes _).append h
  append h h' := h.append h'
  led_append h h' := h.append h'
  bind _ := .lexemes _
  fragment _ := .lexemes _
  name _ := .name _
  path _ := .path _
  physical _ _ := trivial
  qualified _ _ := trivial
  parsed := @ColumnRef.parsed_anything

theorem Clauses.statement_traces (ρ : Q → Rendering (List Lexeme)) (naming : Naming) (inCte : Bool)
    (c : Clauses Q) :
    Rendering.Traces ρ c.subqueries ((c.map Slot.place).statement naming inCte)
      ((c.map ρ).statement naming inCte) := by
  have hadmits : ∀ i ∈ c.ingredients, (Agreement.tracing ρ).Admits Slot.place ρ i := by
    intro i _
    cases i with
    | query q => exact .place q
    | name s => trivial
    | fragment f => trivial
  exact Agreement.statement hadmits naming inCte

/-! ## Statements -/

/-- A statement is well formed if the names in it can be quoted, nothing is appended to the queries
in it, and a change is sound and guarded. -/
structure Clauses.IsWellFormed (naming : Naming) (c : Clauses Query) : Prop where
  names : ∀ s, .name s ∈ c.needs naming → s ≠ "" ∧ '\x00' ∉ s.toList
  alone : ∀ q ∈ c.subqueries, q.appended = []
  sound : c.IsSound
  guarded : c.isChange = true → c.all = true ∨ ∃ f ∈ c.demands, f.atoms ≠ []

namespace Query

variable {naming : Naming}

theorem guarded_iff {c : Clauses Query} :
    (c.isChange = true → (c.isNarrowed || c.all) = true) ↔
      (c.isChange = true → c.all = true ∨ ∃ f ∈ c.demands, f.atoms ≠ []) := by
  rw [Bool.or_eq_true, Clauses.isNarrowed_iff, or_comm]

theorem met_iff {needs : List Need} :
    (∀ n ∈ needs, n.IsMet) ↔ ∀ s, .name s ∈ needs → s ≠ "" ∧ '\x00' ∉ s.toList := by
  constructor
  · exact fun h s hs => h _ hs
  · intro h n hn
    cases n with
    | name s => exact h s hn
    | value => trivial

/-- A query inside a statement is written if it stands alone and its statement is written. -/
theorem isWritten_rendering_iff {q : Query} :
    (q.rendering naming).IsWritten ↔ q.appended = [] ∧
      ∃ ls, (statement naming false q.clauses : Rendering (List Lexeme)).result = .ok ls := by
  constructor
  · intro h
    rcases rendering_eq_ok h with ⟨happended, hstatement⟩
    exact ⟨happended, _, hstatement⟩
  · rintro ⟨happended, ls, hls⟩
    rw [rendering_eq_statement happended]
    exact Rendering.isWritten_of hls

/-- The fault of an unguarded change in a query is one in its statement. -/
theorem guard_rendering {q : Query} {f : CompileFault}
    (h : (q.rendering naming : Rendering (List Lexeme)).result = .error f) (hf : f.isGuard = true) :
    (statement naming false q.clauses : Rendering (List Lexeme)).result = .error f := by
  by_cases happended : q.appended = []
  case pos => rwa [rendering_eq_statement happended] at h
  case neg =>
    -- a query that does not stand alone fails for that
    rcases q with ⟨c, _ | ⟨a, as⟩⟩
    · exact absurd rfl happended
    · simp only [rendering, fold_of, Clauses.nested, Rendering.delayed_eq] at h
      cases h
      cases hf

/-- What a statement takes, besides the statements of the queries in it. -/
theorem exists_result_iff (inCte : Bool) (c : Clauses Query) :
    (∃ ls, (statement naming inCte c : Rendering (List Lexeme)).result = .ok ls) ↔
      c.IsWellFormed naming ∧ ∀ q ∈ c.subqueries,
        ∃ ls, (statement naming false q.clauses : Rendering (List Lexeme)).result = .ok ls := by
  have htraces := c.statement_traces (rendering naming) naming inCte
  rw [← statement_eq_map] at htraces
  by_cases hguard : c.isChange = true → (c.isNarrowed || c.all) = true
  case pos =>
    rw [htraces.exists_result_iff (c.takes_statement naming inCte hguard), met_iff]
    simp only [isWritten_rendering_iff]
    constructor
    · rintro ⟨⟨hsound, hnames⟩, hqueries⟩
      exact ⟨⟨hnames, fun q hq => (hqueries q hq).1, hsound, guarded_iff.1 hguard⟩,
        fun q hq => (hqueries q hq).2⟩
    · rintro ⟨⟨hnames, halone, hsound, -⟩, hqueries⟩
      exact ⟨⟨hsound, hnames⟩, fun q hq => ⟨halone q hq, hqueries q hq⟩⟩
  case neg =>
    -- an unguarded change is neither written nor well formed
    constructor
    · rintro ⟨ls, hls⟩
      rw [Classical.not_imp, Bool.not_eq_true] at hguard
      exact absurd hls (statement_unguarded inCte hguard.1 hguard.2 ls)
    · rintro ⟨hwell, -⟩
      exact absurd (guarded_iff.2 hwell.guarded) hguard

/-- A statement is written if all statements in it are well formed. -/
theorem exists_result_statement_iff (inCte : Bool) (c : Clauses Query) :
    (∃ ls, (statement naming inCte c : Rendering (List Lexeme)).result = .ok ls) ↔
      ∀ d ∈ c.nodes, d.IsWellFormed naming := by
  -- along the recursion of the statements: the queries in one come before it
  induction c using Clauses.nodes.induct generalizing inCte with
  | case1 c ih =>
      rw [exists_result_iff, Clauses.nodes_eq, List.forall_mem_cons, List.forall_mem_flatMap]
      exact and_congr_right' (forall₂_congr fun q hq => ih q hq false)

/-- As many values are bound in a statement as all statements in it need. -/
theorem bound_statement {inCte : Bool} {c : Clauses Query} {ls : List Lexeme}
    (h : (statement naming inCte c : Rendering (List Lexeme)).result = .ok ls) :
    (Lexeme.params ls).length = (c.nodes.map fun d => Need.values (d.needs naming)).sum := by
  induction c using Clauses.nodes.induct generalizing inCte ls with
  | case1 c ih =>
      have hwell := ((exists_result_iff inCte c).1 ⟨ls, h⟩).1
      have htraces := c.statement_traces (rendering naming) naming inCte
      rw [← statement_eq_map] at htraces
      have htakes := c.takes_statement naming inCte (guarded_iff.2 hwell.guarded)
      have hqueries : ∀ q ∈ c.subqueries, (Lexeme.params (q.rendering naming).lexemesOf).length =
          (q.clauses.nodes.map fun d => Need.values (d.needs naming)).sum := fun q hq =>
        ih q hq (rendering_eq_ok ((htraces.written ls h).2 q hq)).2
      rw [htraces.length_params htakes h, Clauses.nodes_eq, List.map_cons, List.sum_cons,
        List.map_flatMap, List.flatMap_def, List.sum_flatten, List.map_map,
        List.map_congr_left hqueries]
      rfl

/-- Only an unguarded change among the statements in it makes a statement fail for that. -/
theorem guard_statement {inCte : Bool} {c : Clauses Query} {f : CompileFault}
    (h : (statement naming inCte c : Rendering (List Lexeme)).result = .error f)
    (hf : f.isGuard = true) :
    ∃ d ∈ c.nodes, d.isChange = true ∧ d.all = false ∧ ∀ f ∈ d.demands, f.atoms = [] := by
  induction c using Clauses.nodes.induct generalizing inCte with
  | case1 c ih =>
      rw [Clauses.nodes_eq]
      by_cases hguard : c.isChange = true → (c.isNarrowed || c.all) = true
      case pos =>
        have htraces := c.statement_traces (rendering naming) naming inCte
        rw [← statement_eq_map] at htraces
        rcases htraces.exists_guard (c.takes_statement naming inCte hguard) h hf with ⟨q, hq, hqf⟩
        rcases ih q hq (guard_rendering hqf hf) with ⟨d, hd, hunguarded⟩
        exact ⟨d, List.mem_cons_of_mem c (List.mem_flatMap.2 ⟨q, hq, hd⟩), hunguarded⟩
      case neg =>
        refine ⟨c, List.mem_cons_self, ?_⟩
        rw [guarded_iff] at hguard
        push Not at hguard
        simpa using hguard

/-! ## Chains -/

theorem takes_alias (index : Nat) :
    (Rendering.name (Aliases.nameAt index) : Rendering (List (Slot Q))).Takes True [] := by
  rw [Aliases.name_nameAt]
  exact .lexemes (by simp) rfl

theorem takes_guards {names : List String}
    (h : ∀ name ∈ names, ∃ index, name = Aliases.nameAt index) :
    (guards names : Rendering (List (Slot Q))).Takes True [] := by
  have hcondition : ∀ name ∈ names,
      (guardCondition name : Rendering (List (Slot Q))).Takes True [] := by
    intro name hname
    rcases h name hname with ⟨index, rfl⟩
    exact ((takes_alias index).behind _).before _
  have hconditions := (Rendering.Takes.separated " AND " hcondition).cast
    (List.flatMap_eq_nil_iff.2 fun _ _ => rfl)
  exact .ite (fun _ => .nothing) fun _ => hconditions.behind " WHERE "

/-- A chain takes nothing but its statements. -/
theorem takes_chainOf (q : Query) : (q.chainOf Slot.place).Takes True [] := by
  rcases q.names_of_chain with ⟨hnames, hrequired, main, hmain⟩
  have hmember : ∀ member ∈ q.namedMembers,
      (memberOf Slot.place member.1 member.2).Takes True [] := by
    intro member hmember
    rcases hnames member hmember with ⟨index, hindex⟩
    rw [memberOf, hindex]
    exact ((takes_alias index).before " AS ").append (Rendering.Takes.place member.2).bracketed
  have hmembers := (Rendering.Takes.commas hmember).cast
    (List.flatMap_eq_nil_iff.2 fun _ _ => rfl)
  rw [chainOf, hmain]
  exact (((hmembers.behind "WITH ").before " SELECT * FROM ").append (takes_alias main)).append
    (takes_guards hrequired)

/-- The faults of a chain are those of its statements. -/
theorem chain_traces (naming : Naming) (q : Query) :
    Rendering.Traces (statement naming true) q.members (q.chainOf Slot.place) (chain naming q) := by
  have hmembers : (q.namedMembers.flatMap fun member => [member.2]) = q.members := by
    simp [members, List.map_eq_flatMap]
  have htraces := Agreement.chainOf (A := Agreement.tracing (statement naming true)) (fun c => [c])
    (fun _ => trivial) (q := q) fun member _ => .place member.2
  rw [hmembers, ← chain_eq] at htraces
  exact htraces

/-! ## Queries -/

/-- A query is written if all statements that are written for it are well formed. -/
theorem exists_result_rendered_iff (q : Query) :
    (∃ ls, (q.rendered naming : Rendering (List Lexeme)).result = .ok ls) ↔
      ∀ c ∈ q.nodes, c.IsWellFormed naming := by
  unfold rendered nodes
  cases happended : q.appended.isEmpty with
  | true =>
      rw [members_of_appended_nil (List.isEmpty_iff.1 happended)]
      simpa using exists_result_statement_iff false q.clauses
  | false =>
      have hmember : ∀ c : Clauses Query, (statement naming true c).IsWritten ↔
          ∀ d ∈ c.nodes, d.IsWellFormed naming := fun c =>
        ⟨fun h => (exists_result_statement_iff true c).1 ⟨_, h⟩, fun h =>
          ((exists_result_statement_iff true c).2 h).elim fun _ => Rendering.isWritten_of⟩
      rw [List.forall_mem_flatMap, if_neg Bool.false_ne_true,
        (chain_traces naming q).exists_result_iff q.takes_chainOf]
      simp [hmember]

/-- As many values are bound for a query as all statements that are written for it need. -/
theorem bound_rendered {q : Query} {ls : List Lexeme}
    (h : (q.rendered naming : Rendering (List Lexeme)).result = .ok ls) :
    (Lexeme.params ls).length = (q.nodes.map fun c => Need.values (c.needs naming)).sum := by
  unfold rendered at h
  unfold nodes
  cases happended : q.appended.isEmpty with
  | true =>
      rw [happended, if_pos rfl] at h
      rw [members_of_appended_nil (List.isEmpty_iff.1 happended), List.flatMap_singleton,
        bound_statement h]
  | false =>
      rw [happended, if_neg Bool.false_ne_true] at h
      have htraces := chain_traces naming q
      have hmembers : ∀ c ∈ q.members, (Lexeme.params (statement naming true c).lexemesOf).length =
          (c.nodes.map fun d => Need.values (d.needs naming)).sum := fun c hc =>
        bound_statement ((htraces.written ls h).2 c hc)
      rw [htraces.length_params q.takes_chainOf h, List.map_flatMap, List.flatMap_def,
        List.sum_flatten, List.map_map, List.map_congr_left hmembers]
      exact Nat.zero_add _

/-- Only an unguarded change among the statements that are written for it makes a query fail for
that. -/
theorem guard_rendered {q : Query} {f : CompileFault}
    (h : (q.rendered naming : Rendering (List Lexeme)).result = .error f) (hf : f.isGuard = true) :
    ∃ c ∈ q.nodes, c.isChange = true ∧ c.all = false ∧ ∀ f ∈ c.demands, f.atoms = [] := by
  unfold rendered at h
  unfold nodes
  cases happended : q.appended.isEmpty with
  | true =>
      rw [happended, if_pos rfl] at h
      rw [members_of_appended_nil (List.isEmpty_iff.1 happended), List.flatMap_singleton]
      exact guard_statement h hf
  | false =>
      rw [happended, if_neg Bool.false_ne_true] at h
      rcases (chain_traces naming q).exists_guard q.takes_chainOf h hf with ⟨c, hc, hcf⟩
      rcases guard_statement hcf hf with ⟨d, hd, hunguarded⟩
      exact ⟨d, List.mem_flatMap.2 ⟨c, hc, hd⟩, hunguarded⟩

/-- A query that fails to compile for an unguarded change cannot be written. -/
theorem rendered_eq_error {q : Query} {options : CompileOptions} {f : CompileFault}
    (h : q.compile options = .error f) (hf : f.isGuard = true) :
    (q.rendered options.naming : Rendering (List Lexeme)).result = .error f := by
  unfold compile at h
  cases hresult : (q.rendered options.naming : Rendering (List Lexeme)).result with
  | error g =>
      rw [hresult] at h
      cases h
      rfl
  | ok ls =>
      -- too many values are another fault
      rw [hresult] at h
      change (if (Lexeme.params ls).length ≤ options.maxParams then _ else _) = _ at h
      split at h
      · cases h
      · cases h
        cases hf

/-- A query compiles exactly if every statement that is written for it, at any depth, is well
formed, and all of them together bind no more values than they may.  Otherwise the error is one of
validation or of the guard, and one of the guard only if one of these statements is a change that is
neither meant for every row nor narrowed by a predicate of the caller. -/
theorem compiles_iff_well_formed (q : Query) (options : CompileOptions) :
    ((∃ compiled, q.compile options = .ok compiled) ↔
      (∀ c, q.Writes c → c.IsWellFormed options.naming) ∧
        (q.nodes.map fun c => Need.values (c.needs options.naming)).sum ≤ options.maxParams) ∧
    ∀ fault, q.compile options = .error fault →
      ((Error.compile fault).kind = .guard ∨ (Error.compile fault).kind = .validation) ∧
      ((Error.compile fault).kind = .guard →
        ∃ c, q.Writes c ∧ c.isChange = true ∧ c.all = false ∧ ∀ f ∈ c.demands, f.atoms = []) := by
  refine ⟨?succeeds, ?fails⟩
  case succeeds =>
    simp only [← mem_nodes_iff, ← exists_result_rendered_iff, compile_eq_ok_iff]
    constructor
    · rintro ⟨compiled, ls, hls, hlimit, -⟩
      exact ⟨⟨ls, hls⟩, bound_rendered hls ▸ hlimit⟩
    · rintro ⟨⟨ls, hls⟩, hlimit⟩
      exact ⟨_, ls, hls, bound_rendered hls ▸ hlimit, rfl⟩
  case fails =>
    intro fault h
    have hkind : (Error.compile fault).kind = if fault.isGuard then .guard else .validation := rfl
    rw [hkind]
    cases hguard : fault.isGuard with
    | false => simp
    | true =>
        simp only [← mem_nodes_iff]
        exact ⟨.inl rfl, fun _ => guard_rendered (rendered_eq_error h hguard) hguard⟩

/-- Accounts beside a deletion of unpaid orders, and accounts behind one of all orders. -/
theorem compiles_iff_well_formed_accounts :
    (∃ compiled, accountsBesideOrders.compile {} = .ok compiled) ∧
    (∀ c, accountsBesideOrders.Writes c → c.IsWellFormed .verbatim) ∧
    ∃ fault, ((Table.named "account").query.append everyOrder false).compile {} = .error fault ∧
      (Error.compile fault).kind = .guard ∧
      ∃ c, ((Table.named "account").query.append everyOrder false).Writes c ∧
        c.isChange = true ∧ c.all = false ∧ ∀ f ∈ c.demands, f.atoms = [] :=
  ⟨⟨_, rfl⟩, ((compiles_iff_well_formed accountsBesideOrders {}).1.1 ⟨_, rfl⟩).1,
    ⟨_, rfl, rfl, ((compiles_iff_well_formed _ {}).2 _ rfl).2 rfl⟩⟩

end Query
end ParamSql
