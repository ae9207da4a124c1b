import ParamSql.Proofs.Sql.Change
import ParamSql.Proofs.Sql.Link

/-!
# Chain — appended statements in one text

The statements that are appended to a query, at any depth, become common table expressions of one
statement, in the order in which they run and with the query's own behind them.

* `Query.dependents_append` — an appended statement comes last, with those appended to it;
* `Query.compile_congr`, `Query.compile_append_append` — only the order of the statements matters,
  not what they were appended to;
* `Query.exists_links` — what is written for a chain is made of its links, under generated names;
* `Link.Renders` — between the brackets of a link its statement is written as by itself, and a
  change ends with a RETURNING clause;
* `Query.compile_flattens` — the text of a chain and its values.
-/

namespace ParamSql

/-! ## Orders of appended statements -/

namespace Query

/-- An appended statement comes last, with those that are appended to it behind it. -/
theorem dependents_append (q other : Query) (required : Bool) :
    (q.append other required).dependents =
      q.dependents ++ ⟨other.clauses, required⟩ :: other.dependents := by
  rcases q with ⟨c, as⟩
  simp [append, appended, clauses, dependents_of]

theorem dependents_eq_nil_iff {q : Query} : q.dependents = [] ↔ q.appended = [] := by
  rcases q with ⟨c, as⟩
  cases as with
  | nil => simp [dependents_of, appended]
  | cons a as => simp [dependents_of, appended]

/-- Only the order of the appended statements matters, not what each of them was appended to. -/
theorem compile_congr {q q' : Query} (hclauses : q.clauses = q'.clauses)
    (hdependents : q.dependents = q'.dependents) (options : CompileOptions) :
    q.compile options = q'.compile options := by
  have hempty : q.appended.isEmpty = q'.appended.isEmpty := by
    rw [Bool.eq_iff_iff, List.isEmpty_iff, List.isEmpty_iff, ← dependents_eq_nil_iff,
      ← dependents_eq_nil_iff, hdependents]
  have hreserved : reservedNames q = reservedNames q' := by
    simp only [reservedNames, hclauses, hdependents]
  simp only [compile, rendered, chain, isGuarded, hempty, hreserved, hclauses, hdependents]

/-- What runs ahead of an appended statement may as well be appended to the query itself. -/
theorem compile_append_append (q r s : Query) (required required' : Bool)
    (options : CompileOptions) :
    (q.append (r.append s required') required).compile options =
      ((q.append r required).append s required').compile options := by
  apply compile_congr
  · rfl
  · simp only [dependents_append, List.append_assoc, List.cons_append]
    rfl

end Query
namespace Query

/-! ## Chains are made of links -/

/-- The names that are generated for the statements of a chain, the last one for the query's own. -/
def generatedNames (q : Query) : List String :=
  ((reservedNames q).foldl Aliases.reserve .empty).generate (q.dependents.length + 1)

/-- The names of a chain have increasing indices. -/
theorem exists_chain_indices (q : Query) : ∃ (indices : List Nat) (last : Nat),
    (indices ++ [last]).Pairwise (· < ·) ∧ (∀ i ∈ indices ++ [last], 0 < i) ∧
      q.generatedNames = (indices ++ [last]).map Aliases.nameAt ∧
      indices.length = q.dependents.length ∧
      q.namedMembers = (indices.zip q.dependents).map
        (fun p => (Aliases.nameAt p.1, p.2.clauses)) ++ [(Aliases.nameAt last, q.clauses)] ∧
      q.mainName = Aliases.nameAt last ∧
      q.requiredNames = ((indices.zip q.dependents).filter fun p => p.2.required).map
        fun p => Aliases.nameAt p.1 := by
  rcases Aliases.exists_indices (q.dependents.length + 1)
      ((reservedNames q).foldl Aliases.reserve .empty) with ⟨all, hnames, hincreasing, hfree⟩
  have hall : q.generatedNames = all.map Aliases.nameAt := hnames
  have hlength : all.length = q.dependents.length + 1 := by
    have hgenerated : q.generatedNames.length = q.dependents.length + 1 :=
      Aliases.length_generate _ _
    rwa [hall, List.length_map] at hgenerated
  -- the last name is left for the query itself
  have hne : all ≠ [] := by
    intro h
    rw [h] at hlength
    cases hlength
  obtain ⟨indices, last, rfl⟩ : ∃ indices last, all = indices ++ [last] :=
    ⟨all.dropLast, all.getLast hne, (List.dropLast_append_getLast hne).symm⟩
  have hindices : indices.length = q.dependents.length := by simpa using hlength
  have hzip : ((indices ++ [last]).map Aliases.nameAt).zip q.dependents =
      (indices.zip q.dependents).map (Prod.map Aliases.nameAt id) := by
    have hcut : (indices ++ [last]).zip (q.dependents ++ []) =
        indices.zip q.dependents ++ [last].zip [] := List.zip_append hindices
    rw [List.append_nil, List.zip_nil_right, List.append_nil] at hcut
    rw [List.zip_map_left, hcut]
  have hlast : ((indices ++ [last]).map Aliases.nameAt).getLastD "" = Aliases.nameAt last := by
    simp
  refine ⟨indices, last, hincreasing, ?positive, hall, hindices, ?members, ?main, ?required⟩
  case positive =>
    intro i hi
    exact ((Aliases.isFree_reserved (reservedNames q) i).1 (hfree i hi)).1
  case members =>
    have hnamed : q.namedMembers = (q.generatedNames.zip q.dependents).map
        (fun p => (p.1, p.2.clauses)) ++ [(q.generatedNames.getLastD "", q.clauses)] := rfl
    rw [hnamed, hall, hzip, hlast, List.map_map]
    rfl
  case main =>
    have hmain : q.mainName = q.generatedNames.getLastD "" := rfl
    rw [hmain, hall, hlast]
  case required =>
    have hrequired : q.requiredNames = ((q.generatedNames.zip q.dependents).filter
        fun p => p.2.required).map Prod.fst := rfl
    rw [hrequired, hall, hzip, List.filter_map, List.map_map]
    rfl

variable {write : Clauses Query → Rendering (List Lexeme)}

/-- What is written for a statement of a chain is a link. -/
theorem memberOf_eq_ok {i : Nat} {d : Dependent} {ls : List Lexeme}
    (h : (memberOf write (Aliases.nameAt i) d.clauses).result = .ok ls) :
    ∃ body, (write d.clauses).result = .ok body ∧ ls = Link.lexemes ⟨i, d, body⟩ := by
  rw [memberOf, Aliases.name_nameAt] at h
  rcases Rendering.result_append_eq_ok h with ⟨front, rest, hfront, hrest, rfl⟩
  rcases Rendering.result_append_eq_ok hrest with ⟨opened, closing, hopened, hclosing, rfl⟩
  rcases Rendering.result_append_eq_ok hopened with ⟨opening, body, hopening, hbody, rfl⟩
  cases hfront
  cases hopening
  cases hclosing
  exact ⟨body, hbody, rfl⟩

theorem exists_links_of_forall₂ {steps : List (Nat × Dependent)} {lss : List (List Lexeme)}
    (h : List.Forall₂ (fun (p : Nat × Dependent) ls =>
      (memberOf write (Aliases.nameAt p.1) p.2.clauses).result = .ok ls) steps lss) :
    ∃ links : List Link, links.map (fun l => (l.index, l.statement)) = steps ∧
      links.map Link.lexemes = lss ∧
        ∀ l ∈ links, (write l.statement.clauses).result = .ok l.body := by
  -- on the statements and what is written for them, side by side
  induction h with
  | nil => exact ⟨[], rfl, rfl, by simp⟩
  | @cons step ls steps lss hstep _ ih =>
      rcases memberOf_eq_ok hstep with ⟨body, hbody, rfl⟩
      rcases ih with ⟨links, hsteps, hlss, hlinks⟩
      refine ⟨⟨step.1, step.2, body⟩ :: links, ?_, ?_, ?_⟩
      · rw [List.map_cons, hsteps]
      · rw [List.map_cons, hlss]
      · exact List.forall_mem_cons.2 ⟨hbody, hlinks⟩

/-- The guards of the required statements among links. -/
theorem guards_eq_ok {links : List Link} {ls : List Lexeme}
    (h : (guards ((links.filter (·.statement.required)).map Link.name) :
      Rendering (List Lexeme)).result = .ok ls) : ls = Link.guards links := by
  have hguard : ∀ l : Link,
      (guardCondition l.name : Rendering (List Lexeme)).result = .ok l.guard := by
    intro l
    have htext : ") THEN (SELECT '" ++ notFoundMarker ++ "')::int END) IS NULL" =
        ") THEN (SELECT 'pgquery:not-found')::int END) IS NULL" := by
      simp [notFoundMarker]
    rw [guardCondition, Link.name, Aliases.name_nameAt, htext]
    rfl
  unfold guards at h
  unfold Link.guards
  cases hrequired : links.filter (·.statement.required) with
  | nil =>
      rw [hrequired] at h
      cases h
      rfl
  | cons l required =>
      rw [hrequired] at h
      rcases Rendering.result_append_eq_ok h with ⟨keyword, conditions, hkeyword, hconditions, rfl⟩
      rcases Rendering.result_separated_eq_ok_iff.1 hconditions with ⟨lss, hlss, rfl⟩
      -- each condition is that of its statement
      have hall : lss = (l :: required).map Link.guard := by
        rw [List.map_map, List.forall₂_map_left_iff] at hlss
        refine List.forall₂_eq_eq_eq ▸ ?_
        rw [List.forall₂_map_right_iff]
        refine hlss.flip.imp ?_
        intro ls l hl
        exact Except.ok.inj (hl.symm.trans (hguard l))
      cases hkeyword
      rw [join_intersperse, hall]
      rfl

/-- What is written for a chain is what is written for its statements and its guards. -/
theorem chainOf_eq_ok {q : Query} {last : Nat} (hmain : q.mainName = Aliases.nameAt last)
    {ls : List Lexeme} (h : (chainOf write q).result = .ok ls) :
    ∃ lss guarding, List.Forall₂ (fun (member : String × Clauses Query) ls =>
        (memberOf write member.1 member.2).result = .ok ls) q.namedMembers lss ∧
      (guards q.requiredNames : Rendering (List Lexeme)).result = .ok guarding ∧
      ls = .fixed "WITH " :: [.fixed ", "].intercalate lss ++
        [.fixed " SELECT * FROM ", .name (Aliases.identifierAt last)] ++ guarding := by
  rw [chainOf, hmain, Aliases.name_nameAt] at h
  rcases Rendering.result_append_eq_ok h with ⟨head, guarding, hhead, hguarding, rfl⟩
  rcases Rendering.result_append_eq_ok hhead with ⟨selecting, name, hselecting, hname, rfl⟩
  rcases Rendering.result_append_eq_ok hselecting with ⟨withs, select, hwiths, hselect, rfl⟩
  rcases Rendering.result_append_eq_ok hwiths with ⟨keyword, members, hkeyword, hmembers, rfl⟩
  rcases Rendering.result_separated_eq_ok_iff.1 hmembers with ⟨lss, hlss, rfl⟩
  rw [List.forall₂_map_left_iff] at hlss
  refine ⟨lss, guarding, hlss, hguarding, ?_⟩
  have hgroup : ∀ members guards : List Lexeme, ∀ s t : Lexeme,
      members ++ [s] ++ [t] ++ guards = members ++ [s, t] ++ guards := by simp
  cases hkeyword
  cases hselect
  cases hname
  rw [join_intersperse]
  exact hgroup (.fixed "WITH " :: _) _ _ _

/-- What is written for a chain is made of its links: a link for each appended statement and one for
the query itself, under generated names with increasing indices. -/
theorem exists_links {naming : Naming} {q : Query} {ls : List Lexeme}
    (h : (chain naming q : Rendering (List Lexeme)).result = .ok ls) :
    ∃ (links : List Link) (main : Link), ls = Link.chain links main ∧
      links.map Link.statement = q.dependents ∧ main.statement = ⟨q.clauses, false⟩ ∧
      (links ++ [main]).Pairwise (fun k l => k.index < l.index) ∧
      (links ++ [main]).map Link.name = q.generatedNames ∧
      ∀ l ∈ links ++ [main], 0 < l.index ∧
        (statement naming true l.statement.clauses : Rendering (List Lexeme)).result =
          .ok l.body := by
  rcases q.exists_chain_indices with
    ⟨indices, last, hincreasing, hpositive, hnames, hlength, hmembers, hmain, hrequired⟩
  rw [chain_eq] at h
  rcases chainOf_eq_ok hmain h with ⟨lss, guarding, hlss, hguarding, rfl⟩
  -- the query's own statement is treated as one more that nobody requires
  let steps : List (Nat × Dependent) := indices.zip q.dependents ++ [(last, ⟨q.clauses, false⟩)]
  have hsteps : q.namedMembers = steps.map fun p => (Aliases.nameAt p.1, p.2.clauses) := by
    rw [hmembers, List.map_append]
    rfl
  rw [hsteps, List.forall₂_map_left_iff] at hlss
  rcases exists_links_of_forall₂ hlss with ⟨all, hall, rfl, hbodies⟩
  rcases List.map_eq_append_iff.1 hall with ⟨links, mains, rfl, hlinks, hmains⟩
  rcases List.map_eq_singleton_iff.1 hmains with ⟨main, rfl, hlast⟩
  have hstatements : links.map Link.statement = q.dependents := by
    have hsecond := congrArg (List.map Prod.snd) hlinks
    rwa [List.map_map, List.map_snd_zip hlength.ge] at hsecond
  have hindices : (links ++ [main]).map Link.index = indices ++ [last] := by
    have hfirst := congrArg (List.map Prod.fst) hlinks
    rw [List.map_map, List.map_fst_zip hlength.le] at hfirst
    calc (links ++ [main]).map Link.index
        = links.map Link.index ++ [main.index] := List.map_append
      _ = indices ++ [last] := congrArg₂ (fun is i => is ++ [i]) hfirst (congrArg Prod.fst hlast)
  have hguards : guarding = Link.guards links := by
    apply guards_eq_ok
    rw [← hguarding, hrequired, ← hlinks, List.filter_map, List.map_map]
    rfl
  refine ⟨links, main, ?chain, hstatements, congrArg Prod.snd hlast, ?increasing, ?names, ?bodies⟩
  case chain =>
    obtain rfl : main.index = last := congrArg Prod.fst hlast
    rw [hguards]
    rfl
  case increasing =>
    rw [← hindices, List.pairwise_map] at hincreasing
    exact hincreasing
  case names =>
    rw [hnames, ← hindices, List.map_map]
    rfl
  case bodies =>
    intro l hl
    have hindex : l.index ∈ indices ++ [last] := hindices ▸ List.mem_map_of_mem hl
    exact ⟨hpositive _ hindex, hbodies l hl⟩

end Query

/-! ## Links stand for statements -/

namespace Link

variable {options : CompileOptions} {l : Link}

/-- A change ends with a RETURNING clause, in which the columns stand that it is asked for, or else
a constant. -/
structure Returns (options : CompileOptions) (l : Link) (change clause : List Lexeme) : Prop where
  body : l.body = change ++ clause
  change : (Query.statement options.naming false { l.statement.clauses with returning := [] } :
    Rendering (List Lexeme)).result = .ok change
  constant : l.statement.clauses.returning = [] → clause = [.fixed " RETURNING 1"]
  columns : l.statement.clauses.returning ≠ [] → ∃ items, clause = .fixed " RETURNING " :: items ∧
    ((l.statement.clauses.columns options.naming).items (l.statement.clauses.returning.map
      (SelectItem.map (Query.rendering options.naming)))).result = .ok items

/-- A link stands for its statement, which is written between the brackets as by itself, up to the
RETURNING clause of a change. -/
structure Renders (options : CompileOptions) (l : Link) : Prop where
  compiles : (Query.of l.statement.clauses []).compile options =
    .ok ⟨Lexeme.text (Query.statement options.naming false l.statement.clauses).lexemesOf,
      Lexeme.params (Query.statement options.naming false l.statement.clauses).lexemesOf, false⟩
  body : l.body = (Query.statement options.naming false l.statement.clauses).lexemesOf ++
    Query.returningSuffix l.statement.clauses
  returning : l.statement.clauses.mutation.isSome = true →
    ∃ change clause, l.Returns options change clause

theorem returns_of (hchange : l.statement.clauses.mutation.isSome = true)
    (h : (Query.statement options.naming true l.statement.clauses :
      Rendering (List Lexeme)).result = .ok l.body) :
    ∃ change clause, l.Returns options change clause := by
  rw [Query.statement_returning options.naming true hchange] at h
  rcases Rendering.result_append_eq_ok h with ⟨change, clause, hwritten, hclause, hbody⟩
  refine ⟨change, clause, hbody, hwritten, ?constant, ?columns⟩
  case constant =>
    intro hnone
    simp only [Clauses.returningClause, Clauses.map_returning, hnone, List.map_nil,
      List.isEmpty_nil, if_true] at hclause
    cases hclause
    rfl
  case columns =>
    intro hsome
    have hempty : (l.statement.clauses.returning.map
        (SelectItem.map (Query.rendering (ω := List Lexeme) options.naming))).isEmpty = false := by
      simpa using hsome
    simp only [Clauses.returningClause, Clauses.map_returning, hempty, Bool.false_eq_true,
      if_false] at hclause
    rcases Rendering.result_append_eq_ok hclause with ⟨keyword, items, hkeyword, hitems, rfl⟩
    cases hkeyword
    exact ⟨items, rfl, hitems⟩

/-- A statement that is written in a chain is so by itself, where it binds no more values than the
chain. -/
theorem renders_of (hlimit : (Lexeme.params l.body).length ≤ options.maxParams)
    (h : (Query.statement options.naming true l.statement.clauses :
      Rendering (List Lexeme)).result = .ok l.body) : l.Renders options := by
  have hwritten : (Query.statement options.naming true l.statement.clauses :
      Rendering (List Lexeme)).IsWritten := Rendering.isWritten_of h
  rcases Query.statement_inCte hwritten with ⟨halone, hbody⟩
  rw [Rendering.lexemesOf_eq h] at hbody
  refine ⟨?compiles, hbody, fun hchange => returns_of hchange h⟩
  case compiles =>
    refine Query.compile_of_statement (q := .of l.statement.clauses []) rfl halone ?_
    rw [hbody, Lexeme.params_append, List.length_append] at hlimit
    exact Nat.le_of_add_right_le hlimit

end Link

namespace Query

/-! ## The text of a chain -/

/-- What is compiled of a query with appended statements is made of its links. -/
theorem exists_links_of_compile {options : CompileOptions} {q : Query} {compiled : Compiled}
    (happended : q.appended ≠ []) (h : q.compile options = .ok compiled) :
    ∃ (links : List Link) (main : Link),
      compiled = ⟨Lexeme.text (Link.chain links main), Lexeme.params (Link.chain links main),
        q.isGuarded⟩ ∧
      (Lexeme.params (Link.chain links main)).length ≤ options.maxParams ∧
      links.map Link.statement = q.dependents ∧ main.statement = ⟨q.clauses, false⟩ ∧
      (links ++ [main]).Pairwise (fun k l => k.index < l.index) ∧
      (links ++ [main]).map Link.name = q.generatedNames ∧
      ∀ l ∈ links ++ [main], 0 < l.index ∧
        (statement options.naming true l.statement.clauses : Rendering (List Lexeme)).result =
          .ok l.body := by
  rcases compile_eq_ok_iff.1 h with ⟨ls, hls, hlimit, rfl⟩
  have hempty : q.appended.isEmpty = false := by simpa using happended
  simp only [rendered, hempty, Bool.false_eq_true, if_false] at hls
  rcases exists_links hls with ⟨links, main, rfl, hlinks⟩
  exact ⟨links, main, rfl, hlimit, hlinks⟩

/-- The appended statements of a query become common table expressions ahead of the query's own, in
the order in which they run and under names that increase; the statement selects the rows of the
last one, provided that the required ones among the others have rows.  Nothing else of what the
statements are appended to is left: queries with the same statements in the same order compile to
the same result. -/
theorem compile_flattens (options : CompileOptions) :
    (∀ (q : Query) compiled, q.appended ≠ [] → q.compile options = .ok compiled →
      ∃ (links : List Link) (main : Link), links.map Link.statement = q.dependents ∧
        main.statement = ⟨q.clauses, false⟩ ∧
        (∀ l ∈ links ++ [main], 0 < l.index ∧ l.Renders options) ∧
        (links ++ [main]).Pairwise (fun k l => k.index < l.index) ∧
        ((links ++ [main]).map Link.name).Nodup ∧
        compiled.sql = "WITH " ++ ", ".intercalate (Link.texts 1 (links ++ [main])) ++
          " SELECT * FROM " ++ main.quoted ++ Link.guardTexts links ∧
        compiled.params = (links ++ [main]).flatMap (fun l => Lexeme.params l.body) ∧
        (compiled.guarded = true ↔ ∃ d ∈ q.dependents, d.required = true)) ∧
    ∀ q q' : Query, q.clauses = q'.clauses → q.dependents = q'.dependents →
      q.compile options = q'.compile options := by
  refine ⟨?text, fun q q' hclauses hdependents => compile_congr hclauses hdependents options⟩
  case text =>
    intro q compiled happended h
    rcases exists_links_of_compile happended h with
      ⟨links, main, rfl, hlimit, hlinks, hmain, hincreasing, -, hwritten⟩
    refine ⟨links, main, hlinks, hmain, ?_, hincreasing, ?_, Link.text_chain links main,
      Link.params_chain links main, List.any_eq_true⟩
    · intro l hl
      rcases hwritten l hl with ⟨hpositive, hbody⟩
      refine ⟨hpositive, Link.renders_of ?_ hbody⟩
      -- a link binds no more values than the chain it is a part of
      have hpart : Lexeme.params l.body ∈ (links ++ [main]).map fun l => Lexeme.params l.body :=
        List.mem_map.2 ⟨l, hl, rfl⟩
      rw [Link.params_chain, List.flatMap_def] at hlimit
      exact Nat.le_trans (List.sublist_flatten_of_mem hpart).length_le hlimit
    · rw [List.nodup_iff_pairwise_ne, List.pairwise_map]
      refine hincreasing.imp ?_
      intro k l hlt heq
      exact Nat.ne_of_lt hlt (Aliases.nameAt_injective heq)

/-- Accounts, behind the deletion of orders and a query that must find a lock. -/
def closedAccounts : Query :=
  (Table.named "account").query.append (unpaidOrders.append (Table.named "lock").query true) false

theorem compile_flattens_closedAccounts :
    (∃ compiled links main, closedAccounts.compile {} = .ok compiled ∧
      links.map Link.statement = [⟨unpaidOrders.clauses, false⟩,
        ⟨(Table.named "lock").query.clauses, true⟩] ∧
      (∀ l ∈ links ++ [main], 0 < l.index ∧ l.Renders {}) ∧
      compiled.sql = "WITH " ++ ", ".intercalate (Link.texts 1 (links ++ [main])) ++
        " SELECT * FROM " ++ main.quoted ++ Link.guardTexts links ∧
      compiled.guarded = true) ∧
    closedAccounts.compile {} =
      (((Table.named "account").query.append unpaidOrders false).append
        (Table.named "lock").query true).compile {} := by
  rcases compile_flattens {} with ⟨htext, hcongr⟩
  refine ⟨?_, hcongr _ _ rfl rfl⟩
  have happended : closedAccounts.appended ≠ [] := by simp [closedAccounts, append, appended]
  obtain ⟨links, main, hlinks, -, hrenders, -, -, hsql, -, hguarded⟩ :=
    htext closedAccounts _ happended rfl
  refine ⟨_, links, main, rfl, hlinks, hrenders, hsql, hguarded.2 ?_⟩
  exact ⟨⟨(Table.named "lock").query.clauses, true⟩, .tail _ (.head _), rfl⟩

end Query
end ParamSql