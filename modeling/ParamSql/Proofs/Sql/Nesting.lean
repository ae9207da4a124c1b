import ParamSql.Proofs.Sql.Outline
import ParamSql.Query.Change
import ParamSql.Query.Result
import ParamSql.Query.Table

/-!
# Nesting — a query inside another one is written as it is by itself

Wherever a query stands in another one, the text of the outer statement has the text of the inner
one in it, with the placeholders counted on, and the values of the inner one stand among those of
the outer one.

* `Clauses.inner? c path` — the query at a position in a statement, which is given by its number
  among the subqueries at every level;
* `Query.Surrounds`, `Query.Encloses` — what a statement and a chain have ahead of a position and
  behind it;
* `Compiled.Contains` — a compiled statement has another one in it;
* `Query.compile_contains` — every query inside a compiled one, and every statement of a chain.
-/

namespace ParamSql

/-! ## Texts that are counted on -/

namespace Lexeme

/-- The text of lexemes whose placeholders are numbered from `n` on. -/
def textFrom (n : Nat) (ls : List Lexeme) : String :=
  String.ofList
    (Glyph.filledFrom (fun k => "$" ++ toString k) n (Output.ofLexemes ls : Draft).glyphs)

theorem text_eq (ls : List Lexeme) : text ls = textFrom 1 ls :=
  (Draft.numbered_ofLexemes ls).symm

theorem params_append (ls ms : List Lexeme) : params (ls ++ ms) = params ls ++ params ms := by
  simp [params, Piece.values]

theorem textFrom_append (n : Nat) (ls ms : List Lexeme) :
    textFrom n (ls ++ ms) = textFrom n ls ++ textFrom (n + (params ls).length) ms := by
  have hmarkers := Draft.markers_ofLexemes ls
  rw [Draft.params_ofLexemes] at hmarkers
  simp only [textFrom, Output.ofLexemes_append, Draft.append_glyphs, Glyph.filledFrom_append,
    String.ofList_append, ← hmarkers, Draft.markers]

end Lexeme

/-- A compiled statement has another one in it: `ls` are the lexemes of the inner one, `before` and
`behind` the lexemes around it. -/
structure Compiled.Contains (outer inner : Compiled) (before ls behind : List Lexeme) : Prop where
  inner_sql : inner.sql = Lexeme.textFrom 1 ls
  inner_params : inner.params = Lexeme.params ls
  sql : outer.sql = Lexeme.textFrom 1 before ++
    Lexeme.textFrom ((Lexeme.params before).length + 1) ls ++
      Lexeme.textFrom ((Lexeme.params before).length + inner.params.length + 1) behind
  params : outer.params = Lexeme.params before ++ inner.params ++ Lexeme.params behind

theorem Compiled.contains_of {before ls behind : List Lexeme} {guarded guarded' : Bool} :
    Contains ⟨Lexeme.text (before ++ ls ++ behind), Lexeme.params (before ++ ls ++ behind), guarded⟩
      ⟨Lexeme.text ls, Lexeme.params ls, guarded'⟩ before ls behind where
  inner_sql := Lexeme.text_eq ls
  inner_params := rfl
  sql := by
    rw [Lexeme.text_eq, Lexeme.textFrom_append, Lexeme.textFrom_append, Lexeme.params_append,
      List.length_append, Nat.add_comm 1, Nat.add_comm 1]
  params := by
    rw [Lexeme.params_append, Lexeme.params_append]

/-! ## Positions -/

/-- The query at a position: its number among the subqueries of the statement, then its number among
those of the query found there, and so on. -/
def Clauses.inner? (c : Clauses Query) : List Nat → Option Query
  | [] => none
  | [i] => c.subqueries[i]?
  | i :: j :: path => (c.subqueries[i]?).bind fun q => q.clauses.inner? (j :: path)

namespace Query

variable {naming : Naming}

/-- Lexemes and places, with the queries in their places. -/
def filled (naming : Naming) (slots : List (Slot Query)) : List Lexeme :=
  Slot.fill (fun q => (q.rendering naming).lexemesOf) slots

/-- A statement has some lexemes ahead of the position of `q` and some behind it.  At every level
these are taken from the outline of the statement, which knows nothing of the query in the place. -/
inductive Surrounds (naming : Naming) (q : Query) :
    Bool → Clauses Query → List Nat → List Lexeme → List Lexeme → Prop
  | here {inCte : Bool} {c : Clauses Query} {before behind : List (Slot Query)}
      (h : c.outline naming inCte = .ok (before ++ .query q :: behind)) :
      Surrounds naming q inCte c [(Slot.queries before).length] (filled naming before)
        (filled naming behind)
  | inside {inCte : Bool} {c : Clauses Query} {r : Query} {before behind : List (Slot Query)}
      {path : List Nat} {ls ms : List Lexeme}
      (h : c.outline naming inCte = .ok (before ++ .query r :: behind))
      (hq : Surrounds naming q false r.clauses path ls ms) :
      Surrounds naming q inCte c ((Slot.queries before).length :: path) (filled naming before ++ ls)
        (ms ++ filled naming behind)

/-- A query has some lexemes ahead of its statement with a number and some behind it: none if it
stands alone, those of the chain otherwise. -/
inductive Encloses (naming : Naming) (q : Query) :
    Nat → Bool → Clauses Query → List Lexeme → List Lexeme → Prop
  | alone (h : q.appended = []) : Encloses naming q 0 false q.clauses [] []
  | chained {c : Clauses Query} {before behind : List (Slot (Clauses Query))}
      (happended : q.appended ≠ [])
      (h : q.chainOutline = .ok (before ++ .query c :: behind)) :
      Encloses naming q (Slot.queries before).length true c
        (Slot.fill (fun c => (statement naming true c).lexemesOf) before)
        (Slot.fill (fun c => (statement naming true c).lexemesOf) behind)

/-! ## Queries inside a statement -/

theorem statement_eq_map (naming : Naming) (inCte : Bool) (c : Clauses Query) :
    (statement naming inCte c : Rendering (List Lexeme)) =
      (c.map (rendering naming)).statement naming inCte := by
  simp only [statement, foldClauses_eq_map]
  rfl

/-- A query that can be written inside another one has no appended statements. -/
theorem rendering_eq_ok {q : Query} {ls : List Lexeme}
    (h : (q.rendering naming : Rendering (List Lexeme)).result = .ok ls) :
    q.appended = [] ∧
      (statement naming false q.clauses : Rendering (List Lexeme)).result = .ok ls := by
  rcases q with ⟨c, as⟩
  simp only [rendering, fold_of, Clauses.nested, Rendering.delayed_eq, List.isEmpty_map] at h
  cases as with
  | nil =>
      refine ⟨rfl, ?_⟩
      rw [statement_eq_map]
      exact h
  -- appended statements cannot be written inside another one
  | cons a as => cases h

/-- A query without appended statements is written inside another one as by itself. -/
theorem rendering_eq_statement {q : Query} (h : q.appended = []) :
    (q.rendering naming : Rendering (List Lexeme)) = statement naming false q.clauses := by
  rcases q with ⟨c, as⟩
  obtain rfl : as = [] := h
  simp only [rendering, fold_of, Clauses.nested, Rendering.delayed_eq, statement_eq_map]
  rfl

/-- A statement is what its outline has around the place of a subquery, with the query between. -/
theorem exists_outline {inCte : Bool} {c : Clauses Query} {i : Nat} {q : Query} {ls : List Lexeme}
    (hq : c.subqueries[i]? = some q)
    (hls : (statement naming inCte c : Rendering (List Lexeme)).result = .ok ls) :
    ∃ before behind, c.outline naming inCte = .ok (before ++ .query q :: behind) ∧
      (Slot.queries before).length = i ∧ (q.rendering naming).IsWritten ∧
        ls = filled naming before ++ (q.rendering naming).lexemesOf ++ filled naming behind := by
  have hfills := c.statement_fills (rendering naming) naming inCte
  rw [statement_eq_map] at hls
  rcases hfills.written ls hls with ⟨⟨slots, hslots⟩, hwritten⟩
  rcases Slot.exists_split (hfills.places slots hslots ▸ hq) with ⟨before, behind, rfl, hi⟩
  refine ⟨before, behind, hslots, hi, hwritten q (List.mem_of_getElem? hq), ?_⟩
  -- the outline is cut at the place of the query
  have hfilled := hfills.fill _ hslots hwritten
  rw [hls] at hfilled
  obtain rfl := Except.ok.inj hfilled
  simp [filled, Slot.fill]

/-- Every position in a statement is surrounded, and the statement is what surrounds it with the
query between. -/
theorem exists_surrounds {inCte : Bool} {c : Clauses Query} {path : List Nat} {q : Query}
    {ls : List Lexeme} (hq : c.inner? path = some q)
    (hls : (statement naming inCte c : Rendering (List Lexeme)).result = .ok ls) :
    ∃ before behind, Surrounds naming q inCte c path before behind ∧
      (q.rendering naming).IsWritten ∧
        ls = before ++ (q.rendering naming).lexemesOf ++ behind := by
  -- by induction on the position, one statement further inside at each number
  induction path generalizing inCte c ls with
  | nil => cases hq
  | cons i path ih =>
      cases path with
      | nil =>
          rcases exists_outline hq hls with ⟨before, behind, houtline, rfl, hwritten, rfl⟩
          exact ⟨_, _, .here houtline, hwritten, rfl⟩
      | cons j path =>
          rcases Option.bind_eq_some_iff.1 hq with ⟨r, hr, hinner⟩
          rcases exists_outline hr hls with ⟨before, behind, houtline, rfl, hwritten, rfl⟩
          -- the query on the way is written as a statement by itself
          rcases ih hinner (rendering_eq_ok hwritten).2 with ⟨ls, ms, hsurrounds, hq, hbody⟩
          refine ⟨_, _, .inside houtline hsurrounds, hq, ?_⟩
          rw [hbody]
          simp only [List.append_assoc]

/-! ## Statements of a chain -/

theorem members_of_appended_nil {q : Query} (h : q.appended = []) : q.members = [q.clauses] := by
  rcases q with ⟨c, as⟩
  obtain rfl : as = [] := h
  rw [members_eq, dependents_of]
  rfl

/-- Every statement of a query is enclosed, and the query is what encloses it with the statement
between. -/
theorem exists_encloses {q : Query} {i : Nat} {c : Clauses Query} {ls : List Lexeme}
    (hc : q.members[i]? = some c)
    (hls : (q.rendered naming : Rendering (List Lexeme)).result = .ok ls) :
    ∃ inCte before behind, Encloses naming q i inCte c before behind ∧
      (inCte = !q.appended.isEmpty) ∧ (statement naming inCte c).IsWritten ∧
        ls = before ++ (statement naming inCte c).lexemesOf ++ behind := by
  unfold rendered at hls
  cases happended : q.appended with
  | nil =>
      rw [members_of_appended_nil happended] at hc
      obtain ⟨rfl, rfl⟩ : i = 0 ∧ q.clauses = c := by
        cases i with
        | zero => exact ⟨rfl, Option.some.inj hc⟩
        | succ i => cases hc
      simp only [happended, List.isEmpty_nil, if_true] at hls
      refine ⟨false, [], [], .alone happended, rfl, Rendering.isWritten_of hls, ?_⟩
      simp [Rendering.lexemesOf_eq hls]
  | cons a as =>
      have hne : q.appended ≠ [] := by simp [happended]
      simp only [happended, List.isEmpty_cons, Bool.false_eq_true, if_false] at hls
      -- the chain is an outline as well, with its statements in the places
      have hfills := chain_fills naming q
      rcases hfills.written ls hls with ⟨⟨slots, hslots⟩, hwritten⟩
      rcases Slot.exists_split (hfills.places slots hslots ▸ hc) with ⟨before, behind, rfl, rfl⟩
      refine ⟨true, _, _, .chained hne hslots, rfl, hwritten c (List.mem_of_getElem? hc), ?_⟩
      have hfilled := hfills.fill _ hslots hwritten
      rw [hls] at hfilled
      obtain rfl := Except.ok.inj hfilled
      simp [Slot.fill]

/-- What a change without RETURNING has behind it in a common table expression. -/
def returningSuffix (c : Clauses Query) : List Lexeme :=
  if c.mutation.isSome && c.returning.isEmpty then [.fixed " RETURNING 1"] else []

/-- A statement in a common table expression is written as by itself, with the suffix behind it. -/
theorem statement_true_eq (naming : Naming) (c : Clauses Query) :
    (statement naming true c : Rendering (List Lexeme)) =
      statement naming false c ++ .lexemes (returningSuffix c) := by
  -- RETURNING comes last in every change, and only there do the two differ
  have hreturning (cs : Columns) (d : Clauses (Rendering (List Lexeme))) :
      d.returningClause cs true = d.returningClause cs false ++
        .lexemes (if d.returning.isEmpty then [.fixed " RETURNING 1"] else []) := by
    unfold Clauses.returningClause
    cases d.returning.isEmpty with
    | true => exact (Rendering.nothing_append _).symm
    | false => exact (Rendering.append_nothing _).symm
  simp only [statement_eq_map, Clauses.statement, Clauses.body, Clauses.map_mutation,
    returningSuffix]
  cases hmutation : c.mutation with
  | none => exact (Rendering.append_nothing _).symm
  | some m =>
      cases m <;>
        simp [Mutation.map, hreturning, Rendering.append_assoc, Clauses.map_returning]

theorem statement_inCte {c : Clauses Query}
    (h : (statement naming true c : Rendering (List Lexeme)).IsWritten) :
    (statement naming false c : Rendering (List Lexeme)).IsWritten ∧
      (statement naming true c : Rendering (List Lexeme)).lexemesOf =
        (statement naming false c).lexemesOf ++ returningSuffix c := by
  have hsplit : (statement naming false c ++ .lexemes (returningSuffix c) :
      Rendering (List Lexeme)).result = .ok (statement naming true c).lexemesOf := by
    rw [← statement_true_eq]
    exact h
  rcases Rendering.result_append_eq_ok hsplit with ⟨ls, suffix, hls, hsuffix, heq⟩
  have hlexemes : returningSuffix c = suffix := by simpa using hsuffix
  refine ⟨Rendering.isWritten_of hls, ?_⟩
  rw [heq, Rendering.lexemesOf_eq hls, hlexemes]
  rfl

/-! ## Compiled queries -/

/-- A query without appended statements is compiled as soon as its statement can be written and does
not bind too many values. -/
theorem compile_of_statement {q : Query} {options : CompileOptions} (happended : q.appended = [])
    (hwritten : (statement options.naming false q.clauses : Rendering (List Lexeme)).IsWritten)
    (hlimit : (Lexeme.params (statement options.naming false q.clauses).lexemesOf).length ≤
      options.maxParams) :
    q.compile options = .ok ⟨Lexeme.text (statement options.naming false q.clauses).lexemesOf,
      Lexeme.params (statement options.naming false q.clauses).lexemesOf, false⟩ := by
  refine compile_eq_ok_iff.2 ⟨_, ?_, hlimit, ?_⟩
  · rw [rendered, happended]
    exact hwritten
  · rcases q with ⟨c, as⟩
    obtain rfl : as = [] := happended
    rfl

/-- Every query inside a compiled one compiles by itself, and the outer statement contains it. -/
theorem contains_inner {outer : Query} {options : CompileOptions} {compiled : Compiled}
    (h : outer.compile options = .ok compiled) {i : Nat} {path : List Nat} {c : Clauses Query}
    {q : Query} (hc : outer.members[i]? = some c) (hq : c.inner? path = some q) :
    ∃ inner inCte ahead behind before after, q.compile options = .ok inner ∧
      Encloses options.naming outer i inCte c ahead behind ∧
      Surrounds options.naming q inCte c path before after ∧
      compiled.Contains inner (ahead ++ before)
        (q.rendering options.naming).lexemesOf (after ++ behind) := by
  rcases compile_eq_ok_iff.1 h with ⟨ls, hls, hlimit, rfl⟩
  rcases exists_encloses hc hls with ⟨inCte, ahead, behind, hencloses, -, hmember, rfl⟩
  rcases exists_surrounds hq hmember with ⟨before, after, hsurrounds, hwritten, hbody⟩
  rcases rendering_eq_ok hwritten with ⟨happended, hstatement⟩
  have heq : q.rendering options.naming = statement options.naming false q.clauses :=
    rendering_eq_statement happended
  -- the query is in its statement, and the statement in the chain
  rw [hbody] at hlimit ⊢
  refine ⟨_, inCte, ahead, behind, before, after,
    compile_of_statement happended (heq ▸ hwritten) ?_, hencloses, hsurrounds, ?_⟩
  · -- what is a part of the outer one binds no more values than that
    simp only [Lexeme.params_append, List.length_append, heq] at hlimit
    omega
  · have hassoc : ahead ++ (before ++ (q.rendering options.naming).lexemesOf ++ after) ++ behind =
        ahead ++ before ++ (q.rendering options.naming).lexemesOf ++ (after ++ behind) := by
      simp only [List.append_assoc]
    rw [hassoc, ← heq]
    exact Compiled.contains_of

/-- Every statement of a chain compiles by itself, and the chain contains it with the suffix. -/
theorem contains_member {outer : Query} {options : CompileOptions} {compiled : Compiled}
    (h : outer.compile options = .ok compiled) (happended : outer.appended ≠ []) {i : Nat}
    {c : Clauses Query} (hc : outer.members[i]? = some c) :
    ∃ inner ahead behind, (of c []).compile options = .ok inner ∧
      Encloses options.naming outer i true c ahead behind ∧
      compiled.Contains inner ahead (statement options.naming false c).lexemesOf
        (returningSuffix c ++ behind) := by
  rcases compile_eq_ok_iff.1 h with ⟨ls, hls, hlimit, rfl⟩
  rcases exists_encloses hc hls with ⟨inCte, ahead, behind, hencloses, hinCte, hmember, rfl⟩
  have hempty : outer.appended.isEmpty = false := by simp [happended]
  rw [hempty] at hinCte
  obtain rfl : inCte = true := hinCte
  rcases statement_inCte hmember with ⟨hwritten, hbody⟩
  rw [hbody] at hlimit ⊢
  refine ⟨_, ahead, behind, compile_of_statement (q := of c []) rfl hwritten ?_, hencloses, ?_⟩
  · simp only [Lexeme.params_append, List.length_append] at hlimit
    change (Lexeme.params (statement options.naming false c).lexemesOf).length ≤ _
    omega
  · rw [← List.append_assoc, List.append_assoc _ _ behind]
    exact Compiled.contains_of

/-! ## Questions about a query -/

/-- The form of the result is no part of the statement. -/
theorem compile_deliver {q : Query} (h : q.appended = []) (shape : Shape)
    (options : CompileOptions) : (q.deliver shape).compile options = q.compile options := by
  rcases q with ⟨c, as⟩
  obtain rfl : as = [] := h
  have hstatement : (statement options.naming false { c with shape := some shape } :
      Rendering (List Lexeme)) = statement options.naming false c := by
    simp only [statement_eq_map]
    rfl
  have hguarded : (of { c with shape := some shape } []).isGuarded = (of c []).isGuarded := rfl
  simp only [compile, rendered, deliver, modify, appended, clauses, List.isEmpty_nil, if_true,
    hstatement, hguarded]

/-- Where nothing is bound, it does not matter from which number on the text is counted. -/
theorem textFrom_of_params_nil {ls : List Lexeme} (h : Lexeme.params ls = []) (n : Nat) :
    Lexeme.textFrom n ls = Lexeme.text ls := by
  have hmarkers : Glyph.markers (Output.ofLexemes ls : Draft).glyphs = 0 := by
    have hcount := Draft.markers_ofLexemes ls
    rw [Draft.params_ofLexemes, h] at hcount
    exact hcount
  rw [Lexeme.text_eq, Lexeme.textFrom, Lexeme.textFrom,
    Glyph.filledFrom_congr (g := fun k => "$" ++ toString k) (m := 1) (by simp [hmarkers])]

/-- A statement that has a query between texts in which nothing is bound. -/
theorem compile_wrapper (before behind : List Lexeme) {c : Clauses Query} {q : Query}
    {options : CompileOptions} {compiled : Compiled} {s t : String}
    (houtline : c.outline options.naming false =
      .ok (before.map .lexeme ++ .query q :: behind.map .lexeme))
    (hq : q.appended = []) (hcompile : q.compile options = .ok compiled)
    (hbefore : Lexeme.params before = []) (hbehind : Lexeme.params behind = [])
    (hs : Lexeme.text before = s) (ht : Lexeme.text behind = t) :
    (of c []).compile options = .ok ⟨s ++ compiled.sql ++ t, compiled.params, false⟩ := by
  rcases compile_eq_ok_iff.1 hcompile with ⟨ls, hls, hlimit, rfl⟩
  have hrendering : (q.rendering options.naming : Rendering (List Lexeme)).result = .ok ls := by
    rw [rendering_eq_statement hq]
    simpa [rendered, hq] using hls
  have hfills := c.statement_fills (rendering options.naming) options.naming false
  -- the query is the only one in the statement
  have hplaces : c.subqueries = [q] := by
    rw [← hfills.places _ houtline]
    simp
  have hstatement : (statement options.naming false c : Rendering (List Lexeme)).result =
      .ok (before ++ ls ++ behind) := by
    rw [statement_eq_map, hfills.fill _ houtline fun r hr => ?_]
    · simp [Rendering.lexemesOf_eq hrendering]
    · rw [hplaces, List.mem_singleton] at hr
      exact hr ▸ Rendering.isWritten_of hrendering
  have hparams : Lexeme.params (before ++ ls ++ behind) = Lexeme.params ls := by
    simp [Lexeme.params_append, hbefore, hbehind]
  refine compile_eq_ok_iff.2 ⟨_, hstatement, hparams ▸ hlimit, ?_⟩
  rw [hparams, Lexeme.text_eq (before ++ ls ++ behind), Lexeme.textFrom_append,
    Lexeme.textFrom_append, textFrom_of_params_nil hbefore, textFrom_of_params_nil hbehind, hs, ht,
    hbefore, Lexeme.text_eq ls]
  rfl

/-- The rows of a query as JSON: a fixed text around the query. -/
theorem compile_json {q : Query} {options : CompileOptions} {compiled : Compiled}
    (hq : q.appended = []) (h : q.compile options = .ok compiled) :
    q.json.compile options = .ok
      ⟨"SELECT COALESCE(json_agg(row_to_json(\"t\".*)), '[]') AS \"json\" FROM (" ++ compiled.sql ++
        ") AS \"t\"", compiled.params, false⟩ :=
  compile_wrapper
    [.fixed "SELECT ", .verbatim "COALESCE(json_agg(row_to_json(\"t\".*)), '[]')", .fixed " AS ",
      .name ⟨"json", by decide, by decide⟩, .fixed " FROM ", .fixed "("]
    [.fixed ")", .fixed " AS ", .name ⟨"t", by decide, by decide⟩]
    rfl hq ((compile_deliver hq .all options).trans h) rfl rfl (by rfl) (by rfl)

/-- The number of the rows of a query that has to be wrapped: a fixed text around the query. -/
theorem compile_count {q : Query} {options : CompileOptions} {compiled : Compiled}
    (hq : q.appended = []) (hregrouped : isRegrouped q.clauses = true)
    (h : q.compile options = .ok compiled) :
    q.count.compile options = .ok
      ⟨"SELECT count(*) AS \"count\" FROM (" ++ compiled.sql ++ ") AS \"t\"", compiled.params,
        false⟩ := by
  simp only [count, hregrouped, if_true]
  exact compile_wrapper
    [.fixed "SELECT ", .fixed "count(", .fixed "*", .fixed ")", .fixed " AS ",
      .name ⟨"count", by decide, by decide⟩, .fixed " FROM ", .fixed "("]
    [.fixed ")", .fixed " AS ", .name ⟨"t", by decide, by decide⟩]
    rfl hq ((compile_deliver hq .all options).trans h) rfl rfl (by rfl) (by rfl)

/-- Whether a query has rows: a fixed text around the query without its order. -/
theorem compile_existence {q : Query} {options : CompileOptions} {compiled : Compiled}
    (hq : q.appended = []) (h : (q.clear .order).compile options = .ok compiled) :
    q.existence.compile options = .ok
      ⟨"SELECT EXISTS (" ++ compiled.sql ++ ") AS \"exists\"", compiled.params, false⟩ :=
  compile_wrapper
    [.fixed "SELECT ", .fixed "EXISTS ", .fixed "("]
    [.fixed ")", .fixed " AS ", .name ⟨"exists", by decide, by decide⟩]
    rfl hq ((compile_deliver (q := q.clear .order) hq .all options).trans h) rfl rfl
    (by rfl) (by rfl)

/-- What is compiled does not depend on what it stands in.  Every query at a position inside a
compiled one compiles by itself, and its text stands at the position, between what the outlines have
there, with its placeholders counted on and its values among the others; the statements of a chain
stand in it in the same way, with the suffix of changes behind them; and JSON, existence and wrapped
counts are fixed texts around a query, which bind exactly its values. -/
theorem compile_contains (options : CompileOptions) :
    (∀ (outer : Query) compiled, compile outer options = .ok compiled →
      ∀ i c, outer.members[i]? = some c →
        (∀ path q, c.inner? path = some q →
          ∃ inner inCte ahead behind before after, q.compile options = .ok inner ∧
            Encloses options.naming outer i inCte c ahead behind ∧
            Surrounds options.naming q inCte c path before after ∧
            compiled.Contains inner (ahead ++ before) (q.rendering options.naming).lexemesOf
              (after ++ behind)) ∧
        (outer.appended ≠ [] →
          ∃ inner ahead behind, (of c []).compile options = .ok inner ∧
            Encloses options.naming outer i true c ahead behind ∧
            compiled.Contains inner ahead (statement options.naming false c).lexemesOf
              (returningSuffix c ++ behind))) ∧
    (∀ (q : Query) compiled, q.appended = [] → compile q options = .ok compiled →
      q.json.compile options = .ok
        ⟨"SELECT COALESCE(json_agg(row_to_json(\"t\".*)), '[]') AS \"json\" FROM (" ++
          compiled.sql ++
          ") AS \"t\"", compiled.params, false⟩ ∧
      (isRegrouped q.clauses = true → q.count.compile options = .ok
        ⟨"SELECT count(*) AS \"count\" FROM (" ++ compiled.sql ++ ") AS \"t\"", compiled.params,
          false⟩)) ∧
    ∀ (q : Query) compiled, q.appended = [] → compile (q.clear .order) options = .ok compiled →
      q.existence.compile options = .ok
        ⟨"SELECT EXISTS (" ++ compiled.sql ++ ") AS \"exists\"", compiled.params, false⟩ := by
  refine ⟨?inside, ?questions, ?existence⟩
  case inside =>
    intro outer compiled h i c hc
    exact ⟨fun path q hq => contains_inner h hc hq, fun happended => contains_member h happended hc⟩
  case questions =>
    intro q compiled hq h
    exact ⟨compile_json hq h, fun hregrouped => compile_count hq hregrouped h⟩
  case existence =>
    intro q compiled hq h
    exact compile_existence hq h

/-- The orders of some people, at most three. -/
def ordersOf (names : List Value) : Query :=
  ((Table.named "o").query.filter (.inList "by" names)).limit 3

/-- Customers with an order, behind a statement that deletes orders. -/
def customersWithOrders : Query :=
  .of ((Table.named "c").query.filter
      (.all [Condition.compare "age" .eq (.value (.int 30)),
        Condition.inQuery "name" (ordersOf [.text "ann"])])).clauses
    [⟨((Table.named "o").query.filter (.isNull "by")).delete true, false⟩]

theorem compile_contains_customersWithOrders :
    (∃ compiled inner before ls behind, customersWithOrders.compile {} = .ok compiled ∧
      (ordersOf [.text "ann"]).compile {} = .ok inner ∧
      compiled.Contains inner before ls behind) ∧
    (∃ compiled inner before ls behind, customersWithOrders.compile {} = .ok compiled ∧
      (((Table.named "o").query.filter (.isNull "by")).delete true).compile {} = .ok inner ∧
      compiled.Contains inner before ls (.fixed " RETURNING 1" :: behind)) ∧
    ∃ compiled, (ordersOf [.text "ann"]).compile {} = .ok compiled ∧
      (ordersOf [.text "ann"]).count.compile {} = .ok
        ⟨"SELECT count(*) AS \"count\" FROM (" ++ compiled.sql ++ ") AS \"t\"", compiled.params,
          false⟩ ∧
      (ordersOf [.text "ann"]).existence.compile {} = .ok
        ⟨"SELECT EXISTS (" ++ compiled.sql ++ ") AS \"exists\"", compiled.params, false⟩ := by
  rcases compile_contains {} with ⟨hinside, hquestions, hexistence⟩
  refine ⟨?nested, ?member, ?questions⟩
  case nested =>
    obtain ⟨inner, inCte, ahead, behind, before, after, hinner, -, -, hcontains⟩ :=
      (hinside customersWithOrders _ rfl 1 _ rfl).1 [0] (ordersOf [.text "ann"]) rfl
    exact ⟨_, inner, _, _, _, rfl, hinner, hcontains⟩
  case member =>
    obtain ⟨inner, ahead, behind, hinner, -, hcontains⟩ :=
      (hinside customersWithOrders _ rfl 0 _ rfl).2 (by simp [customersWithOrders, appended])
    exact ⟨_, inner, _, _, _, rfl, hinner, hcontains⟩
  case questions =>
    exact ⟨_, rfl, (hquestions _ _ rfl rfl).2 rfl, hexistence _ _ rfl rfl⟩

end Query
end ParamSql
