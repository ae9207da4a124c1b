import ParamSql.Proofs.Sql.Brackets
import ParamSql.Proofs.Sql.Chain
import ParamSql.Proofs.Sql.Guard

/-!
# Placement — changes stand in the outermost list of common table expressions

A change may stand as a statement by itself, or as a common table expression of the outermost
statement, and nowhere deeper.  If statements are appended to a query, all of them become common
table expressions, and so does the query itself; but each of them takes its own common table
expressions with it.  A change among these stands in two brackets then, where it stood in one
before.

* `Clauses.changeLevels` — the levels of the changes in a statement by itself;
* `Query.stands_statement`, `Link.stands_chain` — the levels at which they are written, and those at
  which they are written in a chain;
* `Query.changes_outermost_iff` — all changes stand in the outermost list exactly if none is a
  common table expression of one of the statements.
-/

namespace ParamSql

open Lexeme (Stands)

/-! ## Levels of changes -/

/-- Whether the body of a common table expression is a change. -/
def Cte.isChanging (cte : Cte Query) : Bool :=
  match cte.body with
  | .query q => q.clauses.mutation.isSome
  | .fragment _ => false

namespace Clauses

/-- The levels of a statement that is a change, and of one that is none. -/
def ownLevels (c : Clauses Query) : List Int :=
  if c.mutation.isSome then [0] else []

/-- The levels at which changes stand in a statement by itself: one bracket around those that are
its common table expressions, none around the statement. -/
def changeLevels (c : Clauses Query) : List Int :=
  c.ctes.flatMap (fun cte => if cte.isChanging then [1] else []) ++ c.ownLevels

/-- There are no changes in a statement but itself and the bodies of its common table
expressions. -/
structure ChangesDirectly (c : Clauses Query) : Prop where
  body : ∀ q ∈ c.bodySubqueries, q.IsQuiet
  ctes : ∀ cte ∈ c.ctes, ∀ q ∈ cte.subqueries, ∀ r ∈ q.clauses.subqueries, r.IsQuiet

theorem IsLaid.stands {cs : Columns} {c : Clauses Query} {ls : List Lexeme}
    (h : c.IsLaid (Layout.quietly cs) ls) : Stands c.ownLevels ls := by
  unfold IsLaid at h
  unfold ownLevels
  cases hmutation : c.mutation with
  | none =>
      rw [hmutation] at h
      exact h
  | some m =>
      rw [hmutation] at h
      obtain ⟨verb, hverb, rest, rfl, hrest⟩ := h
      exact (Stands.verb hverb).append_quietly hrest

end Clauses

namespace Query

variable {naming : Naming}

/-- A query whose common table expressions have no changes in them is a change or has none. -/
theorem stands_rendering {q : Query} (hquiet : ∀ r ∈ q.clauses.subqueries, r.IsQuiet)
    {ls : List Lexeme} (h : (q.rendering naming : Rendering (List Lexeme)).result = .ok ls) :
    Stands q.clauses.ownLevels ls := by
  obtain ⟨-, hstatement⟩ := rendering_eq_ok h
  rw [statement_eq_map] at hstatement
  obtain ⟨own, rest, rfl, hown, hrest⟩ := Clauses.exists_laid
    (L := Layout.quietly _) (fun r hr => lays_quietly (hquiet r hr)) hstatement
  exact Stands.quietly_append hown hrest.stands

/-- A common table expression stands in brackets behind its name. -/
theorem stands_cte {cte : Cte Query}
    (hquiet : ∀ q ∈ cte.subqueries, ∀ r ∈ q.clauses.subqueries, r.IsQuiet) {ls : List Lexeme}
    (h : (cte.map (rendering naming)).rendering.result = .ok ls) :
    Stands (if cte.isChanging then [1] else []) ls := by
  rw [Cte.rendering_map] at h
  obtain ⟨front, enclosed, hfront, henclosed, rfl⟩ := Rendering.result_append_eq_ok h
  obtain ⟨body, hbody, rfl⟩ := Rendering.bracketed_eq_ok henclosed
  -- the heading has neither brackets nor changes, so the body alone counts, one bracket deeper
  have hheading : Stands [] front :=
    cte.lays_heading (L := Layout.quietly ⟨none, naming⟩) front hfront
  refine hheading.quietly_append ?_
  have hdeeper {levels : List Int} (hlevels : Stands levels body) :
      Stands (levels.map (· + 1)) (.fixed "(" :: body ++ [.fixed ")"]) :=
    hlevels.enclosed (by simp [leftTexts]) (by simp [rightTexts])
  unfold Cte.isChanging
  unfold Cte.subqueries at hquiet
  cases hcte : cte.body with
  | query q =>
      simp only [hcte] at hbody hquiet
      have hlevels := hdeeper (stands_rendering (hquiet q (by simp)) hbody)
      cases hmutation : q.clauses.mutation with
      | none => simpa [Clauses.ownLevels, hmutation] using hlevels
      | some m => simpa [Clauses.ownLevels, hmutation] using hlevels
  | fragment f =>
      simp only [hcte] at hbody
      have hfragment : Stands [] body := (Layout.quietly ⟨none, naming⟩).fragment f body hbody
      simpa using hdeeper hfragment

theorem stands_withClause {c : Clauses Query} (hdirect : c.ChangesDirectly) {ls : List Lexeme}
    (h : (c.map (rendering naming)).withClause.result = .ok ls) :
    Stands (c.ctes.flatMap fun cte => if cte.isChanging then [1] else []) ls := by
  unfold Clauses.withClause at h
  rw [Clauses.map_ctes, List.isEmpty_map] at h
  split at h
  case isTrue hempty =>
    obtain rfl : [] = ls := Except.ok.inj h
    rw [List.isEmpty_iff.1 hempty]
    exact .nil
  case isFalse =>
    obtain ⟨front, blank, hfront, hblank, rfl⟩ := Rendering.result_append_eq_ok h
    obtain ⟨keyword, list, hkeyword, hlist, rfl⟩ := Rendering.result_append_eq_ok hfront
    obtain ⟨lss, hlss, rfl⟩ := Rendering.commas_eq_ok hlist
    obtain rfl := Except.ok.inj hkeyword
    obtain rfl := Except.ok.inj hblank
    rw [List.map_map, List.forall₂_map_left_iff] at hlss
    have hctes := (List.forall₂_and_left ..).2 ⟨hdirect.ctes, hlss⟩
    refine ((Stands.quiet ?_).quietly_append ?_).append_quietly (.quiet (by simp [quietTexts]))
    · split <;> simp [quietTexts]
    · exact .intercalate (by simp [quietTexts]) (hctes.imp fun cte ls h => stands_cte h.1 h.2)

/-- A statement is written with its changes at their levels. -/
theorem stands_statement {c : Clauses Query} (hdirect : c.ChangesDirectly) {inCte : Bool}
    {ls : List Lexeme} (h : (statement naming inCte c : Rendering (List Lexeme)).result = .ok ls) :
    Stands c.changeLevels ls := by
  rw [statement_eq_map, Clauses.statement, Clauses.columns_map] at h
  obtain ⟨own, rest, hown, hrest, rfl⟩ := Rendering.result_append_eq_ok h
  have hlaid := Clauses.isLaid_of_subqueries (L := Layout.quietly _)
    (fun q hq => lays_quietly (hdirect.body q hq)) hrest
  exact (stands_withClause hdirect hown).append hlaid.stands

end Query

/-! ## Levels in a chain -/

namespace Link

theorem stands_guards (links : List Link) : Stands [] (guards links) := by
  have hguard (l : Link) : Stands [] l.guard := by
    have hbrackets : Lexeme.brackets l.guard = ['(', '(', ')', '(', ')', ')'] := by rfl
    have hmatched : Matched ('(' :: (['(', ')'] ++ ['(', ')']) ++ [')']) :=
      .enclosed (.append (.enclosed .nil) (.enclosed .nil))
    exact ⟨hbrackets ▸ hmatched, by simp [guard, Lexeme.changeLevels, Lexeme.isVerb, verbTexts]⟩
  unfold guards
  cases links.filter (·.statement.required) with
  | nil => exact .nil
  | cons l required =>
      -- between the guards there is nothing that counts, nor in any of them
      have hlist := Stands.intercalate_map (s := " AND ") (l := l :: required)
        (by simp [quietTexts]) fun l _ => hguard l
      rw [List.flatMap_eq_nil_iff.2 fun _ _ => rfl] at hlist
      exact (Stands.quiet (by simp [quietTexts])).append hlist

/-- In a chain everything stands one level deeper than in the statements themselves. -/
theorem stands_chain {links : List Link} {main : Link} {levels : Link → List Int}
    (h : ∀ l ∈ links ++ [main], Stands (levels l) l.body) :
    Stands ((links ++ [main]).flatMap fun l => (levels l).map (· + 1)) (chain links main) := by
  -- one bracket around the body, behind a name that is quiet
  have hlink : ∀ l ∈ links ++ [main], Stands ((levels l).map (· + 1)) l.lexemes := fun l hl => by
    have hheading : Stands [] [.name (Aliases.identifierAt l.index), .fixed " AS "] :=
      (Stands.supplied rfl).append (.quiet (by simp [quietTexts]))
    have henclosed := (h l hl).enclosed (s := "(") (t := ")") (by simp [leftTexts])
      (by simp [rightTexts])
    simpa [lexemes] using hheading.quietly_append henclosed
  have hlist := Stands.intercalate_map (s := ", ") (by simp [quietTexts]) hlink
  have hselect : Stands [] [.fixed " SELECT * FROM ", .name (Aliases.identifierAt main.index)] :=
    ⟨.nil, rfl⟩
  have hwith : Stands [] [.fixed "WITH "] := .quiet (by simp [quietTexts])
  exact ((hwith.quietly_append hlist).append_quietly hselect).append_quietly (stands_guards links)

end Link

namespace Clauses

theorem mem_changeLevels {c : Clauses Query} {level : Int} :
    level ∈ c.changeLevels ↔
      (level = 1 ∧ ∃ cte ∈ c.ctes, cte.isChanging = true) ∨
        (level = 0 ∧ c.mutation.isSome = true) := by
  have hctes : level ∈ (c.ctes.flatMap fun cte => if cte.isChanging then [1] else []) ↔
      level = 1 ∧ ∃ cte ∈ c.ctes, cte.isChanging = true := by
    rw [List.mem_flatMap]
    constructor
    · rintro ⟨cte, hcte, hlevel⟩
      split at hlevel
      · exact ⟨List.mem_singleton.1 hlevel, cte, hcte, ‹_›⟩
      · cases hlevel
    · rintro ⟨rfl, cte, hcte, hchanging⟩
      exact ⟨cte, hcte, by simp [hchanging]⟩
  rw [changeLevels, List.mem_append, hctes, ownLevels]
  refine or_congr_right ?_
  split <;> simp_all

end Clauses

namespace Query

/-- Every change in a chain stands in the outermost list of common table expressions, which is one
bracket deep, exactly if none of the statements has a change among its own common table
expressions. -/
theorem forall_level_eq_one_iff {members : List (Clauses Query)} :
    (∀ level ∈ members.flatMap fun c => c.changeLevels.map (· + 1), level = 1) ↔
      ∀ c ∈ members, ∀ cte ∈ c.ctes, cte.isChanging = false := by
  constructor
  · intro hall c hc cte hcte
    by_contra hchanging
    -- a change among the common table expressions stands at level 1 alone, and at level 2 in the
    -- chain
    have hlevel : (1 : Int) ∈ c.changeLevels :=
      Clauses.mem_changeLevels.2 (.inl ⟨rfl, cte, hcte, by simpa using hchanging⟩)
    have htwo := hall (1 + 1) (List.mem_flatMap.2 ⟨c, hc, List.mem_map.2 ⟨1, hlevel, rfl⟩⟩)
    omega
  · intro hnone level hlevel
    obtain ⟨c, hc, hmap⟩ := List.mem_flatMap.1 hlevel
    obtain ⟨alone, halone, rfl⟩ := List.mem_map.1 hmap
    rcases Clauses.mem_changeLevels.1 halone with ⟨-, cte, hcte, hchanging⟩ | ⟨rfl, -⟩
    · rw [hnone c hc cte hcte] at hchanging
      cases hchanging
    · rfl

/-- Where changes occur only as statements of a chain and as common table expressions of these, all
brackets of the compiled text match, every statement stands in its chain as it does by itself, and
each change in it one bracket deeper.  By itself a statement has its changes in no bracket or, as a
common table expression, in one.  In the chain all of them stand in one, which is the body of one of
the outermost common table expressions, exactly if no statement has a change among its own. -/
theorem changes_outermost_iff {q : Query} {options : CompileOptions} {compiled : Compiled}
    (happended : q.appended ≠ []) (h : q.compile options = .ok compiled)
    (hdirect : ∀ c ∈ q.members, c.ChangesDirectly) :
    (∀ c ∈ q.members, ∃ alone ls, (of c []).compile options = .ok alone ∧
      alone.sql = Lexeme.text ls ∧ Stands c.changeLevels ls ∧
        ∀ level ∈ c.changeLevels, level = 0 ∨ level = 1) ∧
    ∃ links main,
      compiled.sql = Lexeme.text (Link.chain links main) ∧
      (links ++ [main]).map (fun l => l.statement.clauses) = q.members ∧
      (∀ l ∈ links ++ [main], Stands l.statement.clauses.changeLevels l.body) ∧
      Stands (q.members.flatMap fun c => c.changeLevels.map (· + 1)) (Link.chain links main) ∧
      ((∀ level ∈ Lexeme.changeLevels 0 (Link.chain links main), level = 1) ↔
        ∀ c ∈ q.members, ∀ cte ∈ c.ctes, cte.isChanging = false) := by
  refine ⟨?alone, ?chained⟩
  case alone =>
    -- a member is compiled alone as it is written in the chain
    intro c hc
    obtain ⟨i, hi⟩ := List.getElem?_of_mem hc
    obtain ⟨alone, -, -, halone, -⟩ := contains_member h happended hi
    obtain ⟨ls, hls, -, rfl⟩ := compile_eq_ok_iff.1 halone
    refine ⟨_, ls, halone, rfl, stands_statement (hdirect c hc) hls, fun level hlevel => ?_⟩
    rcases Clauses.mem_changeLevels.1 hlevel with ⟨hone, -⟩ | ⟨hzero, -⟩
    · exact .inr hone
    · exact .inl hzero
  case chained =>
    obtain ⟨links, main, rfl, -, hlinks, hmain, -, -, hwritten⟩ :=
      exists_links_of_compile happended h
    -- the links hold the statements of the query in their order
    have hmembers : (links ++ [main]).map (fun l => l.statement.clauses) = q.members := by
      rw [members_eq, ← hlinks, List.map_append, List.map_map, List.map_singleton, hmain]
      rfl
    have hbodies : ∀ l ∈ links ++ [main], Stands l.statement.clauses.changeLevels l.body :=
      fun l hl => stands_statement
        (hdirect _ (hmembers ▸ List.mem_map.2 ⟨l, hl, rfl⟩)) (hwritten l hl).2
    have hchain := Link.stands_chain hbodies
    rw [← List.flatMap_map (fun l : Link => l.statement.clauses)
      (fun c => c.changeLevels.map (· + 1)), hmembers] at hchain
    refine ⟨links, main, rfl, hmembers, hbodies, hchain, ?_⟩
    rw [hchain.levels]
    exact forall_level_eq_one_iff

/-- Accounts beside the open orders, behind the deletion of those that nobody has paid. -/
def accountsWithOpen : Query :=
  ((Table.named "account").query.withCte
    ⟨"open", [], .query (Table.named "order").query, false⟩).append unpaidOrders false

theorem changesDirectly_accountsWithOpen : ∀ c ∈ accountsWithOpen.members, c.ChangesDirectly := by
  have hmembers : accountsWithOpen.members =
      [unpaidOrders.clauses, accountsWithOpen.clauses] := rfl
  rw [hmembers]
  refine List.forall_mem_cons.2 ⟨⟨nofun, nofun⟩, List.forall_mem_singleton.2 ⟨nofun, ?_⟩⟩
  intro cte hcte q hq r hr
  obtain rfl : cte = ⟨"open", [], .query (Table.named "order").query, false⟩ :=
    List.mem_singleton.1 hcte
  obtain rfl : q = (Table.named "order").query := List.mem_singleton.1 hq
  cases hr

theorem changes_outermost_iff_accountsWithOpen :
    ∃ compiled links main,
      accountsWithOpen.appended ≠ [] ∧ accountsWithOpen.compile {} = .ok compiled ∧
      (∀ c ∈ accountsWithOpen.members, c.ChangesDirectly) ∧
      compiled.sql = Lexeme.text (Link.chain links main) ∧
      Lexeme.changeLevels 0 (Link.chain links main) = [1] := by
  have happended : accountsWithOpen.appended ≠ [] := by simp [accountsWithOpen, append, appended]
  obtain ⟨compiled, hcompiled⟩ : ∃ compiled, accountsWithOpen.compile {} = .ok compiled := ⟨_, rfl⟩
  obtain ⟨-, links, main, hsql, -, -, hchain, -⟩ :=
    changes_outermost_iff happended hcompiled changesDirectly_accountsWithOpen
  exact ⟨compiled, links, main, happended, hcompiled, changesDirectly_accountsWithOpen, hsql,
    hchain.levels⟩

/-- Accounts beside the deletion of unpaid orders, behind a query for locks. -/
def accountsBehindLock : Query :=
  accountsBesideOrders.append (Table.named "lock").query false

/-- Once a statement is appended to the query, the change among its common table expressions no
longer stands in an outermost one. -/
theorem change_nested_accountsBehindLock :
    accountsBesideOrders.compile {} = .ok
      ⟨"WITH \"gone\" AS (DELETE FROM \"order\" WHERE \"order\".\"paid\" IS NULL) " ++
        "SELECT * FROM \"account\"", [], false⟩ ∧
    accountsBehindLock.compile {} = .ok
      ⟨"WITH \"q\" AS (SELECT * FROM \"lock\"), \"q2\" AS (" ++
        "WITH \"gone\" AS (DELETE FROM \"order\" WHERE \"order\".\"paid\" IS NULL) " ++
          "SELECT * FROM \"account\") SELECT * FROM \"q2\"", [], false⟩ ∧
    (∀ c ∈ accountsBehindLock.members, c.ChangesDirectly) ∧
    (∃ ls, (accountsBesideOrders.rendered .verbatim : Rendering (List Lexeme)).result = .ok ls ∧
      Lexeme.changeLevels 0 ls = [1]) ∧
    ∃ ls, (accountsBehindLock.rendered .verbatim : Rendering (List Lexeme)).result = .ok ls ∧
      Lexeme.changeLevels 0 ls = [2] := by
  refine ⟨rfl, rfl, ?direct, ⟨_, rfl, by decide +kernel⟩, ⟨_, rfl, by decide +kernel⟩⟩
  case direct =>
    have hmembers : accountsBehindLock.members =
        [(Table.named "lock").query.clauses, accountsBesideOrders.clauses] := rfl
    rw [hmembers]
    refine List.forall_mem_cons.2 ⟨⟨nofun, nofun⟩, List.forall_mem_singleton.2 ⟨nofun, ?_⟩⟩
    intro cte hcte q hq r hr
    obtain rfl : cte = ⟨"gone", [], .query unpaidOrders, false⟩ := List.mem_singleton.1 hcte
    obtain rfl : q = unpaidOrders := List.mem_singleton.1 hq
    cases hr

end Query
end ParamSql
