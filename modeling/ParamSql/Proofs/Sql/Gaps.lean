import ParamSql.Proofs.Sql.Elements
import ParamSql.Proofs.Sql.Placement

/-!
# Gaps — lists that are opened and have no elements

In the text of a compiled query every bracket has its counterpart, and no element of a list is
missing, but for two lists: the columns that rows are to be distinct on, and the assignments of a
conflict.  These two are opened without a look at their elements.

* `Query.matched_rendered` — the brackets of all queries match;
* `Query.headedBy_rendered` — a query is tidy if none of its statements opens one of the two without
  elements;
* `Lexeme.OpensNothing`, `Clauses.opensNothing_statement` — what is written otherwise, which is not
  tidy whatever stands around it;
* `Query.compile_tidy_iff` — both of compiled queries.
-/

namespace ParamSql

open Rendering
open Lexeme (Border beginsPart brackets)

/-! ## Brackets -/

/-- Brackets match, whatever else is written. -/
def Layout.bracketing (cs : Columns) : Layout cs where
  holds _ ls := Matched (brackets ls)
  nil := .nil
  append h h' := Lexeme.brackets_append _ _ ▸ h.append h'
  supplied h := (Lexeme.Stands.supplied h).matched
  quiet h := (Lexeme.Stands.quiet h).matched
  enclosed hs ht h := (Lexeme.Stands.enclosed hs ht ⟨h, rfl⟩).matched
  reference h := ((Layout.quietly cs).reference h).matched

namespace Clauses

variable {Q : Type} {c : Clauses Q} {ρ : Q → Rendering (List Lexeme)} {naming : Naming}
variable {inCte : Bool} {ls : List Lexeme}

theorem IsLaid.matched {cs : Columns} (h : c.IsLaid (Layout.bracketing cs) ls) :
    Matched (brackets ls) := by
  unfold IsLaid at h
  split at h
  case h_1 => exact h
  case h_2 =>
    obtain ⟨verb, hverb, rest, rfl, hrest⟩ := h
    rw [Lexeme.brackets_cons]
    exact (Lexeme.Stands.verb hverb).matched.append hrest

theorem matched_statement
    (hsubqueries : ∀ q ∈ c.subqueries, ∀ ls, (ρ q).result = .ok ls → Matched (brackets ls))
    (h : ((c.map ρ).statement naming inCte).result = .ok ls) : Matched (brackets ls) := by
  obtain ⟨own, rest, rfl, hown, hrest⟩ := exists_laid (L := Layout.bracketing _) hsubqueries h
  rw [Lexeme.brackets_append]
  exact hown.append hrest.matched

end Clauses

namespace Query

variable {naming : Naming} {ls : List Lexeme}

theorem matched_rendering {q : Query}
    (h : (q.rendering naming : Rendering (List Lexeme)).result = .ok ls) :
    Matched (brackets ls) := by
  -- by induction on the query, through the queries inside it
  induction q using Query.induction generalizing ls with
  | step c as ih _ =>
      obtain ⟨-, hstatement⟩ := rendering_eq_ok h
      rw [statement_eq_map] at hstatement
      exact Clauses.matched_statement
        (fun r hr ls hls => ih r (Clauses.query_mem_ingredients hr) hls) hstatement

theorem matched_statement {c : Clauses Query} {inCte : Bool}
    (h : (statement naming inCte c : Rendering (List Lexeme)).result = .ok ls) :
    Matched (brackets ls) := by
  rw [statement_eq_map] at h
  exact Clauses.matched_statement (fun _ _ _ hls => matched_rendering hls) h

/-- In what is written for a query, every bracket has its counterpart. -/
theorem matched_rendered {q : Query}
    (h : (q.rendered naming : Rendering (List Lexeme)).result = .ok ls) :
    Matched (brackets ls) := by
  unfold rendered at h
  split at h
  case isTrue => exact matched_statement h
  case isFalse =>
    obtain ⟨links, main, rfl, -, -, -, -, hwritten⟩ := exists_links h
    have hbodies : ∀ l ∈ links ++ [main],
        Lexeme.Stands (Lexeme.changeLevels 0 l.body) l.body := fun l hl =>
      ⟨matched_statement (hwritten l hl).2, rfl⟩
    exact (Link.stands_chain hbodies).matched

end Query

/-! ## Queries without gaps -/

namespace Clauses

variable {Q : Type} {c : Clauses Q} {ρ : Q → Rendering (List Lexeme)}

/-- A statement has no gaps if the queries that are written in it have none. -/
theorem headedBy_of_subqueries (naming : Naming) (inCte : Bool) (hlists : c.opensEmptyList = false)
    (hfilled : ∀ f, .fragment f ∈ c.ingredients → f.IsFilled)
    (hsubqueries : ∀ q ∈ c.subqueries, (ρ q).HeadedBy beginsPart) :
    ((c.map ρ).statement naming inCte).HeadedBy beginsPart := by
  classical
  -- other queries, which are not written, may be replaced by a fault
  let σ (q : Q) : Rendering (List Lexeme) :=
    if (ρ q).HeadedBy beginsPart then ρ q else .fault .nestedAppend
  have hσ : ∀ q, (σ q).HeadedBy beginsPart := fun q => .choice id fun _ => .fault _
  have hsuits : ∀ i ∈ c.ingredients, i.Suits σ := by
    intro i hi
    cases i with
    | name s => trivial
    | fragment f => exact hfilled f hi
    | query q => exact hσ q
  intro ls hls
  have hwritten : ((c.map σ).statement naming inCte).result = .ok ls :=
    statement_congr (fun q hq => by simp only [σ, if_pos (hsubqueries q hq)]) hls
  exact headedBy_statement naming inCte hlists (each_iff.2 hsuits) ls hwritten

end Clauses

namespace Query

variable {naming : Naming}

theorem headedBy_rendering {q : Query}
    (hlists : ∀ d : Clauses Query, d.Within q.clauses → d.opensEmptyList = false)
    (hfilled : ∀ f, q.Supplies (.fragment f) → f.IsFilled) :
    (q.rendering naming).HeadedBy beginsPart := by
  -- by induction on the query: what is written in the queries inside it is written in it
  induction q using Query.induction with
  | step c as ih _ =>
      intro ls hls
      obtain ⟨-, hstatement⟩ := rendering_eq_ok hls
      rw [statement_eq_map] at hstatement
      have hsubqueries : ∀ r ∈ c.subqueries, (r.rendering naming).HeadedBy beginsPart := by
        intro r hr
        have hmem := Clauses.query_mem_ingredients hr
        exact ih r hmem (fun d hd => hlists d (.inside hr hd)) fun f hf =>
          hfilled f (.inner hmem hf)
      exact Clauses.headedBy_of_subqueries naming false (hlists c .self)
        (fun f hf => hfilled f (.own hf)) hsubqueries ls hstatement

theorem headedBy_statement {c : Clauses Query} (inCte : Bool)
    (hlists : ∀ d : Clauses Query, d.Within c → d.opensEmptyList = false)
    (hfilled : ∀ f, (of c []).Supplies (.fragment f) → f.IsFilled) :
    (statement naming inCte c).HeadedBy beginsPart := by
  rw [statement_eq_map]
  refine Clauses.headedBy_of_subqueries naming inCte (hlists c .self)
    (fun f hf => hfilled f (.own hf)) fun r hr => ?_
  exact headedBy_rendering (fun d hd => hlists d (.inside hr hd)) fun f hf =>
    hfilled f (.inner (Clauses.query_mem_ingredients hr) hf)

theorem continues_guards (names : List String) : (guards names).Continues := by
  have hguard (name : String) : (guardCondition name).IsElement :=
    (IsElement.start (by decide) (HeadedBy.name name).isElement).close (by decide)
  cases names with
  | nil => exact .nothing
  | cons name names =>
      exact .lead (by decide) (.separated (fun _ h => .lead (by decide) h)
        (List.cons_ne_nil name names) fun name _ => hguard name)

theorem headedBy_chainOf {write : Clauses Query → Rendering (List Lexeme)} {q : Query}
    (h : ∀ c ∈ q.members, (write c).HeadedBy beginsPart) :
    (q.chainOf write).HeadedBy beginsPart := by
  have hne : q.namedMembers ≠ [] := by simp [namedMembers]
  have hmember : ∀ member ∈ q.namedMembers, (memberOf write member.1 member.2).IsElement := by
    intro member hmember
    have hwrite : (write member.2).HeadedBy beginsPart := h member.2 (List.mem_map_of_mem hmember)
    exact (HeadedBy.name member.1).isElement.lead (by decide) hwrite.isElement_of_part.bracketed
  have hselected : (.name q.mainName ++ guards q.requiredNames : Rendering _).IsElement :=
    (HeadedBy.name q.mainName).isElement.append (continues_guards q.requiredNames)
  unfold chainOf
  simp only [append_assoc]
  exact .head (by simp [Lexeme.headTexts])
    ((IsElement.commas hne hmember).append (.lead (by decide) hselected))

/-- A query has no gaps if no statement that is written for it opens an empty list. -/
theorem headedBy_rendered {q : Query} (hlists : ∀ c, q.Writes c → c.opensEmptyList = false)
    (hfilled : ∀ f, q.Supplies (.fragment f) → f.IsFilled) :
    (q.rendered naming).HeadedBy beginsPart := by
  have hmember (inCte : Bool) :
      ∀ c ∈ q.members, (statement naming inCte c).HeadedBy beginsPart := by
    intro c hc
    exact headedBy_statement inCte (fun d hd => hlists d ⟨c, hc, hd⟩) fun f hf =>
      hfilled f (supplies_member hc hf)
  unfold rendered
  rw [chain_eq]
  exact .choice (fun _ => hmember false _ (by simp [members_eq])) fun _ =>
    headedBy_chainOf (hmember true)

end Query

/-! ## Lists that are opened and have no elements -/

namespace Lexeme

/-- A list is opened and has no elements: its bracket is closed at once, or its keyword has a border
behind it. -/
inductive OpensNothing : List Lexeme → Prop
  | distinct {before behind : List Lexeme} :
      OpensNothing (before ++ .fixed "DISTINCT ON (" :: .fixed ") " :: behind)
  | set {before behind : List Lexeme} : Border behind →
      OpensNothing (before ++ .fixed " DO UPDATE SET " :: behind)

namespace OpensNothing

variable {ls before behind : List Lexeme}

/-- Inside something else, the list still has no elements. -/
theorem inside (h : OpensNothing ls) (hborder : Border behind) :
    OpensNothing (before ++ ls ++ behind) := by
  cases h with
  | @distinct front rear =>
      have hlist : OpensNothing (before ++ front ++ .fixed "DISTINCT ON (" :: .fixed ") " ::
          (rear ++ behind)) := .distinct
      simpa only [List.append_assoc, List.cons_append] using hlist
  | @set front rear hrear =>
      have hlist : OpensNothing (before ++ front ++ .fixed " DO UPDATE SET " :: (rear ++ behind)) :=
        .set (hrear.append hborder)
      simpa only [List.append_assoc, List.cons_append] using hlist

theorem not_tidy (h : OpensNothing ls) : ¬Tidy ls := by
  intro htidy
  cases h with
  | distinct =>
      obtain ⟨m, rest, hbehind, hmeets⟩ := htidy.exists_meets (by decide) (by simp)
      obtain rfl : .fixed ") " = m := (List.cons.inj hbehind).1
      revert hmeets
      decide
  | set hborder =>
      obtain ⟨m, rest, rfl, hmeets⟩ := htidy.exists_meets (by decide) (by simp)
      -- behind the keyword there has to be a name
      obtain ⟨s, rfl⟩ := hborder m rfl
      have hset : isSet (.fixed " DO UPDATE SET ") = true := by decide
      simp [meets, hset, isName] at hmeets

end OpensNothing
end Lexeme

namespace Clauses

open Lexeme (OpensNothing)

variable {Q : Type} {c : Clauses Q} {ρ : Q → Rendering (List Lexeme)} {cs : Columns}
variable {ls : List Lexeme}

theorem border_returningClause {inCte : Bool}
    (h : ((c.map ρ).returningClause cs inCte).result = .ok ls) : Border ls := by
  unfold returningClause at h
  split at h
  · cases inCte with
    | true =>
        obtain rfl : [.fixed " RETURNING 1"] = ls := Except.ok.inj h
        exact fun l hl => ⟨_, (Option.some.inj hl).symm⟩
    | false =>
        obtain rfl : [] = ls := Except.ok.inj h
        exact .nil
  · obtain ⟨x, y, hx, -, rfl⟩ := result_append_eq_ok h
    obtain rfl : [.fixed " RETURNING "] = x := Except.ok.inj hx
    exact fun l hl => ⟨_, (Option.some.inj hl).symm⟩

theorem opensNothing_selection {d : Distinct} (hdistinct : c.distinct = some d)
    (hnothing : d.isOnNothing = true) (h : ((c.map ρ).selection cs).result = .ok ls) :
    OpensNothing ls := by
  obtain ⟨columns, rfl, hcolumns⟩ : ∃ columns, d = .on columns ∧ columns = [] := by
    cases d with
    | rows => cases hnothing
    | on columns => exact ⟨columns, rfl, by simpa [Distinct.isOnNothing] using hnothing⟩
  rw [selection, concat_cons, concat_cons] at h
  obtain ⟨keyword, rest, hkeyword, hrest, rfl⟩ := result_append_eq_ok h
  obtain ⟨list, behind, hlist, -, rfl⟩ := result_append_eq_ok hrest
  obtain rfl : [.fixed "SELECT "] = keyword := Except.ok.inj hkeyword
  rw [distinctClause, map_distinct, hdistinct, hcolumns] at hlist
  obtain rfl : [.fixed "DISTINCT ON (", .fixed ") "] = list := Except.ok.inj hlist
  have hlist : OpensNothing
      ([.fixed "SELECT "] ++ .fixed "DISTINCT ON (" :: .fixed ") " :: behind) := .distinct
  exact hlist

theorem opensNothing_conflictClause {o : OnConflict Q} (hnothing : o.setsNothing = true)
    (h : (conflictClause cs (o.map ρ)).result = .ok ls) :
    ∃ before, ls = before ++ [.fixed " DO UPDATE SET "] := by
  rcases o with ⟨columns, action⟩
  unfold OnConflict.setsNothing at hnothing
  cases action with
  | nothing => cases hnothing
  | merge merged => cases hnothing
  | update r =>
      obtain ⟨before, action, -, haction, rfl⟩ := result_append_eq_ok h
      have hnone : r.assignments = [] := by simpa using hnothing
      simp only [OnConflict.map, ConflictAction.map, Record.map, hnone] at haction
      split at haction
      · cases haction
      · obtain rfl : [.fixed " DO UPDATE SET "] = action := Except.ok.inj haction
        exact ⟨before, rfl⟩

theorem opensNothing_body {inCte : Bool} (hlists : c.opensEmptyList = true)
    (h : ((c.map ρ).body cs inCte).result = .ok ls) : OpensNothing ls := by
  unfold opensEmptyList at hlists
  unfold body at h
  rw [map_mutation] at h
  cases hmutation : c.mutation with
  | none =>
      simp only [hmutation] at hlists
      simp only [hmutation, Option.map_none] at h
      obtain ⟨d, hd, hnothing⟩ : ∃ d, c.distinct = some d ∧ d.isOnNothing = true := by
        simpa [Option.any_eq_true] using hlists
      exact opensNothing_selection hd hnothing h
  | some m =>
      simp only [hmutation] at hlists
      cases m with
      | update r => cases hlists
      | delete hard => cases hlists
      | insert rows conflict =>
          obtain ⟨o, rfl, hnothing⟩ : ∃ o, conflict = some o ∧ o.setsNothing = true := by
            simpa [Option.any_eq_true] using hlists
          simp only [hmutation, Option.map_some, Mutation.map, insertion] at h
          obtain ⟨change, returning, hchange, hreturning, rfl⟩ := result_append_eq_ok h
          obtain ⟨front, clause, -, hclause, rfl⟩ := result_append_eq_ok hchange
          obtain ⟨before, rfl⟩ := opensNothing_conflictClause hnothing hclause
          have hset : OpensNothing (front ++ before ++ .fixed " DO UPDATE SET " :: returning) :=
            .set (border_returningClause hreturning)
          rw [← List.singleton_append, ← List.append_assoc, List.append_assoc front] at hset
          exact hset

/-- A statement that opens an empty list by itself has it in its text. -/
theorem opensNothing_statement {naming : Naming} {inCte : Bool} (hlists : c.opensEmptyList = true)
    (h : ((c.map ρ).statement naming inCte).result = .ok ls) : OpensNothing ls := by
  rw [statement, columns_map] at h
  obtain ⟨own, body, -, hbody, rfl⟩ := result_append_eq_ok h
  have hopens : OpensNothing (own ++ body ++ []) := (opensNothing_body hlists hbody).inside .nil
  rw [List.append_nil] at hopens
  exact hopens

end Clauses

namespace Query

open Lexeme (OpensNothing)

/-- So has a query in which such a statement is written. -/
theorem opensNothing_rendered {naming : Naming} {q : Query} {c : Clauses Query} (h : q.Writes c)
    (hlists : c.opensEmptyList = true) {ls : List Lexeme}
    (hls : (q.rendered naming : Rendering (List Lexeme)).result = .ok ls) : OpensNothing ls := by
  obtain ⟨inCte, before, body, behind, hbody, rfl, hborder⟩ := exists_written h hls
  rw [statement_eq_map] at hbody
  exact (Clauses.opensNothing_statement hlists hbody).inside hborder

/-- Let the fragments of a query have something in them.  In its text the brackets match, and its
lists are tidy — each has elements with one comma between them, or is left out with its keyword —
exactly if no statement in it asks for rows that are distinct on no columns, or sets nothing on a
conflict. -/
theorem compile_tidy_iff {q : Query} {options : CompileOptions} {compiled : Compiled}
    (h : q.compile options = .ok compiled) (hfilled : ∀ f, q.Supplies (.fragment f) → f.IsFilled) :
    ∃ ls, (q.rendered options.naming : Rendering (List Lexeme)).result = .ok ls ∧
      compiled.sql = Lexeme.text ls ∧ Matched (brackets ls) ∧
      (Lexeme.Tidy ls ↔ ∀ c, q.Writes c → c.opensEmptyList = false) := by
  obtain ⟨ls, hls, -, rfl⟩ := compile_eq_ok_iff.1 h
  refine ⟨ls, hls, rfl, matched_rendered hls, fun htidy c hc => ?_, fun hlists => ?_⟩
  · by_contra hopens
    exact (opensNothing_rendered hc (by simpa using hopens) hls).not_tidy htidy
  · exact (headedBy_rendered hlists hfilled ls hls).1

/-- What is due before the seventh day. -/
def due : Fragment :=
  (Fragment.ofText "due < ").bind (.int 7)

/-- The amounts of the orders of everyone that are new or paid, and due. -/
def amountsDue : Query :=
  ((((Table.named "order").query.select
      [.aggregate .sum (some (.parse "amount")) false (some "total")]).filter
        (.inList "state" [.text "new", .text "paid"])).filter (.atom (.fragment due))).groupBy
          [.column (.parse "by")]

theorem isFilled_due : due.IsFilled := by
  have hproper : due.IsProper := (RawSql.isProper_ofText _).bind _
  exact (Fragment.isFilled_iff hproper).2 rfl

theorem compile_tidy_iff_amountsDue :
    ∃ ls, amountsDue.compile {} = .ok
        ⟨"SELECT sum(\"order\".\"amount\") AS \"total\" FROM \"order\" " ++
          "WHERE \"order\".\"state\" IN ($1, $2) AND due < $3 GROUP BY \"order\".\"by\"",
          [.text "new", .text "paid", .int 7], false⟩ ∧
      (∀ f, amountsDue.Supplies (.fragment f) → f.IsFilled) ∧
      (amountsDue.rendered .verbatim : Rendering (List Lexeme)).result = .ok ls ∧
      Matched (brackets ls) ∧ Lexeme.Tidy ls := by
  have hfilled : ∀ f, amountsDue.Supplies (.fragment f) → f.IsFilled := by
    have hlist : amountsDue.clauses.ingredients = [.name "order", .name "amount", .name "total",
        .name "state", .fragment due, .name "by"] := rfl
    have hsupplies : ∀ i, amountsDue.Supplies i → ∀ f, i = .fragment f → f.IsFilled := by
      refine forall_supplies ?_ ?_ nofun
      · simp [hlist, isFilled_due]
      · simp [hlist]
    exact fun f hf => hsupplies _ hf f rfl
  have hcompile : amountsDue.compile {} = .ok
      ⟨"SELECT sum(\"order\".\"amount\") AS \"total\" FROM \"order\" " ++
        "WHERE \"order\".\"state\" IN ($1, $2) AND due < $3 GROUP BY \"order\".\"by\"",
        [.text "new", .text "paid", .int 7], false⟩ := by rfl
  obtain ⟨ls, hls, -, hmatched, htidy⟩ := compile_tidy_iff hcompile hfilled
  refine ⟨ls, hcompile, hfilled, hls, hmatched, htidy.2 fun c hc => ?_⟩
  -- only the query itself is written, and it is not to be distinct on anything
  have hnodes : amountsDue.nodes = [amountsDue.clauses] := by
    rw [nodes, members_of_appended_nil rfl, List.flatMap_singleton, Clauses.nodes_eq]
    rfl
  rw [← mem_nodes_iff, hnodes, List.mem_singleton] at hc
  rw [hc]
  rfl

/-- Users, of whom there is to be one for each value of no columns. -/
def usersOnNothing : Query :=
  (Table.named "user").query.distinct (.on [])

/-- A new user, of whom nothing is set if there is one already. -/
def userSettingNothing : Query :=
  ((Table.named "user").query.insert [Record.empty.assign "id" (.value (.int 1))]).onConflict ["id"]
    (.update .empty)

/-- The two lists are opened without elements, although an update that sets nothing is rejected. -/
theorem lists_opened_usersOnNothing :
    usersOnNothing.compile {} = .ok ⟨"SELECT DISTINCT ON () * FROM \"user\"", [], false⟩ ∧
    userSettingNothing.compile {} = .ok
      ⟨"INSERT INTO \"user\" (\"id\") VALUES ($1) ON CONFLICT (\"id\") DO UPDATE SET ", [.int 1],
        false⟩ ∧
    ((Table.named "user").query.allRows.update .empty).compile {} = .error .emptyUpdate ∧
    ∀ q ∈ [usersOnNothing, userSettingNothing], (∀ f, ¬q.Supplies (.fragment f)) ∧
      ∃ ls, (q.rendered .verbatim : Rendering (List Lexeme)).result = .ok ls ∧ ¬Lexeme.Tidy ls := by
  have hgap {q : Query} {compiled : Compiled} (h : q.compile {} = .ok compiled)
      (hlists : q.clauses.opensEmptyList = true) :
      ∃ ls, (q.rendered .verbatim : Rendering (List Lexeme)).result = .ok ls ∧ ¬Lexeme.Tidy ls := by
    obtain ⟨ls, hls, -⟩ := compile_eq_ok_iff.1 h
    have hwrites : q.Writes q.clauses := ⟨_, by simp [members_eq], .self⟩
    exact ⟨ls, hls, (opensNothing_rendered hwrites hlists hls).not_tidy⟩
  have hnone {q : Query} (hown : ∀ i ∈ q.clauses.ingredients, ∃ s, i = .name s)
      (happended : q.appended = []) : ∀ f, ¬q.Supplies (.fragment f) := by
    have hsupplies : ∀ i, q.Supplies i → ∃ s, i = .name s := by
      refine forall_supplies hown (fun r hr => ?_) (by simp [happended])
      obtain ⟨s, hs⟩ := hown _ hr
      cases hs
    intro f hf
    obtain ⟨s, hs⟩ := hsupplies _ hf
    cases hs
  have husers : usersOnNothing.compile {} = .ok
      ⟨"SELECT DISTINCT ON () * FROM \"user\"", [], false⟩ := by
    rfl
  have huser : userSettingNothing.compile {} = .ok
      ⟨"INSERT INTO \"user\" (\"id\") VALUES ($1) ON CONFLICT (\"id\") DO UPDATE SET ", [.int 1],
        false⟩ := by
    rfl
  refine ⟨husers, huser, rfl, List.forall_mem_cons.2 ⟨⟨hnone ?users rfl, hgap husers rfl⟩,
    List.forall_mem_singleton.2 ⟨hnone ?user rfl, hgap huser rfl⟩⟩⟩
  case users =>
    have hlist : usersOnNothing.clauses.ingredients = [.name "user"] := rfl
    simp [hlist]
  case user =>
    have hlist : userSettingNothing.clauses.ingredients = [.name "user", .name "id", .name "id"] :=
      rfl
    simp [hlist]

end Query
end ParamSql
