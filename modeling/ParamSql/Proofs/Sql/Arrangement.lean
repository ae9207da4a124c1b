import ParamSql.Proofs.Sql.Change
import ParamSql.Proofs.Sql.Layout

/-!
# Arrangement — statements are laid out

The parts of a statement are put together to its four kinds.  A SELECT is laid out as its parts are,
and so are the common table expressions ahead of a statement; a change begins with its verb, which a
layout says nothing about.

* `Clauses.lays_withClause`, `Clauses.lays_selection` — what stands ahead of a statement, and a
  SELECT;
* `Clauses.lays_changing`, `Clauses.lays_returningClause` — a change behind its verb;
* `Clauses.isLaid_of_subqueries`, `Clauses.exists_laid` — a statement is laid out if the queries in
  it are.
-/

namespace ParamSql

open Rendering (Lays)
open Rendering.Lays

variable {Q : Type} {cs : Columns} {L : Layout cs} {ρ : Q → Rendering (List Lexeme)}

/-! ## Sources -/

theorem JoinSource.lays (hρ : ∀ q, (ρ q).Lays L []) (j : JoinSource Q) :
    (j.map ρ).rendering.Lays L [] := by
  cases j with
  | table path name => exact (L.path path).both_plain (Columns.lays_itemName name)
  | query q name => exact (hρ q).bracketed.both_plain (Columns.lays_itemName (some name))

theorem Join.lays (hρ : ∀ q, (ρ q).Lays L []) (j : Join Q) :
    ((j.map ρ).rendering cs).Lays L j.references := by
  rcases j with ⟨kind, source, on⟩
  have hsource : (.fixed (" " ++ kind.sql ++ " ") ++ (source.map ρ).rendering :
      Rendering _).Lays L [] := (source.lays hρ).behind kind.sql_quiet
  refine hsource.plain_both ?_
  simp only [Join.map, Join.references]
  by_cases hcross : kind = .cross
  case pos => simpa [hcross] using L.nothing
  case neg =>
    have htrue : (.fixed " ON " ++ .fixed "TRUE" : Rendering (List Lexeme)).Lays L [] :=
      (L.fixed (by simp [quietTexts])).behind (by simp [quietTexts])
    simp only [hcross, if_false]
    cases on with
    | none => exact htrue
    | some f =>
        cases hempty : f.isEmpty with
        | true =>
            -- a condition without predicates is TRUE
            simpa [hempty, Formula.references, Formula.atoms_of_isEmpty hempty] using htrue
        | false =>
            have hon := (Columns.lays_condition hρ f).behind (s := " ON ") (by simp [quietTexts])
            simpa [hempty] using hon

theorem LockTable.lays (t : LockTable) : t.rendering.Lays L [] := by
  cases t with
  | path name => exact L.path name
  | fragment f => exact L.fragment f

theorem Lock.lays (l : Lock) : l.rendering.Lays L [] := by
  rcases l with ⟨mode, tables, wait⟩
  have hwait :
      (Rendering.optional (fun w : WaitPolicy => .fixed (" " ++ w.sql)) wait).Lays L [] := by
    cases wait with
    | none => exact L.nothing
    | some w => exact L.fixed w.sql_quiet
  have htables : (Rendering.clause " OF " (tables.map LockTable.rendering)).Lays L [] :=
    (clause (by simp [quietTexts]) fun t _ => t.lays).cast
      (List.flatMap_eq_nil_iff.2 fun _ _ => rfl)
  exact (htables.behind mode.sql_quiet).both_plain hwait

/-- The name of a common table expression with the names of its columns, ahead of its body. -/
def Cte.heading (cte : Cte Q) : Rendering (List Lexeme) :=
  .name cte.name ++
    (if cte.columns.isEmpty then .nothing else .bracketed (.commas (cte.columns.map .name))) ++
    .fixed " AS "

theorem Cte.rendering_map (cte : Cte Q) :
    (cte.map ρ).rendering = cte.heading ++ .bracketed
      (match cte.body with
        | .query q => ρ q
        | .fragment f => .fragment f) := by
  rcases cte with ⟨name, columns, body, isRecursive⟩
  cases body <;> rfl

theorem Cte.lays_heading (cte : Cte Q) : cte.heading.Lays L [] := by
  have hlist : (if cte.columns.isEmpty then .nothing
      else .bracketed (.commas (cte.columns.map .name)) : Rendering (List Lexeme)).Lays L [] :=
    choice (fun _ => L.nothing) fun _ => (commas_plain fun column _ => L.name column).bracketed
  exact ((L.name cte.name).both_plain hlist).before (by simp [quietTexts])

theorem Cte.lays {cte : Cte Q} (hρ : ∀ q ∈ cte.subqueries, (ρ q).Lays L []) :
    (cte.map ρ).rendering.Lays L [] := by
  rw [rendering_map]
  refine cte.lays_heading.both_plain (bracketed ?_)
  unfold subqueries at hρ
  split
  case h_1 q hbody => exact hρ q (by simp [hbody])
  case h_2 f hbody => exact L.fragment f

namespace Clauses

variable (c : Clauses Q)

theorem lays_withClause (hρ : ∀ q ∈ c.ctes.flatMap Cte.subqueries, (ρ q).Lays L []) :
    (c.map ρ).withClause.Lays L [] := by
  unfold withClause
  rw [map_ctes]
  refine choice (fun _ => L.nothing) fun _ =>
    before (both_plain (L.fixed ?_) ?_) (by simp [quietTexts])
  · split <;> simp [quietTexts]
  · rw [List.map_map]
    exact commas_plain fun cte hcte =>
      Cte.lays fun q hq => hρ q (List.mem_flatMap.2 ⟨cte, hcte, hq⟩)

/-! ## SELECT -/

theorem lays_fromClause (hρ : ∀ q, (ρ q).Lays L []) : (c.map ρ).fromClause.Lays L [] := by
  unfold fromClause
  rw [map_source]
  cases c.source with
  | nothing => exact L.nothing
  | table t => exact (L.path t.path).behind (by simp [quietTexts])
  | query q name =>
      exact ((hρ q).bracketed.behind (by simp [quietTexts])).both_plain
        (Columns.lays_itemName (some name))
  | fragment f name =>
      exact ((L.fragment f).behind (by simp [quietTexts])).both_plain
        (Columns.lays_itemName (some name))

theorem lays_selectList (hρ : ∀ q, (ρ q).Lays L []) :
    ((c.map ρ).selectList cs).Lays L (c.listReferences cs) := by
  have hstar : (.fixed "*" : Rendering (List Lexeme)).Lays L [] := L.fixed (by simp [quietTexts])
  unfold selectList listReferences
  simp only [expandedColumns_map, map_select, map_joins, List.isEmpty_map]
  cases hselect : c.select with
  | cons i is => simpa using Columns.lays_items hρ (i :: is)
  | nil =>
      -- without a select list, the columns of the table are written or a star
      cases hcolumns : c.expandedColumns cs with
      | nil =>
          cases cs.qualifier with
          | none => simpa using hstar
          | some table =>
              have htable : (.path table ++ .fixed ".*" : Rendering (List Lexeme)).Lays L [] :=
                (L.path table).before (by simp [quietTexts])
              simpa using choice (fun _ => hstar) fun _ => htable
      | cons column columns =>
          have hitems := Columns.lays_items hρ ((column :: columns).map .ofColumn)
          rw [List.map_map] at hitems
          refine hitems.cast ?_
          rw [List.flatMap_map, List.map_eq_flatMap]
          rfl

theorem lays_orderColumn (column : ColumnRef) :
    ((c.map ρ).orderColumn cs column).Lays L (c.orderReferences column) := by
  unfold orderColumn orderReferences
  simp only [map_setOps, List.isEmpty_map, outputName_map]
  split
  · exact L.name _
  · exact Columns.lays_reference column

theorem lays_distinctClause :
    ((c.map ρ).distinctClause cs).Lays L c.distinctReferences := by
  unfold distinctClause distinctReferences
  rw [map_distinct]
  rcases c.distinct with _ | (_ | columns)
  · exact L.nothing
  · exact L.fixed (by simp [quietTexts])
  · exact (Columns.lays_references columns).enclose (by simp [leftTexts]) (by simp [rightTexts])

theorem lays_boundClause {s : String} (hs : s ∈ quietTexts) (n : Option Int64) :
    (Rendering.optional (fun n => .fixed s ++ .bind (.int n)) n).Lays L [] := by
  cases n with
  | none => exact L.nothing
  | some n => exact (L.bind (.int n)).behind hs

theorem lays_selection (hρ : ∀ q, (ρ q).Lays L []) :
    ((c.map ρ).selection cs).Lays L (c.selectionReferences cs) := by
  have hjoins := concat (l := c.joins) fun j => j.lays hρ (L := L)
  have hwhere := Columns.lays_clauseOf hρ (L := L) (s := " WHERE ") (by simp [quietTexts]) c.filters
  have hgroup := clause (s := " GROUP BY ") (by simp [quietTexts]) (l := c.group) fun o _ =>
    Columns.lays_operand hρ o (L := L)
  have hhaving :=
    Columns.lays_clauseOf hρ (L := L) (s := " HAVING ") (by simp [quietTexts]) c.having
  have hwindows := clause (s := " WINDOW ") (by simp [quietTexts]) (l := c.windows) fun w _ =>
    Columns.lays_window w (L := L)
  have hsetOps := (concat (l := c.setOps) fun op =>
    (hρ op.query).bracketed.behind op.kind.sql_quiet).cast
      (List.flatMap_eq_nil_iff.2 fun _ _ => rfl)
  have horder := clause (s := " ORDER BY ") (by simp [quietTexts]) (l := c.order) fun o _ =>
    Columns.lays_orderEntry (c.lays_orderColumn (L := L) (ρ := ρ)) o
  have hlimit := lays_boundClause (L := L) (s := " LIMIT ") (by simp [quietTexts]) c.limit
  have hoffset := lays_boundClause (L := L) (s := " OFFSET ") (by simp [quietTexts]) c.offset
  have hlock := (optional (o := c.lock) fun l => l.lays (L := L)).cast
    (List.flatMap_eq_nil_iff.2 fun _ _ => rfl)
  have hselect : (.fixed "SELECT " : Rendering (List Lexeme)).Lays L [] :=
    L.fixed (by simp [quietTexts])
  -- the clauses, one behind another as a SELECT has them
  have hall :=
    hselect.both <| (c.lays_distinctClause (ρ := ρ)).both <| (c.lays_selectList hρ).both <|
    (c.lays_fromClause hρ).both <| hjoins.both <| hwhere.both <| hgroup.both <| hhaving.both <|
    hwindows.both <| hsetOps.both <| horder.both <| hlimit.both <| hoffset.both <|
    hlock.both L.nothing
  simp only [selection, Rendering.concat_cons, Rendering.concat_nil, filters_map, map_joins,
    map_group, map_having, map_windows, map_setOps, map_order, map_limit, map_offset, map_lock,
    List.map_map]
  refine hall.cast ?_
  simp only [selectionReferences, List.append_assoc, List.nil_append,
    List.append_nil]

/-! ## Changes -/

theorem lays_target (verb : Verb) : ((c.map ρ).target verb).Lays L [] := by
  unfold target
  cases (c.map ρ).table? with
  | none => exact L.fault _ _
  | some t => exact L.path t.path

/-- The old value of a column is referred to by a value that depends on it. -/
theorem lays_newValue (hρ : ∀ q, (ρ q).Lays L []) (column : String) (v : SetValue Q) :
    (newValue cs column (v.map ρ)).Lays L (if v.isRelative then [.parse column] else []) := by
  cases v with
  | value v => exact L.bind v
  | fragment f => exact L.fragment f
  | increment v =>
      exact ((Columns.lays_reference _).before (by simp [quietTexts])).both_plain (L.bind v)
  | decrement v =>
      exact ((Columns.lays_reference _).before (by simp [quietTexts])).both_plain (L.bind v)
  | query q => exact (hρ q).bracketed
  | default => exact L.fixed (by simp [quietTexts])

theorem lays_assignments (hρ : ∀ q, (ρ q).Lays L []) (r : Record Q) :
    (assignments cs (r.map ρ)).Lays L (assignmentReferences r) := by
  rw [assignments, Record.map, List.map_map]
  refine commas fun a _ => ?_
  have htarget : (cs.target a.column ++ .fixed " = " : Rendering (List Lexeme)).Lays L [] :=
    (Columns.lays_target a.column).before (by simp [quietTexts])
  exact htarget.plain_both (lays_newValue hρ a.column a.value)

theorem lays_insertedValue (hρ : ∀ q, (ρ q).Lays L []) (r : Record Q) (column : String) :
    (insertedValue cs (r.map ρ) column).Lays L [] := by
  unfold insertedValue
  rw [Record.get?_map]
  cases r.get? column with
  | none => exact L.fixed (by simp [quietTexts])
  | some v =>
      simp only [Option.map_some, SetValue.isRelative_map]
      cases hrelative : v.isRelative with
      | true => exact L.fault _ _
      | false => exact (lays_newValue hρ column v).cast (by simp [hrelative])

theorem lays_insertedRecords (hρ : ∀ q, (ρ q).Lays L []) (rs : List (Record Q)) :
    (insertedRecords cs (rs.map (Record.map ρ))).Lays L [] := by
  have hrows (columns : List String) : (Rendering.commas ((rs.map (Record.map ρ)).map fun r =>
      .bracketed (.commas (columns.map (insertedValue cs r))))).Lays L [] := by
    rw [List.map_map]
    exact commas_plain fun r _ =>
      (commas_plain fun column _ => lays_insertedValue hρ r column).bracketed
  have hvalues (columns : List String) :=
    ((Columns.lays_targets columns).enclose (L := L) (s := " (") (t := ") VALUES ")
      (by simp [leftTexts]) (by simp [rightTexts])).both_plain (hrows columns)
  unfold insertedRecords
  split
  · exact L.fault _ _
  · exact L.fixed (by simp [quietTexts])
  · exact L.fault _ _
  · exact hvalues _

/-- Columns in brackets, if there are any. -/
theorem lays_columnList (columns : List String) :
    (if columns.isEmpty then Rendering.nothing
      else Rendering.fixed " (" ++ cs.targets columns ++ Rendering.fixed ")" :
        Rendering (List Lexeme)).Lays L [] :=
  choice (fun _ => L.nothing) fun _ =>
    (Columns.lays_targets columns).enclose (by simp [leftTexts]) (by simp [rightTexts])

theorem lays_insertedRows (hρ : ∀ q, (ρ q).Lays L []) (rows : InsertRows Q) :
    (insertedRows cs (rows.map ρ)).Lays L [] := by
  cases rows with
  | records rs => exact lays_insertedRecords hρ rs
  | query columns q =>
      exact ((lays_columnList columns).before (by simp [quietTexts])).both_plain (hρ q)

theorem lays_conflictClause (hρ : ∀ q, (ρ q).Lays L []) (o : OnConflict Q) :
    (conflictClause cs (o.map ρ)).Lays L (conflictReferences o) := by
  rcases o with ⟨columns, action⟩
  have hhead : (.fixed " ON CONFLICT" ++ (if columns.isEmpty then .nothing
      else .fixed " (" ++ cs.targets columns ++ .fixed ")") : Rendering (List Lexeme)).Lays L [] :=
    (lays_columnList columns).behind (by simp [quietTexts])
  refine hhead.plain_both ?_
  cases action with
  | nothing => exact L.fixed (by simp [quietTexts])
  | merge merged =>
      refine choice (fun _ => L.fault _ _) fun _ => choice (fun _ => L.fault _ _) fun _ => ?_
      refine behind (by simp [quietTexts]) (commas_plain fun column _ => ?_)
      exact ((Columns.lays_target column).before (by simp [quietTexts])).both_plain
        (Columns.lays_target column)
  | update r =>
      exact choice (fun _ => L.fault _ _) fun _ =>
        (lays_assignments hρ r).behind (by simp [quietTexts])

theorem lays_changeFilter (hρ : ∀ q, (ρ q).Lays L []) {s : String} (hs : s ∈ quietTexts) :
    ((c.map ρ).changeFilter cs s).Lays L c.changeReferences := by
  have hsources : (Rendering.clause s (c.joins.map fun j => changeSource (j.map ρ))).Lays L [] := by
    refine (clause hs fun j _ => ?_).cast (List.flatMap_eq_nil_iff.2 fun _ _ => rfl)
    exact choice (fun _ => j.source.lays hρ) fun _ => L.fault _ _
  unfold changeFilter
  rw [changeConditions_map, map_joins, List.map_map]
  exact hsources.plain_both (Columns.lays_clauseOf hρ (by simp [quietTexts]) _)

theorem lays_returningClause (hρ : ∀ q, (ρ q).Lays L []) (inCte : Bool) :
    ((c.map ρ).returningClause cs inCte).Lays L (c.returning.flatMap SelectItem.references) := by
  unfold returningClause
  rw [map_returning, List.isEmpty_map]
  cases hreturning : c.returning with
  | nil =>
      cases inCte with
      | true => exact L.fixed (by simp [quietTexts])
      | false => exact L.nothing
  | cons i is => exact (Columns.lays_items hρ (i :: is)).behind (by simp [quietTexts])

/-! ## Changes behind their verbs -/

/-- A change that is written is a verb, and something behind it that is laid out. -/
def LaysBehindVerb (L : Layout cs) (refs : List ColumnRef) (r : Rendering (List Lexeme)) : Prop :=
  ∀ ls, r.result = .ok ls → ∃ verb ∈ verbTexts, ∃ rest, ls = .fixed verb :: rest ∧ L.holds refs rest

variable {c} in
theorem laysBehindVerb_fixed {s : String} {refs : List ColumnRef} {r : Rendering (List Lexeme)}
    (hverb : s ∈ verbTexts) (h : r.Lays L refs) :
    LaysBehindVerb L refs (.fixed s ++ r) := by
  intro ls hls
  obtain ⟨x, rest, hx, hrest, rfl⟩ := Rendering.result_append_eq_ok hls
  obtain rfl : [.fixed s] = x := Except.ok.inj hx
  exact ⟨s, hverb, rest, rfl, h rest hrest⟩

theorem laysBehindVerb_guarded {verb : Verb} {refs : List ColumnRef} {r : Rendering (List Lexeme)}
    (h : LaysBehindVerb L refs r) :
    LaysBehindVerb L refs (guarded verb (c.map ρ) r) := by
  unfold guarded
  split
  · exact h
  · intro ls hls
    cases hls

theorem lays_changing (hρ : ∀ q, (ρ q).Lays L []) (m : Mutation Q) :
    LaysBehindVerb L (c.mutationReferences m) ((c.map ρ).changing cs (m.map ρ)) := by
  cases m with
  | insert rows conflict =>
      have hconflict : (Rendering.optional (conflictClause cs)
          (conflict.map (OnConflict.map ρ))).Lays L
            (conflict.toList.flatMap conflictReferences) := by
        cases conflict with
        | none => exact L.nothing
        | some o => exact (lays_conflictClause hρ o).cast (by simp)
      have hrest := ((c.lays_target (ρ := ρ) .insert).both_plain (lays_insertedRows hρ rows)).both
        hconflict
      have hall := laysBehindVerb_fixed (s := "INSERT INTO ") (by simp [verbTexts]) hrest
      simpa only [changing, insertion, Mutation.map, mutationReferences, List.nil_append,
        Rendering.append_assoc] using hall
  | update r =>
      refine c.laysBehindVerb_guarded ?_
      have hset : ((c.map ρ).target .update ++ .fixed " SET ").Lays L [] :=
        (c.lays_target .update).before (by simp [quietTexts])
      have hrest := (hset.both (lays_assignments hρ r)).both
        (c.lays_changeFilter hρ (s := " FROM ") (by simp [quietTexts]))
      have hall := laysBehindVerb_fixed (s := "UPDATE ") (by simp [verbTexts]) hrest
      split
      · intro ls hls
        cases hls
      · simpa only [mutationReferences, List.nil_append, Rendering.append_assoc] using hall
  | delete hard =>
      refine c.laysBehindVerb_guarded ?_
      have htarget := c.lays_target (L := L) (ρ := ρ) .delete
      split
      case h_1 column _ =>
        have hset := (((htarget.before (s := " SET ") (by simp [quietTexts])).both_plain
          (Columns.lays_target column)).before (s := " = now()") (by simp [quietTexts])).both
            (c.lays_changeFilter hρ (s := " FROM ") (by simp [quietTexts]))
        have hall := laysBehindVerb_fixed (s := "UPDATE ") (by simp [verbTexts]) hset
        simpa only [mutationReferences, List.nil_append, Rendering.append_assoc] using hall
      case h_2 =>
        have hrest := htarget.both (c.lays_changeFilter hρ (s := " USING ") (by simp [quietTexts]))
        have hall := laysBehindVerb_fixed (s := "DELETE FROM ") (by simp [verbTexts]) hrest
        simpa only [mutationReferences, List.nil_append, Rendering.append_assoc] using hall

/-! ## Statements -/

variable {naming : Naming} {inCte : Bool} {c : Clauses Q}

/-- The lexemes of a statement behind its common table expressions are laid out: those of a change
behind its verb. -/
def IsLaid {cs : Columns} (L : Layout cs) (c : Clauses Q) (ls : List Lexeme) : Prop :=
  match c.mutation with
  | none => L.holds (c.references cs) ls
  | some _ => ∃ verb ∈ verbTexts, ∃ rest, ls = .fixed verb :: rest ∧ L.holds (c.references cs) rest

theorem isLaid_body (hρ : ∀ q, (ρ q).Lays L []) {ls : List Lexeme}
    (h : ((c.map ρ).body cs inCte).result = .ok ls) : c.IsLaid L ls := by
  cases hmutation : c.mutation with
  | none =>
      simp only [body, map_mutation, hmutation, Option.map_none] at h
      simp only [IsLaid, references, hmutation]
      exact c.lays_selection hρ ls h
  | some m =>
      have hm : (c.map ρ).mutation = some (m.map ρ) := by
        rw [map_mutation, hmutation, Option.map_some]
      rw [body_of_mutation hm] at h
      rcases Rendering.result_append_eq_ok h with ⟨change, clause, hchange, hclause, rfl⟩
      rcases c.lays_changing hρ m change hchange with ⟨verb, hverb, rest, rfl, hrest⟩
      have hreturning := c.lays_returningClause hρ inCte clause hclause
      simp only [IsLaid, references, hmutation]
      exact ⟨verb, hverb, rest ++ clause, rfl, L.append hrest hreturning⟩

/-- A statement is what is written for the queries in it, and for no others. -/
theorem statement_congr {σ : Q → Rendering (List Lexeme)}
    (hσ : ∀ q ∈ c.subqueries, (σ q).result = (ρ q).result) {ls : List Lexeme}
    (h : ((c.map ρ).statement naming inCte).result = .ok ls) :
    ((c.map σ).statement naming inCte).result = .ok ls := by
  have hfills := c.statement_fills ρ naming inCte
  rcases hfills.written ls h with ⟨⟨slots, hslots⟩, hwritten⟩
  have hlexemes : ∀ q ∈ c.subqueries, (σ q).lexemesOf = (ρ q).lexemesOf := fun q hq => by
    rw [Rendering.lexemesOf, hσ q hq, Rendering.lexemesOf]
  have hwritten' : ∀ q ∈ c.subqueries, (σ q).IsWritten := fun q hq => by
    rw [Rendering.IsWritten, hσ q hq, hlexemes q hq, hwritten q hq]
  rw [(c.statement_fills σ naming inCte).fill slots hslots hwritten', ← h,
    hfills.fill slots hslots hwritten]
  refine congrArg Except.ok (Slot.fill_congr fun q hq => ?_)
  exact hlexemes q (hfills.places slots hslots ▸ hq)

/-- Behind its common table expressions, a statement is laid out if the queries there are. -/
theorem isLaid_of_subqueries {L : Layout (c.columns naming)}
    (hsubqueries : ∀ q ∈ c.bodySubqueries, (ρ q).Lays L []) {ls : List Lexeme}
    (h : ((c.map ρ).body (c.columns naming) inCte).result = .ok ls) : c.IsLaid L ls := by
  classical
  -- without its common table expressions a statement has no other queries in it
  let d : Clauses Q := { c with ctes := [] }
  have hd (σ : Q → Rendering (List Lexeme)) :
      (d.map σ).statement naming inCte = (c.map σ).body (c.columns naming) inCte := by
    rw [statement, columns_map]
    exact Rendering.nothing_append _
  -- a query of which nothing is known stands in no clause here, so that a fault may take its place
  let σ (q : Q) : Rendering (List Lexeme) :=
    if (ρ q).Lays L [] then ρ q else .fault .nestedAppend
  have hσ : ∀ q, (σ q).Lays L [] := fun q => choice id fun _ => L.fault _ _
  rw [← hd] at h
  have hwritten : ((d.map σ).statement naming inCte).result = .ok ls :=
    statement_congr (fun q hq => by simp only [σ, if_pos (hsubqueries q hq)]) h
  rw [hd] at hwritten
  exact isLaid_body hσ hwritten

/-- A statement is laid out if the queries in it are: its common table expressions, and what stands
behind them. -/
theorem exists_laid {L : Layout (c.columns naming)}
    (hsubqueries : ∀ q ∈ c.subqueries, (ρ q).Lays L []) {ls : List Lexeme}
    (h : ((c.map ρ).statement naming inCte).result = .ok ls) :
    ∃ own rest, ls = own ++ rest ∧ L.holds [] own ∧ c.IsLaid L rest := by
  rw [statement, columns_map] at h
  rcases Rendering.result_append_eq_ok h with ⟨own, rest, hown, hrest, rfl⟩
  refine ⟨own, rest, rfl, c.lays_withClause (fun q hq => ?_) own hown,
    isLaid_of_subqueries (fun q hq => ?_) hrest⟩
  · exact hsubqueries q (List.mem_append_left _ hq)
  · exact hsubqueries q (List.mem_append_right _ hq)

end Clauses
end ParamSql
