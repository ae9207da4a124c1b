import ParamSql.Proofs.Sql.DerivedTables
import ParamSql.Proofs.Sql.Insertion
import ParamSql.Proofs.Sql.Qualified

/-!
# Targets — columns that are assigned to, and columns that are read

A column that is assigned to, or listed by itself, is written as one name.  A reference is read up
to its last dot first: what stands before it is a table.  So the same text may be one column as a
target, and another one as a reference.

* `Rendering.Carries` — what is written has some parts in it;
* `Clauses.targetColumns`, `Clauses.statement_carries` — the targets of a statement, which stand in
  their places;
* `TableInfo.Denotes` — lexemes stand for a column of a table;
* `Query.targets_denote_references_iff` — when a target and the reference of the same text are the
  same column.
-/

namespace ParamSql

variable {Q : Type}

/-! ## Parts in their places -/

namespace Rendering

variable {α β : Type} {write : α → Rendering (List Lexeme)} {parts more : List α}
variable {r s : Rendering (List Lexeme)}

/-- What is written has some parts in it, each of which is written as it is by itself. -/
def Carries (write : α → Rendering (List Lexeme)) (parts : List α) (r : Rendering (List Lexeme)) :
    Prop :=
  ∀ ls, r.result = .ok ls → ∃ slots : List (Slot α), Slot.queries slots = parts ∧
    ls = Slot.fill (fun a => (write a).lexemesOf) slots ∧ ∀ a ∈ parts, (write a).IsWritten

theorem Carries.plain (r : Rendering (List Lexeme)) : Carries write [] r := by
  intro ls _
  exact ⟨ls.map .lexeme, Slot.queries_map_lexeme ls, (Slot.fill_map_lexeme _ ls).symm, by simp⟩

theorem Carries.part (a : α) : Carries write [a] (write a) := by
  intro ls h
  refine ⟨[.query a], rfl, ?_, by simpa using isWritten_of h⟩
  simp [Slot.fill, lexemesOf_eq h]

theorem Carries.fault (parts : List α) (f : CompileFault) : Carries write parts (.fault f) := by
  intro ls h
  cases h

theorem Carries.append (h : Carries write parts r) (h' : Carries write more s) :
    Carries write (parts ++ more) (r ++ s) := by
  intro ls hls
  obtain ⟨x, y, hx, hy, rfl⟩ := result_append_eq_ok hls
  obtain ⟨slots, rfl, rfl, hparts⟩ := h x hx
  obtain ⟨slots', rfl, rfl, hmore⟩ := h' y hy
  exact ⟨slots ++ slots', Slot.queries_append _ _, (Slot.fill_append _ _ _).symm,
    List.forall_mem_append.2 ⟨hparts, hmore⟩⟩

theorem Carries.behind (h : Carries write parts s) (r : Rendering (List Lexeme)) :
    Carries write parts (r ++ s) :=
  (plain r).append h

theorem Carries.ahead (h : Carries write parts r) (s : Rendering (List Lexeme)) :
    Carries write parts (r ++ s) :=
  List.append_nil parts ▸ h.append (plain s)

/-- One of two parts, either of which carries the same. -/
theorem Carries.choice {c : Prop} [Decidable c] (h : c → Carries write parts r)
    (h' : ¬c → Carries write parts s) : Carries write parts (if c then r else s) := by
  split
  · exact h ‹_›
  · exact h' ‹_›

theorem Carries.commas {put : β → Rendering (List Lexeme)} {carried : β → List α} {l : List β}
    (h : ∀ b, Carries write (carried b) (put b)) :
    Carries write (l.flatMap carried) (.commas (l.map put)) := by
  induction l with
  | nil => exact plain _
  -- commas stand between the parts, and only there
  | cons b l ih =>
      cases l with
      | nil => simpa [Rendering.commas] using h b
      | cons b' l =>
          have hrest := (h b).append (ih.behind (.fixed ", "))
          rw [Rendering.commas, List.map_cons, List.map_cons, separated_cons_cons]
          exact hrest

end Rendering

open Rendering (Carries)

/-! ## Targets -/

namespace Columns

variable {cs : Columns}

/-- What is written for a target. -/
def targeted (cs : Columns) (column : String) : List Lexeme :=
  (cs.target column : Rendering (List Lexeme)).lexemesOf

theorem targets_carries (columns : List String) :
    Carries cs.target columns (cs.targets columns) := by
  have hcommas : Carries cs.target (columns.flatMap fun column => [column]) (cs.targets columns) :=
    Carries.commas fun column => Carries.part column
  rwa [List.flatMap_singleton'] at hcommas

end Columns

namespace Clauses

variable {cs : Columns} {ρ : Q → Rendering (List Lexeme)}

/-- The columns that an insertion lists. -/
def insertedColumns : InsertRows Q → List String
  | .records rs => recordColumns rs
  | .query columns _ => columns

/-- The columns that tell a conflict, and those that are updated then.  A merged column is written a
second time, for its new value. -/
def conflictColumns (o : OnConflict Q) : List String :=
  o.columns ++
    match o.action with
    | .nothing => []
    | .merge columns => columns.flatMap fun column => [column, column]
    | .update r => r.columns

/-- The targets of a change, in the order in which they are written. -/
def changedColumns (c : Clauses Q) : Mutation Q → List String
  | .insert rows conflict => insertedColumns rows ++ conflict.toList.flatMap conflictColumns
  | .update r => r.columns
  | .delete hard => (c.deletionMark hard).toList

/-- The targets of a statement. -/
def targetColumns (c : Clauses Q) : List String :=
  match c.mutation with
  | none => []
  | some m => c.changedColumns m

theorem assignments_carries (r : Record Q) :
    Carries cs.target r.columns (assignments cs (r.map ρ)) := by
  have hcommas : Carries cs.target (r.assignments.flatMap fun a => [a.column])
      (.commas (r.assignments.map fun a =>
        cs.target a.column ++ .fixed " = " ++ newValue cs a.column (a.value.map ρ))) :=
    Carries.commas fun a => ((Carries.part a.column).ahead _).ahead _
  rw [← List.map_eq_flatMap] at hcommas
  rw [assignments, Record.map, List.map_map]
  exact hcommas

theorem columnList_carries (columns : List String) :
    Carries cs.target columns (if columns.isEmpty then .nothing
      else Rendering.fixed " (" ++ cs.targets columns ++ Rendering.fixed ")") := by
  cases columns with
  | nil => exact .plain _
  | cons column columns => exact ((Columns.targets_carries _).behind _).ahead _

theorem insertedRecords_carries (rs : List (Record (Rendering (List Lexeme)))) :
    Carries cs.target (recordColumns rs) (insertedRecords cs rs) := by
  unfold insertedRecords
  -- without columns there are no targets, whether or not the records can be written
  split
  case h_1 => exact .fault _ _
  case h_2 hcolumns =>
    rw [hcolumns]
    exact .plain _
  case h_3 => exact .fault _ _
  case h_4 => exact (((Columns.targets_carries _).behind _).ahead _).ahead _

theorem insertedRows_carries (rows : InsertRows Q) :
    Carries cs.target (insertedColumns rows) (insertedRows cs (rows.map ρ)) := by
  cases rows with
  | records rs =>
      have hrecords : Carries cs.target (recordColumns (rs.map (Record.map ρ)))
          (insertedRecords cs (rs.map (Record.map ρ))) := insertedRecords_carries _
      rwa [recordColumns_map] at hrecords
  | query columns q => exact ((columnList_carries columns).ahead _).ahead _

theorem conflictClause_carries (o : OnConflict Q) :
    Carries cs.target (conflictColumns o) (conflictClause cs (o.map ρ)) := by
  rcases o with ⟨columns, action⟩
  refine ((columnList_carries columns).behind _).append ?_
  cases action with
  | nothing => exact .plain _
  | merge merged =>
      refine .choice (fun _ => .fault _ _) fun _ => .choice (fun _ => .fault _ _) fun _ => ?_
      refine (Carries.commas fun column => ?_).behind _
      exact ((Carries.part column).ahead _).append (Carries.part column)
  | update r =>
      exact .choice (fun _ => .fault _ _) fun _ => (assignments_carries r).behind _

variable (c : Clauses Q)

theorem guarded_carries {columns : List String} {verb : Verb} {r : Rendering (List Lexeme)}
    (h : Carries cs.target columns r) : Carries cs.target columns (guarded verb (c.map ρ) r) :=
  .choice (fun _ => h) fun _ => .fault _ _

theorem changing_carries (m : Mutation Q) :
    -- an update, or one that marks a row, sets columns; a deletion sets none
    Carries cs.target (c.changedColumns m) ((c.map ρ).changing cs (m.map ρ)) := by
  cases m with
  | insert rows conflict =>
      have hconflict : Carries cs.target (conflict.toList.flatMap conflictColumns)
          (Rendering.optional (conflictClause cs) (conflict.map (OnConflict.map ρ))) := by
        cases conflict with
        | none => exact .plain _
        | some o => simpa [Rendering.optional] using conflictClause_carries (ρ := ρ) o
      exact ((insertedRows_carries rows).behind _).append hconflict
  | update r =>
      refine guarded_carries c (.choice (fun _ => .fault _ _) fun _ => ?_)
      exact ((assignments_carries r).behind _).ahead _
  | delete hard =>
      refine guarded_carries c ?_
      simp only [changedColumns, deletionMark_map]
      cases c.deletionMark hard with
      | none => exact .plain _
      | some column => exact (((Carries.part column).behind _).ahead _).ahead _

/-- A statement has its targets in their places. -/
theorem statement_carries (naming : Naming) (inCte : Bool) :
    Carries (c.columns naming).target c.targetColumns ((c.map ρ).statement naming inCte) := by
  rw [statement, columns_map]
  refine Carries.behind ?_ _
  unfold targetColumns
  cases hmutation : c.mutation with
  | none => exact .plain _
  | some m =>
      have hm : (c.map ρ).mutation = some (m.map ρ) := by
        rw [map_mutation, hmutation, Option.map_some]
      rw [body_of_mutation hm]
      exact (c.changing_carries m).ahead _

end Clauses

/-! ## Columns of a table -/

namespace TableInfo

variable {t : TableInfo}

/-- The parts of a dotted text are the last ones of the table's. -/
def AnswersTo (t : TableInfo) (name : String) : Prop :=
  Text.splitOn '.' name.toList <:+ Text.splitOn '.' t.path.toList

instance (t : TableInfo) (name : String) : Decidable (t.AnswersTo name) :=
  inferInstanceAs (Decidable (_ <:+ _))

theorem answersTo_name (t : TableInfo) : t.AnswersTo t.name := by
  unfold AnswersTo path
  cases t.schema with
  | none => exact List.suffix_rfl
  | some schema =>
      have hparts : Text.splitOn '.' (schema ++ "." ++ t.name).toList =
          Text.splitOn '.' schema.toList ++ Text.splitOn '.' t.name.toList := by
        simp [Text.splitOn_append]
      rw [hparts]
      exact List.suffix_append _ _

/-- Lexemes stand for a column of a table: the name of the column comes last, and what is written
ahead of it are the last names of the table. -/
def Denotes (t : TableInfo) (column : String) (ls : List Lexeme) : Prop :=
  ∃ (p : Path) (i : Identifier), i.text = column ∧
    p.map (·.text.toList) <:+ Text.splitOn '.' t.path.toList ∧ ls = p.dotted ++ [Lexeme.name i]

theorem denotes_target_iff {cs : Columns} {column x : String}
    (h : (cs.target column : Rendering (List Lexeme)).IsWritten) :
    t.Denotes x (cs.targeted column) ↔ cs.naming.physical column = x := by
  obtain ⟨i, hi, hls⟩ := Rendering.name_eq_ok h
  have htext := Identifier.text_of hi
  constructor
  · rintro ⟨p, j, rfl, -, hp⟩
    have hlast := congrArg List.getLast? (hls.symm.trans hp)
    obtain rfl : i = j := by simpa using hlast
    exact htext.symm
  · rintro rfl
    exact ⟨[], i, htext, List.nil_suffix, hls⟩

/-- A reference stands for a column of the statement's table if it is to one column, and either
names no table or this one. -/
theorem denotes_reference_iff {cs : Columns} {r : ColumnRef} {x : String}
    (hqualifier : cs.qualifier = some t.name)
    (h : (cs.reference r : Rendering (List Lexeme)).IsWritten) :
    t.Denotes x (cs.spelled r) ↔
      r.isStar = false ∧ cs.naming.physical r.name = x ∧ ∀ name ∈ r.table, t.AnswersTo name := by
  -- a star is no column, since nothing is named by it last
  cases hstar : r.isStar with
  | true =>
      obtain ⟨p, -, hls⟩ := Columns.star_eq_ok hstar h
      simp only [Bool.true_eq_false, false_and, iff_false]
      rintro ⟨q, i, -, -, hq⟩
      have hlast := congrArg List.getLast? (hls.symm.trans hq)
      simp at hlast
  | false =>
      obtain ⟨p, i, hp, hi, hls⟩ := Columns.column_eq_ok hstar h
      -- what is written ahead of the column are the names of its table, or of the statement's
      have hanswers : p.map (·.text.toList) <:+ Text.splitOn '.' t.path.toList ↔
          ∀ name ∈ r.table, t.AnswersTo name := by
        unfold Columns.Qualifies at hp
        cases htable : r.table with
        | none =>
            simp only [htable, hqualifier, Option.none_or] at hp
            rw [Path.parts_of hp]
            exact ⟨fun _ => by simp, fun _ => t.answersTo_name⟩
        | some table =>
            simp only [htable, Option.some_or] at hp
            rw [Path.parts_of hp]
            simp [AnswersTo]
      rw [← hanswers]
      constructor
      · rintro ⟨q, j, rfl, hq, hlexemes⟩
        obtain ⟨hdotted, hlast⟩ := List.append_inj' (hls.symm.trans hlexemes) rfl
        obtain rfl : i = j := by simpa using hlast
        obtain rfl := Path.dotted_inj hdotted
        exact ⟨rfl, hi.symm, hq⟩
      · rintro ⟨-, rfl, hq⟩
        exact ⟨p, i, hi, hq, hls⟩

/-- The target of a text and the reference of the same text are one column of the table. -/
def ReadsBack (t : TableInfo) (cs : Columns) (column : String) : Prop :=
  ∃ x, t.Denotes x (cs.targeted column) ∧ t.Denotes x (cs.spelled (.parse column))

theorem readsBack_iff {cs : Columns} {column : String} (hqualifier : cs.qualifier = some t.name)
    (htarget : (cs.target column : Rendering (List Lexeme)).IsWritten)
    (hreference : (cs.reference (.parse column) : Rendering (List Lexeme)).IsWritten) :
    t.ReadsBack cs column ↔
      (ColumnRef.parse column).isStar = false ∧
      cs.naming.physical (ColumnRef.parse column).name = cs.naming.physical column ∧
      ∀ name ∈ (ColumnRef.parse column).table, t.AnswersTo name := by
  simp only [ReadsBack, denotes_target_iff htarget, denotes_reference_iff hqualifier hreference,
    exists_eq_left']

end TableInfo

namespace Clauses

theorem source_of_table {c : Clauses Q} {t : TableInfo} (h : c.table? = some t) :
    c.source = .table t := by
  unfold table? at h
  split at h
  case h_1 hsource => rw [hsource, Option.some.inj h]
  case h_2 => cases h

/-- A statement on a table qualifies its columns by the name of the table, and names them as the
table says. -/
theorem columns_of_table {c : Clauses Q} {t : TableInfo} (h : c.table? = some t) (naming : Naming) :
    c.columns naming = ⟨some t.name, t.naming.getD naming⟩ := by
  rw [columns, source_of_table h]

end Clauses

namespace Query

/-- In every statement on a table the targets and the references stand in their places, in the order
in which they are listed.  Where the same text is a target and is referred to, both are the same
column of the table exactly if it is no star, the part behind its last dot has the physical name of
the whole, and what stands before this dot is the table.  A text that names no table is the same
column, unless it is a star; if columns keep their names, no other text is. -/
theorem targets_denote_references_iff {q : Query} {options : CompileOptions} {compiled : Compiled}
    (h : q.compile options = .ok compiled) {c : Clauses Query} (hc : q.Writes c) {t : TableInfo}
    (ht : c.table? = some t) :
    let cs := c.columns options.naming
    (∃ before targets references behind,
      compiled.sql = Lexeme.text (before ++ Slot.fill cs.targeted targets ++ behind) ∧
      Slot.queries targets = c.targetColumns ∧
      Slot.fill cs.targeted targets = Slot.fill cs.spelled references ∧
      Slot.queries references = c.references cs) ∧
    ∀ column ∈ c.targetColumns, .parse column ∈ c.references cs →
      (t.ReadsBack cs column ↔
        (ColumnRef.parse column).isStar = false ∧
        cs.naming.physical (ColumnRef.parse column).name = cs.naming.physical column ∧
        ∀ name ∈ (ColumnRef.parse column).table, t.AnswersTo name) ∧
      ((ColumnRef.parse column).table = none → (t.ReadsBack cs column ↔ column ≠ "*")) ∧
      (cs.naming = .verbatim →
        (t.ReadsBack cs column ↔ (ColumnRef.parse column).table = none ∧ column ≠ "*")) := by
  intro cs
  obtain ⟨inCte, before, body, behind, hbody, hsql, -⟩ := compile_of_writes hc h
  rw [statement_eq_map] at hbody
  obtain ⟨targets, htargets, hbodyTargets, hwritten⟩ :=
    c.statement_carries options.naming inCte body hbody
  obtain ⟨references, hreferences, hbodyReferences, hread⟩ := Clauses.holds_spelling hbody
  refine ⟨⟨before, targets, references, behind, ?_, htargets, ?_, hreferences⟩, ?_⟩
  · rw [hsql, hbodyTargets]
    rfl
  · exact hbodyTargets.symm.trans hbodyReferences
  intro column hcolumn hreference
  have hqualifier : cs.qualifier = some t.name := by
    simp only [cs, Clauses.columns_of_table ht]
  have hiff := TableInfo.readsBack_iff hqualifier (hwritten column hcolumn) (hread _ hreference)
  have hname := ColumnRef.parse_name_eq_iff column
  -- what the parsing of the text says about its last dot decides in either case
  refine ⟨hiff, fun htable => ?_, fun hnaming => ?_⟩
  · rw [hiff, htable, hname.2 htable]
    simp [ColumnRef.isStar, hname.2 htable]
  · have hphysical (s : String) : cs.naming.physical s = s := by rw [hnaming]; rfl
    rw [hiff, hphysical, hphysical, hname]
    constructor
    · rintro ⟨hstar, htable, -⟩
      refine ⟨htable, ?_⟩
      simpa [ColumnRef.isStar, hname.2 htable] using hstar
    · rintro ⟨htable, hstar⟩
      exact ⟨by simpa [ColumnRef.isStar, hname.2 htable] using hstar, htable, by simp [htable]⟩

/-- Users, who are marked when they are removed. -/
def markedUsers : Table :=
  ((Table.named "user").withNaming .snakeCase).softDelete "deletedAt"

/-- The removal of a user. -/
def removedUser : Query :=
  (markedUsers.query.filter (.compare "id" .eq (.value (.int 1)))).delete false

theorem targets_denote_references_iff_removedUser :
    let cs : Columns := ⟨"user", .snakeCase⟩
    ∃ compiled before targets references behind,
      removedUser.compile {} = .ok compiled ∧ removedUser.Writes removedUser.clauses ∧
      removedUser.clauses.table? = some markedUsers.info ∧
      compiled.sql = Lexeme.text (before ++ Slot.fill cs.targeted targets ++ behind) ∧
      Slot.queries targets = ["deletedAt"] ∧
      Slot.fill cs.targeted targets = Slot.fill cs.spelled references ∧
      Slot.queries references = [ColumnRef.parse "id", ColumnRef.parse "deletedAt"] ∧
      markedUsers.info.ReadsBack cs "deletedAt" := by
  intro cs
  have hwrites : removedUser.Writes removedUser.clauses := ⟨_, by simp [members_eq], .self⟩
  obtain ⟨compiled, hcompiled⟩ : ∃ compiled, removedUser.compile {} = .ok compiled := ⟨_, rfl⟩
  have htable : removedUser.clauses.table? = some markedUsers.info := rfl
  obtain ⟨⟨before, targets, references, behind, hsql, htargets, hfill, hreferences⟩, hagree⟩ :=
    targets_denote_references_iff hcompiled hwrites htable
  have hreference : ColumnRef.parse "deletedAt" ∈ removedUser.clauses.references cs := by
    decide +kernel
  have hcolumn := hagree "deletedAt" (List.mem_singleton.2 rfl) hreference
  have hsame : markedUsers.info.ReadsBack cs "deletedAt" :=
    (hcolumn.2.1 (by decide)).2 (by decide)
  exact ⟨compiled, before, targets, references, behind, hcompiled, hwrites, htable, hsql, htargets,
    hfill, hreferences, hsame⟩

/-- The visits of a user are counted, and the column is written with its table. -/
def countedVisit : Query :=
  ((Table.named "user").query.filter (.compare "id" .eq (.value (.int 1)))).assign "user.visits"
    (.increment (.int 1))

/-- The removal of a user who is to be marked in a column that is written with its table. -/
def removedFromTable : Query :=
  (((Table.named "user").softDelete "user.deletedAt").query.filter
    (.compare "id" .eq (.value (.int 1)))).delete false

/-- A column that is written with its table is counted on in one column and read from another, and
the mark of a removed row is set in a column that the default filter does not look at. -/
theorem dotted_target_misread_countedVisit :
    countedVisit.compile {} = .ok
      ⟨"UPDATE \"user\" SET \"user.visits\" = \"user\".\"visits\" + $1 WHERE \"user\".\"id\" = $2",
        [.int 1, .int 1], false⟩ ∧
    "user.visits" ∈ countedVisit.clauses.targetColumns ∧
    ColumnRef.parse "user.visits" ∈ countedVisit.clauses.references ⟨"user", .verbatim⟩ ∧
    ¬ ({ name := "user" } : TableInfo).ReadsBack ⟨"user", .verbatim⟩ "user.visits" ∧
    removedFromTable.compile {} = .ok
      ⟨"UPDATE \"user\" SET \"user.deletedAt\" = now() WHERE \"user\".\"id\" = $1 " ++
        "AND \"user\".\"deletedAt\" IS NULL", [.int 1], false⟩ ∧
    ¬ ({ name := "user" } : TableInfo).ReadsBack ⟨"user", .verbatim⟩ "user.deletedAt" := by
  -- the part behind the dot is not the whole text
  have hmisread (column : String)
      (htarget : ∃ ls : List Lexeme, (Columns.target ⟨"user", .verbatim⟩ column).result = .ok ls)
      (hreference : ∃ ls : List Lexeme,
        (Columns.reference ⟨"user", .verbatim⟩ (.parse column)).result = .ok ls)
      (hname : (ColumnRef.parse column).name ≠ column) :
      ¬ ({ name := "user" } : TableInfo).ReadsBack ⟨"user", .verbatim⟩ column := by
    obtain ⟨_, htarget⟩ := htarget
    obtain ⟨_, hreference⟩ := hreference
    rw [TableInfo.readsBack_iff rfl (Rendering.isWritten_of htarget)
      (Rendering.isWritten_of hreference)]
    exact fun h => hname h.2.1
  exact ⟨rfl, by decide, by decide, hmisread "user.visits" ⟨_, rfl⟩ ⟨_, rfl⟩ (by decide), rfl,
    hmisread "user.deletedAt" ⟨_, rfl⟩ ⟨_, rfl⟩ (by decide)⟩

end Query
end ParamSql
