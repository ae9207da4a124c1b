import ParamSql.Proofs.Sql.Guard
import ParamSql.Proofs.Sql.Takes

/-!
# Soundness — what it takes to write a statement

Apart from its names, a SELECT can always be written.  A change takes a table, and what its kind
asks for.

* `InsertRows.IsSound`, `OnConflict.IsSound` — rows that can be inserted, and conflicts that can be
  resolved;
* `Clauses.IsSound` — what a statement takes besides names;
* `Clauses.takes_selection`, `Clauses.takes_insertion`, `Clauses.takes_updating`,
  `Clauses.takes_deletion` — the four kinds of statement;
* `Clauses.takes_statement` — a statement that is not an unguarded change.
-/

namespace ParamSql

variable {Q : Type}

/-! ## Sound statements -/

/-- Rows can be inserted if there are any.  Several of them need a column, and no value of theirs
may depend on an old one. -/
def InsertRows.IsSound : InsertRows Q → Prop
  | .records rs =>
      rs ≠ [] ∧ (1 < rs.length → ∃ r ∈ rs, r.columns ≠ []) ∧
        ∀ r ∈ rs, ∀ column v, r.get? column = some v → v.isRelative = false
  | .query _ _ => True

/-- A conflict that is resolved by an update is found by some columns, and a merge has columns. -/
def OnConflict.IsSound (o : OnConflict Q) : Prop :=
  match o.action with
  | .nothing => True
  | .merge columns => o.columns ≠ [] ∧ columns ≠ []
  | .update _ => o.columns ≠ []

/-- A change has a table, its joined sources are those of inner and cross joins, an UPDATE assigns
something, and an INSERT is one of sound rows. -/
def Clauses.IsSound (c : Clauses Q) : Prop :=
  match c.mutation with
  | none => True
  | some (.insert rows conflict) =>
      c.table? ≠ none ∧ rows.IsSound ∧ ∀ o ∈ conflict, o.IsSound
  | some (.update r) =>
      c.table? ≠ none ∧ r.assignments ≠ [] ∧ ∀ j ∈ c.joins, j.kind = .inner ∨ j.kind = .cross
  | some (.delete _) => c.table? ≠ none ∧ ∀ j ∈ c.joins, j.kind = .inner ∨ j.kind = .cross

open Rendering

/-! ## Sources -/

theorem JoinSource.takes (j : JoinSource Q) : (j.map Slot.place).rendering.Takes True j.needs := by
  cases j with
  | table path name => exact (Takes.path path).append (Columns.takes_itemName name)
  | query q name => exact (Takes.place q).bracketed.append (Columns.takes_itemName (some name))

theorem Join.takes (cs : Columns) (j : Join Q) :
    ((j.map Slot.place).rendering cs).Takes True (j.needs cs) := by
  rcases j with ⟨kind, source, on⟩
  refine (source.takes.behind _).append ?_
  simp only [Join.map]
  by_cases hcross : kind = .cross
  case pos => simpa [hcross] using Takes.nothing
  case neg =>
    have htrue : (.fixed " ON " ++ .fixed "TRUE" : Rendering (List (Slot Q))).Takes True [] :=
      (Takes.fixed "TRUE").behind " ON "
    simp only [hcross, if_false]
    cases on with
    | none => exact htrue
    | some f =>
        cases hempty : f.isEmpty with
        | true =>
            -- a condition without predicates is TRUE
            simpa [hempty, Columns.conditionNeeds, Formula.atoms_of_isEmpty hempty] using htrue
        | false =>
            simpa [hempty] using (cs.takes_condition f).behind " ON "

theorem LockTable.takes (t : LockTable) :
    (t.rendering : Rendering (List (Slot Q))).Takes True t.needs := by
  cases t with
  | path name => exact .path name
  | fragment f => exact .fragment f

theorem Lock.takes (l : Lock) : (l.rendering : Rendering (List (Slot Q))).Takes True l.needs := by
  rcases l with ⟨mode, tables, wait⟩
  have hwait : (Rendering.optional (fun w : WaitPolicy => .fixed (" " ++ w.sql)) wait :
      Rendering (List (Slot Q))).Takes True [] := by
    cases wait with
    | none => exact .nothing
    | some w => exact .fixed _
  have htables := Takes.clause (Q := Q) " OF " (l := tables) fun t _ => t.takes
  exact ((htables.behind _).append hwait).cast (List.append_nil _)

theorem Cte.takes (cte : Cte Q) : (cte.map Slot.place).rendering.Takes True cte.needs := by
  rcases cte with ⟨name, columns, body, isRecursive⟩
  have hlist : (if columns.isEmpty then .nothing else .bracketed (.commas (columns.map .name)) :
      Rendering (List (Slot Q))).Takes True (columns.map .name) := by
    cases columns with
    | nil => exact .nothing
    | cons column columns =>
        exact (Takes.commas fun column _ => .name column).bracketed.cast List.map_eq_flatMap.symm
  have hcte {r : Rendering (List (Slot Q))} {needs : List Need} (hbody : r.Takes True needs) :=
    (((Takes.name name).append hlist).before " AS ").append hbody.bracketed
  cases body with
  | query q => exact hcte (.place q)
  | fragment f => exact hcte (.fragment f)

namespace Clauses

variable (cs : Columns) (c : Clauses Q)

theorem takes_withClause {r : Rendering (List (Slot Q))} {p : Prop} {needs : List Need}
    (h : r.Takes p needs) :
    ((c.map Slot.place).withClause ++ r).Takes p (c.ctes.flatMap Cte.needs ++ needs) := by
  have hclause : (c.map Slot.place).withClause.Takes True (c.ctes.flatMap Cte.needs) := by
    unfold withClause
    rw [map_ctes]
    cases hctes : c.ctes with
    | nil => exact .nothing
    | cons cte ctes =>
        rw [List.map_map]
        exact ((Takes.commas fun cte _ => cte.takes).behind _).before " "
  exact (hclause.append_both h).of_iff (iff_of_eq (true_and _))

/-! ## SELECT -/

theorem takes_fromClause : (c.map Slot.place).fromClause.Takes True c.sourceNeeds := by
  unfold fromClause sourceNeeds
  rw [map_source]
  cases c.source with
  | nothing => exact .nothing
  | table t => exact (Takes.path t.path).behind " FROM "
  | query q name =>
      exact ((Takes.place q).bracketed.behind " FROM ").append
        (Columns.takes_itemName (some name))
  | fragment f name =>
      exact ((Takes.fragment f).behind " FROM ").append (Columns.takes_itemName (some name))

theorem takes_selectList : ((c.map Slot.place).selectList cs).Takes True (c.listNeeds cs) := by
  unfold selectList listNeeds
  simp only [expandedColumns_map, map_select, map_joins, List.isEmpty_map]
  cases hselect : c.select with
  | cons i is => simpa using cs.takes_items (i :: is)
  | nil =>
      -- without a select list, the columns of the table are written or a star
      cases hcolumns : c.expandedColumns cs with
      | nil =>
          cases cs.qualifier with
          | none => simpa using Takes.fixed "*"
          | some table =>
              cases c.joins.isEmpty with
              | true => simpa using Takes.fixed "*"
              | false => simpa using (Takes.path table).before ".*"
      | cons column columns =>
          have hitems := cs.takes_items (Q := Q) ((column :: columns).map .ofColumn)
          rw [List.map_map] at hitems
          exact hitems.cast (by simp [List.flatMap_map])

theorem takes_orderColumn (column : ColumnRef) :
    ((c.map Slot.place).orderColumn cs column).Takes True (c.orderColumnNeeds cs column) := by
  unfold orderColumn orderColumnNeeds
  simp only [map_setOps, List.isEmpty_map, outputName_map]
  split
  · exact .name _
  · exact cs.takes_reference column

theorem takes_distinctClause :
    ((c.map Slot.place).distinctClause cs).Takes True (c.distinctNeeds cs) := by
  unfold distinctClause distinctNeeds
  rw [map_distinct]
  rcases c.distinct with _ | (_ | columns)
  · exact .nothing
  · exact .fixed _
  · exact ((cs.takes_references columns).behind "DISTINCT ON (").before ") "

theorem takes_boundClause (keyword : String) (n : Option Int64) :
    (Rendering.optional (fun n => .fixed keyword ++ .bind (.int n)) n :
      Rendering (List (Slot Q))).Takes True (n.toList.map fun _ => .value) := by
  cases n with
  | none => exact .nothing
  | some n => exact (Takes.bind (.int n)).behind keyword

theorem takes_selection : ((c.map Slot.place).selection cs).Takes True (c.selectionNeeds cs) := by
  have hjoins := Takes.concat (l := c.joins) fun j => j.takes cs
  have hwhere := cs.takes_clauseOf " WHERE " c.filters
  have hgroup := Takes.clause " GROUP BY " (l := c.group) fun o _ => cs.takes_operand o
  have hhaving := cs.takes_clauseOf " HAVING " c.having
  have hwindows := Takes.clause (Q := Q) " WINDOW " (l := c.windows) fun w _ => cs.takes_window w
  have hsetOps := (Takes.concat (l := c.setOps) fun op =>
    (Takes.place op.query).bracketed.behind (" " ++ op.kind.sql ++ " ")).cast
      (List.flatMap_eq_nil_iff.2 fun _ _ => rfl)
  have horder := Takes.clause " ORDER BY " (l := c.order) fun o _ =>
    Columns.takes_orderEntry (c.takes_orderColumn cs) o
  have hlimit := takes_boundClause (Q := Q) " LIMIT " c.limit
  have hoffset := takes_boundClause (Q := Q) " OFFSET " c.offset
  have hlock := Takes.optional (Q := Q) (o := c.lock) Lock.takes
  have hall := (Takes.fixed "SELECT ").append <| (c.takes_distinctClause cs).append <|
    (c.takes_selectList cs).append <| c.takes_fromClause.append <| hjoins.append <|
    hwhere.append <| hgroup.append <| hhaving.append <| hwindows.append <| hsetOps.append <|
    horder.append <| hlimit.append <| hoffset.append <| hlock.append .nothing
  simp only [selection, concat_cons, concat_nil, filters_map, map_joins, map_group, map_having,
    map_windows, map_setOps, map_order, map_limit, map_offset, map_lock, List.map_map]
  refine hall.cast ?_
  simp only [selectionNeeds, List.append_assoc, List.nil_append, List.append_nil]

/-! ## Changes -/

/-- The table has to be known. -/
theorem takes_target (verb : Verb) :
    ((c.map Slot.place).target verb).Takes (c.table? ≠ none) c.tableNeeds := by
  unfold target tableNeeds
  rw [table?_map]
  cases c.table? with
  | none => exact .fault rfl (by simp)
  | some t => exact ((Takes.path t.path).of_iff (by simp)).cast (by simp)

theorem takes_newValue (column : String) (v : SetValue Q) :
    (newValue cs column (v.map Slot.place)).Takes True (newValueNeeds cs column v) := by
  cases v with
  | value v => exact .bind v
  | fragment f => exact .fragment f
  | increment v => exact ((cs.takes_reference _).before " + ").append (.bind v)
  | decrement v => exact ((cs.takes_reference _).before " - ").append (.bind v)
  | query q => exact (Takes.place q).bracketed
  | default => exact .fixed _

theorem takes_assignments (r : Record Q) :
    (assignments cs (r.map Slot.place)).Takes True (assignmentNeeds cs r) := by
  rw [assignments, Record.map, List.map_map]
  exact .commas fun a _ => ((cs.takes_target a.column).before " = ").append
    (takes_newValue cs a.column a.value)

/-- A value of a record that is inserted cannot depend on an old one. -/
theorem takes_insertedValue (r : Record Q) (column : String) :
    (insertedValue cs (r.map Slot.place) column).Takes
      (∀ v, r.get? column = some v → v.isRelative = false)
      ((r.get? column).toList.flatMap (newValueNeeds cs column)) := by
  unfold insertedValue
  rw [Record.get?_map]
  cases r.get? column with
  | none => exact (Takes.fixed "DEFAULT").of_iff (by simp)
  | some v =>
      simp only [Option.map_some, SetValue.isRelative_map]
      cases hrelative : v.isRelative with
      | true => exact .fault rfl (by simp [hrelative])
      | false =>
          exact ((takes_newValue cs column v).of_iff (by simp [hrelative])).cast (by simp)

/-- Every column of a record is one of the insertion. -/
theorem mem_recordColumns_of {rs : List (Record Q)} {r : Record Q} {column : String} (hr : r ∈ rs)
    (hcolumn : column ∈ r.columns) : column ∈ recordColumns rs := by
  -- nothing that has been seen or comes later is left out
  have hfold : ∀ columns seen : List String, column ∈ seen ∨ column ∈ columns →
      column ∈ columns.foldl (fun seen c => if c ∈ seen then seen else seen ++ [c]) seen := by
    intro columns
    induction columns with
    | nil => simp
    | cons d columns ih =>
        intro seen h
        refine ih _ ?_
        dsimp only
        split <;> grind
  exact hfold _ _ (.inr (List.mem_flatMap.2 ⟨r, hr, hcolumn⟩))

theorem mem_recordColumns_of_get? {rs : List (Record Q)} {r : Record Q} {column : String}
    {v : SetValue Q} (hr : r ∈ rs) (h : r.get? column = some v) : column ∈ recordColumns rs := by
  rcases Option.map_eq_some_iff.1 h with ⟨a, ha, -⟩
  have hkey : a.column = column := by simpa using List.find?_some ha
  exact mem_recordColumns_of hr (List.mem_map.2 ⟨a, List.mem_of_find?_eq_some ha, hkey⟩)

/-- A value is written in the column that it is assigned to. -/
theorem forall_mem_recordColumns_iff {rs : List (Record Q)} {P : SetValue Q → Prop} :
    (∀ r ∈ rs, ∀ column ∈ recordColumns rs, ∀ v, r.get? column = some v → P v) ↔
      ∀ r ∈ rs, ∀ column v, r.get? column = some v → P v :=
  forall₂_congr fun _ hr =>
    ⟨fun h column v hv => h column (mem_recordColumns_of_get? hr hv) v hv,
      fun h column _ => h column⟩

/-- Without columns, there is no value to depend on an old one, and nothing but a single record can
be inserted. -/
theorem isSound_records_of_nil {rs : List (Record Q)} (hnames : recordColumns rs = []) :
    (InsertRows.records rs).IsSound ↔ rs.length = 1 := by
  have hnone : ∀ r ∈ rs, r.columns = [] := by
    refine fun r hr => List.eq_nil_iff_forall_not_mem.2 fun column hcolumn => ?_
    simpa [hnames] using mem_recordColumns_of hr hcolumn
  constructor
  · rintro ⟨hsome, hnamed, -⟩
    have hpositive : 0 < rs.length := List.length_pos_of_ne_nil hsome
    by_contra hlength
    obtain ⟨r, hr, hne⟩ := hnamed (by omega)
    exact hne (hnone r hr)
  · intro hlength
    obtain ⟨r, rfl⟩ := List.length_eq_one_iff.1 hlength
    exact ⟨by simp, by simp, forall_mem_recordColumns_iff.1 (by simp [hnames])⟩

/-- Of records with columns, only the values may be unsound. -/
theorem isSound_records_of_ne_nil {rs : List (Record Q)} (hnames : recordColumns rs ≠ []) :
    (InsertRows.records rs).IsSound ↔
      ∀ r ∈ rs, ∀ column v, r.get? column = some v → v.isRelative = false := by
  obtain ⟨column, hcolumn⟩ := List.exists_mem_of_ne_nil _ hnames
  obtain ⟨r, hr, a, ha, -⟩ := mem_recordColumns hcolumn
  have hnamed : r.columns ≠ [] := List.ne_nil_of_mem (List.mem_map_of_mem ha)
  exact ⟨fun h => h.2.2, fun h => ⟨List.ne_nil_of_mem hr, fun _ => ⟨r, hr, hnamed⟩, h⟩⟩

theorem takes_insertedRecords (rs : List (Record Q)) :
    (insertedRecords cs (rs.map (Record.map Slot.place))).Takes (InsertRows.records rs).IsSound
      (rowNeeds cs (.records rs)) := by
  have hrows : (Rendering.commas ((rs.map (Record.map Slot.place)).map fun r =>
      .bracketed (.commas ((recordColumns rs).map (insertedValue cs r))))).Takes
        (∀ r ∈ rs, ∀ column ∈ recordColumns rs, ∀ v, r.get? column = some v → v.isRelative = false)
        (rs.flatMap fun r => (recordColumns rs).flatMap fun column =>
          (r.get? column).toList.flatMap (newValueNeeds cs column)) := by
    rw [List.map_map]
    exact Takes.separated_all ", " fun r _ =>
      (Takes.separated_all ", " fun column _ => takes_insertedValue cs r column).bracketed
  have hcolumns := ((cs.takes_targets (Q := Q) (recordColumns rs)).behind " (").before ") VALUES "
  have hvalues := (hcolumns.append_both hrows).of_iff
    ((iff_of_eq (true_and _)).trans forall_mem_recordColumns_iff)
  unfold insertedRecords
  rw [recordColumns_map]
  cases hnames : recordColumns rs with
  | nil =>
      have hsound := isSound_records_of_nil hnames
      match rs with
      | [] => exact .fault rfl fun h => absurd (hsound.1 h.1) (by simp)
      | [r] =>
          exact ((Takes.fixed _).of_iff (by simp [hsound])).cast (by simp [rowNeeds, hnames])
      | r :: r' :: rest => exact .fault rfl fun h => absurd (hsound.1 h.1) (by simp)
  | cons column columns =>
      have hsound := hvalues.of_iff (isSound_records_of_ne_nil (by simp [hnames])).symm
      simp only [hnames] at hsound
      match rs with
      | [] => cases hnames
      | [r] => exact hsound.cast (by simp only [rowNeeds, hnames])
      | r :: r' :: rest => exact hsound.cast (by simp only [rowNeeds, hnames])

/-- Columns in brackets, if there are any. -/
theorem takes_columnList (columns : List String) :
    (if columns.isEmpty then Rendering.nothing
      else Rendering.fixed " (" ++ cs.targets columns ++ Rendering.fixed ")" :
        Rendering (List (Slot Q))).Takes True (columns.flatMap cs.targetNeeds) := by
  cases columns with
  | nil => exact .nothing
  | cons column columns => exact ((cs.takes_targets _).behind " (").before ")"

theorem takes_insertedRows (rows : InsertRows Q) :
    (insertedRows cs (rows.map Slot.place)).Takes rows.IsSound (rowNeeds cs rows) := by
  cases rows with
  | records rs => exact takes_insertedRecords cs rs
  | query columns q =>
      exact (((takes_columnList cs columns).before " ").append (.place q)).cast (List.append_nil _)

theorem takes_conflictClause (o : OnConflict Q) :
    (conflictClause cs (o.map Slot.place)).Takes o.IsSound (conflictNeeds cs o) := by
  rcases o with ⟨columns, action⟩
  have hhead := (takes_columnList (Q := Q) cs columns).behind " ON CONFLICT"
  have hclause {p : Prop} {r : Rendering (List (Slot Q))} {needs : List Need}
      (h : r.Takes p needs) := (hhead.append_both h).of_iff (iff_of_eq (true_and p))
  -- both kinds of update need columns to find the conflict by
  cases action with
  | nothing => exact hclause (.fixed " DO NOTHING")
  | merge merged =>
      refine hclause (p := columns ≠ [] ∧ merged ≠ []) ?_
      have hmerged := (Takes.commas (Q := Q) (l := merged) fun column _ =>
        ((cs.takes_target column).before " = EXCLUDED.").append (cs.takes_target column)).behind
          " DO UPDATE SET "
      cases columns with
      | nil => exact .fault rfl (by simp)
      | cons column columns =>
          cases merged with
          | nil => exact .fault rfl (by simp)
          | cons => exact hmerged.of_iff (by simp)
  | update r =>
      refine hclause (p := columns ≠ []) ?_
      cases columns with
      | nil => exact .fault rfl (by simp)
      | cons column columns =>
          exact ((takes_assignments cs r).behind " DO UPDATE SET ").of_iff (by simp)

theorem takes_insertion (rows : InsertRows Q) (conflict : Option (OnConflict Q)) :
    ((c.map Slot.place).insertion cs (rows.map Slot.place)
      (conflict.map (OnConflict.map Slot.place))).Takes
        (c.table? ≠ none ∧ rows.IsSound ∧ ∀ o ∈ conflict, o.IsSound)
        (c.tableNeeds ++ rowNeeds cs rows ++ conflict.toList.flatMap (conflictNeeds cs)) := by
  have hconflict : (Rendering.optional (conflictClause cs)
      (conflict.map (OnConflict.map Slot.place))).Takes (∀ o ∈ conflict, o.IsSound)
        (conflict.toList.flatMap (conflictNeeds cs)) := by
    cases conflict with
    | none => exact Takes.nothing.of_iff (by simp)
    | some o => exact ((takes_conflictClause cs o).of_iff (by simp)).cast (by simp)
  exact ((((c.takes_target .insert).behind "INSERT INTO ").append_both
    (takes_insertedRows cs rows)).append_both hconflict).of_iff and_assoc

/-! ## UPDATE and DELETE -/

theorem takes_changeFilter (keyword : String) :
    ((c.map Slot.place).changeFilter cs keyword).Takes
      (∀ j ∈ c.joins, j.kind = .inner ∨ j.kind = .cross) (c.changeNeeds cs) := by
  have hsources : (Rendering.clause keyword
      (c.joins.map fun j => changeSource (j.map Slot.place))).Takes
        (∀ j ∈ c.joins, j.kind = .inner ∨ j.kind = .cross)
        (c.joins.flatMap fun j => j.source.needs) := by
    refine .clause_all keyword fun j _ => ?_
    have hkind : (j.map Slot.place).kind = j.kind := rfl
    unfold changeSource
    -- other joins than inner and cross ones are a fault
    simp only [hkind, Bool.or_eq_true, decide_eq_true_eq]
    split
    case isTrue h => exact j.source.takes.of_iff (by simp [h])
    case isFalse h => exact .fault rfl (by simp [h])
  unfold changeFilter
  rw [changeConditions_map, map_joins, List.map_map]
  exact hsources.append_free (cs.takes_clauseOf " WHERE " _)

/-- An UPDATE that is guarded. -/
theorem takes_updating (r : Record Q) (hguard : (c.isNarrowed || c.all) = true) :
    ((c.map Slot.place).updating cs (r.map Slot.place)).Takes
      (c.table? ≠ none ∧ r.assignments ≠ [] ∧ ∀ j ∈ c.joins, j.kind = .inner ∨ j.kind = .cross)
      (c.tableNeeds ++ assignmentNeeds cs r ++ c.changeNeeds cs) := by
  have hassignments : (r.map Slot.place).assignments.isEmpty = r.assignments.isEmpty := by
    simp [Record.map]
  have hset := ((((c.takes_target .update).behind "UPDATE ").before " SET ").append_free
    (takes_assignments cs r)).append_both (c.takes_changeFilter cs " FROM ")
  unfold updating guarded
  rw [guard_map, hguard, hassignments, if_pos rfl]
  cases hempty : r.assignments.isEmpty with
  | true => exact .fault rfl (by simp [List.isEmpty_iff.1 hempty])
  | false =>
      have hsome : r.assignments ≠ [] := by
        simpa using hempty
      exact hset.of_iff (by simp [hsome])

/-- A DELETE that is guarded. -/
theorem takes_deletion (hard : Bool) (hguard : (c.isNarrowed || c.all) = true) :
    ((c.map Slot.place).deletion cs hard).Takes
      (c.table? ≠ none ∧ ∀ j ∈ c.joins, j.kind = .inner ∨ j.kind = .cross)
      (c.tableNeeds ++ (c.deletionMark hard).toList.flatMap cs.targetNeeds ++
        c.changeNeeds cs) := by
  unfold deletion guarded
  rw [guard_map, hguard, deletionMark_map, if_pos rfl]
  cases c.deletionMark hard with
  | none =>
      exact (((c.takes_target .delete).behind "DELETE FROM ").append_both
        (c.takes_changeFilter cs " USING ")).cast (by simp)
  | some column =>
      exact (((((c.takes_target .delete).behind "UPDATE ").before " SET ").append_free
        (cs.takes_target column)).before " = now()").append_both
          (c.takes_changeFilter cs " FROM ") |>.cast (by simp)

/-! ## Statements -/

/-- Without columns to deliver, a change delivers nothing or a constant. -/
theorem takes_returningClause (inCte : Bool) :
    ((c.map Slot.place).returningClause cs inCte).Takes True
      (c.returning.flatMap cs.itemNeeds) := by
  unfold returningClause
  rw [map_returning, List.isEmpty_map]
  cases hreturning : c.returning with
  | nil =>
      cases inCte with
      | true => exact .fixed " RETURNING 1"
      | false => exact .nothing
  | cons i is => exact (cs.takes_items (i :: is)).behind " RETURNING "

/-- What it takes to write a statement that is not an unguarded change. -/
theorem takes_statement (naming : Naming) (inCte : Bool)
    (hguard : c.isChange = true → (c.isNarrowed || c.all) = true) :
    ((c.map Slot.place).statement naming inCte).Takes c.IsSound (c.needs naming) := by
  have hreturning := c.takes_returningClause (c.columns naming) inCte
  unfold statement
  rw [columns_map]
  refine c.takes_withClause ?_
  unfold body bodyNeeds IsSound
  rw [map_mutation]
  cases hm : c.mutation with
  | none => exact c.takes_selection (c.columns naming)
  | some m =>
      cases m with
      | insert rows conflict =>
          exact (c.takes_insertion (c.columns naming) rows conflict).append_free hreturning
      | update r =>
          have hupdate := hguard (by simp [isChange, hm])
          exact (c.takes_updating (c.columns naming) r hupdate).append_free hreturning
      | delete hard =>
          have hdelete := hguard (by simp [isChange, hm])
          exact (c.takes_deletion (c.columns naming) hard hdelete).append_free hreturning

end Clauses
end ParamSql
