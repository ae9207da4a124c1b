import ParamSql.Proofs.Sql.Writers

/-!
# Statements — whole statements respect correspondences

The parts of a statement are put together to the four kinds of statement, whose lemmas follow the
functions that write them:

* `Correspondence.selection`, `Correspondence.insertion`, `Correspondence.updating`,
  `Correspondence.deletion`;
* `Correspondence.statement` — a statement with its common table expressions, in which exactly the
  subqueries of its clauses stand.
-/

namespace ParamSql

/-! ## What the inner queries have no part in -/

namespace Clauses

variable {Q R : Type} (f : Q → R) (c : Clauses Q)

@[simp]
theorem table?_map : (c.map f).table? = c.table? := by
  rcases c with ⟨source⟩
  cases source <;> rfl

@[simp]
theorem columns_map (naming : Naming) : (c.map f).columns naming = c.columns naming := by
  rcases c with ⟨source⟩
  cases source <;> rfl

@[simp]
theorem expandedColumns_map (cs : Columns) :
    (c.map f).expandedColumns cs = c.expandedColumns cs := by
  simp only [expandedColumns, table?_map]

@[simp]
theorem outputName_map (cs : Columns) (column : String) :
    (c.map f).outputName cs column = c.outputName cs column := by
  have hselect : (c.map f).select.isEmpty = c.select.isEmpty := by simp [map]
  simp only [outputName, expandedColumns_map, hselect]

@[simp]
theorem filters_map : (c.map f).filters = c.filters.map (Formula.map (Predicate.map f)) := by
  simp [filters, map, Scope.map, Function.comp_def]

/-- The conditions behind the WHERE of a change, to which those of its joins belong. -/
theorem changeConditions_map :
    (c.map f).joins.filterMap Join.on ++ (c.map f).filters =
      (c.joins.filterMap Join.on ++ c.filters).map (Formula.map (Predicate.map f)) := by
  simp [List.filterMap_map, List.map_filterMap, Function.comp_def, Join.map]

@[simp]
theorem isNarrowed_map : (c.map f).isNarrowed = c.isNarrowed := by
  have hjoin (j : Join Q) : (j.map f).on.any (!·.isEmpty) = j.on.any (!·.isEmpty) := by
    rcases j with ⟨kind, source, on⟩
    cases on <;> simp [Join.map]
  simp only [isNarrowed, map_conditions, map_joins, List.any_map, Function.comp_def,
    Formula.isEmpty_map, hjoin]

@[simp]
theorem deletionMark_map (hard : Bool) : (c.map f).deletionMark hard = c.deletionMark hard := by
  simp only [deletionMark, table?_map]

theorem recordColumns_map (rs : List (Record Q)) :
    recordColumns (rs.map (Record.map f)) = recordColumns rs := by
  have hcolumns (r : Record Q) : (r.map f).columns = r.columns := by
    simp [Record.columns, Record.map, Function.comp_def, Assignment.map]
  simp only [recordColumns, List.flatMap_map, hcolumns]

/-! ## What the values have no part in -/

section Values

variable {Q : Type} (r : Revaluation) (c : Clauses Q)

@[simp]
theorem table?_revalue : (c.revalue r).table? = c.table? := by
  rcases c with ⟨source⟩
  cases source <;> rfl

@[simp]
theorem columns_revalue (naming : Naming) : (c.revalue r).columns naming = c.columns naming := by
  rcases c with ⟨source⟩
  cases source <;> rfl

@[simp]
theorem expandedColumns_revalue (cs : Columns) :
    (c.revalue r).expandedColumns cs = c.expandedColumns cs := by
  simp only [expandedColumns, table?_revalue]

@[simp]
theorem outputName_revalue (cs : Columns) (column : String) :
    (c.revalue r).outputName cs column = c.outputName cs column := by
  simp only [outputName, expandedColumns_revalue, revalue_select, List.isEmpty_map]

@[simp]
theorem filters_revalue :
    (c.revalue r).filters = c.filters.map (Formula.map (Predicate.revalue r)) := by
  simp [filters, revalue, Scope.revalue, Function.comp_def]

theorem changeConditions_revalue :
    (c.revalue r).joins.filterMap Join.on ++ (c.revalue r).filters =
      (c.joins.filterMap Join.on ++ c.filters).map (Formula.map (Predicate.revalue r)) := by
  simp [List.filterMap_map, List.map_filterMap, Function.comp_def, Join.revalue]

@[simp]
theorem isNarrowed_revalue : (c.revalue r).isNarrowed = c.isNarrowed := by
  have hjoin (j : Join Q) : (j.revalue r).on.any (!·.isEmpty) = j.on.any (!·.isEmpty) := by
    rcases j with ⟨kind, source, on⟩
    cases on <;> simp [Join.revalue]
  simp only [isNarrowed, revalue_conditions, revalue_joins, List.any_map, Function.comp_def,
    Formula.isEmpty_map, hjoin]

@[simp]
theorem deletionMark_revalue (hard : Bool) :
    (c.revalue r).deletionMark hard = c.deletionMark hard := by
  simp only [deletionMark, table?_revalue]

theorem recordColumns_revalue (rs : List (Record Q)) :
    recordColumns (rs.map (Record.revalue r)) = recordColumns rs := by
  have hcolumns (record : Record Q) : (record.revalue r).columns = record.columns := by
    simp [Record.columns, Record.revalue, Function.comp_def, Assignment.revalue]
  simp only [recordColumns, List.flatMap_map, hcolumns]

end Values

/-- The columns of an insertion are columns of its records. -/
theorem mem_recordColumns {rs : List (Record Q)} {column : String}
    (h : column ∈ recordColumns rs) : ∃ r ∈ rs, ∃ a ∈ r.assignments, a.column = column := by
  -- every column is put behind those seen before it
  have hfold : ∀ (columns seen : List String),
      column ∈ columns.foldl (fun seen c => if c ∈ seen then seen else seen ++ [c]) seen →
        column ∈ seen ∨ column ∈ columns := by
    intro columns
    induction columns with
    | nil =>
        intro seen hseen
        exact .inl hseen
    | cons d columns ih =>
        intro seen hseen
        rcases ih _ hseen with hin | hin
        · dsimp only at hin
          split at hin
          · exact .inl hin
          · rcases List.mem_append.1 hin with hin | hin
            · exact .inl hin
            · exact .inr (by simp [List.mem_singleton.1 hin])
        · exact .inr (List.mem_cons_of_mem d hin)
  rcases hfold _ _ h with hseen | hmem
  · cases hseen
  · rcases List.mem_flatMap.1 hmem with ⟨r, hr, hcolumn⟩
    rcases List.mem_map.1 hcolumn with ⟨a, ha, rfl⟩
    exact ⟨r, hr, a, ha, rfl⟩

end Clauses

theorem Record.get?_revalue {Q : Type} (r : Revaluation) (record : Record Q) (column : String) :
    (record.revalue r).get? column = (record.get? column).map (SetValue.revalue r) := by
  simp only [get?, Keyed.find?, revalue, List.find?_map, Option.map_map]
  rfl

@[simp]
theorem SetValue.isRelative_revalue {Q : Type} (r : Revaluation) (v : SetValue Q) :
    (v.revalue r).isRelative = v.isRelative := by
  cases v <;> rfl

namespace Correspondence

variable {Q ω ω' : Type} [Output ω] [Output ω'] [LawfulOutput ω] [LawfulOutput ω']
variable {C : Correspondence Q ω ω'} {ρ : Q → Rendering ω} {ρ' : Q → Rendering ω'} {cs : Columns}
variable {c : Clauses Q}

/-! ## The table -/

omit [LawfulOutput ω] [LawfulOutput ω'] in
/-- The names of the table are admitted. -/
theorem admits_table (h : c.Each (C.Admits ρ ρ')) {t : TableInfo} (ht : c.table? = some t) :
    C.paths t.path ∧ C.names t.name ∧ (∀ column ∈ t.columns, C.names column) ∧
      ∀ column ∈ t.softDelete, C.names column := by
  have hsource : c.source = .table t := by
    cases hc : c.source <;> simp [Clauses.table?, hc] at ht ⊢
    exact ht
  have hnames := h.source
  simp only [hsource, Source.ingredients, TableInfo.ingredients, List.forall_mem_cons,
    admits_names, List.forall_mem_append, Option.mem_toList] at hnames
  rcases hnames with ⟨hname, ⟨hschema, hcolumns⟩, hdelete⟩
  refine ⟨?_, hname, hcolumns, hdelete⟩
  unfold TableInfo.path
  cases hs : t.schema with
  | none => exact C.path_of_name hname
  | some schema => exact C.qualified (hschema schema hs) hname

omit [LawfulOutput ω] [LawfulOutput ω'] in
theorem qualifies (h : c.Each (C.Admits ρ ρ')) (naming : Naming) :
    C.Qualifies (c.columns naming) := by
  intro table htable
  apply C.path_of_name
  have hsource := h.source
  cases hc : c.source with
  | nothing => simp [Clauses.columns, hc] at htable
  | table t =>
      have ht : t.name = table := by simpa [Clauses.columns, hc] using htable
      exact ht ▸ (admits_table h (by simp [Clauses.table?, hc])).2.1
  | query q name =>
      have hname : name = table := by simpa [Clauses.columns, hc] using htable
      exact hname ▸ hsource (.name name) (by simp [hc, Source.ingredients])
  | fragment f name =>
      have hname : name = table := by simpa [Clauses.columns, hc] using htable
      exact hname ▸ hsource (.name name) (by simp [hc, Source.ingredients])

/-! ## SELECT -/

omit [LawfulOutput ω] [LawfulOutput ω'] in
theorem fromClause (h : c.Each (C.Admits ρ ρ')) :
    C.free c.source.subqueries (c.map ρ).fromClause
      ((c.revalue C.values).map ρ').fromClause := by
  have hsource := h.source
  unfold Clauses.fromClause
  simp only [Clauses.map_source, Clauses.revalue_source]
  cases hc : c.source with
  | nothing => exact C.nothing
  | table t =>
      have hpath := (admits_table h (t := t) (by simp [Clauses.table?, hc])).1
      exact C.opening (by simp [openers]) (C.path hpath)
  | query q name =>
      rw [hc] at hsource
      have hq : C.begun [q] (ρ q) (ρ' q) := hsource (.query q) (by simp [Source.ingredients])
      have hname : C.names name := hsource (.name name) (by simp [Source.ingredients])
      have hinner := C.led_of_free (bracketed (C.led_of_begun hq))
      have hfrom := C.opening (s := " FROM ") (by simp [openers]) hinner
      exact append_left hfrom (itemName_some hname)
  | fragment f name =>
      rw [hc] at hsource
      have hf : C.fragments f := hsource (.fragment f) (by simp [Source.ingredients])
      have hname : C.names name := hsource (.name name) (by simp [Source.ingredients])
      have hfrom := C.opening (s := " FROM ") (by simp [openers]) (C.fragment hf)
      exact append_left hfrom (itemName_some hname)

/-- A statement behind its common table expressions. -/
theorem withClause (h : c.Each (C.Admits ρ ρ')) {l : List Q} {x y} (hbody : C.begun l x y) :
    C.begun (c.ctes.flatMap Cte.subqueries ++ l) ((c.map ρ).withClause ++ x)
      (((c.revalue C.values).map ρ').withClause ++ y) := by
  have hrecursive {R : Type} (f : Cte Q → Cte R)
      (hf : ∀ cte, (f cte).isRecursive = cte.isRecursive) :
      (c.ctes.map f).any Cte.isRecursive = c.ctes.any Cte.isRecursive := by
    simp only [List.any_map, Function.comp_def, hf]
  unfold Clauses.withClause
  simp only [Clauses.map_ctes, Clauses.revalue_ctes, List.isEmpty_map, List.map_map]
  rw [hrecursive (Cte.map ρ) fun _ => rfl,
    hrecursive (Cte.map ρ' ∘ Cte.revalue C.values) fun _ => rfl]
  cases hempty : c.ctes.isEmpty with
  | true =>
      rw [List.isEmpty_iff] at hempty
      simpa [hempty] using hbody
  | false =>
      have hkeyword : (if c.ctes.any Cte.isRecursive then "WITH RECURSIVE " else "WITH ") ∈
          starters := by
        cases c.ctes.any Cte.isRecursive <;> simp [starters]
      have hctes := commas fun x hx => cte (h.ctes x hx)
      have hall :=
        C.led_append hctes (C.opening (s := " ") (by simp [openers]) (C.led_of_begun hbody))
      simpa [Rendering.append_assoc, Function.comp_def] using C.starting hkeyword hall

theorem selectList (hcs : C.Qualifies cs) (h : c.Each (C.Admits ρ ρ')) :
    C.led (c.select.flatMap SelectItem.subqueries) ((c.map ρ).selectList cs)
      (((c.revalue C.values).map ρ').selectList cs) := by
  have hstar : C.led [] (.fixed "*") (.fixed "*") := C.constant (by simp [constants])
  unfold Clauses.selectList
  simp only [Clauses.expandedColumns_map, Clauses.expandedColumns_revalue, Clauses.map_select,
    Clauses.revalue_select, Clauses.map_joins, Clauses.revalue_joins, List.isEmpty_map]
  cases hselect : c.select with
  | cons i is =>
      have hitems := items hcs h.select
      simpa [hselect] using hitems
  | nil =>
      simp only [List.isEmpty_nil, Bool.not_true, Bool.false_eq_true, if_false, List.flatMap_nil]
      -- without a select list, the columns of the table are written or a star
      cases hcolumns : c.expandedColumns cs with
      | nil =>
          cases htable : cs.qualifier with
          | none => exact hstar
          | some table =>
              cases c.joins.isEmpty with
              | true => exact hstar
              | false => exact C.star (hcs table htable)
      | cons column columns =>
          -- the columns that are written are those of the table
          have hexpanded : ∀ name ∈ column :: columns, C.names name := by
            rw [← hcolumns]
            intro name hname
            unfold Clauses.expandedColumns at hname
            split at hname
            case h_1 t ht _ => exact (admits_table h ht).2.2.1 name hname
            case h_2 => cases hname
          have hitem : ∀ name ∈ column :: columns,
              C.led [] (cs.item (.ofColumn name)) (cs.item (.ofColumn name)) := by
            intro name hname
            exact namedColumn hcs (C.parsed (hexpanded name hname)) (fun s hs => by cases hs)
          simpa [Columns.items, Function.comp_def] using commas_plain hitem

theorem orderColumn (hcs : C.Qualifies cs) {column : ColumnRef} (h : C.Refers column) :
    C.led [] ((c.map ρ).orderColumn cs column)
      (((c.revalue C.values).map ρ').orderColumn cs column) := by
  unfold Clauses.orderColumn
  simp only [Clauses.map_setOps, Clauses.revalue_setOps, List.isEmpty_map, Clauses.outputName_map,
    Clauses.outputName_revalue]
  cases !c.setOps.isEmpty && column.table.isNone with
  | true =>
      -- behind a set operation a column goes by the name that it has in the output
      simp only [if_true, Clauses.outputName]
      split
      · exact C.physical _ h.2
      · exact C.name h.2
  | false => exact reference hcs h

/-- What is selected stands behind DISTINCT, if that is written. -/
theorem distinctClause (hcs : C.Qualifies cs) (h : c.Each (C.Admits ρ ρ')) {l : List Q} {x y}
    (hlist : C.led l x y) :
    C.led l ((c.map ρ).distinctClause cs ++ x)
      (((c.revalue C.values).map ρ').distinctClause cs ++ y) := by
  have hdistinct := h.distinct
  unfold Clauses.distinctClause
  simp only [Clauses.map_distinct, Clauses.revalue_distinct]
  cases hc : c.distinct with
  | none => simpa using hlist
  | some d =>
      cases d with
      | rows => exact C.led_of_begun (C.starting (by simp [starters]) hlist)
      | on columns =>
          have hcolumns := hdistinct _ hc
          simp only [Distinct.ingredients, List.forall_mem_flatMap] at hcolumns
          have hreferences : C.led [] (cs.references columns) (cs.references columns) :=
            references hcs fun column hcolumn => refers (hcolumns column hcolumn)
          have hlisted := C.led_append hreferences (C.opening (s := ") ") (by simp [openers]) hlist)
          have hall := C.starting (s := "DISTINCT ON (") (by simp [starters]) hlisted
          simpa only [Rendering.append_assoc, List.nil_append] using C.led_of_begun hall

omit [LawfulOutput ω] [LawfulOutput ω'] in
theorem filters (h : c.Each (C.Admits ρ ρ')) :
    ∀ f ∈ c.filters, ∀ i ∈ f.ingredients, C.Admits ρ ρ' i := by
  intro f hf
  rcases List.mem_append.1 hf with hown | hscope
  · exact h.conditions f hown
  · rcases List.mem_map.1 hscope with ⟨s, hs, rfl⟩
    exact h.scopes s hs

omit [LawfulOutput ω] [LawfulOutput ω'] in
theorem setOperation {op : SetOp Q} (h : ∀ i ∈ op.ingredients, C.Admits ρ ρ' i) :
    C.free [op.query] (Clauses.setOperation (op.map ρ)) (Clauses.setOperation (op.map ρ')) := by
  have hq : C.begun [op.query] (ρ op.query) (ρ' op.query) :=
    h (.query op.query) (by simp [SetOp.ingredients])
  exact C.opening op.kind.sql_mem (C.led_of_free (bracketed (C.led_of_begun hq)))

omit [LawfulOutput ω] [LawfulOutput ω'] in
/-- A number behind its keyword. -/
theorem boundClause {s : String} (hs : s ∈ bounds) (n : Option Int64) :
    C.free [] (Rendering.optional (fun n => .fixed s ++ .bind (.int n)) n)
      (Rendering.optional (fun n => .fixed s ++ .bind (.int n)) (n.map C.values.count)) := by
  cases n with
  | none => exact C.nothing
  | some n => exact C.bound hs n

theorem selection (hcs : C.Qualifies cs) (h : c.Each (C.Admits ρ ρ')) :
    C.begun c.selectionSubqueries ((c.map ρ).selection cs)
      (((c.revalue C.values).map ρ').selection cs) := by
  have hlist := distinctClause hcs h (selectList hcs h)
  have hjoins := concat fun j hj => join hcs (h.joins j hj)
  have hwhere := clauseOf (s := " WHERE ") hcs (by simp [openers]) (filters h)
  have hgroup := clause (s := " GROUP BY ") (by simp [openers]) fun o ho =>
    operand hcs (h.group o ho)
  have hhaving := clauseOf (s := " HAVING ") hcs (by simp [openers]) h.having
  have hwindows := clause_plain (s := " WINDOW ") (by simp [openers]) fun w hw =>
    window hcs (h.windows w hw)
  have hsetOps := concat fun op hop => setOperation (h.setOps op hop)
  have hcolumn : ∀ column, C.Refers column → C.led [] ((c.map ρ).orderColumn cs column)
      (((c.revalue C.values).map ρ').orderColumn cs column) := fun _ => orderColumn hcs
  have horder := clause_plain (s := " ORDER BY ") (by simp [openers]) fun o ho =>
    orderEntry (h.order o ho) hcolumn
  have hlimit : C.free [] _ _ := boundClause (s := " LIMIT ") (by simp [bounds]) c.limit
  have hoffset : C.free [] _ _ := boundClause (s := " OFFSET ") (by simp [bounds]) c.offset
  have hlock : C.free [] (Rendering.optional Lock.rendering c.lock)
      (Rendering.optional (fun l : Lock => (l.revalue C.values).rendering) c.lock) :=
    free_cast (optional fun l hl => lock (h.lock l hl)) (List.flatMap_eq_nil_iff.2 fun _ _ => rfl)
  have hrevalued : Rendering.optional (fun l : Lock => (l.revalue C.values).rendering) c.lock =
      (Rendering.optional Lock.rendering (c.lock.map (Lock.revalue C.values)) : Rendering ω') := by
    cases c.lock <;> rfl
  rw [hrevalued] at hlock
  -- the select list comes first, and may begin with a fragment behind SELECT only
  have htail := C.append (fromClause h) <| C.append hjoins <| C.append hwhere <|
    C.append hgroup <| C.append hhaving <| C.append hwindows <| C.append hsetOps <|
    C.append horder <| C.append hlimit <| C.append hoffset hlock
  have hall := C.starting (s := "SELECT ") (by simp [starters]) (C.led_append hlist htail)
  simp only [Clauses.selection, Rendering.concat_cons, Rendering.concat_nil,
    Rendering.append_nothing, Clauses.filters_map, Clauses.filters_revalue, Clauses.map_joins,
    Clauses.map_group, Clauses.map_having, Clauses.map_windows, Clauses.map_setOps,
    Clauses.map_order, Clauses.map_limit, Clauses.map_offset, Clauses.map_lock,
    Clauses.revalue_joins, Clauses.revalue_group, Clauses.revalue_having, Clauses.revalue_windows,
    Clauses.revalue_setOps, Clauses.revalue_order, Clauses.revalue_limit, Clauses.revalue_offset,
    Clauses.revalue_lock, List.map_map, Function.comp_def] at hall ⊢
  -- the parts contribute their queries in the order of the text
  have hsubqueries : c.selectionSubqueries = c.select.flatMap SelectItem.subqueries ++
      (c.source.subqueries ++ (c.joins.flatMap Join.subqueries ++
        (c.filters.flatMap Formula.subqueries ++ (c.group.flatMap Operand.subqueries ++
          (c.having.flatMap Formula.subqueries ++ ([] ++
            (c.setOps.flatMap (fun op => [op.query]) ++ ([] ++ ([] ++ ([] ++ [])))))))))) := by
    simp only [Clauses.selectionSubqueries, List.map_eq_flatMap, List.append_assoc,
      List.nil_append, List.append_nil]
  rw [hsubqueries]
  simpa only [Rendering.append_assoc] using hall

/-! ## Assignments -/

theorem newValue (hcs : C.Qualifies cs) {column : String} (hcolumn : C.names column)
    {v : SetValue Q} (h : ∀ i ∈ v.ingredients, C.Admits ρ ρ' i) :
    C.led v.subqueries (Clauses.newValue cs column (v.map ρ))
      (Clauses.newValue cs column ((v.revalue C.values).map ρ')) := by
  -- an increment or a decrement starts from the old value
  have hold : C.led [] (cs.reference (.parse column)) (cs.reference (.parse column)) :=
    reference hcs (C.parsed hcolumn)
  cases v with
  | value v => exact C.bind v
  | fragment f => exact C.fragment (h (.fragment f) (by simp [SetValue.ingredients]))
  | increment v => exact append_opening (s := " + ") hold (by simp [openers]) (C.bind v)
  | decrement v => exact append_opening (s := " - ") hold (by simp [openers]) (C.bind v)
  | query q =>
      have hq : C.begun [q] (ρ q) (ρ' q) := h (.query q) (by simp [SetValue.ingredients])
      exact C.led_of_free (bracketed (C.led_of_begun hq))
  | default => exact C.constant (by simp [constants])

theorem assignments (hcs : C.Qualifies cs) {r : Record Q}
    (h : ∀ i ∈ r.ingredients, C.Admits ρ ρ' i) :
    C.led r.subqueries (Clauses.assignments cs (r.map ρ))
      (Clauses.assignments cs ((r.revalue C.values).map ρ')) := by
  simp only [Clauses.assignments, Record.map, Record.revalue, List.map_map]
  apply commas
  intro a ha
  have hassignment : ∀ i ∈ a.ingredients, C.Admits ρ ρ' i := fun i hi =>
    h i (List.mem_flatMap.2 ⟨a, ha, hi⟩)
  rcases List.forall_mem_cons.1 hassignment with ⟨hcolumn, hvalue⟩
  exact append_opening (target hcolumn) (by simp [openers]) (newValue hcs hcolumn hvalue)

/-! ## INSERT -/

theorem insertedValue (hcs : C.Qualifies cs) {r : Record Q}
    (h : ∀ i ∈ r.ingredients, C.Admits ρ ρ' i) {column : String} (hcolumn : C.names column) :
    C.led ((r.get? column).toList.flatMap SetValue.subqueries)
      (Clauses.insertedValue cs (r.map ρ) column)
      (Clauses.insertedValue cs ((r.revalue C.values).map ρ') column) := by
  unfold Clauses.insertedValue
  simp only [Record.get?_map, Record.get?_revalue]
  cases hr : r.get? column with
  | none => exact C.constant (by simp [constants])
  | some v =>
      have hvalue : ∀ i ∈ v.ingredients, C.Admits ρ ρ' i := fun i hi =>
        h i (Record.mem_ingredients hr hi)
      simp only [Option.map_some, SetValue.isRelative_map, SetValue.isRelative_revalue]
      cases v.isRelative with
      | true => exact C.led_of_free (C.fault _ _)
      | false => simpa using newValue hcs hcolumn hvalue

theorem insertedRecords (hcs : C.Qualifies cs) {rs : List (Record Q)}
    (h : ∀ r ∈ rs, ∀ i ∈ r.ingredients, C.Admits ρ ρ' i) :
    C.free (InsertRows.records rs).subqueries
      (Clauses.insertedRecords cs (rs.map (Record.map ρ)))
      (Clauses.insertedRecords cs ((rs.map (Record.revalue C.values)).map (Record.map ρ'))) := by
  have hcolumns : ∀ column ∈ Clauses.recordColumns rs, C.names column := by
    intro column hcolumn
    rcases Clauses.mem_recordColumns hcolumn with ⟨r, hr, a, ha, rfl⟩
    exact h r hr (.name a.column)
      (List.mem_flatMap.2 ⟨a, ha, by simp [Assignment.ingredients]⟩)
  -- every record has a value for each of the columns, or DEFAULT
  have hrows : C.led (InsertRows.records rs).subqueries
      (.commas (rs.map fun r =>
        .bracketed (.commas ((Clauses.recordColumns rs).map (Clauses.insertedValue cs (r.map ρ))))))
      (.commas (rs.map fun r =>
        .bracketed (.commas ((Clauses.recordColumns rs).map
          (Clauses.insertedValue cs ((r.revalue C.values).map ρ')))))) :=
    commas fun r hr => C.led_of_free (bracketed (commas fun column hcolumn =>
      insertedValue hcs (h r hr) (hcolumns column hcolumn)))
  have htargets : C.led [] (cs.targets (Clauses.recordColumns rs))
      (cs.targets (Clauses.recordColumns rs)) := targets hcolumns
  have hvalues := C.opening (s := " (") (by simp [openers])
    (append_opening (s := ") VALUES ") htargets (by simp [openers]) hrows)
  simp only [← Rendering.append_assoc, List.nil_append] at hvalues
  unfold Clauses.insertedRecords
  simp only [Clauses.recordColumns_map, Clauses.recordColumns_revalue]
  cases rs with
  | nil => exact C.fault _ _
  | cons r rest =>
      cases hnames : Clauses.recordColumns (r :: rest) with
      | nil =>
          -- a record without columns is written as DEFAULT VALUES, in which no query stands
          have hnone : (InsertRows.records (r :: rest)).subqueries = [] := by
            simp [InsertRows.subqueries, hnames]
          cases rest with
          | nil => exact free_cast (C.closing (by simp [closers])) hnone.symm
          | cons => exact C.fault _ _
      | cons column columns =>
          rw [hnames] at hvalues
          cases rest with
          | nil => simpa using hvalues
          | cons => simpa [Function.comp_def] using hvalues

/-- The columns in brackets, if there are any. -/
theorem columnList (cs : Columns) {columns : List String} (h : ∀ column ∈ columns, C.names column) :
    C.free []
      (if columns.isEmpty then Rendering.nothing
        else Rendering.fixed " (" ++ cs.targets columns ++ Rendering.fixed ")")
      (if columns.isEmpty then Rendering.nothing
        else Rendering.fixed " (" ++ cs.targets columns ++ Rendering.fixed ")") :=
  free_ite C.nothing
    (append_left (C.opening (by simp [openers]) (targets h)) (C.closing (by simp [closers])))

theorem insertedRows (hcs : C.Qualifies cs) {rows : InsertRows Q}
    (h : ∀ i ∈ rows.ingredients, C.Admits ρ ρ' i) :
    C.free rows.subqueries (Clauses.insertedRows cs (rows.map ρ))
      (Clauses.insertedRows cs ((rows.revalue C.values).map ρ')) := by
  cases rows with
  | records rs =>
      exact insertedRecords hcs fun r hr i hi => h i (List.mem_flatMap.2 ⟨r, hr, hi⟩)
  | query columns q =>
      rcases List.forall_mem_append.1 h with ⟨hcolumns, hq⟩
      have hq : C.begun [q] (ρ q) (ρ' q) := hq (.query q) (by simp)
      have hq := C.opening (s := " ") (by simp [openers]) (C.led_of_begun hq)
      have hrows := C.append (columnList cs (admits_names.1 hcolumns)) hq
      simp only [← Rendering.append_assoc] at hrows
      exact hrows

theorem mergedColumn {column : String} (h : C.names column) :
    C.led [] (Clauses.mergedColumn cs column) (Clauses.mergedColumn cs column) :=
  append_opening (target h) (by simp [openers]) (target h)

theorem conflictClause (hcs : C.Qualifies cs) {o : OnConflict Q}
    (h : ∀ i ∈ o.ingredients, C.Admits ρ ρ' i) :
    C.free o.action.subqueries (Clauses.conflictClause cs (o.map ρ))
      (Clauses.conflictClause cs ((o.revalue C.values).map ρ')) := by
  rcases o with ⟨columns, action⟩
  rcases List.forall_mem_append.1 h with ⟨hcolumns, haction⟩
  refine C.append (append_left (C.closing (by simp [closers]))
    (columnList cs (admits_names.1 hcolumns))) ?_
  -- both kinds of update need columns to find the conflict by
  cases action with
  | nothing => exact C.closing (by simp [closers])
  | merge merged =>
      have hmerged : C.led [] (.commas (merged.map (Clauses.mergedColumn cs)))
          (.commas (merged.map (Clauses.mergedColumn cs))) :=
        commas_plain fun column hcolumn => mergedColumn (admits_names.1 haction column hcolumn)
      cases columns with
      | nil => exact C.fault _ _
      | cons =>
          cases merged with
          | nil => exact C.fault _ _
          | cons => exact C.opening (by simp [openers]) hmerged
  | update r =>
      cases columns with
      | nil => exact C.fault _ _
      | cons => exact C.opening (by simp [openers]) (assignments hcs haction)

omit [LawfulOutput ω] [LawfulOutput ω'] in
/-- The table that is changed. -/
theorem changed (h : c.Each (C.Admits ρ ρ')) (verb : Verb) :
    C.led [] ((c.map ρ).target verb) (((c.revalue C.values).map ρ').target verb) := by
  unfold Clauses.target
  simp only [Clauses.table?_map, Clauses.table?_revalue]
  cases ht : c.table? with
  | none => exact C.led_of_free (C.fault _ _)
  | some t => exact C.path (admits_table h ht).1

theorem insertion (hcs : C.Qualifies cs) (h : c.Each (C.Admits ρ ρ')) {rows : InsertRows Q}
    {conflict : Option (OnConflict Q)} (hmutation : c.mutation = some (.insert rows conflict)) :
    C.begun (rows.subqueries ++ conflict.toList.flatMap fun o => o.action.subqueries)
      ((c.map ρ).insertion cs (rows.map ρ) (conflict.map (OnConflict.map ρ)))
      (((c.revalue C.values).map ρ').insertion cs ((rows.revalue C.values).map ρ')
        ((conflict.map (OnConflict.revalue C.values)).map (OnConflict.map ρ'))) := by
  have hinsert := h.mutation _ hmutation
  rcases List.forall_mem_append.1 hinsert with ⟨hrows, hconflict⟩
  have htable := C.starting (s := "INSERT INTO ") (by simp [starters]) (changed h .insert)
  refine C.begun_append (C.begun_append htable (insertedRows hcs hrows)) ?_
  cases conflict with
  | none => exact C.nothing
  | some o =>
      have ho := conflictClause hcs (o := o) (by simpa using hconflict)
      simpa [Rendering.optional] using ho

/-! ## UPDATE and DELETE -/

omit [LawfulOutput ω] [LawfulOutput ω'] in
theorem guarded {l : List Q} {x y} (verb : Verb) (h : C.begun l x y) :
    C.begun l ((c.map ρ).guarded verb x) (((c.revalue C.values).map ρ').guarded verb y) := by
  simp only [Clauses.guarded, Clauses.isNarrowed_map, Clauses.isNarrowed_revalue, Clauses.map_all,
    Clauses.revalue_all]
  exact begun_ite h (C.begun_fault _ _)

theorem changeFilter (hcs : C.Qualifies cs) (h : c.Each (C.Admits ρ ρ')) {s : String}
    (hs : s ∈ openers) :
    C.free c.changeSubqueries ((c.map ρ).changeFilter cs s)
      (((c.revalue C.values).map ρ').changeFilter cs s) := by
  have hsource : ∀ j ∈ c.joins, C.led j.source.subqueries (Clauses.changeSource (j.map ρ))
      (Clauses.changeSource ((j.revalue C.values).map ρ')) := by
    intro j hj
    rcases List.forall_mem_append.1 (h.joins j hj) with ⟨hingredients, -⟩
    change C.led _ (if j.kind = .inner || j.kind = .cross then _ else _)
      (if j.kind = .inner || j.kind = .cross then _ else _)
    -- other joins than inner and cross ones are a fault
    split
    · exact joinSource hingredients
    · exact C.led_of_free (C.fault _ _)
  -- the conditions of the joins are ingredients of the joins
  have hon : ∀ f ∈ c.joins.filterMap Join.on ++ c.filters, ∀ i ∈ f.ingredients,
      C.Admits ρ ρ' i := by
    intro f hf
    rcases List.mem_append.1 hf with hjoin | hfilter
    · rcases List.mem_filterMap.1 hjoin with ⟨j, hj, hjon⟩
      exact fun i hi => h.joins j hj i
        (List.mem_append_right _ (List.mem_flatMap.2 ⟨f, by simpa using hjon, hi⟩))
    · exact filters h f hfilter
  simp only [Clauses.changeFilter, Clauses.changeConditions_map, Clauses.changeConditions_revalue]
  simp only [Clauses.map_joins, Clauses.revalue_joins, List.map_map]
  have hwhere := clauseOf (s := " WHERE ") hcs (by simp [openers]) hon
  simp only [List.map_map] at hwhere
  exact C.append (clause hs hsource) hwhere

theorem updating (hcs : C.Qualifies cs) (h : c.Each (C.Admits ρ ρ')) {r : Record Q}
    (hmutation : c.mutation = some (.update r)) :
    C.begun (r.subqueries ++ c.changeSubqueries) ((c.map ρ).updating cs (r.map ρ))
      (((c.revalue C.values).map ρ').updating cs ((r.revalue C.values).map ρ')) := by
  have hr : ∀ i ∈ r.ingredients, C.Admits ρ ρ' i := h.mutation _ hmutation
  have hleft : (r.map ρ).assignments.isEmpty = r.assignments.isEmpty := by simp [Record.map]
  have hright : ((r.revalue C.values).map ρ').assignments.isEmpty = r.assignments.isEmpty := by
    simp [Record.map, Record.revalue]
  refine guarded .update ?_
  simp only [hleft, hright]
  split
  · exact C.begun_fault _ _
  · have hset := append_opening (s := " SET ") (changed h .update) (by simp [openers])
      (assignments hcs hr)
    have hall := C.starting (s := "UPDATE ") (by simp [starters])
      (C.led_append hset (changeFilter (s := " FROM ") hcs h (by simp [openers])))
    simpa only [Rendering.append_assoc, List.nil_append] using hall

theorem deletion (hcs : C.Qualifies cs) (h : c.Each (C.Admits ρ ρ')) (hard : Bool) :
    C.begun c.changeSubqueries ((c.map ρ).deletion cs hard)
      (((c.revalue C.values).map ρ').deletion cs hard) := by
  refine guarded .delete ?_
  simp only [Clauses.deletionMark_map, Clauses.deletionMark_revalue]
  cases hmark : c.deletionMark hard with
  | none =>
      have htable := C.starting (s := "DELETE FROM ") (by simp [starters]) (changed h .delete)
      exact begun_append_right htable (changeFilter (s := " USING ") hcs h (by simp [openers]))
  | some column =>
      -- a soft deletion sets the column that the table marks deleted rows with
      have hcolumn : C.names column := by
        unfold Clauses.deletionMark at hmark
        split at hmark
        · cases hmark
        · rcases Option.bind_eq_some_iff.1 hmark with ⟨t, ht, hdelete⟩
          exact (admits_table h ht).2.2.2 column hdelete
      have htarget : C.led [] (cs.target column) (cs.target column) := target hcolumn
      have hset := append_opening (s := " SET ") (changed h .delete) (by simp [openers]) htarget
      have hmarked := led_append_left hset (C.closing (s := " = now()") (by simp [closers]))
      have hall := C.starting (s := "UPDATE ") (by simp [starters])
        (C.led_append hmarked (changeFilter (s := " FROM ") hcs h (by simp [openers])))
      simpa only [Rendering.append_assoc, List.nil_append] using hall

/-! ## Statements -/

theorem returningClause (hcs : C.Qualifies cs) (h : c.Each (C.Admits ρ ρ')) (inCte : Bool) :
    C.free (c.returning.flatMap SelectItem.subqueries) ((c.map ρ).returningClause cs inCte)
      (((c.revalue C.values).map ρ').returningClause cs inCte) := by
  simp only [Clauses.returningClause, Clauses.map_returning, Clauses.revalue_returning,
    List.isEmpty_map]
  cases hempty : c.returning.isEmpty with
  | true =>
      rw [List.isEmpty_iff.1 hempty]
      -- something has to be returned to a chain
      cases inCte with
      | true => exact C.closing (by simp [closers])
      | false => exact C.nothing
  | false => exact C.opening (by simp [openers]) (items hcs h.returning)

theorem body (hcs : C.Qualifies cs) (h : c.Each (C.Admits ρ ρ')) (inCte : Bool) :
    C.begun c.bodySubqueries ((c.map ρ).body cs inCte)
      (((c.revalue C.values).map ρ').body cs inCte) := by
  have hreturning := returningClause hcs h inCte
  simp only [Clauses.body, Clauses.map_mutation, Clauses.revalue_mutation, Clauses.bodySubqueries]
  cases hmutation : c.mutation with
  | none => exact selection hcs h
  | some m =>
      cases m with
      | insert rows conflict => exact C.begun_append (insertion hcs h hmutation) hreturning
      | update r => exact C.begun_append (updating hcs h hmutation) hreturning
      | delete hard => exact C.begun_append (deletion hcs h hard) hreturning

/-- A statement respects correspondences, and its subqueries are the queries that stand in it. -/
theorem statement (h : ∀ i ∈ c.ingredients, C.Admits ρ ρ' i) (naming : Naming) (inCte : Bool) :
    C.begun c.subqueries ((c.map ρ).statement naming inCte)
      (((c.revalue C.values).map ρ').statement naming inCte) := by
  have heach := Clauses.each_iff.2 h
  simp only [Clauses.statement, Clauses.columns_map, Clauses.columns_revalue]
  exact withClause heach (body (qualifies heach naming) heach inCte)

end Correspondence
end ParamSql
