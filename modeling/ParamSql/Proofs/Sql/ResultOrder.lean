import ParamSql.Proofs.Sql.Delivery

/-!
# ResultOrder — the columns by which the rows of set operations are ordered

Behind a set operation SQL knows the columns of the first operand alone, under the names that its
select list gives them.  The name that is written is foretold from the clauses: the physical one
where there is no list, and the logical one otherwise.

* `SelectItem.AnyDelivers` — a list of entries delivers a column under a name;
* `Clauses.orderEntry_eq_ok` — behind a set operation a column is one name;
* `Query.ordered_by_delivered_name_iff` — when this is a name under which the column is delivered.
-/

namespace ParamSql

variable {Q : Type}

/-! ## Lists of entries -/

namespace SelectItem

variable {t : TableInfo} {cs : Columns} {ρ : Q → Rendering (List Lexeme)}
variable {items : List (SelectItem Q)} {list : List (List Lexeme)} {column name : String}

/-- One of some entries delivers a column under a name. -/
def AnyDelivers (t : TableInfo) (cs : Columns) (items : List (SelectItem Q))
    (list : List (List Lexeme)) (column name : String) : Prop :=
  ∃ p ∈ items.zip list, p.1.Delivers t cs p.2 column name

theorem anyDelivers_iff (h : List.Forall₂ (IsWrittenAs cs ρ) items list) :
    AnyDelivers t cs items list column name ↔
      ∃ r, .column r none ∈ items ∧
        (r.isStar = false ∧ column = r.name ∧ name = r.name ∨
          r.IsStarOf t ∧ name = cs.naming.physical column) := by
  obtain ⟨hlength, hentries⟩ := List.forall₂_iff_zip.1 h
  constructor
  · rintro ⟨⟨item, entry⟩, hp, hdelivers⟩
    obtain ⟨r, rfl, hr⟩ := (delivers_iff (hentries hp)).1 hdelivers
    exact ⟨r, (List.of_mem_zip hp).1, hr⟩
  · rintro ⟨r, hitem, hr⟩
    -- the item has an entry
    rw [← List.map_fst_zip (Nat.le_of_eq hlength)] at hitem
    obtain ⟨⟨item, entry⟩, hp, rfl⟩ := List.mem_map.1 hitem
    exact ⟨_, hp, (delivers_iff (hentries hp)).2 ⟨r, rfl, hr⟩⟩

end SelectItem

/-! ## Entries of ORDER BY -/

/-- What is written for a list behind its keyword. -/
theorem Rendering.clause_eq_ok {keyword : String} {rs : List (Rendering (List Lexeme))}
    {ls : List Lexeme} (h : (clause keyword rs).result = .ok ls) :
    ∃ list, List.Forall₂ (fun r ls => r.result = .ok ls) rs list ∧
      ls = if rs.isEmpty then [] else .fixed keyword :: [.fixed ", "].intercalate list := by
  unfold clause at h
  split at h
  case isTrue hempty =>
    obtain rfl := List.isEmpty_iff.1 hempty
    obtain rfl : [] = ls := Except.ok.inj h
    exact ⟨[], .nil, rfl⟩
  case isFalse hne =>
    obtain ⟨before, listed, hbefore, hlisted, rfl⟩ := result_append_eq_ok h
    obtain rfl : [.fixed keyword] = before := Except.ok.inj hbefore
    obtain ⟨list, hlist, rfl⟩ := commas_eq_ok hlisted
    exact ⟨list, hlist, by simp [hne, Output.append]⟩

namespace Clauses

variable {cs : Columns} {ρ : Q → Rendering (List Lexeme)} {c : Clauses Q} {ls : List Lexeme}

/-- Behind a set operation a column without a table is written as the name that is foretold for
it. -/
theorem orderEntry_eq_ok (hops : c.setOps ≠ []) {o : Order} {column : String}
    (ho : o.target = .column ⟨none, column⟩)
    (h : (Columns.orderEntry ((c.map ρ).orderColumn cs) o).result = .ok ls) :
    ∃ i rest, i.text = c.outputName cs column ∧ ls = .name i :: rest := by
  have hsetOps : c.setOps.isEmpty = false := by simpa using hops
  obtain ⟨front, nulls, hfront, -, rfl⟩ := Rendering.result_append_eq_ok h
  obtain ⟨target, direction, htarget, -, rfl⟩ := Rendering.result_append_eq_ok hfront
  simp only [ho, orderColumn, map_setOps, List.isEmpty_map, hsetOps, outputName_map] at htarget
  obtain ⟨i, hi, rfl⟩ := Rendering.name_eq_ok htarget
  exact ⟨i, direction ++ nulls, Identifier.text_of hi, rfl⟩

theorem trailer_eq_ok (h : ((c.map ρ).trailer cs).result = .ok ls) :
    ∃ list rest, List.Forall₂ (fun o entry =>
        (Columns.orderEntry ((c.map ρ).orderColumn cs) o).result = .ok entry) c.order list ∧
      ls = (if c.order.isEmpty then []
        else Lexeme.fixed " ORDER BY " :: [Lexeme.fixed ", "].intercalate list) ++
        rest := by
  unfold trailer at h
  rw [Rendering.concat_cons] at h
  obtain ⟨ordered, rest, hordered, -, rfl⟩ := Rendering.result_append_eq_ok h
  obtain ⟨list, hlist, rfl⟩ := Rendering.clause_eq_ok hordered
  rw [map_order, List.forall₂_map_left_iff] at hlist
  exact ⟨list, rest, hlist, by rw [map_order, List.isEmpty_map]; rfl⟩

/-- Whether a column comes under the name that is foretold for it: it is listed, or there is no
list, or its name is the same in the table. -/
theorem anyDelivers_outputName_iff {t : TableInfo} {list : List (List Lexeme)} {column : String}
    (hselect : c.mutation = none)
    (h : List.Forall₂ (SelectItem.IsWrittenAs cs ρ) (c.deliveredItems cs) list)
    (hcolumn : ∃ r, .column r none ∈ c.deliveredItems cs ∧
      (r.isStar = false ∧ r.name = column ∨ r.IsStarOf t)) :
    SelectItem.AnyDelivers t cs (c.deliveredItems cs) list column (c.outputName cs column) ↔
      (c.select = [] ∧ c.expandedColumns cs = []) ∨
      (∃ r, .column r none ∈ c.deliveredItems cs ∧ r.isStar = false ∧ r.name = column) ∨
      cs.naming.physical column = column := by
  rw [SelectItem.anyDelivers_iff h]
  by_cases himplicit : c.select = [] ∧ c.expandedColumns cs = []
  case pos =>
    -- there is only a star, and the physical name is foretold
    have hitems : c.deliveredItems cs = [.star] := by
      simp [deliveredItems, hselect, himplicit.1, himplicit.2]
    have houtput : c.outputName cs column = cs.naming.physical column := by
      simp [outputName, himplicit.1, himplicit.2]
    refine ⟨fun _ => .inl himplicit, fun _ => ⟨⟨none, "*"⟩, ?_, .inr ⟨⟨rfl, by simp⟩, houtput⟩⟩⟩
    rw [hitems]
    exact List.mem_singleton.2 rfl
  case neg =>
    have hlisted : (c.select.isEmpty && (c.expandedColumns cs).isEmpty) = false := by
      simpa using himplicit
    have houtput : c.outputName cs column = column := by
      simp [outputName, hlisted]
    rw [houtput]
    constructor
    · rintro ⟨r, hitem, ⟨hr, hname, -⟩ | ⟨-, hname⟩⟩
      · exact .inr (.inl ⟨r, hitem, hr, hname.symm⟩)
      · exact .inr (.inr hname.symm)
    · rintro (hnone | ⟨r, hitem, hr, rfl⟩ | hphysical)
      · exact absurd hnone himplicit
      · exact ⟨r, hitem, .inl ⟨hr, rfl, rfl⟩⟩
      · obtain ⟨r, hitem, ⟨hr, rfl⟩ | hr⟩ := hcolumn
        · exact ⟨r, hitem, .inl ⟨hr, rfl, rfl⟩⟩
        · exact ⟨r, hitem, .inr ⟨hr, hphysical.symm⟩⟩

end Clauses

namespace Query

/-- In a SELECT with set operations, a column by which the rows are ordered is written as one name,
if it does not name its table.  Where the column is listed or comes with a star, it is delivered
under this name exactly if the column is listed, or there is no list that could rename it, or its
logical name is the one in the table: not if it comes from a star in a select list and is called
differently in the table. -/
theorem ordered_by_delivered_name_iff {q : Query} {options : CompileOptions} {compiled : Compiled}
    (h : q.compile options = .ok compiled) {c : Clauses Query} (hc : q.Writes c) {t : TableInfo}
    (ht : c.table? = some t) (hselect : c.mutation = none) (hops : c.setOps ≠ []) :
    let cs : Columns := ⟨t.name, t.naming.getD options.naming⟩
    let items := c.deliveredItems cs
    ∃ before distinct list between entries behind,
      compiled.sql = Lexeme.text (before ++ Lexeme.fixed "SELECT " :: distinct ++
        [Lexeme.fixed ", "].intercalate list ++ between ++
        (if c.order.isEmpty then []
          else Lexeme.fixed " ORDER BY " :: [Lexeme.fixed ", "].intercalate entries) ++
        behind) ∧
      list.length = items.length ∧
      List.Forall₂ (fun o entry => ∀ column, o.target = .column ⟨none, column⟩ →
        ∃ i rest, entry = .name i :: rest ∧
          ((∃ r, .column r none ∈ items ∧ (r.isStar = false ∧ r.name = column ∨ r.IsStarOf t)) →
            (SelectItem.AnyDelivers t cs items list column i.text ↔
              (c.select = [] ∧ c.expandedColumns cs = []) ∨
              (∃ r, .column r none ∈ items ∧ r.isStar = false ∧ r.name = column) ∨
              cs.naming.physical column = column))) c.order entries := by
  intro cs items
  obtain ⟨inCte, before, body, behind, hbody, hsql, -⟩ := compile_of_writes hc h
  rw [statement_eq_map, Clauses.statement, Clauses.columns_map, Clauses.columns_of_table ht]
    at hbody
  obtain ⟨own, selection, -, hselection, rfl⟩ := Rendering.result_append_eq_ok hbody
  simp only [Clauses.body, Clauses.map_mutation, hselect, Option.map_none] at hselection
  obtain ⟨distinct, listed, between, trailing, hlisted, htrailing, rfl⟩ :=
    Clauses.selection_eq_ok hselection
  obtain ⟨list, hlist, rfl⟩ := Clauses.selectList_eq_ok hselect hlisted
  obtain ⟨entries, rest, hentries, rfl⟩ := Clauses.trailer_eq_ok htrailing
  refine ⟨before ++ own, distinct, list, between, entries, rest ++ behind, ?_, hlist.length_eq.symm,
    hentries.imp fun o entry hentry column ho => ?_⟩
  · simpa only [Output.append, List.append_assoc, List.cons_append] using hsql
  · obtain ⟨i, rest, hi, rfl⟩ := Clauses.orderEntry_eq_ok hops ho hentry
    refine ⟨i, rest, rfl, fun hcolumn => ?_⟩
    rw [hi]
    exact Clauses.anyDelivers_outputName_iff hselect hlist hcolumn

/-- Users of two kinds, by the time at which they were created. -/
def usersByAge : Query :=
  ((declaredUsers.query.select [.ofColumn "createdAt"]).setOp .union
    (declaredUsers.query.select [.ofColumn "createdAt"])).orderBy (.asc "createdAt")

theorem ordered_by_delivered_name_iff_usersByAge :
    let cs : Columns := ⟨"user", .snakeCase⟩
    let items : List (SelectItem Query) := [.ofColumn "createdAt"]
    ∃ compiled before distinct list between i rest behind,
      usersByAge.compile {} = .ok compiled ∧ usersByAge.Writes usersByAge.clauses ∧
      usersByAge.clauses.table? = some declaredUsers.info ∧
      usersByAge.clauses.mutation = none ∧ usersByAge.clauses.setOps ≠ [] ∧
      (Order.asc "createdAt").target = .column ⟨none, "createdAt"⟩ ∧
      compiled.sql = Lexeme.text (before ++ Lexeme.fixed "SELECT " :: distinct ++
        [Lexeme.fixed ", "].intercalate list ++ between ++
        Lexeme.fixed " ORDER BY " :: Lexeme.name i :: rest ++ behind) ∧
      SelectItem.AnyDelivers declaredUsers.info cs items list "createdAt" i.text := by
  intro cs items
  have hwrites : usersByAge.Writes usersByAge.clauses := ⟨_, by simp [members_eq], .self⟩
  obtain ⟨compiled, hcompiled⟩ : ∃ compiled, usersByAge.compile {} = .ok compiled := ⟨_, rfl⟩
  have hops : usersByAge.clauses.setOps ≠ [] := List.cons_ne_nil _ _
  obtain ⟨before, distinct, list, between, entries, behind, hsql, -, hentries⟩ :=
    ordered_by_delivered_name_iff hcompiled hwrites (t := declaredUsers.info) rfl rfl hops
  -- there is one entry, for the column that is listed
  obtain ⟨entry, _, hentry, hnone, rfl⟩ := List.forall₂_cons_left_iff.1 hentries
  obtain rfl := List.forall₂_nil_left_iff.1 hnone
  obtain ⟨i, rest, rfl, hdelivered⟩ := hentry "createdAt" rfl
  have hlisted : ∃ r, (.column r none : SelectItem Query) ∈ items ∧ r.isStar = false ∧
      r.name = "createdAt" := ⟨_, List.mem_singleton.2 rfl, rfl, rfl⟩
  obtain ⟨r, hitem, hr⟩ := hlisted
  have hdelivers := (hdelivered ⟨r, hitem, .inl hr⟩).2 (.inr (.inl ⟨r, hitem, hr⟩))
  have horder : usersByAge.clauses.order.isEmpty = false := rfl
  refine ⟨compiled, before, distinct, list, between, i, rest, behind, hcompiled, hwrites, rfl, rfl,
    hops, rfl, ?_, hdelivers⟩
  simpa [horder] using hsql

/-- Users of two kinds by the time at which they were created, with a star as the select list. -/
def starsByAge : Query :=
  ((((Table.named "user").withNaming .snakeCase).query.select [.star]).setOp .union
    ((Table.named "user").withNaming .snakeCase).query).orderBy (.asc "createdAt")

/-- Behind a star in a select list the logical name of a column is written, although the star
delivers it under its physical one. -/
theorem star_misordered_starsByAge :
    let cs : Columns := ⟨"user", .snakeCase⟩
    let items := starsByAge.clauses.deliveredItems cs
    starsByAge.compile {} = .ok
      ⟨"SELECT \"user\".* FROM \"user\" UNION (SELECT * FROM \"user\") ORDER BY \"createdAt\" ASC",
        [], false⟩ ∧
    ∃ entry, ((starsByAge.clauses.map (rendering .verbatim)).selectList cs).result = .ok entry ∧
      ∀ name, SelectItem.AnyDelivers { name := "user" } cs items [entry] "createdAt" name ↔
        name = "created_at" := by
  intro cs items
  obtain ⟨entry, hentry⟩ : ∃ entry : List Lexeme, (cs.item .star).result = .ok entry := ⟨_, rfl⟩
  have hlist : List.Forall₂ (SelectItem.IsWrittenAs cs (rendering .verbatim)) items [entry] :=
    .cons (.inl hentry) .nil
  have hphysical : cs.naming.physical "createdAt" = "created_at" := by decide
  refine ⟨rfl, entry, hentry, fun name => ?_⟩
  rw [SelectItem.anyDelivers_iff hlist, hphysical]
  constructor
  · rintro ⟨r, hr, ⟨hstar, -⟩ | ⟨-, hname⟩⟩
    · obtain rfl : r = ⟨none, "*"⟩ := by
        simpa [SelectItem.star] using (show .column r none ∈ [SelectItem.star (Q := Query)] from hr)
      cases hstar
    · exact hname
  · rintro rfl
    exact ⟨_, List.mem_singleton.2 rfl, .inr ⟨by decide, rfl⟩⟩

end Query
end ParamSql
