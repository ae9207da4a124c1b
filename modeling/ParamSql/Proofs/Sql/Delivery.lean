import ParamSql.Proofs.Sql.SetOperations
import ParamSql.Proofs.Sql.Targets

/-!
# Delivery — the names under which columns are delivered

A column that is listed is delivered under its logical name, which is written behind it where the
physical one differs.  A star is written as a star: it delivers the columns of its table, under the
names that they have there.

* `Clauses.deliveredItems` — the entries of a select list or of RETURNING, with those that stand for
  a missing select list;
* `SelectItem.Delivers` — an entry, as it is written, delivers a column under a name;
* `Clauses.selectList_eq_ok`, `Clauses.returningClause_eq_ok` — what is written for all entries;
* `Query.delivered_under_logical_names_iff` — when all columns come under their logical names.
-/

namespace ParamSql

variable {Q : Type}

/-! ## Entries -/

/-- The item of all columns. -/
def SelectItem.star : SelectItem Q :=
  .column ⟨none, "*"⟩ none

/-- What a statement delivers: the items of its select list or of RETURNING.  Without a select list
the declared columns are listed where they have to be named, or else there is a star. -/
def Clauses.deliveredItems (cs : Columns) (c : Clauses Q) : List (SelectItem Q) :=
  match c.mutation with
  | some _ => c.returning
  | none =>
      if !c.select.isEmpty then c.select
      else
        match c.expandedColumns cs with
        | [] => [.star]
        | columns => columns.map .ofColumn

/-- A star that stands for the columns of a table: it names no table, or this one. -/
def ColumnRef.IsStarOf (t : TableInfo) (r : ColumnRef) : Prop :=
  r.isStar = true ∧ ∀ name ∈ r.table, t.AnswersTo name

instance (t : TableInfo) (r : ColumnRef) : Decidable (r.IsStarOf t) :=
  inferInstanceAs (Decidable (_ ∧ _))

/-- The logical names of the declared columns. -/
def TableInfo.logicalNames (t : TableInfo) : List String :=
  t.columns.map fun column => (ColumnRef.parse column).name

namespace SelectItem

/-- An entry, as it is written, delivers a column under a name.  A column comes under its physical
name, or under the one that is written behind it; a star of the table comes with all columns of the
table, under their physical names. -/
inductive Delivers (t : TableInfo) (cs : Columns) :
    SelectItem Q → List Lexeme → String → String → Prop
  | plain {r : ColumnRef} {p : Path} {i : Identifier} (hr : r.isStar = false)
      (hi : i.text = cs.naming.physical r.name) :
      Delivers t cs (.column r none) (p.dotted ++ [Lexeme.name i]) r.name i.text
  | renamed {r : ColumnRef} {p : Path} {i j : Identifier} (hr : r.isStar = false)
      (hi : i.text = cs.naming.physical r.name) :
      Delivers t cs (.column r none)
        (p.dotted ++ [Lexeme.name i] ++ [Lexeme.fixed " AS ", .name j]) r.name j.text
  | star {r : ColumnRef} {front : List Lexeme} {s column : String} (hr : r.IsStarOf t)
      (hs : s = "*" ∨ s = ".*") :
      Delivers t cs (.column r none) (front ++ [Lexeme.fixed s]) column (cs.naming.physical column)

/-- An entry is written for an item: as the item, or as a star where there is no select list. -/
def IsWrittenAs (cs : Columns) (ρ : Q → Rendering (List Lexeme)) (item : SelectItem Q)
    (ls : List Lexeme) : Prop :=
  (cs.item (item.map ρ)).result = .ok ls ∨
    item = .star ∧ ∃ front s, ls = front ++ [Lexeme.fixed s] ∧ (s = "*" ∨ s = ".*")

variable {t : TableInfo} {cs : Columns} {ρ : Q → Rendering (List Lexeme)} {r : ColumnRef}
variable {ls : List Lexeme} {column name : String}

/-- A star without a name is written as a star. -/
theorem exists_star (hr : r.isStar = true)
    (h : (.column r none : SelectItem Q).IsWrittenAs cs ρ ls) :
    ∃ front s, ls = front ++ [Lexeme.fixed s] ∧ (s = "*" ∨ s = ".*") := by
  rcases h with hitem | ⟨-, hstar⟩
  · obtain ⟨written, named, hwritten, hnamed, rfl⟩ := Rendering.result_append_eq_ok hitem
    obtain ⟨p, -, rfl⟩ := Columns.star_eq_ok hr hwritten
    -- a star gets no name
    simp only [Columns.columnName, hr] at hnamed
    obtain rfl : [] = named := Except.ok.inj hnamed
    exact ⟨p.dotted, "*", List.append_nil _, .inl rfl⟩
  · exact hstar

/-- A listed column is written under its physical name, with its logical one behind it where the two
differ. -/
theorem column_eq_ok (hr : r.isStar = false)
    (h : (.column r none : SelectItem Q).IsWrittenAs cs ρ ls) :
    ∃ (p : Path) (i : Identifier), i.text = cs.naming.physical r.name ∧
      (i.text = r.name ∧ ls = p.dotted ++ [Lexeme.name i] ∨
        ∃ j : Identifier, j.text = r.name ∧
          ls = p.dotted ++ [Lexeme.name i] ++ [Lexeme.fixed " AS ", .name j]) := by
  rcases h with hitem | ⟨hstar, -⟩
  case inr =>
    obtain rfl : r = ⟨none, "*"⟩ := by injection hstar
    cases hr
  obtain ⟨written, named, hwritten, hnamed, rfl⟩ := Rendering.result_append_eq_ok hitem
  obtain ⟨p, i, -, hi, rfl⟩ := Columns.column_eq_ok hr hwritten
  refine ⟨p, i, hi, ?_⟩
  simp only [Columns.columnName, hr, Bool.not_false, Bool.true_and, decide_eq_true_eq] at hnamed
  split at hnamed
  case isTrue =>
    obtain ⟨keyword, title, hkeyword, htitle, rfl⟩ := Rendering.result_append_eq_ok hnamed
    obtain rfl : [.fixed " AS "] = keyword := Except.ok.inj hkeyword
    obtain ⟨j, hj, rfl⟩ := Rendering.name_eq_ok htitle
    exact .inr ⟨j, Identifier.text_of hj, rfl⟩
  case isFalse hphysical =>
    obtain rfl : [] = named := Except.ok.inj hnamed
    exact .inl ⟨hi.trans (not_not.1 hphysical), List.append_nil _⟩

/-- A listed column comes under its logical name. -/
theorem delivers_column (hr : r.isStar = false)
    (h : (.column r none : SelectItem Q).IsWrittenAs cs ρ ls) :
    Delivers t cs (.column r none : SelectItem Q) ls r.name r.name := by
  obtain ⟨p, i, hi, ⟨hname, rfl⟩ | ⟨j, hname, rfl⟩⟩ := column_eq_ok hr h
  · have hdelivers := Delivers.plain (Q := Q) (t := t) (p := p) hr hi
    rwa [hname] at hdelivers
  · have hdelivers := Delivers.renamed (Q := Q) (t := t) (p := p) (j := j) hr hi
    rwa [hname] at hdelivers

/-- Under no other name. -/
theorem eq_of_delivers (hr : r.isStar = false)
    (h : (.column r none : SelectItem Q).IsWrittenAs cs ρ ls)
    (hdelivers : Delivers t cs (.column r none : SelectItem Q) ls column name) :
    column = r.name ∧ name = r.name := by
  -- the name is the last one in the entry
  obtain ⟨front, k, hk, hls⟩ : ∃ front k, k.text = r.name ∧ ls = front ++ [Lexeme.name k] := by
    obtain ⟨p, i, -, ⟨hname, rfl⟩ | ⟨j, hname, rfl⟩⟩ := column_eq_ok hr h
    · exact ⟨p.dotted, i, hname, rfl⟩
    · exact ⟨p.dotted ++ [.name i, .fixed " AS "], j, hname, by simp⟩
  cases hdelivers with
  | plain hr hi =>
      have hlast := congrArg List.getLast? hls
      simp only [List.getLast?_append, List.getLast?_singleton, Option.some_or, Option.some.injEq,
        Lexeme.name.injEq] at hlast
      rw [hlast]
      exact ⟨rfl, hk⟩
  | renamed hr hi =>
      have hlast := congrArg List.getLast? hls
      simp at hlast
      rw [hlast]
      exact ⟨rfl, hk⟩
  | star hstar hs =>
      rw [hstar.1] at hr
      cases hr

/-- What an entry delivers: a column under its logical name, or the columns of the table under their
physical ones. -/
theorem delivers_iff {item : SelectItem Q} (h : item.IsWrittenAs cs ρ ls) :
    Delivers t cs item ls column name ↔
      ∃ r, item = .column r none ∧
        (r.isStar = false ∧ column = r.name ∧ name = r.name ∨
          r.IsStarOf t ∧ name = cs.naming.physical column) := by
  constructor
  · intro hdelivers
    cases hdelivers with
    | plain hr hi =>
        exact ⟨_, rfl, .inl ⟨hr, eq_of_delivers (t := t) hr h (.plain hr hi)⟩⟩
    | renamed hr hi =>
        exact ⟨_, rfl, .inl ⟨hr, eq_of_delivers (t := t) hr h (.renamed hr hi)⟩⟩
    | star hr hs => exact ⟨_, rfl, .inr ⟨hr, rfl⟩⟩
  · rintro ⟨r, rfl, ⟨hr, rfl, rfl⟩ | ⟨hr, rfl⟩⟩
    · exact delivers_column hr h
    · obtain ⟨front, s, rfl, hs⟩ := exists_star hr.1 h
      exact .star hr hs

/-- The columns of a table that an item asks for, under their logical names: the one that it lists,
or those that the table declares. -/
def columns (t : TableInfo) : SelectItem Q → List String
  | .column r none => if r.IsStarOf t then t.logicalNames else if r.isStar then [] else [r.name]
  | _ => []

theorem mem_columns_iff {item : SelectItem Q} :
    column ∈ item.columns t ↔ ∃ r, item = .column r none ∧
      (r.IsStarOf t ∧ column ∈ t.logicalNames ∨ r.isStar = false ∧ column = r.name) := by
  unfold columns
  split
  case h_1 r =>
    by_cases hown : r.IsStarOf t
    · simp [hown, hown.1]
    · cases hr : r.isStar <;> simp [hown, hr]
  case h_2 hnone =>
    simp only [List.not_mem_nil, false_iff]
    rintro ⟨r, rfl, -⟩
    exact hnone r rfl

end SelectItem

/-! ## Lists -/

theorem Columns.items_eq_ok {cs : Columns} {ρ : Q → Rendering (List Lexeme)}
    {items : List (SelectItem Q)} {ls : List Lexeme}
    (h : (cs.items (items.map (SelectItem.map ρ))).result = .ok ls) :
    ∃ list, List.Forall₂ (SelectItem.IsWrittenAs cs ρ) items list ∧
      ls = [.fixed ", "].intercalate list := by
  obtain ⟨list, hlist, rfl⟩ := Rendering.commas_eq_ok h
  rw [List.map_map, List.forall₂_map_left_iff] at hlist
  exact ⟨list, hlist.imp fun _ _ => .inl, rfl⟩

namespace Clauses

variable {cs : Columns} {ρ : Q → Rendering (List Lexeme)} {c : Clauses Q} {ls : List Lexeme}

/-- A select list has an entry for each item; a star stands by itself. -/
theorem selectList_eq_ok (hselect : c.mutation = none)
    (h : ((c.map ρ).selectList cs).result = .ok ls) :
    ∃ list, List.Forall₂ (SelectItem.IsWrittenAs cs ρ) (c.deliveredItems cs) list ∧
      ls = [.fixed ", "].intercalate list := by
  have hstar (front : List Lexeme) {s : String} (hs : s = "*" ∨ s = ".*") :
      ∃ list, List.Forall₂ (SelectItem.IsWrittenAs cs ρ) [SelectItem.star] list ∧
        front ++ [.fixed s] = [.fixed ", "].intercalate list :=
    ⟨[front ++ [.fixed s]], .cons (.inr ⟨rfl, front, s, rfl, hs⟩) .nil, by simp [List.intercalate]⟩
  unfold selectList at h
  unfold deliveredItems
  simp only [expandedColumns_map, map_select, map_joins, List.isEmpty_map] at h
  simp only [hselect]
  -- the items of the caller, the declared columns, or a star
  cases hitems : c.select with
  | cons item items =>
      rw [hitems] at h
      exact Columns.items_eq_ok h
  | nil =>
      simp only [hitems, List.isEmpty_nil, Bool.not_true, Bool.false_eq_true, if_false] at h ⊢
      cases hcolumns : c.expandedColumns cs with
      | cons column columns =>
          rw [hcolumns] at h
          refine Columns.items_eq_ok (ρ := ρ) ?_
          rw [List.map_map]
          exact h
      | nil =>
          simp only [hcolumns] at h ⊢
          split at h
          case h_1 table _ =>
            split at h
            case isTrue =>
              obtain rfl : [.fixed "*"] = ls := Except.ok.inj h
              exact hstar [] (.inl rfl)
            case isFalse =>
              obtain ⟨path, dot, -, hdot, rfl⟩ := Rendering.result_append_eq_ok h
              obtain rfl : [.fixed ".*"] = dot := Except.ok.inj hdot
              exact hstar _ (.inr rfl)
          case h_2 =>
            obtain rfl : [.fixed "*"] = ls := Except.ok.inj h
            exact hstar [] (.inl rfl)

/-- RETURNING has an entry for each item. -/
theorem returningClause_eq_ok {inCte : Bool} (hreturning : c.returning ≠ [])
    (h : ((c.map ρ).returningClause cs inCte).result = .ok ls) :
    ∃ list, List.Forall₂ (SelectItem.IsWrittenAs cs ρ) c.returning list ∧
      ls = .fixed " RETURNING " :: [.fixed ", "].intercalate list := by
  have hwritten : c.returning.isEmpty = false := by simpa using hreturning
  unfold returningClause at h
  rw [map_returning, List.isEmpty_map, hwritten] at h
  obtain ⟨keyword, listed, hkeyword, hlisted, rfl⟩ := Rendering.result_append_eq_ok h
  obtain rfl : [.fixed " RETURNING "] = keyword := Except.ok.inj hkeyword
  obtain ⟨list, hlist, rfl⟩ := Columns.items_eq_ok hlisted
  exact ⟨list, hlist, rfl⟩

/-- What stands between the select list of a SELECT and its ORDER BY. -/
def middle (cs : Columns) (c : Clauses (Rendering (List Lexeme))) : Rendering (List Lexeme) :=
  .concat
    [c.fromClause, .concat (c.joins.map (Join.rendering cs)), cs.clauseOf " WHERE " c.filters,
      .clause " GROUP BY " (c.group.map cs.operand), cs.clauseOf " HAVING " c.having,
      .clause " WINDOW " (c.windows.map cs.window), .concat (c.setOps.map setOperation)]

/-- A SELECT has its select list behind its keywords, and what it is ordered by close to its end. -/
theorem selection_eq_listed (c : Clauses (Rendering (List Lexeme))) :
    c.selection cs = .fixed "SELECT " ++ (c.distinctClause cs ++ (c.selectList cs ++ (c.middle cs ++
      c.trailer cs))) := by
  have hsplit
      (select distinct items source joins filters group having windows ops order limit offset
      lock : Rendering (List Lexeme)) :
      Rendering.concat [select, distinct, items, source, joins, filters, group, having, windows,
        ops, order, limit, offset, lock] =
      select ++ (distinct ++ (items ++
        (Rendering.concat [source, joins, filters, group, having, windows, ops] ++
          Rendering.concat [order, limit, offset, lock]))) := by
    simp [Rendering.append_assoc]
  exact hsplit ..

theorem selection_eq_ok {c : Clauses (Rendering (List Lexeme))}
    (h : (c.selection cs).result = .ok ls) :
    ∃ distinct listed between trailing, (c.selectList cs).result = .ok listed ∧
      (c.trailer cs).result = .ok trailing ∧
      ls = Lexeme.fixed "SELECT " :: distinct ++ listed ++ between ++ trailing := by
  rw [selection_eq_listed] at h
  obtain ⟨select, behindSelect, hselect, hbehindSelect, rfl⟩ := Rendering.result_append_eq_ok h
  obtain ⟨distinct, fromList, -, hfromList, rfl⟩ := Rendering.result_append_eq_ok hbehindSelect
  obtain ⟨listed, behindList, hlisted, hbehindList, rfl⟩ := Rendering.result_append_eq_ok hfromList
  obtain ⟨between, trailing, -, htrailing, rfl⟩ := Rendering.result_append_eq_ok hbehindList
  obtain rfl : [.fixed "SELECT "] = select := Except.ok.inj hselect
  exact ⟨distinct, listed, between, trailing, hlisted, htrailing, by simp [Output.append]⟩

/-- A statement delivers its items, whose entries stand in it with commas between them. -/
theorem statement_delivered_eq_ok {naming : Naming} {inCte : Bool}
    (hdelivers : c.mutation = none ∨ c.returning ≠ [])
    (h : ((c.map ρ).statement naming inCte).result = .ok ls) :
    ∃ before opening list behind,
      ls = before ++ opening ++ [Lexeme.fixed ", "].intercalate list ++ behind ∧
      opening.head? = some (.fixed (if c.mutation.isNone then "SELECT " else " RETURNING ")) ∧
      List.Forall₂ (SelectItem.IsWrittenAs (c.columns naming) ρ)
        (c.deliveredItems (c.columns naming)) list := by
  rw [statement, columns_map] at h
  obtain ⟨own, body, -, hbody, rfl⟩ := Rendering.result_append_eq_ok h
  cases hmutation : c.mutation with
  | none =>
      simp only [Clauses.body, map_mutation, hmutation, Option.map_none] at hbody
      obtain ⟨distinct, listed, between, trailing, hlisted, -, rfl⟩ := selection_eq_ok hbody
      obtain ⟨list, hlist, rfl⟩ := selectList_eq_ok hmutation hlisted
      exact ⟨own, .fixed "SELECT " :: distinct, list, between ++ trailing, by simp [Output.append],
        rfl, hlist⟩
  | some m =>
      have hreturning := hdelivers.resolve_left (by simp [hmutation])
      have hm : (c.map ρ).mutation = some (m.map ρ) := by
        rw [map_mutation, hmutation, Option.map_some]
      rw [body_of_mutation hm] at hbody
      obtain ⟨change, returned, -, hreturned, rfl⟩ := Rendering.result_append_eq_ok hbody
      obtain ⟨list, hlist, rfl⟩ := returningClause_eq_ok hreturning hreturned
      refine ⟨own ++ change, [.fixed " RETURNING "], list, [], by simp [Output.append], rfl, ?_⟩
      simpa only [deliveredItems, hmutation] using hlist

/-- If all entries are written for items, they deliver all columns under their logical names exactly
if there is no star of the table among them, or the declared columns have their logical names. -/
theorem delivers_logical_iff {t : TableInfo} {items : List (SelectItem Q)}
    {list : List (List Lexeme)} (h : List.Forall₂ (SelectItem.IsWrittenAs cs ρ) items list) :
    List.Forall₂ (fun item entry => ∀ column ∈ item.columns t,
        item.Delivers t cs entry column column) items list ↔
      ((∃ r, .column r none ∈ items ∧ r.IsStarOf t) →
        ∀ column ∈ t.logicalNames, cs.naming.physical column = column) := by
  -- on the items and their entries, side by side
  induction h with
  | nil => simp
  | @cons item entry items list hentry _ ih =>
      have hitem : (∀ column ∈ item.columns t, item.Delivers t cs entry column column) ↔
          ((∃ r, item = .column r none ∧ r.IsStarOf t) →
            ∀ column ∈ t.logicalNames, cs.naming.physical column = column) := by
        simp only [SelectItem.delivers_iff hentry, SelectItem.mem_columns_iff]
        constructor
        · rintro hall ⟨r, rfl, hr⟩ column hcolumn
          obtain ⟨s, hs, ⟨hstar, -⟩ | ⟨-, hname⟩⟩ := hall column ⟨r, rfl, .inl ⟨hr, hcolumn⟩⟩
          · obtain rfl : r = s := by injection hs
            rw [hr.1] at hstar
            cases hstar
          · exact hname.symm
        · rintro hall column ⟨r, rfl, ⟨hr, hcolumn⟩ | ⟨hr, rfl⟩⟩
          · exact ⟨r, rfl, .inr ⟨hr, (hall ⟨r, rfl, hr⟩ column hcolumn).symm⟩⟩
          · exact ⟨r, rfl, .inl ⟨hr, rfl, rfl⟩⟩
      rw [List.forall₂_cons, hitem, ih]
      constructor
      · rintro ⟨hfirst, hrest⟩ ⟨r, hr, hstar⟩
        rcases List.mem_cons.1 hr with heq | hr
        · exact hfirst ⟨r, heq.symm, hstar⟩
        · exact hrest ⟨r, hr, hstar⟩
      · intro hall
        refine ⟨?_, ?_⟩
        · rintro ⟨r, rfl, hstar⟩
          exact hall ⟨r, List.mem_cons_self, hstar⟩
        · rintro ⟨r, hr, hstar⟩
          exact hall ⟨r, List.mem_cons_of_mem _ hr, hstar⟩

end Clauses

namespace Query

/-- A statement on a table has an entry for each item that it delivers, one behind another, in its
select list or in RETURNING.  Every column that is asked for is delivered by the entry that asks for
it.  All of them come under their logical names exactly if no item is a star of the table, or else
if the declared columns have their logical names in the table. -/
theorem delivered_under_logical_names_iff {q : Query} {options : CompileOptions}
    {compiled : Compiled} (h : q.compile options = .ok compiled) {c : Clauses Query}
    (hc : q.Writes c) {t : TableInfo} (ht : c.table? = some t)
    (hdelivers : c.mutation = none ∨ c.returning ≠ []) :
    let cs : Columns := ⟨t.name, t.naming.getD options.naming⟩
    let items := c.deliveredItems cs
    ∃ before opening list behind,
      compiled.sql =
        Lexeme.text (before ++ opening ++ [Lexeme.fixed ", "].intercalate list ++ behind) ∧
      opening.head? = some (.fixed (if c.mutation.isNone then "SELECT " else " RETURNING ")) ∧
      List.Forall₂ (fun item entry => ∀ column ∈ item.columns t,
        ∃ name, item.Delivers t cs entry column name) items list ∧
      (List.Forall₂ (fun item entry => ∀ column ∈ item.columns t,
          item.Delivers t cs entry column column) items list ↔
        ((∃ r, .column r none ∈ items ∧ r.IsStarOf t) →
          ∀ column ∈ t.logicalNames, cs.naming.physical column = column)) := by
  intro cs items
  obtain ⟨inCte, before, body, behind, hbody, hsql, -⟩ := compile_of_writes hc h
  rw [statement_eq_map] at hbody
  obtain ⟨front, opening, list, rear, rfl, hopening, hlist⟩ :=
    Clauses.statement_delivered_eq_ok hdelivers hbody
  rw [Clauses.columns_of_table ht] at hlist
  refine ⟨before ++ front, opening, list, rear ++ behind, ?_, hopening, ?_,
    Clauses.delivers_logical_iff hlist⟩
  · simpa only [List.append_assoc] using hsql
  · refine hlist.imp fun item entry hentry column hcolumn => ?_
    obtain ⟨r, rfl, ⟨hr, -⟩ | ⟨hr, rfl⟩⟩ := SelectItem.mem_columns_iff.1 hcolumn
    · exact ⟨_, (SelectItem.delivers_iff hentry).2 ⟨r, rfl, .inr ⟨hr, rfl⟩⟩⟩
    · exact ⟨_, (SelectItem.delivers_iff hentry).2 ⟨r, rfl, .inl ⟨hr, rfl, rfl⟩⟩⟩

/-- Users, whose columns are declared under names that are not those of the table. -/
def declaredUsers : Table :=
  ((Table.named "user").withColumns ["id", "createdAt"]).withNaming .snakeCase

/-- All columns of users, beside their posts. -/
def usersBesidePosts : Query :=
  declaredUsers.query.joinTable .left "post" (some (.columnsEq "post.userId" "user.id"))

theorem delivered_under_logical_names_iff_usersBesidePosts :
    let cs : Columns := ⟨"user", .snakeCase⟩
    let id : SelectItem Query := .ofColumn "id"
    let createdAt : SelectItem Query := .ofColumn "createdAt"
    ∃ compiled before opening list behind,
      usersBesidePosts.compile {} = .ok compiled ∧
      usersBesidePosts.Writes usersBesidePosts.clauses ∧
      usersBesidePosts.clauses.table? = some declaredUsers.info ∧
      usersBesidePosts.clauses.mutation = none ∧
      compiled.sql =
        Lexeme.text (before ++ opening ++ [Lexeme.fixed ", "].intercalate list ++ behind) ∧
      List.Forall₂ (fun item entry => ∀ column ∈ item.columns declaredUsers.info,
        item.Delivers declaredUsers.info cs entry column column) [id, createdAt] list := by
  intro cs id createdAt
  have hwrites : usersBesidePosts.Writes usersBesidePosts.clauses :=
    ⟨_, by simp [members_eq], .self⟩
  obtain ⟨compiled, hcompiled⟩ : ∃ compiled, usersBesidePosts.compile {} = .ok compiled := ⟨_, rfl⟩
  obtain ⟨before, opening, list, behind, hsql, -, -, hlogical⟩ :=
    delivered_under_logical_names_iff hcompiled hwrites (t := declaredUsers.info) rfl (.inl rfl)
  refine ⟨compiled, before, opening, list, behind, hcompiled, hwrites, rfl, rfl, hsql,
    hlogical.2 ?_⟩
  -- the declared columns are listed, and none of them is a star
  rintro ⟨r, hr, hstar⟩
  have hr : (.column r none : SelectItem Query) ∈ [id, createdAt] := hr
  have hcolumn : r = .parse "id" ∨ r = .parse "createdAt" := by
    simpa [id, createdAt, SelectItem.ofColumn] using hr
  rcases hcolumn with rfl | rfl <;> cases hstar.1

/-- All columns of users, which are asked for by a star. -/
def usersByStar : Query :=
  declaredUsers.query.select [.star]

/-- The removal of a user, of whom all columns are delivered. -/
def removedByStar : Query :=
  ((declaredUsers.query.filter (.compare "id" .eq (.value (.int 1)))).delete true).returning ["*"]

/-- Without a select list the declared columns are written with their logical names; a star is
written as a star, and delivers a column under its physical name and under no other. -/
theorem star_delivers_physical_names_usersByStar :
    let cs : Columns := ⟨"user", .snakeCase⟩
    declaredUsers.query.compile {} = .ok
      ⟨"SELECT \"user\".\"id\", \"user\".\"created_at\" AS \"createdAt\" FROM \"user\"", [],
        false⟩ ∧
    usersByStar.compile {} = .ok ⟨"SELECT \"user\".* FROM \"user\"", [], false⟩ ∧
    removedByStar.compile {} = .ok
      ⟨"DELETE FROM \"user\" WHERE \"user\".\"id\" = $1 RETURNING \"user\".*", [.int 1], false⟩ ∧
    "createdAt" ∈ (SelectItem.star : SelectItem Query).columns declaredUsers.info ∧
    ∃ entry, (cs.item (SelectItem.star : SelectItem (Rendering (List Lexeme)))).result = .ok entry ∧
      ∀ name,
        (SelectItem.star : SelectItem Query).Delivers declaredUsers.info cs entry "createdAt" name ↔
          name = "created_at" := by
  intro cs
  obtain ⟨entry, hentry⟩ : ∃ entry : List Lexeme, (cs.item .star).result = .ok entry := ⟨_, rfl⟩
  have hwritten : (SelectItem.star : SelectItem Query).IsWrittenAs cs (Query.rendering .verbatim)
      entry := .inl hentry
  have hphysical : cs.naming.physical "createdAt" = "created_at" := by decide
  refine ⟨rfl, rfl, rfl, by decide, entry, hentry, fun name => ?_⟩
  rw [SelectItem.delivers_iff hwritten, hphysical]
  constructor
  · rintro ⟨r, hr, ⟨hstar, -⟩ | ⟨-, hname⟩⟩
    · obtain rfl : ⟨none, "*"⟩ = r := by injection hr
      cases hstar
    · exact hname
  · rintro rfl
    exact ⟨_, rfl, .inr ⟨by decide, rfl⟩⟩

end Query
end ParamSql
