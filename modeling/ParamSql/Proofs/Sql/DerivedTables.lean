import ParamSql.Proofs.Sql.Arrangement
import ParamSql.Proofs.Sql.WellFormed

/-!
# DerivedTables — columns of queries in FROM and in joins

The rows of a query that stands in FROM or in a join are known under the names that the query gives
them.  A statement writes all columns by its own naming.  If its own rows come from a query, it
leaves the names of columns as they are; if they come from a table, the columns of the joined
queries are renamed as well, although these have been given their names already.

* `Clauses.derivedTables` — the queries in FROM and in joins, under their names;
* `Columns.spelling`, `Clauses.holds_spelling` — a statement has its references in their places;
* `Query.derived_columns_named_iff` — how the column of a derived table is written, and when under
  the name that it has.
-/

namespace ParamSql

variable {Q : Type}

/-! ## Derived tables -/

def Source.derivedTables : Source Q → List (Q × String)
  | .query q name => [(q, name)]
  | .nothing | .table _ | .fragment .. => []

def JoinSource.derivedTables : JoinSource Q → List (Q × String)
  | .query q name => [(q, name)]
  | .table .. => []

namespace Clauses

/-- The queries whose rows a statement reads as those of a table, with the names of these tables.
An insertion reads none. -/
def derivedTables (c : Clauses Q) : List (Q × String) :=
  match c.mutation with
  | none => c.source.derivedTables ++ c.joins.flatMap fun j => j.source.derivedTables
  | some (.insert ..) => []
  | some (.update _) | some (.delete _) => c.joins.flatMap fun j => j.source.derivedTables

variable {c : Clauses Q} {q : Q} {name : String}

theorem exists_joined (h : (q, name) ∈ c.joins.flatMap fun j => j.source.derivedTables) :
    ∃ j ∈ c.joins, j.source = .query q name := by
  obtain ⟨j, hj, htable⟩ := List.mem_flatMap.1 h
  refine ⟨j, hj, ?_⟩
  cases hsource : j.source with
  | table path title => simp [hsource, JoinSource.derivedTables] at htable
  | query r title =>
      obtain ⟨rfl, rfl⟩ : q = r ∧ name = title := by
        simpa [hsource, JoinSource.derivedTables] using htable
      rfl

/-- A joined derived table is written in a change. -/
theorem written_of_joined (h : (q, name) ∈ c.joins.flatMap fun j => j.source.derivedTables)
    (cs : Columns) : q ∈ c.changeSubqueries ∧ .name name ∈ c.changeNeeds cs := by
  obtain ⟨j, hj, hsource⟩ := exists_joined h
  constructor
  · refine List.mem_append_left _ (List.mem_flatMap.2 ⟨j, hj, ?_⟩)
    simp [hsource, JoinSource.subqueries]
  · refine List.mem_append_left _ (List.mem_flatMap.2 ⟨j, hj, ?_⟩)
    simp [hsource, JoinSource.needs]

/-- A derived table is a query inside the statement, and its name is written. -/
theorem written_of_derived (h : (q, name) ∈ c.derivedTables) (naming : Naming) :
    q ∈ c.subqueries ∧ .name name ∈ c.needs naming := by
  have hbody : q ∈ c.bodySubqueries ∧ .name name ∈ c.bodyNeeds (c.columns naming) := by
    unfold derivedTables at h
    unfold bodySubqueries bodyNeeds
    cases hm : c.mutation with
    | none =>
        -- a SELECT reads derived tables in FROM as well as in its joins
        rw [hm] at h
        simp only [selectionSubqueries, selectionNeeds, List.mem_append]
        rcases List.mem_append.1 h with hfrom | hjoined
        · have hsource : c.source = .query q name := by
            cases hs : c.source <;> simp_all [Source.derivedTables]
          simp [hsource, Source.subqueries, sourceNeeds]
        · obtain ⟨j, hj, hsource⟩ := exists_joined hjoined
          have hq : q ∈ c.joins.flatMap Join.subqueries := by
            refine List.mem_flatMap.2 ⟨j, hj, List.mem_append_left _ ?_⟩
            simp [hsource, JoinSource.subqueries]
          have hname : .name name ∈ c.joins.flatMap (Join.needs (c.columns naming)) := by
            refine List.mem_flatMap.2 ⟨j, hj, List.mem_append_left _ ?_⟩
            simp [hsource, JoinSource.needs]
          simp [hq, hname]
    | some m =>
        rw [hm] at h
        cases m with
        -- an insertion reads none, and a change reads those that are joined
        | insert rows conflict => cases h
        | update r =>
            have hjoined := written_of_joined h (c.columns naming)
            simp [hjoined]
        | delete hard =>
            have hjoined := written_of_joined h (c.columns naming)
            simp [hjoined]
  exact ⟨List.mem_append_right _ hbody.1, List.mem_append_right _ hbody.2⟩

end Clauses

/-! ## References in their places -/

namespace Columns

variable (cs : Columns)

/-- What is written for a reference. -/
def spelled (r : ColumnRef) : List Lexeme :=
  (cs.reference r : Rendering (List Lexeme)).lexemesOf

/-- Lexemes with references between them, each of which is written as it is by itself. -/
def spelling : Layout cs where
  holds refs ls := ∃ slots : List (Slot ColumnRef),
    Slot.queries slots = refs ∧ ls = Slot.fill cs.spelled slots ∧
      ∀ r ∈ refs, (cs.reference r : Rendering (List Lexeme)).IsWritten
  nil := ⟨[], rfl, rfl, by simp⟩
  append := by
    rintro rs ss ls ms ⟨slots, rfl, rfl, hslots⟩ ⟨more, rfl, rfl, hmore⟩
    exact ⟨slots ++ more, Slot.queries_append slots more, (Slot.fill_append _ slots more).symm,
      List.forall_mem_append.2 ⟨hslots, hmore⟩⟩
  supplied {l} _ := ⟨[.lexeme l], rfl, rfl, by simp⟩
  quiet {s} _ := ⟨[.lexeme (.fixed s)], rfl, rfl, by simp⟩
  enclosed := by
    rintro s t rs ls - - ⟨slots, rfl, rfl, hslots⟩
    refine ⟨[.lexeme (.fixed s)] ++ slots ++ [.lexeme (.fixed t)], ?_, ?_, hslots⟩
    · simp [Slot.queries]
    · simp [Slot.fill]
  reference {r ls} h := by
    refine ⟨[.query r], rfl, ?_, by simpa using Rendering.isWritten_of h⟩
    simp [Slot.fill, spelled, Rendering.lexemesOf_eq h]

/-- Lexemes without references may be anything. -/
theorem spelling_plain (ls : List Lexeme) : cs.spelling.holds [] ls :=
  ⟨ls.map .lexeme, Slot.queries_map_lexeme ls, (Slot.fill_map_lexeme _ ls).symm, by simp⟩

/-- A reference is written as a column of a table, under the names `table` and `column`. -/
def Spells (r : ColumnRef) (table column : String) : Prop :=
  ∃ i j : Identifier, i.text = table ∧ j.text = column ∧
    cs.spelled r = [.name i, .fixed ".", .name j]

theorem Spells.column_eq {cs : Columns} {r : ColumnRef} {table table' column column' : String}
    (h : cs.Spells r table column) (h' : cs.Spells r table' column') : column = column' := by
  obtain ⟨i, j, -, rfl, hls⟩ := h
  obtain ⟨i', j', -, rfl, hls'⟩ := h'
  obtain rfl : j = j' := by simpa using congrArg List.getLast? (hls.symm.trans hls')
  rfl

/-- A reference to a column of a table is written under the name of the table, and under the name by
which the statement knows the column. -/
theorem spells_of_isWritten {table column : String} (htable : '.' ∉ table.toList)
    (hcolumn : column ≠ "*")
    (h : (cs.reference ⟨some table, column⟩ : Rendering (List Lexeme)).IsWritten) :
    cs.Spells ⟨some table, column⟩ table (cs.naming.physical column) := by
  have hpath : (Rendering.path table : Rendering (List Lexeme)) = .name table := by
    -- without a dot in it, the name of the table is the only identifier of its path
    simp only [Rendering.path, Rendering.name, Path.of, Text.splitOn_of_notMem htable]
    cases hi : Identifier.of table <;> simp [hi, bind, Except.bind, pure, Except.pure]
  have hstar : (ColumnRef.isStar ⟨some table, column⟩) = false := by simpa [ColumnRef.isStar]
  unfold Rendering.IsWritten at h
  generalize hls : (cs.reference ⟨some table, column⟩ : Rendering _).lexemesOf = ls at h
  -- the name of the table, a dot, and the name of the column, each taken off from behind
  simp only [reference, hstar, Option.some_or, hpath] at h
  obtain ⟨front, last, hfront, hlast, rfl⟩ := Rendering.result_append_eq_ok h
  obtain ⟨first, dot, hfirst, hdot, rfl⟩ := Rendering.result_append_eq_ok hfront
  obtain ⟨i, hi, rfl⟩ := Rendering.name_eq_ok hfirst
  obtain ⟨j, hj, rfl⟩ := Rendering.name_eq_ok hlast
  cases hdot
  exact ⟨i, j, Identifier.text_of hi, Identifier.text_of hj, hls⟩

end Columns

namespace Clauses

/-- A statement has its references in their places. -/
theorem holds_spelling {ρ : Q → Rendering (List Lexeme)} {naming : Naming} {inCte : Bool}
    {c : Clauses Q} {ls : List Lexeme} (h : ((c.map ρ).statement naming inCte).result = .ok ls) :
    (c.columns naming).spelling.holds (c.references (c.columns naming)) ls := by
  let cs := c.columns naming
  obtain ⟨own, rest, rfl, hown, hrest⟩ :=
    exists_laid (L := cs.spelling) (fun q _ ls _ => cs.spelling_plain ls) h
  suffices hreferences : cs.spelling.holds (c.references cs) rest from
    cs.spelling.append hown hreferences
  unfold IsLaid at hrest
  split at hrest
  -- a change has its verb ahead of the references, and a SELECT has nothing there
  · exact hrest
  · obtain ⟨verb, -, rest, rfl, hrest⟩ := hrest
    have hverb := cs.spelling_plain [.fixed verb]
    exact cs.spelling.append hverb hrest

end Clauses

namespace Query

/-- In every statement the references stand in their places, in the order in which they are listed.
What the caller writes as the column of a derived table is the name of this table and, behind a dot,
the name by which the naming of the statement knows the column.  This is the name that the column
has in the derived table exactly if the naming leaves it as it is, which it always does if the
statement's own rows come from a query. -/
theorem derived_columns_named_iff {q : Query} {options : CompileOptions} {compiled : Compiled}
    (h : q.compile options = .ok compiled) {c : Clauses Query} (hc : q.Writes c) :
    let cs := c.columns options.naming
    (∃ before slots behind,
      compiled.sql = Lexeme.text (before ++ Slot.fill cs.spelled slots ++ behind) ∧
        Slot.queries slots = c.references cs) ∧
    ∀ r table, (r, table) ∈ c.derivedTables → '.' ∉ table.toList →
      r ∈ c.subqueries ∧
      ∀ column, '.' ∉ column.toList → column ≠ "*" →
        .parse (table ++ "." ++ column) ∈ c.references cs →
          cs.Spells (.parse (table ++ "." ++ column)) table (cs.naming.physical column) ∧
          (cs.Spells (.parse (table ++ "." ++ column)) table column ↔
            cs.naming.physical column = column) ∧
          ((∃ s name, c.source = .query s name) →
            cs.Spells (.parse (table ++ "." ++ column)) table column) := by
  intro cs
  -- the clauses are written somewhere in the text, and there the references have their slots
  obtain ⟨inCte, before, body, behind, hbody, hsql, -⟩ := compile_of_writes hc h
  have hwell : c.IsWellFormed options.naming := ((exists_result_iff inCte c).1 ⟨body, hbody⟩).1
  rw [statement_eq_map] at hbody
  obtain ⟨slots, hslots, rfl, hwritten⟩ := Clauses.holds_spelling hbody
  refine ⟨⟨before, slots, behind, hsql, hslots⟩, ?_⟩
  intro r table htable hdot
  obtain ⟨hr, hneed⟩ := Clauses.written_of_derived htable options.naming
  refine ⟨hr, fun column hcolumn hstar hreference => ?_⟩
  have hparse : ColumnRef.parse (table ++ "." ++ column) = ⟨some table, column⟩ :=
    ColumnRef.parse_dotted (hwell.names table hneed).1 hcolumn
  have hspells : cs.Spells (.parse (table ++ "." ++ column)) table (cs.naming.physical column) := by
    have hisWritten := hwritten _ hreference
    rw [hparse] at hisWritten ⊢
    exact cs.spells_of_isWritten hdot hstar hisWritten
  refine ⟨hspells, ⟨hspells.column_eq, fun hname => ?_⟩, ?_⟩
  · rwa [hname] at hspells
  -- the rows come from a query, so that no column is renamed
  · rintro ⟨s, name, hsource⟩
    have hverbatim : cs.naming = .verbatim := by simp only [cs, Clauses.columns, hsource]
    rwa [hverbatim] at hspells

/-- The authors of posts, whose column is selected under its logical name. -/
def authors : Query :=
  ((Table.named "post").withNaming .snakeCase).query.select [.column (.parse "userId") none]

/-- The authors of posts with the users that they are, in order. -/
def authorsAsUsers : Query :=
  ((ofQuery authors "p").joinQuery .left (Table.named "user").query "u"
    (some (.columnsEq "u.loginId" "p.userId"))).orderBy (.asc "p.userId")

theorem derived_columns_named_iff_authorsAsUsers :
    ∃ compiled before slots behind,
      authorsAsUsers.compile { naming := .snakeCase } = .ok compiled ∧
      authorsAsUsers.Writes authorsAsUsers.clauses ∧
      (authors, "p") ∈ authorsAsUsers.clauses.derivedTables ∧
      '.' ∉ "p".toList ∧ '.' ∉ "userId".toList ∧ "userId" ≠ "*" ∧
      compiled.sql = Lexeme.text (before ++ Slot.fill (Columns.spelled ⟨"p", .verbatim⟩) slots ++
        behind) ∧
      Slot.queries slots =
        [.parse "u.loginId", .parse "p.userId", .parse "p.userId"] ∧
      Columns.Spells ⟨"p", .verbatim⟩ (.parse "p.userId") "p" "userId" := by
  have hwrites : authorsAsUsers.Writes authorsAsUsers.clauses :=
    ⟨_, by simp [members_eq], .self⟩
  obtain ⟨compiled, hcompiled⟩ :
      ∃ compiled, authorsAsUsers.compile { naming := .snakeCase } = .ok compiled := ⟨_, rfl⟩
  obtain ⟨⟨before, slots, behind, hsql, hslots⟩, hnamed⟩ :=
    derived_columns_named_iff hcompiled hwrites
  have htable : (authors, "p") ∈ authorsAsUsers.clauses.derivedTables := List.mem_cons_self
  have hreference : .parse ("p" ++ "." ++ "userId") ∈ authorsAsUsers.clauses.references
      (authorsAsUsers.clauses.columns .snakeCase) := by
    decide +kernel
  have hspells := (hnamed authors "p" htable (by decide)).2 "userId" (by decide) (by decide)
    hreference
  exact ⟨compiled, before, slots, behind, hcompiled, hwrites, htable, by decide, by decide,
    by decide, hsql, hslots, hspells.2.2 ⟨_, _, rfl⟩⟩

/-- Users with the posts of which they are authors. -/
def usersWithAuthors : Query :=
  ((Table.named "user").withNaming .snakeCase).query.joinQuery .left authors "p"
    (some (.columnsEq "p.userId" "user.id"))

/-- Beside a table whose columns are renamed, the column of a joined query is written under a name
that it does not have. -/
theorem joined_column_misnamed_usersWithAuthors :
    usersWithAuthors.compile {} = .ok
      ⟨"SELECT \"user\".* FROM \"user\" LEFT JOIN " ++
        "(SELECT \"post\".\"user_id\" AS \"userId\" FROM \"post\") AS \"p\" " ++
          "ON \"p\".\"user_id\" = \"user\".\"id\"", [], false⟩ ∧
    authors.compile {} =
      .ok ⟨"SELECT \"post\".\"user_id\" AS \"userId\" FROM \"post\"", [], false⟩ ∧
    (authors, "p") ∈ usersWithAuthors.clauses.derivedTables ∧
    usersWithAuthors.clauses.references ⟨"user", .snakeCase⟩ =
      [.parse "p.userId", .parse "user.id"] ∧
    ¬ Columns.Spells ⟨"user", .snakeCase⟩ (.parse "p.userId") "p" "userId" := by
  refine ⟨rfl, rfl, List.mem_cons_self, rfl, ?_⟩
  rintro ⟨i, j, -, hj, hls⟩
  have hphysical : Columns.spelled ⟨"user", .snakeCase⟩ (.parse "p.userId") =
      [.name ⟨"p", by decide, by decide⟩, .fixed ".", .name ⟨"user_id", by decide, by decide⟩] :=
    rfl
  rw [hphysical] at hls
  obtain ⟨-, rfl⟩ : _ ∧ (⟨"user_id", by decide, by decide⟩ : Identifier) = j := by simpa using hls
  exact absurd hj (by decide)

end Query
end ParamSql
