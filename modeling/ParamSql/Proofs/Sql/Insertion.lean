import ParamSql.Proofs.Query.History
import ParamSql.Proofs.Sql.Change
import ParamSql.Proofs.Sql.Link
import ParamSql.Proofs.Sql.Takes
import ParamSql.Proofs.Sql.Within

/-!
# Insertion — every value of a record stands in its column

Records need not assign to the same columns, nor in the same order.  The columns of an insertion are
those of all its records, and every record has one entry for each of them.

* `Clauses.Enters` — what stands in a column: the value, or DEFAULT where there is none;
* `Clauses.insertedRecords_eq_ok` — the columns and rows that are written for some records;
* `SetValue.bound`, `Clauses.Enters.params` — the values that are bound for an entry;
* `Query.inserted_by_column` — every insertion of a compiled query.
-/

namespace ParamSql

/-! ## Entries -/

namespace SetValue

/-- The values that are bound for a value of an insertion. -/
def bound (naming : Naming) : SetValue Query → List Value
  | .value v => [v]
  | .fragment f => Lexeme.params (f.pieces.map .ofPiece)
  | .query q => Lexeme.params (q.rendering naming).lexemesOf
  | .increment _ | .decrement _ | .default => []

/-- A value that is written like a missing one: the demand for the default itself, or text of the
caller. -/
def ReadsDefault {Q : Type} (n : Nat) (v : SetValue Q) : Prop :=
  v = .default ∨
    ∃ f, v = .fragment f ∧ Lexeme.textFrom n (f.pieces.map .ofPiece) = "DEFAULT"

end SetValue

namespace Clauses

/-- What stands in a column of an inserted row: the value that is assigned to it, or else
DEFAULT. -/
def Enters (naming : Naming) (cs : Columns) (column : String) (entry : List Lexeme) :
    Option (SetValue Query) → Prop
  | none => entry = [.fixed "DEFAULT"]
  | some v =>
      v.isRelative = false ∧
        (newValue cs column (v.map (Query.rendering naming))).result = .ok entry

variable {naming : Naming} {cs : Columns} {column : String} {entry : List Lexeme}

theorem enters_of_insertedValue {r : Record Query}
    (h : (insertedValue cs (r.map (Query.rendering naming)) column).result = .ok entry) :
    Enters naming cs column entry (r.get? column) := by
  unfold insertedValue at h
  rw [Record.get?_map] at h
  cases hv : r.get? column with
  | none =>
      rw [hv] at h
      exact (Except.ok.inj h).symm
  | some v =>
      simp only [hv, Option.map_some, SetValue.isRelative_map] at h
      cases hrelative : v.isRelative with
      | true => simp [hrelative] at h
      | false => exact ⟨hrelative, by simpa [hrelative] using h⟩

/-- A text that begins with another character is not DEFAULT. -/
theorem ne_default {s : String} (h : s.toList.head? ≠ some 'D') : s ≠ "DEFAULT" := by
  rintro rfl
  exact h (by simp)

/-- What is written for a value that does not depend on an old one. -/
theorem newValue_eq_ok {v : SetValue Query} (hrelative : v.isRelative = false)
    (h : (newValue cs column (v.map (Query.rendering naming))).result = .ok entry) :
    (∃ value, v = .value value ∧ entry = [.bind value]) ∨
    (∃ f, v = .fragment f ∧ entry = f.pieces.map .ofPiece) ∨
    (∃ q : Query, v = .query q ∧
      entry = .fixed "(" :: (q.rendering naming).lexemesOf ++ [.fixed ")"]) ∨
    (v = .default ∧ entry = [.fixed "DEFAULT"]) := by
  cases v with
  | value value => exact .inl ⟨value, rfl, (Except.ok.inj h).symm⟩
  | fragment f =>
      refine .inr (.inl ⟨f, rfl, ?_⟩)
      have hentry := Except.ok.inj h
      rw [← hentry, ofLexemes_self]
  | increment value => cases hrelative
  | decrement value => cases hrelative
  | query q =>
      obtain ⟨inner, hinner, rfl⟩ := Rendering.bracketed_eq_ok h
      exact .inr (.inr (.inl ⟨q, rfl, by rw [Rendering.lexemesOf_eq hinner]⟩))
  | default => exact .inr (.inr (.inr ⟨rfl, (Except.ok.inj h).symm⟩))

namespace Enters

variable {value? : Option (SetValue Query)}

/-- DEFAULT stands where nothing is assigned, and where it has been asked for. -/
theorem text_eq_default_iff (h : Enters naming cs column entry value?) (n : Nat) :
    Lexeme.textFrom n entry = "DEFAULT" ↔
      value? = none ∨ ∃ v, value? = some v ∧ v.ReadsDefault n := by
  cases value? with
  | none =>
      obtain rfl : entry = [.fixed "DEFAULT"] := h
      simp
  | some v =>
      simp only [Option.some.injEq, exists_eq_left', reduceCtorEq, false_or]
      -- a value is a placeholder and a query is in brackets, neither of which begins like DEFAULT
      rcases newValue_eq_ok h.1 h.2 with ⟨value, rfl, rfl⟩ | ⟨f, rfl, rfl⟩ | ⟨q, rfl, rfl⟩ |
        ⟨rfl, rfl⟩
      · have hne : Lexeme.textFrom n [.bind value] ≠ "DEFAULT" :=
          ne_default (by simp)
        simp [SetValue.ReadsDefault, -Lexeme.textFrom_bind, hne]
      · simp [SetValue.ReadsDefault]
      · have hne : Lexeme.textFrom n
            (.fixed "(" :: (q.rendering naming).lexemesOf ++ [.fixed ")"]) ≠ "DEFAULT" :=
          ne_default (by simp)
        simpa [SetValue.ReadsDefault, -Lexeme.textFrom_fixed] using hne
      · simp [SetValue.ReadsDefault]

/-- For an entry the values of what is assigned are bound, and none besides. -/
theorem params (h : Enters naming cs column entry value?) :
    Lexeme.params entry = value?.elim [] (SetValue.bound naming) := by
  cases value? with
  | none =>
      obtain rfl : entry = [.fixed "DEFAULT"] := h
      rfl
  | some v =>
      rcases newValue_eq_ok h.1 h.2 with ⟨value, rfl, rfl⟩ | ⟨f, rfl, rfl⟩ | ⟨q, rfl, rfl⟩ |
        ⟨rfl, rfl⟩
      · rfl
      · rfl
      · simp [SetValue.bound, Lexeme.params_append]
      · rfl

end Enters

/-! ## Rows -/

/-- A row of entries. -/
def tupleLexemes (row : List (List Lexeme)) : List Lexeme :=
  .fixed "(" :: [.fixed ", "].intercalate row ++ [.fixed ")"]

/-- The names of columns, and rows behind them. -/
def rowLexemes (names : List Identifier) (rows : List (List (List Lexeme))) : List Lexeme :=
  .fixed " (" :: [.fixed ", "].intercalate (names.map fun i => [.name i]) ++
    .fixed ") VALUES " :: [.fixed ", "].intercalate (rows.map tupleLexemes)

theorem params_rowLexemes (names : List Identifier) (rows : List (List (List Lexeme))) :
    Lexeme.params (rowLexemes names rows) = rows.flatMap fun row => row.flatMap Lexeme.params := by
  have hnames : Lexeme.params ([.fixed ", "].intercalate (names.map fun i => [.name i])) = [] := by
    rw [Lexeme.params_intercalate, List.flatMap_map]
    simp
  have htuple (row : List (List Lexeme)) :
      Lexeme.params (tupleLexemes row) = row.flatMap Lexeme.params := by
    simp [tupleLexemes, Lexeme.params_append, Lexeme.params_intercalate]
  simp only [rowLexemes, List.cons_append, Lexeme.params_fixed, Lexeme.params_append, hnames,
    Lexeme.params_intercalate, List.flatMap_map, htuple, List.nil_append]

theorem insertedRecords_of_columns {ω : Type} [Output ω] {rs : List (Record (Rendering ω))}
    (h : recordColumns rs ≠ []) :
    insertedRecords cs rs =
      .fixed " (" ++ cs.targets (recordColumns rs) ++ .fixed ") VALUES " ++
        .commas (rs.map fun r => .bracketed (.commas ((recordColumns rs).map
          (insertedValue cs r)))) := by
  unfold insertedRecords
  -- with columns there is a record, and whether there are others does not matter
  cases hcolumns : recordColumns rs with
  | nil => exact absurd hcolumns h
  | cons column columns =>
      match rs with
      | [] => cases hcolumns
      | [r] => rfl
      | r :: r' :: rest => rfl

/-- If each of some parts is made from a piece, all of them are made from pieces. -/
theorem exists_map_of_forall₂ {α β γ : Type} {R : α → β → Prop} {S : α → γ → Prop} {f : γ → β}
    (h : ∀ a b, R a b → ∃ c, S a c ∧ b = f c) {as : List α} {bs : List β}
    (hforall : List.Forall₂ R as bs) : ∃ cs, List.Forall₂ S as cs ∧ bs = cs.map f := by
  induction hforall with
  | nil => exact ⟨[], .nil, rfl⟩
  | cons hab _ ih =>
      obtain ⟨c, hc, rfl⟩ := h _ _ hab
      obtain ⟨cs, hcs, rfl⟩ := ih
      exact ⟨c :: cs, .cons hc hcs, rfl⟩

/-- What is listed for some parts is what is listed for the pieces they are made from. -/
theorem flatMap_eq_of_forall₂ {α β γ : Type} {R : α → β → Prop} {f : α → List γ} {g : β → List γ}
    (h : ∀ a b, R a b → g b = f a) {as : List α} {bs : List β} (hforall : List.Forall₂ R as bs) :
    bs.flatMap g = as.flatMap f := by
  induction hforall with
  | nil => rfl
  | cons hab _ ih => rw [List.flatMap_cons, List.flatMap_cons, h _ _ hab, ih]

/-- A column is written if its physical name is one. -/
theorem target_eq_ok {ls : List Lexeme} (h : (cs.target column).result = .ok ls) :
    ∃ i, Identifier.of (cs.naming.physical column) = .ok i ∧ ls = [.name i] :=
  Rendering.name_eq_ok h

theorem targets_eq_ok {columns : List String} {ls : List Lexeme}
    (h : (cs.targets columns).result = .ok ls) :
    ∃ names, List.Forall₂ (fun column i => Identifier.of (cs.naming.physical column) = .ok i)
        columns names ∧
      ls = [.fixed ", "].intercalate (names.map fun i => [.name i]) := by
  obtain ⟨lss, hlss, rfl⟩ := Rendering.commas_eq_ok h
  obtain ⟨names, hnames, rfl⟩ := exists_map_of_forall₂
    (R := fun column ls => (cs.target column).result = .ok ls) (fun _ _ => target_eq_ok)
    (List.forall₂_map_left_iff.1 hlss)
  exact ⟨names, hnames, rfl⟩

/-- Records with columns are written as the names of their columns, and as a row for each record
that has one entry for each column. -/
theorem insertedRecords_eq_ok {rs : List (Record Query)} {ls : List Lexeme}
    (hcolumns : recordColumns rs ≠ [])
    (h : (insertedRecords cs (rs.map (Record.map (Query.rendering naming)))).result = .ok ls) :
    ∃ names rows,
      List.Forall₂ (fun column i => Identifier.of (cs.naming.physical column) = .ok i)
        (recordColumns rs) names ∧
      List.Forall₂ (fun r row => List.Forall₂ (fun column entry =>
        Enters naming cs column entry (r.get? column)) (recordColumns rs) row) rs rows ∧
      ls = rowLexemes names rows := by
  rw [insertedRecords_of_columns (by rwa [recordColumns_map]), recordColumns_map] at h
  -- taken apart from behind: the rows, the bracket, the columns, and the opening
  obtain ⟨head, tuples, hhead, htuples, rfl⟩ := Rendering.result_append_eq_ok h
  obtain ⟨front, close, hfront, hclose, rfl⟩ := Rendering.result_append_eq_ok hhead
  obtain ⟨opening, listed, hopening, hlisted, rfl⟩ := Rendering.result_append_eq_ok hfront
  obtain rfl : [.fixed " ("] = opening := Except.ok.inj hopening
  obtain rfl : [.fixed ") VALUES "] = close := Except.ok.inj hclose
  obtain ⟨names, hnames, rfl⟩ := targets_eq_ok hlisted
  obtain ⟨lss, hlss, rfl⟩ := Rendering.commas_eq_ok htuples
  rw [List.map_map, List.forall₂_map_left_iff] at hlss
  -- every row has an entry for each column
  obtain ⟨rows, hrows, rfl⟩ := exists_map_of_forall₂ (f := tupleLexemes)
    (S := fun r row => List.Forall₂ (fun column entry =>
      Enters naming cs column entry (r.get? column)) (recordColumns rs) row)
    (fun r tuple htuple => by
      obtain ⟨inner, hinner, rfl⟩ := Rendering.bracketed_eq_ok htuple
      obtain ⟨row, hrow, rfl⟩ := Rendering.commas_eq_ok hinner
      exact ⟨row, (List.forall₂_map_left_iff.1 hrow).imp fun _ _ => enters_of_insertedValue, rfl⟩)
    hlss
  refine ⟨names, rows, hnames, hrows, ?_⟩
  simp [rowLexemes, Output.append]

/-- The table of a change is written as its path. -/
theorem target_path_eq_ok {verb : Verb} {c : Clauses (Rendering (List Lexeme))} {ls : List Lexeme}
    (h : (c.target verb).result = .ok ls) :
    ∃ t p, c.table? = some t ∧ Path.of t.path = .ok p ∧ ls = p.lexemes := by
  unfold target at h
  cases ht : c.table? with
  | none => simp [ht] at h
  | some t =>
      rw [ht] at h
      obtain ⟨p, hp, rfl⟩ := Rendering.path_eq_ok h
      exact ⟨t, p, rfl, hp, rfl⟩

/-- An insertion of records with columns is INSERT with the table and the rows, and something behind
them. -/
theorem statement_insertion_eq_ok {c : Clauses Query} {rs : List (Record Query)}
    {conflict : Option (OnConflict Query)} {inCte : Bool} {ls : List Lexeme}
    (hrows : c.mutation = some (.insert (.records rs) conflict)) (hcolumns : recordColumns rs ≠ [])
    (h : (Query.statement naming inCte c : Rendering (List Lexeme)).result = .ok ls) :
    ∃ ahead t p names rows behind,
      c.table? = some t ∧ Path.of t.path = .ok p ∧
      List.Forall₂ (fun column i =>
        Identifier.of ((c.columns naming).naming.physical column) = .ok i)
        (recordColumns rs) names ∧
      List.Forall₂ (fun r row => List.Forall₂ (fun column entry =>
        Enters naming (c.columns naming) column entry (r.get? column)) (recordColumns rs) row)
        rs rows ∧
      ls = ahead ++ .fixed "INSERT INTO " :: p.lexemes ++ rowLexemes names rows ++ behind := by
  have hmutation : (c.map (Query.rendering naming : Query → Rendering (List Lexeme))).mutation =
      some (.insert (.records (rs.map (Record.map (Query.rendering naming))))
        (conflict.map (OnConflict.map (Query.rendering naming)))) := by
    rw [map_mutation, hrows]
    rfl
  rw [Query.statement_eq_map, statement, columns_map, body_of_mutation hmutation] at h
  -- likewise from behind: what is returned, the conflict, the rows, the table, and the verb
  obtain ⟨ahead, body, -, hbody, rfl⟩ := Rendering.result_append_eq_ok h
  obtain ⟨change, returned, hchange, -, rfl⟩ := Rendering.result_append_eq_ok hbody
  obtain ⟨upToRows, conflicts, hupToRows, -, rfl⟩ := Rendering.result_append_eq_ok hchange
  obtain ⟨upToTable, written, hupToTable, hwritten, rfl⟩ := Rendering.result_append_eq_ok hupToRows
  obtain ⟨verb, path, hverb, hpath, rfl⟩ := Rendering.result_append_eq_ok hupToTable
  obtain rfl : [.fixed "INSERT INTO "] = verb := Except.ok.inj hverb
  obtain ⟨t, p, ht, hp, rfl⟩ := target_path_eq_ok hpath
  obtain ⟨names, rows, hnames, hentries, rfl⟩ := insertedRecords_eq_ok hcolumns hwritten
  refine ⟨ahead, t, p, names, rows, conflicts ++ returned, by simpa using ht, hp, hnames, hentries,
    ?_⟩
  simp [Output.append]

end Clauses

namespace Query

/-- Wherever records with columns are inserted, every value stands in its column.  The columns are
those of all records, each one where it is first assigned to; there is one row for each record, in
their order, with one entry for each column.  An entry is DEFAULT where nothing is assigned to the
column or where the last assignment to it is DEFAULT, and otherwise the last value that is assigned.
What is bound by the rows are the values of these assignments, row by row. -/
theorem inserted_by_column {q : Query} {options : CompileOptions} {compiled : Compiled}
    (h : q.compile options = .ok compiled) {c : Clauses Query} (hc : q.Writes c)
    {histories : List (List (String × SetValue Query))} {conflict : Option (OnConflict Query)}
    (hrows : c.mutation = some (.insert (.records (histories.map Record.ofHistory)) conflict))
    (hassigned : ∃ history ∈ histories, history ≠ []) :
    let cs := c.columns options.naming
    let columns := (histories.flatMap (List.map Prod.fst)).eraseDups
    columns.Nodup ∧
    ∃ ahead t p names rows behind,
      c.table? = some t ∧ Path.of t.path = .ok p ∧
      List.Forall₂ (fun column i => Identifier.of (cs.naming.physical column) = .ok i)
        columns names ∧
      List.Forall₂ (fun history row => List.Forall₂ (fun column entry =>
        Clauses.Enters options.naming cs column entry (lastAssigned? history column) ∧
        ∀ n, Lexeme.textFrom n entry = "DEFAULT" ↔
          column ∉ history.map Prod.fst ∨
            ∃ v, lastAssigned? history column = some v ∧ v.ReadsDefault n) columns row)
        histories rows ∧
      compiled.sql = Lexeme.text (ahead ++ .fixed "INSERT INTO " :: p.lexemes ++
        Clauses.rowLexemes names rows ++ behind) ∧
      compiled.params = Lexeme.params ahead ++
        (histories.flatMap fun history => columns.flatMap fun column =>
          (lastAssigned? history column).elim [] (SetValue.bound options.naming)) ++
        Lexeme.params behind := by
  intro cs columns
  have hlisted : Clauses.recordColumns (histories.map Record.ofHistory) = columns :=
    Clauses.recordColumns_ofHistory histories
  have hcolumns : columns ≠ [] := by
    obtain ⟨history, hhistory, hne⟩ := hassigned
    obtain ⟨a, ha⟩ := List.exists_mem_of_ne_nil history hne
    exact List.ne_nil_of_mem (List.mem_eraseDups.2
      (List.mem_flatMap.2 ⟨history, hhistory, List.mem_map_of_mem ha⟩))
  obtain ⟨inCte, before, body, rear, hbody, hsql, hparams⟩ := compile_of_writes hc h
  obtain ⟨ahead, t, p, names, rows, behind, ht, hp, hnames, hentries, rfl⟩ :=
    Clauses.statement_insertion_eq_ok hrows (hlisted ▸ hcolumns) hbody
  rw [hlisted] at hnames
  rw [hlisted, List.forall₂_map_left_iff] at hentries
  simp only [Record.get?_ofHistory] at hentries
  refine ⟨nodup_eraseDups _, before ++ ahead, t, p, names, rows, behind ++ rear, ht, hp, hnames,
    ?entries, ?sql, ?params⟩
  case entries =>
    -- an entry is for a column of a history, and both have to be walked through
    refine hentries.imp fun history row hrow => hrow.imp fun column entry hentry => ?_
    refine ⟨hentry, fun n => ?_⟩
    rw [hentry.text_eq_default_iff, lastAssigned?_eq_none_iff]
  case sql =>
    rw [hsql]
    simp only [List.append_assoc]
  case params =>
    -- an entry binds the values of the assignment that it is written for
    have hbound : (rows.flatMap fun row => row.flatMap Lexeme.params) =
        histories.flatMap fun history => columns.flatMap fun column =>
          (lastAssigned? history column).elim [] (SetValue.bound options.naming) := by
      refine Clauses.flatMap_eq_of_forall₂ (fun history row hrow => ?_) hentries
      exact Clauses.flatMap_eq_of_forall₂ (fun column entry hentry => hentry.params) hrow
    rw [hparams]
    simp [Lexeme.params_append, Clauses.params_rowLexemes, p.params_lexemes, hbound]

/-- Two orders with different columns: the first one is explicitly not sent yet, and the customer of
the second one is corrected. -/
def orderHistories : List (List (String × SetValue Query)) :=
  [[("customer", .value (.int 7)), ("sentAt", .default)],
    [("note", .value (.text "late")), ("customer", .value (.int 1)), ("customer", .value (.int 9))]]

/-- These orders, inserted ahead of a query for all orders. -/
def ordersWithNew : Query :=
  .of (Table.named "order").query.clauses
    [⟨(Table.named "order").query.insert (orderHistories.map Record.ofHistory), false⟩]

theorem inserted_by_column_ordersWithNew :
    ∃ compiled c,
      ordersWithNew.compile { naming := .snakeCase } = .ok compiled ∧
      ordersWithNew.Writes c ∧
      c.mutation = some (.insert (.records (orderHistories.map Record.ofHistory)) none) ∧
      (∃ history ∈ orderHistories, history ≠ []) ∧
      ∃ ahead p names row row' behind,
        List.Forall₂ (fun column i => Identifier.of column = .ok i)
          ["customer", "sent_at", "note"] names ∧
        (row.length = 3 ∧ row'.length = 3) ∧
        compiled.sql = Lexeme.text (ahead ++ .fixed "INSERT INTO " :: Path.lexemes p ++
          Clauses.rowLexemes names [row, row'] ++ behind) ∧
        compiled.params =
          Lexeme.params ahead ++ [.int 7, .int 9, .text "late"] ++ Lexeme.params behind := by
  have hwrites : ordersWithNew.Writes
      ((Table.named "order").query.insert (orderHistories.map Record.ofHistory)).clauses :=
    ⟨_, by simp [members_eq, ordersWithNew, dependents, dependentsOf], .self⟩
  obtain ⟨compiled, hcompiled⟩ :
      ∃ compiled, ordersWithNew.compile { naming := .snakeCase } = .ok compiled := ⟨_, rfl⟩
  have hassigned : ∃ history ∈ orderHistories, history ≠ [] := ⟨_, List.mem_cons_self, by simp⟩
  obtain ⟨-, ahead, -, p, names, rows, behind, -, -, hnames, hrows, hsql, hparams⟩ :=
    inserted_by_column hcompiled hwrites rfl hassigned
  refine ⟨compiled, _, hcompiled, hwrites, rfl, hassigned, ahead, p, names, ?_⟩
  have hcolumns : ["customer", "sent_at", "note"] =
      (orderHistories.flatMap (List.map Prod.fst)).eraseDups.map Naming.snakeCase.physical := by
    decide +kernel
  rcases hrows with _ | ⟨hrow, _ | ⟨hrow', _ | _⟩⟩
  exact ⟨_, _, behind, hcolumns ▸ List.forall₂_map_left_iff.2 hnames,
    ⟨hrow.length_eq.symm, hrow'.length_eq.symm⟩, hsql, hparams⟩

/-- An order that is expressly not sent yet. -/
def unsentOrder : List (String × SetValue Query) :=
  [("sentAt", .default)]

/-- A column can be set to its default expressly, so that an entry may be DEFAULT although the
record assigns to the column. -/
theorem default_is_assigned_unsentOrder :
    ((Table.named "order").query.insert [.ofHistory unsentOrder]).compile {} =
      .ok ⟨"INSERT INTO \"order\" (\"sentAt\") VALUES (DEFAULT)", [], false⟩ ∧
    (∃ p i,
      (((Table.named "order").query.insert [.ofHistory unsentOrder]).rendered .verbatim :
        Rendering (List Lexeme)).result =
          .ok (.fixed "INSERT INTO " :: Path.lexemes p ++
            Clauses.rowLexemes [i] [[[.fixed "DEFAULT"]]])) ∧
    ¬ (Lexeme.textFrom 1 [.fixed "DEFAULT"] = "DEFAULT" ↔
      "sentAt" ∉ unsentOrder.map Prod.fst) := by
  have hpath : ∃ p, Path.of "order" = .ok p := ⟨_, rfl⟩
  have hname : ∃ i, Identifier.of "sentAt" = .ok i := ⟨_, rfl⟩
  obtain ⟨p, hp⟩ := hpath
  obtain ⟨i, hi⟩ := hname
  refine ⟨rfl, ⟨p, i, ?_⟩, by simp [unsentOrder]⟩
  obtain rfl := Except.ok.inj hp
  obtain rfl := Except.ok.inj hi
  rfl

end Query
end ParamSql
