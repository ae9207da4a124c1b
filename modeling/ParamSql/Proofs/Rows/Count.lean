import ParamSql.Proofs.Query.Call
import ParamSql.Proofs.Rows.Selection
import ParamSql.Proofs.Sql.Within

/-!
# Count — the number of rows of a query

A count is either the query with `count(*)` in the place of what it selects, or `count(*)` of the
rows of the query as a source.

* `Server.Accepts`, `Server.Takes` — what a server refuses where rows are put together;
* `Clauses.Ungrouped` — the queries that are counted in the first form;
* `Server.rows_of_rowwise`, `Server.rows_of_aggregated` — how many rows such a query has;
* `Server.rows_of_total`, `Server.value_of_wrapped` — what the two forms of a count deliver;
* `Query.count_counts_iff` — the second form counts the rows of the query, and the first one does if
  the query does not put rows together by itself.
-/

namespace ParamSql

variable {κ Q : Type}

/-! ## What is refused -/

/-- Whether an item of a select list is a window function. -/
def SelectItem.isWindow : SelectItem Q → Bool
  | .window .. => true
  | _ => false

namespace Server

variable (S : Server κ)

/-- Whether an item of a select list reads a column of a row by itself. -/
def readsRowItem : SelectItem Q → Bool
  | .column .. => true
  | .fragment f _ => S.readsRow f
  | .window call _ _ => S.readsRow call
  | _ => false

def readsRowOrder (o : Order) : Bool :=
  match o.target with
  | .column _ => true
  | .fragment f => S.readsRow f

def readsRowWindow (w : Window) : Bool :=
  !w.partitionBy.isEmpty || w.orderBy.any S.readsRowOrder

/-- A SELECT that is not refused for putting rows together. -/
structure Accepts (c : Clauses Q) : Prop where
  /-- Rows are locked only where they are rows of the sources. -/
  lock : c.lock.isSome = true → S.isAggregated c = false ∧ c.group = [] ∧ c.distinct = none ∧
    c.setOps = [] ∧ ∀ i ∈ c.select, i.isWindow = false
  /-- Of rows that are all put together, none is read by itself. -/
  whole : S.isAggregated c = true → c.group = [] → c.select ≠ [] ∧
    (∀ i ∈ c.select, S.readsRowItem i = false) ∧
    (c.setOps = [] → ∀ o ∈ c.order, S.readsRowOrder o = false) ∧
    ∀ w ∈ c.windows, S.readsRowWindow w = false

end Server

/-- Whether a common table expression is a change. -/
def Cte.isChange (cte : Cte Query) : Bool :=
  match cte.body with
  | .query q => q.isMutation
  | .fragment _ => false

/-- A query that is not refused. -/
structure Server.Takes (S : Server κ) (q : Query) : Prop where
  accepts : ∀ c : Clauses Query, c.Within q.clauses → c.mutation = none → S.Accepts c
  /-- Only the outermost statement has changes behind its WITH. -/
  outermost : ∀ r ∈ q.clauses.subqueries, ∀ c : Clauses Query, c.Within r.clauses →
    ∀ cte ∈ c.ctes, cte.isChange = false

/-! ## Queries that are counted in place -/

/-- A statement without clauses that regroup its rows, drop some of them or add others. -/
structure Clauses.Ungrouped (c : Clauses Q) : Prop where
  group : c.group = []
  distinct : c.distinct = none
  setOps : c.setOps = []
  limit : c.limit = none
  offset : c.offset = none

theorem Query.isRegrouped_eq_false_iff {c : Clauses Query} :
    isRegrouped c = false ↔ c.Ungrouped := by
  simp only [isRegrouped, Bool.or_eq_false_iff, Bool.not_eq_false', List.isEmpty_iff,
    Option.isSome_eq_false_iff, Option.isNone_iff_eq_none]
  constructor
  · rintro ⟨⟨⟨⟨group, distinct⟩, setOps⟩, limit⟩, offset⟩
    exact ⟨group, distinct, setOps, limit, offset⟩
  · rintro ⟨group, distinct, setOps, limit, offset⟩
    exact ⟨⟨⟨⟨group, distinct⟩, setOps⟩, limit⟩, offset⟩

theorem Clauses.Ungrouped.map {R : Type} {c : Clauses Q} (h : c.Ungrouped) (f : Q → R) :
    (c.map f).Ungrouped where
  group := by simp [h.group]
  distinct := h.distinct
  setOps := by simp [h.setOps]
  limit := h.limit
  offset := h.offset

/-- The item of a count. -/
def SelectItem.countAll : SelectItem Q :=
  .aggregate .count none false (some "count")

namespace Server

variable (S : Server κ) {cs : Columns} {s : Setting κ} {c : Clauses (Meaning κ)}

theorem aggregatesItem_map {R : Type} (f : Q → R) (i : SelectItem Q) :
    S.aggregatesItem (i.map f) = S.aggregatesItem i := by
  cases i <;> rfl

theorem isAggregated_map {R : Type} (f : Q → R) (c : Clauses Q) :
    S.isAggregated (c.map f) = S.isAggregated c := by
  simp [isAggregated, Function.comp_def, aggregatesItem_map]

/-- Rows that are not put together have no HAVING. -/
theorem areEmpty_having_of_rowwise {c : Clauses Q} (h : S.isAggregated c = false) :
    Formula.areEmpty c.having = true := by
  simp only [isAggregated, Bool.or_eq_false_iff, Bool.not_eq_false'] at h
  exact h.1.1.2

theorem isAggregated_of_countAll {c : Clauses Q} (h : c.select = [.countAll]) :
    S.isAggregated c = true := by
  simp [isAggregated, h, SelectItem.countAll, aggregatesItem]

variable [DecidableEq κ]

/-- Nothing happens to rows or groups behind HAVING but that they are put in order. -/
theorem paged_of_ungrouped (h : c.Ungrouped) :
    S.paged cs c s =
      (S.sort cs c.order s (S.units cs c s)).map (S.cells cs c (S.units cs c s) s) := by
  simp [paged, combined, selected, h.distinct, h.setOps, h.limit, h.offset]

theorem length_paged (h : c.Ungrouped) : (S.paged cs c s).length = (S.units cs c s).length := by
  rw [paged_of_ungrouped S h, List.length_map]
  exact (S.sort_perm ..).length_eq

/-- Rows that are put together are one group, which HAVING may drop. -/
theorem units_of_aggregated (h : c.group = []) (haggregated : S.isAggregated c = true) :
    S.units cs c s =
      if S.holds cs (s.within (S.matched cs c s)) (.all c.having) then [S.matched cs c s]
      else [] := by
  simp only [units, groups, h, haggregated, List.isEmpty_nil, if_true]
  split <;> simp_all

/-- A query that puts rows together has one row, or none. -/
theorem rows_of_aggregated (h : c.Ungrouped) (haggregated : S.isAggregated c = true) :
    (S.paged cs c s).length =
      if S.holds cs (s.within (S.matched cs c s)) (.all c.having) then 1 else 0 := by
  rw [S.length_paged h, S.units_of_aggregated h.group haggregated]
  split <;> rfl

/-- Any other query has the rows of its sources that pass WHERE. -/
theorem rows_of_rowwise (h : c.Ungrouped) (hrowwise : S.isAggregated c = false) :
    (S.paged cs c s).length = (S.matched cs c s).length := by
  have hkept : ∀ unit, S.holds cs (s.within unit) (.all c.having) = true :=
    fun unit => S.holds_of_isEmpty (S.areEmpty_having_of_rowwise hrowwise)
  rw [S.length_paged h]
  simp [units, groups, h.group, hrowwise, hkept]

/-! ## What a count delivers -/

omit [DecidableEq κ] in
/-- There is only one order of a single row or group. -/
theorem sort_of_length_le_one (order : List Order) {units : List (List (JoinedRow κ))}
    (h : units.length ≤ 1) : S.sort cs order s units = units := by
  have hperm := S.sort_perm cs order s units
  match units, h with
  | [], _ => exact hperm.eq_nil
  | [unit], _ => exact List.perm_singleton.1 hperm

/-- A statement that counts the rows of its sources that pass WHERE has one row, unless HAVING drops
it. -/
theorem rows_of_total (h : c.Ungrouped) (hselect : c.select = [.countAll]) :
    S.paged cs c s =
      if S.holds cs (s.within (S.matched cs c s)) (.all c.having) then
        [[S.number (S.matched cs c s).length]]
      else [] := by
  have hunits : S.units cs c s =
      if S.holds cs (s.within (S.matched cs c s)) (.all c.having) then [S.matched cs c s] else [] :=
    S.units_of_aggregated h.group (S.isAggregated_of_countAll hselect)
  have hlength : (S.units cs c s).length ≤ 1 := by
    rw [hunits]
    split <;> simp
  rw [S.paged_of_ungrouped h, S.sort_of_length_le_one c.order hlength, hunits]
  split
  case isTrue => simp [cells, Clauses.listed, hselect, SelectItem.countAll, item, aggregated]
  case isFalse => rfl

end Server

/-! ## The two forms of a count -/

namespace Query

/-- The statement of a query that is counted in place. -/
def countedInPlace (c : Clauses Query) : Clauses Query :=
  { c with order := [], select := [.countAll], shape := some .value }

/-- The statement around a query that is counted as a source. -/
def countedAround (c : Clauses Query) : Clauses Query :=
  { source := .query (.of { c with shape := some .all } []) wrapped
    select := [.countAll]
    shape := some .value }

theorem count_of (c : Clauses Query) :
    (of c []).count = of (if isRegrouped c then countedAround c else countedInPlace c) [] := by
  cases h : isRegrouped c with
  | true => exact count_of_regrouped h
  | false => exact count_of_plain h

theorem ungrouped_countedAround (c : Clauses Query) : (countedAround c).Ungrouped :=
  ⟨rfl, rfl, rfl, rfl, rfl⟩

theorem ungrouped_countedInPlace {c : Clauses Query} (h : c.Ungrouped) :
    (countedInPlace c).Ungrouped :=
  ⟨h.group, h.distinct, h.setOps, h.limit, h.offset⟩

end Query

namespace Server

variable [DecidableEq κ] (S : Server κ)

omit [DecidableEq κ] in
/-- Without common table expressions, no other tables can be seen. -/
theorem inside_of_nil {c : Clauses (Meaning κ)} (h : c.ctes = []) (s : Setting κ) :
    S.inside c s = s := by
  have htables : S.define c.ctes s = s.tables := by
    funext path
    exact S.define_of_notMem _ _ _ (by simp [h])
  rw [inside, htables]

/-- Whether HAVING keeps the rows of the sources as one group. -/
def keepsWhole (naming : Naming) (c : Clauses Query) (s : Setting κ) : Bool :=
  let d := c.map (S.meaning naming)
  S.holds (d.columns naming) ((S.inside d s).within (S.sourceRows naming c s)) (.all d.having)

theorem rows_of_select (naming : Naming) {c : Clauses Query} (hselect : c.mutation = none)
    (s : Setting κ) :
    let d := c.map (S.meaning naming)
    (S.meaning naming (.of c []) s).rows = S.paged (d.columns naming) d (S.inside d s) := by
  intro d
  have hd : d.mutation = none := by simp [d, hselect]
  rw [S.meaning_of, statement, hd]

/-- Without HAVING all rows are kept. -/
theorem keepsWhole_of_rowwise (naming : Naming) {c : Clauses Query}
    (h : S.isAggregated c = false) (s : Setting κ) : S.keepsWhole naming c s = true :=
  S.holds_of_isEmpty (S.areEmpty_having_of_rowwise ((S.isAggregated_map _ c).trans h))

/-- How many rows a query has that is counted in the first form. -/
theorem length_rows (naming : Naming) {c : Clauses Query} (hselect : c.mutation = none)
    (h : c.Ungrouped) (s : Setting κ) :
    (S.meaning naming (.of c []) s).rows.length =
      if S.isAggregated c then (if S.keepsWhole naming c s then 1 else 0)
      else (S.sourceRows naming c s).length := by
  have hungrouped := h.map (S.meaning naming)
  rw [S.rows_of_select naming hselect]
  split
  case isTrue haggregated =>
    exact S.rows_of_aggregated hungrouped ((S.isAggregated_map _ c).trans haggregated)
  case isFalse hrowwise =>
    have hfalse : S.isAggregated c = false := by simpa using hrowwise
    exact S.rows_of_rowwise hungrouped ((S.isAggregated_map _ c).trans hfalse)

/-- The form in which rows are delivered does not matter to them. -/
theorem meaning_withShape (naming : Naming) {c : Clauses Query} (hselect : c.mutation = none)
    (shape : Option Shape) :
    S.meaning naming (.of { c with shape } []) = S.meaning naming (.of c []) := by
  rw [S.meaning_of, S.meaning_of]
  funext s
  simp only [statement, Clauses.map_mutation, hselect]
  rfl

/-- The second form counts the rows of the query. -/
theorem value_of_wrapped (naming : Naming) {c : Clauses Query} (hselect : c.mutation = none)
    (s : Setting κ) :
    (S.meaning naming (.of (Query.countedAround c) []) s).value? =
      some (S.number (S.meaning naming (.of c []) s).rows.length) := by
  let d := (Query.countedAround c).map (S.meaning naming)
  have hungrouped : d.Ungrouped := (Query.ungrouped_countedAround c).map _
  -- the query is the only source, and all of its rows pass
  have hmatched : S.matched (d.columns naming) d s =
      ((S.meaning naming (.of c []) s).bindings Query.wrapped).map fun b => [b] := by
    rw [← S.meaning_withShape naming hselect (some .all)]
    exact List.filter_eq_self.2 fun row _ => S.holds_of_isEmpty rfl
  have hhaving : ∀ unit, S.holds (d.columns naming) (s.within unit) (.all d.having) = true :=
    fun unit => S.holds_of_isEmpty rfl
  rw [Relation.value?, S.rows_of_select naming rfl, S.inside_of_nil rfl,
    S.rows_of_total hungrouped rfl, hhaving, if_pos rfl, hmatched]
  simp

/-- The first form counts the rows of the sources, unless HAVING drops all of them. -/
theorem value_of_countedInPlace (naming : Naming) {c : Clauses Query} (hselect : c.mutation = none)
    (h : c.Ungrouped) (s : Setting κ) :
    (S.meaning naming (.of (Query.countedInPlace c) []) s).value? =
      if S.keepsWhole naming c s then some (S.number (S.sourceRows naming c s).length)
      else none := by
  let d := (Query.countedInPlace c).map (S.meaning naming)
  have hungrouped : d.Ungrouped := (Query.ungrouped_countedInPlace h).map _
  -- sources, WHERE and HAVING are those of the query
  have htotal : S.paged (d.columns naming) d (S.inside d s) =
      if S.keepsWhole naming c s then [[S.number (S.sourceRows naming c s).length]] else [] :=
    S.rows_of_total hungrouped rfl
  rw [Relation.value?, S.rows_of_select naming (c := Query.countedInPlace c) hselect, htotal]
  split <;> rfl

end Server

/-! ## What is refused of a count -/

namespace Server

variable (S : Server κ)

/-- What is refused of a query is refused of its own statement, or of one in an inner query. -/
theorem takes_iff {q : Query} :
    S.Takes q ↔ (q.clauses.mutation = none → S.Accepts q.clauses) ∧
      ∀ r ∈ q.clauses.subqueries, S.Takes r ∧ ∀ cte ∈ r.clauses.ctes, cte.isChange = false := by
  constructor
  · intro h
    refine ⟨h.accepts _ .self, fun r hr => ⟨⟨fun d hd => ?_, fun t ht d hd => ?_⟩, ?_⟩⟩
    · exact h.accepts d (.inside hr hd)
    · exact h.outermost r hr d (.inside ht hd)
    · exact h.outermost r hr _ .self
  · rintro ⟨hown, hinner⟩
    refine ⟨fun d hd => ?_, fun r hr d hd => ?_⟩
    · cases hd with
      | self => exact hown
      | inside hr hd => exact (hinner _ hr).1.accepts d hd
    · cases hd with
      | self => exact (hinner r hr).2
      | inside ht hd => exact (hinner r hr).1.outermost _ ht d hd

/-- As a source, a query must not have changes behind its WITH. -/
theorem takes_countedAround_iff {c : Clauses Query} (h : S.Takes (.of c [])) :
    S.Takes (.of (Query.countedAround c) []) ↔ ∀ cte ∈ c.ctes, cte.isChange = false := by
  have haccepts : S.Accepts (Query.countedAround c) :=
    { lock := fun hlock => by cases hlock
      whole := fun _ _ => ⟨List.cons_ne_nil _ _,
        by simp [Query.countedAround, SelectItem.countAll, readsRowItem],
        fun _ => List.forall_mem_nil _, List.forall_mem_nil _⟩ }
  -- the query is the only one in it, with another form of its result
  have hinner : S.Takes (.of { c with shape := some .all } []) := by
    rcases S.takes_iff.1 h with ⟨hown, hrest⟩
    refine S.takes_iff.2 ⟨fun hselect => ?_, hrest⟩
    have hc := hown hselect
    exact { lock := hc.lock, whole := hc.whole }
  have honly : (Query.countedAround c).subqueries = [.of { c with shape := some .all } []] := rfl
  rw [S.takes_iff, Query.clauses, honly]
  simp only [List.forall_mem_singleton]
  exact ⟨fun hcount => hcount.2.2, fun hctes => ⟨fun _ => haccepts, hinner, hctes⟩⟩

/-- In place, all rows are put together: none of them can be locked or read by a window. -/
theorem accepts_countedInPlace_iff {c : Clauses Query} (h : c.Ungrouped) :
    S.Accepts (Query.countedInPlace c) ↔
      c.lock = none ∧ ∀ w ∈ c.windows, S.readsRowWindow w = false := by
  have haggregated : S.isAggregated (Query.countedInPlace c) = true :=
    S.isAggregated_of_countAll rfl
  constructor
  · intro haccepts
    refine ⟨?_, (haccepts.whole haggregated h.group).2.2.2⟩
    by_contra hlock
    have hrowwise := (haccepts.lock (Option.isSome_iff_ne_none.2 hlock)).1
    rw [haggregated] at hrowwise
    cases hrowwise
  · rintro ⟨hlock, hwindows⟩
    refine ⟨fun hsome => ?_, fun _ _ => ⟨List.cons_ne_nil _ _, ?_, fun _ => List.forall_mem_nil _,
      hwindows⟩⟩
    · simp [Query.countedInPlace, hlock] at hsome
    · simp [Query.countedInPlace, SelectItem.countAll, readsRowItem]

theorem takes_countedInPlace_iff {c : Clauses Query} (hselect : c.mutation = none)
    (h : c.Ungrouped) (htakes : S.Takes (.of c [])) :
    S.Takes (.of (Query.countedInPlace c) []) ↔
      c.lock = none ∧ ∀ w ∈ c.windows, S.readsRowWindow w = false := by
  have hinner : ∀ r ∈ (Query.countedInPlace c).subqueries,
      S.Takes r ∧ ∀ cte ∈ r.clauses.ctes, cte.isChange = false := by
    intro r hr
    have hitem : r ∉ [SelectItem.countAll].flatMap SelectItem.subqueries := List.not_mem_nil
    refine (S.takes_iff.1 htakes).2 r ?_
    -- nothing is gone but what was selected
    simp only [Clauses.subqueries, Clauses.bodySubqueries, Clauses.selectionSubqueries,
      Clauses.filters, Query.countedInPlace, hselect, Query.clauses, List.mem_append, hitem,
      false_or] at hr ⊢
    tauto
  rw [S.takes_iff, ← S.accepts_countedInPlace_iff h]
  exact ⟨fun hcount => hcount.1 hselect, fun haccepts => ⟨fun _ => haccepts, hinner⟩⟩

end Server

namespace Query

/-- A count in the second form is the number of rows of the query.  A count in the first form is
that number for a query whose rows are those of its sources; if they are put together by an
aggregate function or by HAVING, it is only where there is a single row that HAVING keeps.  In the
first form, rows cannot be counted that are locked or that a window reads, and in the second form
those of a query with changes. -/
theorem count_counts_iff [DecidableEq κ] (S : Server κ) (naming : Naming) {c : Clauses Query}
    (hselect : c.mutation = none) (htakes : S.Takes (of c [])) (s : Setting κ) :
    (S.Takes (of c []).count ∧
      (S.meaning naming (of c []).count s).value? =
        some (S.number (S.meaning naming (of c []) s).rows.length)) ↔
      if isRegrouped c then ∀ cte ∈ c.ctes, cte.isChange = false
      else
        c.lock = none ∧ (∀ w ∈ c.windows, S.readsRowWindow w = false) ∧
          (S.isAggregated c = true →
            (S.sourceRows naming c s).length = 1 ∧ S.keepsWhole naming c s = true) := by
  rw [count_of]
  cases hregrouped : isRegrouped c with
  | true => simp [S.takes_countedAround_iff htakes, S.value_of_wrapped naming hselect s]
  | false =>
      have hungrouped : c.Ungrouped := isRegrouped_eq_false_iff.1 hregrouped
      have hvalue := S.value_of_countedInPlace naming hselect hungrouped s
      have hrows := S.length_rows naming hselect hungrouped s
      simp only [Bool.false_eq_true, if_false, hvalue, hrows,
        S.takes_countedInPlace_iff hselect hungrouped htakes, and_assoc]
      refine and_congr_right fun _ => and_congr_right fun _ => ?_
      cases haggregated : S.isAggregated c with
      | true => cases S.keepsWhole naming c s <;> simp [S.number_injective.eq_iff]
      | false => simp [S.keepsWhole_of_rowwise naming haggregated]

/-- A database with two users. -/
def twoUsers : Setting (Option Nat) where
  tables path := if path = ["user"] then ⟨["id"], [[some 1], [some 2]]⟩ else ⟨[], []⟩
  outer := []

/-- The identifiers of all users. -/
def userIds : Query :=
  (Table.named "user").query.select [.ofColumn "id"]

theorem takes_userIds : Server.numbers.Takes userIds := by
  have haccepts : Server.numbers.Accepts userIds.clauses :=
    { lock := fun h => by cases h
      whole := fun h => by cases h }
  exact (Server.takes_iff _).2 ⟨fun _ => haccepts, List.forall_mem_nil _⟩

theorem count_counts_iff_userIds :
    Server.numbers.Takes userIds.count ∧
      (Server.numbers.meaning .verbatim userIds.count twoUsers).value? =
        some (Server.numbers.number
          (Server.numbers.meaning .verbatim userIds twoUsers).rows.length) :=
  (count_counts_iff Server.numbers .verbatim (c := userIds.clauses) rfl takes_userIds twoUsers).2
    ⟨rfl, List.forall_mem_nil _, fun h => by cases h⟩

/-- How many users there are, as a row. -/
def numberOfUsers : Query :=
  (Table.named "user").query.select [.aggregate .count none false none]

/-- The single row with the number of users is counted as if it were all of them. -/
theorem numberOfUsers_miscounted :
    numberOfUsers.count.compile {} =
      .ok ⟨"SELECT count(*) AS \"count\" FROM \"user\"", [], false⟩ ∧
    Server.numbers.Takes numberOfUsers ∧ Server.numbers.Takes numberOfUsers.count ∧
    (Server.numbers.meaning .verbatim numberOfUsers twoUsers).rows = [[some 2]] ∧
    (Server.numbers.meaning .verbatim numberOfUsers.count twoUsers).value? = some (some 2) := by
  -- nothing is selected but a count, in either query
  have haccepts : ∀ c : Clauses Query, c.lock = none → c.order = [] → c.windows = [] →
      (∃ name, c.select = [.aggregate .count none false name]) → Server.numbers.Accepts c := by
    rintro c hlock horder hwindows ⟨name, hselect⟩
    exact { lock := by simp [hlock]
            whole := by simp [horder, hwindows, hselect, Server.readsRowItem] }
  refine ⟨rfl, ?_, ?_, rfl, rfl⟩
  · exact (Server.takes_iff _).2
      ⟨fun _ => haccepts numberOfUsers.clauses rfl rfl rfl ⟨_, rfl⟩, List.forall_mem_nil _⟩
  · exact (Server.takes_iff _).2
      ⟨fun _ => haccepts numberOfUsers.count.clauses rfl rfl rfl ⟨_, rfl⟩, List.forall_mem_nil _⟩

end Query
end ParamSql
