import ParamSql.Proofs.Rows.Selection
import ParamSql.Proofs.Sql.JoinConditions

/-!
# Touched — the rows that a change affects

A change affects the rows of its table that, with some row of each joined source, pass its WHERE.  A
SELECT joins the sources one after another, with a condition behind each of them.

* `Server.holds_all_iff` — conditions hold together if each of them holds;
* `Server.combinations`, `Server.touched` — a row of each joined source, and the rows of a change;
* `Server.mem_join_rows_iff`, `Server.mem_joined_rows_iff` — what one join adds, and what all of
  them make;
* `Server.Scoped` — no condition of a join depends on the sources that are joined behind it;
* `Query.touches_joined_rows` — a change affects the rows of its table that are in a joined row of
  the SELECT, unless a cross join has a condition.
-/

namespace ParamSql

variable {κ Q : Type}

/-! ## Conditions together -/

theorem Truth.conjunction_eq_yes_iff (us : List Truth) :
    Truth.conjunction us = .yes ↔ ∀ u ∈ us, u = .yes := by
  have hand : ∀ u v : Truth, u.and v = .yes ↔ u = .yes ∧ v = .yes := by
    intro u v
    cases u <;> cases v <;> decide
  induction us with
  | nil => simp
  | cons u us ih => simp only [conjunction_cons, hand, List.forall_mem_cons, ih]

namespace Formula

variable {α : Type} {loose : α → Bool}

/-- Conditions that are confined together are confined in any part of them. -/
theorem confines_of_sublist {fs gs : List (Formula α)} (h : gs.Sublist fs)
    (hfs : (all fs).confines loose = true) : (all gs).confines loose = true := by
  simp only [confines, allConfine_eq, anyExposes_eq, Bool.and_eq_true, List.all_eq_true,
    Bool.or_eq_true, Bool.not_eq_true', decide_eq_true_eq, List.any_eq_false] at hfs ⊢
  refine ⟨fun g hg => hfs.1 g (h.subset hg), hfs.2.imp (fun hnone g hg => hnone g (h.subset hg))
    fun hone => ?_⟩
  exact (h.filter _).length_le.trans hone

theorem confines_of_mem {fs : List (Formula α)} {f : Formula α} (hf : f ∈ fs)
    (hfs : (all fs).confines loose = true) : f.confines loose = true := by
  simp only [confines, allConfine_eq, Bool.and_eq_true, List.all_eq_true] at hfs
  exact hfs.1 f hf

end Formula

namespace Server

variable [DecidableEq κ] (S : Server κ) {cs : Columns} {s : Setting κ}

/-- Conditions that confine the fragments with an OR hold together if each of them holds. -/
theorem holds_all_iff {fs : List (Formula (Predicate (Meaning κ)))}
    (h : (Formula.all fs).confines (Predicate.isLoose S.isLoose) = true) :
    S.holds cs s (.all fs) = true ↔ ∀ f ∈ fs, S.holds cs s f = true := by
  let value (f : Formula (Predicate (Meaning κ))) : Truth :=
    f.prune.value fun p => Truth.disjunction (S.predicateTerms cs s p)
  have hread : ∀ f, f.isEmpty = false → f.confines (Predicate.isLoose S.isLoose) = true →
      (S.holds cs s f = true ↔ value f = .yes) := by
    intro f hempty hconfines
    rw [holds, hempty, Formula.value_of_confines (fun p hp => S.exists_predicateTerms_eq p hp) f
      hempty hconfines]
    simp [value]
  -- only what is written matters, on both sides
  have hmembers : (∀ f ∈ fs, S.holds cs s f = true) ↔ ∀ f ∈ Formula.written fs, value f = .yes := by
    constructor
    · intro hall f hf
      rcases Formula.mem_written.1 hf with ⟨hmem, hwritten⟩
      exact (hread f hwritten (Formula.confines_of_mem hmem h)).1 (hall f hmem)
    · intro hall f hf
      cases hempty : f.isEmpty with
      | true => exact S.holds_of_isEmpty hempty
      | false =>
          exact (hread f hempty (Formula.confines_of_mem hf h)).2
            (hall f (Formula.mem_written.2 ⟨hf, hempty⟩))
  rw [hmembers]
  cases hempty : Formula.areEmpty fs with
  | true => simp [S.holds_of_isEmpty (f := .all fs) hempty, Formula.written_of_areEmpty hempty]
  | false =>
      rw [hread (.all fs) hempty h]
      simp only [value, Formula.value_prune_all, Truth.conjunction_eq_yes_iff, List.forall_mem_map]

end Server

/-! ## Joined sources -/

namespace Server

/-- A row of each of some joined sources. -/
def combinations (s : Setting κ) : List (Join (Meaning κ)) → List (JoinedRow κ)
  | [] => [[]]
  | j :: js => (j.source.bindings s).flatMap fun b => (combinations s js).map fun row => b :: row

theorem mem_combinations_cons {s : Setting κ} {j : Join (Meaning κ)} {js : List (Join (Meaning κ))}
    {row : JoinedRow κ} :
    row ∈ combinations s (j :: js) ↔
      ∃ b ∈ j.source.bindings s, ∃ rest ∈ combinations s js, row = b :: rest := by
  simp [combinations, eq_comm]

variable [DecidableEq κ] (S : Server κ) {cs : Columns} {s : Setting κ}

/-- An inner or cross join keeps the rows with a match only. -/
theorem mem_join_rows_iff {left : Joined κ} {j : Join (Meaning κ)}
    (h : j.kind = .inner ∨ j.kind = .cross) {row : JoinedRow κ} :
    row ∈ (S.join cs s left j).rows ↔
      ∃ first ∈ left.rows, ∃ b ∈ j.source.bindings s, row = first ++ [b] ∧
        S.passes cs s j row = true := by
  have hleft : j.kind.keepsLeft = false := by rcases h with h | h <;> rw [h] <;> rfl
  have hright : j.kind.keepsRight = false := by rcases h with h | h <;> rw [h] <;> rfl
  simp only [join, hleft, hright, Bool.false_and, List.filter_false, List.map_nil, List.append_nil,
    List.mem_flatMap, List.mem_map, List.mem_filter]
  constructor
  · rintro ⟨first, hfirst, b, ⟨hb, hpasses⟩, rfl⟩
    exact ⟨first, hfirst, b, hb, rfl, hpasses⟩
  · rintro ⟨first, hfirst, b, hb, rfl, hpasses⟩
    exact ⟨first, hfirst, b, ⟨hb, hpasses⟩, rfl⟩

/-- With some rows of its sources, a chain of joins passes the condition of each join where it
stands. -/
def PassesAll (cs : Columns) (s : Setting κ) :
    List (Join (Meaning κ)) → JoinedRow κ → JoinedRow κ → Prop
  | [], _, _ => True
  | j :: js, first, b :: rest =>
      S.passes cs s j (first ++ [b]) = true ∧ PassesAll cs s js (first ++ [b]) rest
  | _ :: _, _, [] => False

/-- What inner and cross joins make of some rows. -/
theorem mem_joined_rows_iff {js : List (Join (Meaning κ))}
    (h : ∀ j ∈ js, j.kind = .inner ∨ j.kind = .cross) {left : Joined κ} {row : JoinedRow κ} :
    row ∈ (js.foldl (S.join cs s) left).rows ↔
      ∃ first ∈ left.rows, ∃ rest ∈ combinations s js, row = first ++ rest ∧
        S.PassesAll cs s js first rest := by
  -- by induction on the joins, the first one of which extends the rows on the left
  induction js generalizing left with
  | nil => simp [combinations, PassesAll]
  | cons j js ih =>
      rw [List.foldl_cons, ih fun k hk => h k (List.mem_cons_of_mem _ hk)]
      have hfirst : j.kind = .inner ∨ j.kind = .cross := h j List.mem_cons_self
      constructor
      · rintro ⟨front, hfront, rest, hrest, rfl, hpasses⟩
        obtain ⟨first, hleft, b, hb, rfl, hj⟩ := (S.mem_join_rows_iff hfirst).1 hfront
        exact ⟨first, hleft, b :: rest, mem_combinations_cons.2 ⟨b, hb, rest, hrest, rfl⟩,
          by simp, hj, hpasses⟩
      · rintro ⟨first, hleft, more, hmore, rfl, hpasses⟩
        obtain ⟨b, hb, rest, hrest, rfl⟩ := mem_combinations_cons.1 hmore
        exact ⟨first ++ [b], (S.mem_join_rows_iff hfirst).2 ⟨first, hleft, b, hb, rfl, hpasses.1⟩,
          rest, hrest, by simp, hpasses.2⟩

/-! ## Conditions that stand ahead of other sources -/

/-- The condition of each of some joins holds just as well with rows of the sources that are joined
behind it, whichever of the rows on the left they are joined to. -/
def Scoped (cs : Columns) (s : Setting κ) : List (Join (Meaning κ)) → List (JoinedRow κ) → Prop
  | [], _ => True
  | j :: js, left =>
      let rows := left.flatMap fun row => (j.source.bindings s).map fun b => row ++ [b]
      (∀ f ∈ j.on, ∀ row ∈ rows, ∀ rest ∈ combinations s js,
        S.holds cs (s.within [row ++ rest]) f = S.holds cs (s.within [row]) f) ∧
      Scoped cs s js rows

/-- Then all conditions can be put behind all sources, if no cross join has a condition. -/
theorem passesAll_iff {js : List (Join (Meaning κ))}
    (hcross : ∀ j ∈ js, j.kind = .cross → j.demanded = none) {left : List (JoinedRow κ)}
    (hscoped : S.Scoped cs s js left) {first rest : JoinedRow κ} (hfirst : first ∈ left)
    (hrest : rest ∈ combinations s js) :
    S.PassesAll cs s js first rest ↔
      ∀ f ∈ js.filterMap Join.on, S.holds cs (s.within [first ++ rest]) f = true := by
  induction js generalizing left first rest with
  | nil => simp [PassesAll]
  | cons j js ih =>
      obtain ⟨b, hb, rest, hmore, rfl⟩ := mem_combinations_cons.1 hrest
      obtain ⟨hj, hjs⟩ := hscoped
      have hrow : first ++ [b] ∈ left.flatMap fun row =>
          (j.source.bindings s).map fun b => row ++ [b] :=
        List.mem_flatMap.2 ⟨first, hfirst, List.mem_map_of_mem hb⟩
      have htail := ih (fun k hk => hcross k (List.mem_cons_of_mem _ hk)) hjs hrow hmore
      have hhead : S.passes cs s j (first ++ [b]) = true ↔
          ∀ f ∈ j.on, S.holds cs (s.within [first ++ b :: rest]) f = true := by
        have hbehind : first ++ b :: rest = (first ++ [b]) ++ rest := by simp
        unfold passes
        by_cases hkind : j.kind = .cross
        · -- there is nothing to pass behind a cross join, and nothing to hold
          have hempty := Join.demanded_eq_none_iff.1 (hcross j List.mem_cons_self hkind)
          simp only [hkind, decide_true, Bool.true_or, true_iff]
          exact fun f hf => S.holds_of_isEmpty (hempty f hf)
        · simp only [hkind, decide_false, Bool.false_or, Option.all_eq_true]
          refine forall₂_congr fun f hf => ?_
          rw [hbehind, hj f hf _ hrow rest hmore]
      have hcons : ∀ P : Formula (Predicate (Meaning κ)) → Prop,
          (∀ f ∈ (j :: js).filterMap Join.on, P f) ↔
            (∀ f ∈ j.on, P f) ∧ ∀ f ∈ js.filterMap Join.on, P f := by
        intro P
        rw [List.filterMap_cons]
        cases j.on <;> simp
      rw [PassesAll, htail, hhead, hcons, List.append_assoc]
      rfl

/-! ## Changes -/

/-- The rows of the table of a change that it affects: those that, with some rows of its joined
sources, pass its WHERE.  No common table expression hides the table itself. -/
def touched (naming : Naming) (c : Clauses (Meaning κ)) (s : Setting κ) : List (List κ) :=
  match c.table? with
  | none => []
  | some t =>
      let target := s.tables (pathParts t.path)
      let s' := S.inside c s
      target.rows.filter fun cells => (combinations s' c.joins).any fun rest =>
        S.holds (c.columns naming) (s'.within [⟨t.name, target.columns, cells⟩ :: rest])
          (.all (c.joins.filterMap Join.on ++ c.filters))

/-- The rows of its table that a change affects, whose inner queries have their own rows. -/
def touchedRows (naming : Naming) (c : Clauses Query) (s : Setting κ) : List (List κ) :=
  S.touched naming (c.map (S.meaning naming)) s

/-- The conditions of the joins of a statement say the same behind the joins and in the WHERE of a
change of the table `t`. -/
structure ReadsAlike (naming : Naming) (c : Clauses (Meaning κ)) (s : Setting κ) (t : TableInfo) :
    Prop where
  /-- A SELECT is about the table itself. -/
  visible : pathParts t.path ∉ c.ctes.map fun cte => [cte.name]
  /-- No AND stands beside a fragment with an OR. -/
  confined : (Formula.all (c.joins.filterMap Join.on ++ c.filters)).confines
    (Predicate.isLoose S.isLoose) = true
  scope : S.Scoped (c.columns naming) (S.inside c s) c.joins (S.start c (S.inside c s)).rows

omit [DecidableEq κ] in
/-- A SELECT starts with the rows of the table itself, unless a common table expression hides it. -/
theorem start_rows_of_visible {c : Clauses (Meaning κ)} {s : Setting κ} {t : TableInfo}
    (ht : c.table? = some t) (hvisible : pathParts t.path ∉ c.ctes.map fun cte => [cte.name]) :
    (S.start c (S.inside c s)).rows =
      ((s.tables (pathParts t.path)).bindings t.name).map fun b => [b] := by
  have hsource : c.source = .table t := by
    unfold Clauses.table? at ht
    split at ht <;> simp_all
  have htables : (S.inside c s).tables (pathParts t.path) = s.tables (pathParts t.path) :=
    S.define_of_notMem _ _ _ hvisible
  simp only [start, hsource, htables]

/-- What the WHERE of a change asks of some rows is what the joins and the WHERE of a SELECT do. -/
theorem holds_change_iff {naming : Naming} {c : Clauses (Meaning κ)} {s : Setting κ} {t : TableInfo}
    (hcross : ∀ j ∈ c.joins, j.kind = .cross → j.demanded = none)
    (halike : S.ReadsAlike naming c s t) {b : Binding κ} {rest : JoinedRow κ}
    (hb : [b] ∈ (S.start c (S.inside c s)).rows)
    (hrest : rest ∈ combinations (S.inside c s) c.joins) :
    S.holds (c.columns naming) ((S.inside c s).within [b :: rest])
        (.all (c.joins.filterMap Join.on ++ c.filters)) = true ↔
      S.PassesAll (c.columns naming) (S.inside c s) c.joins [b] rest ∧
        S.holds (c.columns naming) ((S.inside c s).within [b :: rest]) (.all c.filters) = true := by
  have hfilters := Formula.confines_of_sublist (List.sublist_append_right _ _) halike.confined
  rw [S.holds_all_iff halike.confined, List.forall_mem_append, S.holds_all_iff hfilters,
    S.passesAll_iff hcross halike.scope hb hrest, List.singleton_append]

/-- A change affects the rows of its table that a SELECT joins to others. -/
theorem touched_eq {naming : Naming} {c : Clauses (Meaning κ)} {s : Setting κ} {t : TableInfo}
    (ht : c.table? = some t) (hjoins : ∀ j ∈ c.joins, j.kind = .inner ∨ j.kind = .cross)
    (hcross : ∀ j ∈ c.joins, j.kind = .cross → j.demanded = none)
    (halike : S.ReadsAlike naming c s t) :
    let target := s.tables (pathParts t.path)
    S.touched naming c s = target.rows.filter fun cells =>
      (S.matched (c.columns naming) c (S.inside c s)).any fun row =>
        row.head? = some ⟨t.name, target.columns, cells⟩ := by
  intro target
  let s' := S.inside c s
  have hstart : (S.start c s').rows = (target.bindings t.name).map fun b => [b] :=
    S.start_rows_of_visible ht halike.visible
  simp only [touched, ht]
  refine List.filter_congr fun cells hcells => ?_
  let b : Binding κ := ⟨t.name, target.columns, cells⟩
  have hb : [b] ∈ (S.start c s').rows := by
    rw [hstart]
    exact List.mem_map_of_mem (List.mem_map_of_mem hcells)
  rw [Bool.eq_iff_iff, List.any_eq_true, List.any_eq_true]
  constructor
  · rintro ⟨rest, hrest, hholds⟩
    obtain ⟨hpasses, hfilters⟩ := (S.holds_change_iff hcross halike hb hrest).1 hholds
    refine ⟨b :: rest, List.mem_filter.2 ⟨?_, hfilters⟩, by simp [b]⟩
    exact (S.mem_joined_rows_iff hjoins).2 ⟨[b], hb, rest, hrest, rfl, hpasses⟩
  · rintro ⟨row, hrow, hhead⟩
    obtain ⟨hjoined, hfilters⟩ := List.mem_filter.1 hrow
    obtain ⟨first, hfirst, rest, hrest, rfl, hpasses⟩ := (S.mem_joined_rows_iff hjoins).1 hjoined
    rw [hstart] at hfirst
    obtain ⟨b', -, rfl⟩ := List.mem_map.1 hfirst
    -- the table has a single row in each row of the joins
    obtain rfl : b' = b := by simpa using hhead
    exact ⟨rest, hrest, (S.holds_change_iff hcross halike hb hrest).2 ⟨hpasses, hfilters⟩⟩

end Server

/-! ## Queries -/

theorem Join.demanded_map {R : Type} (f : Q → R) (j : Join Q) :
    (j.map f).demanded = j.demanded.map (Formula.map (Predicate.map f)) := by
  unfold Join.demanded
  rcases j with ⟨kind, source, on⟩
  cases on with
  | none => rfl
  | some g => cases hg : g.isEmpty <;> simp [Join.map, Option.filter_some, hg]

namespace Query

/-- A SELECT has each condition of its joins behind the join, and a change has all of them ahead of
the other items of its WHERE: these are the same conditions just if no cross join has one with a
predicate.  Then the change affects those rows of its table that are in a row of the joins that the
SELECT is made of, wherever the conditions say the same in both places. -/
theorem touches_joined_rows (naming : Naming) (c : Clauses Query)
    (hjoins : ∀ j ∈ c.joins, j.kind = .inner ∨ j.kind = .cross) {m : Mutation Query}
    (hchange : Clauses.isChange { c with mutation := some m } = true) :
    let select : Clauses Query := { c with mutation := none }
    let change : Clauses Query := { c with mutation := some m }
    (∀ inCte ls, (statement naming inCte select : Rendering (List Lexeme)).result = .ok ls →
      ∃ parts : FilterParts naming inCte select, ls = parts.lexemes ∧ ∃ front joins,
        parts.head = front ++ joins.flatten ∧
          List.Forall₂ (WrittenJoin naming select) c.joins joins) ∧
    (∀ inCte ls, (statement naming inCte change : Rendering (List Lexeme)).result = .ok ls →
      ∃ parts : FilterParts naming inCte change, ls = parts.lexemes ∧ ∃ ons asked,
        parts.asked = ons ++ asked ∧ WrittenAs naming change (c.joins.filterMap Join.on) ons ∧
          WrittenAs naming change c.conditions asked) ∧
    (c.joins.filterMap Join.kept = Formula.written (c.joins.filterMap Join.on) ↔
      ∀ j ∈ c.joins, j.kind = .cross → j.demanded = none) ∧
    ((∀ j ∈ c.joins, j.kind = .cross → j.demanded = none) →
      ∀ {κ : Type} [DecidableEq κ] (S : Server κ) (s : Setting κ) (t : TableInfo),
        c.table? = some t → S.ReadsAlike naming (change.map (S.meaning naming)) s t →
          let target := s.tables (pathParts t.path)
          S.touchedRows naming change s = target.rows.filter fun cells =>
            (S.sourceRows naming select s).any fun row =>
              row.head? = some ⟨t.name, target.columns, cells⟩) := by
  intro select change
  refine ⟨?select, ?change, ?conditions, ?rows⟩
  case select =>
    intro inCte ls hls
    rcases exists_filterParts (c := select) rfl hls with ⟨parts, rfl⟩
    exact ⟨parts, rfl, exists_writtenJoins rfl parts⟩
  case change =>
    intro inCte ls hls
    have hinsertion : change.isInsertion = false := by
      cases m <;> first | rfl | cases hchange
    rcases exists_filterParts hinsertion hls with ⟨parts, rfl⟩
    -- what is asked of the rows of a change begins with the conditions of its joins
    have hall : WrittenAs naming change (c.joins.filterMap Join.on ++ c.conditions) parts.asked :=
      parts.asked_eq
    rcases hall.exists_append with ⟨ons, asked, hasked, hons, hconditions⟩
    exact ⟨parts, rfl, ons, asked, hasked, hons, hconditions⟩
  case conditions =>
    rw [Join.written_filterMap_on]
    exact Join.filterMap_kept_eq_iff c.joins
  case rows =>
    intro hcross κ _ S s t ht halike
    let d := change.map (S.meaning naming)
    have htable : d.table? = some t := (Clauses.table?_map _ change).trans ht
    have hkinds : ∀ j ∈ d.joins, j.kind = .inner ∨ j.kind = .cross :=
      List.forall_mem_map.2 hjoins
    have hnone : ∀ j ∈ d.joins, j.kind = .cross → j.demanded = none := by
      refine List.forall_mem_map.2 fun j hj hkind => ?_
      rw [Join.demanded_map, hcross j hj hkind]
      rfl
    exact S.touched_eq htable hkinds hnone halike

/-- The orders of accounts that have been closed. -/
def closedOrders : Query :=
  ((Table.named "order").query.joinTable .inner "account"
    (some (Condition.columnsEq "account.id" "order.account"))).filter
      (Condition.compare "account.closed" .eq (.value (.int 1)))

/-- A database with three orders of two accounts, one of which has been closed. -/
def threeOrders : Setting (Option Nat) where
  tables path :=
    if path = ["order"] then
      ⟨["id", "account"], [[some 1, some 10], [some 2, some 20], [some 3, some 10]]⟩
    else ⟨["id", "closed"], [[some 10, some 1], [some 20, some 0]]⟩
  outer := []

/-- A query that compiles to a single statement is written. -/
theorem exists_statement {c : Clauses Query} (h : ∃ compiled, (of c []).compile {} = .ok compiled) :
    ∃ ls, (statement .verbatim false c : Rendering (List Lexeme)).result = .ok ls := by
  rcases h with ⟨compiled, h⟩
  rcases compile_eq_ok_iff.1 h with ⟨ls, hls, -⟩
  exact ⟨ls, hls⟩

theorem touches_joined_rows_closedOrders :
    let select : Clauses Query := { closedOrders.clauses with mutation := none }
    let change : Clauses Query := { closedOrders.clauses with mutation := some (.delete true) }
    (∃ parts : FilterParts .verbatim false select, ∃ front joins,
      (statement .verbatim false select : Rendering (List Lexeme)).result = .ok parts.lexemes ∧
        parts.head = front ++ joins.flatten ∧
          List.Forall₂ (WrittenJoin .verbatim select) closedOrders.clauses.joins joins) ∧
    (∃ parts : FilterParts .verbatim false change, ∃ ons asked,
      (statement .verbatim false change : Rendering (List Lexeme)).result = .ok parts.lexemes ∧
        parts.asked = ons ++ asked ∧
          WrittenAs .verbatim change (closedOrders.clauses.joins.filterMap Join.on) ons) ∧
    Server.numbers.touchedRows .verbatim change threeOrders =
      (threeOrders.tables ["order"]).rows.filter fun cells =>
        (Server.numbers.sourceRows .verbatim select threeOrders).any fun row =>
          row.head? = some ⟨"order", ["id", "account"], cells⟩ := by
  have hselected : ∃ compiled,
      (of { closedOrders.clauses with mutation := none } []).compile {} = .ok compiled := ⟨_, rfl⟩
  have hchanged : ∃ compiled,
      (of { closedOrders.clauses with mutation := some (.delete true) } []).compile {} =
        .ok compiled := ⟨_, rfl⟩
  intro select change
  have hjoins : ∀ j ∈ closedOrders.clauses.joins, j.kind = .inner ∨ j.kind = .cross := by
    intro j hj
    obtain rfl := List.mem_singleton.1 hj
    exact .inl rfl
  have hcross : ∀ j ∈ closedOrders.clauses.joins, j.kind = .cross → j.demanded = none := by
    intro j hj hkind
    obtain rfl := List.mem_singleton.1 hj
    cases hkind
  have halike : Server.numbers.ReadsAlike .verbatim
      (change.map (Server.numbers.meaning .verbatim)) threeOrders { name := "order" } :=
    { visible := List.not_mem_nil
      confined := Formula.confines_of_tight (fun p => by cases p <;> rfl) _
      scope := by
        -- nothing is joined behind the accounts
        refine ⟨fun f _ row _ rest hrest => ?_, trivial⟩
        obtain rfl := List.mem_singleton.1 hrest
        rw [List.append_nil] }
  obtain ⟨hselect, hchange, -, hrows⟩ :=
    touches_joined_rows .verbatim closedOrders.clauses hjoins (m := .delete true) rfl
  refine ⟨?_, ?_, hrows hcross Server.numbers threeOrders { name := "order" } rfl halike⟩
  · obtain ⟨ls, hls⟩ := exists_statement hselected
    obtain ⟨parts, rfl, front, joins, hhead, hwritten⟩ := hselect false ls hls
    exact ⟨parts, front, joins, hls, hhead, hwritten⟩
  · obtain ⟨ls, hls⟩ := exists_statement hchanged
    obtain ⟨parts, rfl, ons, asked, hasked, hons, -⟩ := hchange false ls hls
    exact ⟨parts, ons, asked, hls, hasked, hons⟩

/-- Rows of `a` beside those of `b`, if they agree. -/
def crossJoined : Query :=
  (Table.named "a").query.join ⟨.cross, .table "b" none, some (Condition.columnsEq "b.x" "a.x")⟩

/-- A database in which one of two rows of `a` agrees with the row of `b`. -/
def oneAgrees : Setting (Option Nat) where
  tables path := if path = ["a"] then ⟨["x"], [[some 1], [some 2]]⟩ else ⟨["x"], [[some 1]]⟩
  outer := []

/-- A row is previewed that is not deleted. -/
theorem crossJoined_disagrees :
    crossJoined.compile {} = .ok ⟨"SELECT \"a\".* FROM \"a\" CROSS JOIN \"b\"", [], false⟩ ∧
    (crossJoined.delete true).compile {} =
      .ok ⟨"DELETE FROM \"a\" USING \"b\" WHERE \"b\".\"x\" = \"a\".\"x\"", [], false⟩ ∧
    (Server.numbers.meaning .verbatim crossJoined oneAgrees).rows = [[some 1], [some 2]] ∧
    Server.numbers.touchedRows .verbatim (crossJoined.delete true).clauses oneAgrees = [[some 1]] :=
  ⟨rfl, rfl, rfl, rfl⟩

end Query
end ParamSql
