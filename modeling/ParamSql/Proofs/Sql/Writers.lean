import ParamSql.Proofs.Query.Subquery
import ParamSql.Proofs.Sql.Condition
import ParamSql.Proofs.Sql.Correspondence

/-!
# Writers — the parts of a statement respect correspondences

For each function that writes a part of a statement there is one lemma: given a part with its inner
queries rendered by `ρ`, and the same part with other values and its inner queries rendered by `ρ'`,
what is written to the two outputs is related, and the inner queries that stand in it are the
subqueries of the part.

* `Correspondence.predicate`, `Correspondence.condition`, `Correspondence.clauseOf` — conditions, by
  induction on the formula;
* `Correspondence.items`, `Correspondence.orderEntry`, `Correspondence.window` — the parts of a
  select list and of the clauses behind it;
* `Correspondence.joinSource`, `Correspondence.join`, `Correspondence.cte`, `Correspondence.lock` —
  where rows come from.
-/

namespace ParamSql
namespace Correspondence

variable {Q ω ω' : Type} [Output ω] [Output ω'] [LawfulOutput ω] [LawfulOutput ω']
variable {C : Correspondence Q ω ω'} {ρ : Q → Rendering ω} {ρ' : Q → Rendering ω'} {cs : Columns}

/-! ## Columns and operands -/

omit [LawfulOutput ω] [LawfulOutput ω'] in
theorem target {column : String} (h : C.names column) :
    C.led [] (cs.target column) (cs.target column) :=
  C.physical cs.naming h

theorem targets {columns : List String} (h : ∀ column ∈ columns, C.names column) :
    C.led [] (cs.targets columns) (cs.targets columns) := by
  apply commas_plain
  intro column hcolumn
  exact target (h column hcolumn)

theorem reference (hcs : C.Qualifies cs) {c : ColumnRef} (h : C.Refers c) :
    C.led [] (cs.reference c) (cs.reference c) := by
  rcases h with ⟨htable, hname⟩
  have hcolumn : C.led [] (if c.isStar then .fixed "*" else cs.target c.name)
      (if c.isStar then .fixed "*" else cs.target c.name) := by
    cases c.isStar with
    | true => exact C.constant (by simp [constants])
    | false => exact target hname
  unfold Columns.reference
  -- the table is the one that the column names, and that of the statement otherwise
  cases horigin : c.table.or cs.qualifier with
  | none => exact hcolumn
  | some table =>
      have hpath : C.paths table := by
        rcases Option.or_eq_some_iff.1 horigin with hown | ⟨-, hdefault⟩
        · exact htable table hown
        · exact hcs table hdefault
      simpa only [Rendering.append_assoc] using C.column hpath hcolumn

theorem references (hcs : C.Qualifies cs) {columns : List ColumnRef}
    (h : ∀ c ∈ columns, C.Refers c) : C.led [] (cs.references columns) (cs.references columns) := by
  apply commas_plain
  intro c hc
  exact reference hcs (h c hc)

theorem operand (hcs : C.Qualifies cs) {o : Operand Q}
    (h : ∀ i ∈ o.ingredients, C.Admits ρ ρ' i) :
    C.led o.subqueries (cs.operand (o.map ρ)) (cs.operand ((o.revalue C.values).map ρ')) := by
  cases o with
  | column c => exact reference hcs (refers h)
  | value v => exact C.bind v
  | fragment f => exact C.fragment (h (.fragment f) (by simp [Operand.ingredients]))
  | query q =>
      have hq : C.begun [q] (ρ q) (ρ' q) := h (.query q) (by simp [Operand.ingredients])
      exact C.led_of_free (bracketed (C.led_of_begun hq))

/-! ## Conditions -/

theorem predicate (hcs : C.Qualifies cs) {p : Predicate Q}
    (h : ∀ i ∈ p.ingredients, C.Admits ρ ρ' i) :
    C.led p.subqueries (cs.predicate (p.map ρ))
      (cs.predicate ((p.revalue C.values).map ρ')) := by
  cases p with
  | compare c op o =>
      rcases List.forall_mem_append.1 h with ⟨hc, ho⟩
      exact append_opening (reference hcs (refers hc)) op.sql_mem (operand hcs ho)
  | nullCheck c isNull =>
      have hkeyword : (if isNull then " IS NULL" else " IS NOT NULL") ∈ closers := by
        cases isNull <;> simp [closers]
      exact led_append_left (reference hcs (refers h)) (C.closing hkeyword)
  | inList c values negated =>
      have hkeyword : (if negated then " NOT IN (" else " IN (") ∈ openers := by
        cases negated <;> simp [openers]
      have hvalues : C.led [] (.commas (values.map .bind))
          (.commas (values.map fun v => .bind (C.values.value v))) :=
        commas_plain fun v _ => C.bind v
      have hopened := append_opening (reference hcs (refers h)) hkeyword hvalues
      have hlist := led_append_left hopened (C.closing (s := ")") (by simp [closers]))
      unfold Columns.predicate
      simp only [Predicate.map, Predicate.revalue, List.map_map, List.isEmpty_map]
      -- an empty list of values is written as a constant
      cases values.isEmpty with
      | true => exact C.constant (by cases negated <;> simp [constants])
      | false => exact hlist
  | inQuery c q negated =>
      rcases List.forall_mem_append.1 h with ⟨hc, hq⟩
      have hq : C.begun [q] (ρ q) (ρ' q) := hq (.query q) (by simp)
      have hkeyword : (if negated then " NOT IN (" else " IN (") ∈ openers := by
        cases negated <;> simp [openers]
      have hopened := append_opening (reference hcs (refers hc)) hkeyword (C.led_of_begun hq)
      exact led_append_left hopened (C.closing (by simp [closers]))
  | existence q negated =>
      have hq : C.begun [q] (ρ q) (ρ' q) := h (.query q) (by simp [Predicate.ingredients])
      have hkeyword : (if negated then "NOT EXISTS (" else "EXISTS (") ∈ starters := by
        cases negated <;> simp [starters]
      have hopened := C.starting hkeyword (C.led_of_begun hq)
      exact led_append_left (C.led_of_begun hopened) (C.closing (by simp [closers]))
  | between c low high negated =>
      have hkeyword : (if negated then " NOT BETWEEN " else " BETWEEN ") ∈ openers := by
        cases negated <;> simp [openers]
      have hlow := append_opening (reference hcs (refers h)) hkeyword (C.bind low)
      exact append_opening (s := " AND ") hlow (by simp [openers]) (C.bind high)
  | fragment f => exact C.fragment (h (.fragment f) (by simp [Predicate.ingredients]))
  | constant b => exact C.constant (by cases b <;> simp [constants])

/-- The members that are not written have no queries in them. -/
theorem flatMap_written (fs : List (Formula (Predicate Q))) :
    (Formula.written fs).flatMap Formula.subqueries = fs.flatMap Formula.subqueries := by
  induction fs with
  | nil => rfl
  | cons f fs ih =>
      cases hf : f.isEmpty with
      | true =>
          have hatoms : f.atoms = [] := Formula.atoms_of_isEmpty hf
          simpa [Formula.written, hf, Formula.subqueries, hatoms] using ih
      | false => simpa [Formula.written, hf] using ih

section Conditions

variable {g : Predicate Q → Predicate (Rendering ω)} {g' : Predicate Q → Predicate (Rendering ω')}
variable {s : String}

/-- A group is led by what leads its members. -/
theorem members (needed : {R : Type} → Formula (Predicate R) → Bool) (hs : s ∈ openers)
    (hneeded : ∀ {R : Type} (g : Predicate Q → Predicate R) f, needed (f.map g) = needed f)
    {fs : List (Formula (Predicate Q))}
    (h : ∀ f ∈ fs, C.led f.subqueries (cs.condition (f.map g)) (cs.condition (f.map g'))) :
    C.led (fs.flatMap Formula.subqueries)
      (.separated s ((Formula.written (fs.map (Formula.map g))).map (cs.member needed)))
      (.separated s ((Formula.written (fs.map (Formula.map g'))).map (cs.member needed))) := by
  simp only [Formula.written_map, List.map_map, ← flatMap_written fs]
  apply separated hs
  intro f hf
  have hmember := h f (List.mem_filter.1 hf).1
  simp only [Function.comp_apply, Columns.member, hneeded]
  cases needed f with
  | true => exact C.led_of_free (bracketed hmember)
  | false => exact hmember

/-- A condition whose predicates are related. -/
theorem condition {f : Formula (Predicate Q)}
    (h : ∀ p ∈ f.atoms, C.led p.subqueries (cs.predicate (g p)) (cs.predicate (g' p))) :
    C.led f.subqueries (cs.condition (f.map g)) (cs.condition (f.map g')) := by
  -- by induction on the formula; only a predicate may begin with a fragment
  induction f using Formula.induction with
  | atom p =>
      have hp := h p (by simp [Formula.atoms])
      simpa [Formula.map, Formula.subqueries, Formula.atoms] using hp
  | not f ih =>
      have hopened := C.starting (s := "NOT (") (by simp [starters]) (ih h)
      simp only [Formula.map, Columns.condition_not]
      exact led_append_left (C.led_of_begun hopened) (C.closing (by simp [closers]))
  | all fs ih =>
      -- the members are related one by one, and those in brackets are free
      have hfs := fun f hf => ih f hf fun p hp => h p (Formula.mem_atoms_of_mem hf hp)
      simpa only [Formula.map, Formula.mapList_eq_map, Columns.condition_all,
        Formula.subqueries_all]
        using members Formula.isAny (s := " AND ") (by simp [openers]) (by simp) hfs
  | any fs ih =>
      have hfs := fun f hf => ih f hf fun p hp => h p (Formula.mem_atoms_of_mem hf hp)
      simpa only [Formula.map, Formula.mapList_eq_map, Columns.condition_any,
        Formula.subqueries_any]
        using members Formula.isAll (s := " OR ") (by simp [openers]) (by simp) hfs

/-- A list of conditions behind its keyword. -/
theorem clauseOfPredicates (hs : s ∈ openers) {fs : List (Formula (Predicate Q))}
    (h : ∀ f ∈ fs, ∀ p ∈ f.atoms,
      C.led p.subqueries (cs.predicate (g p)) (cs.predicate (g' p))) :
    C.free (fs.flatMap Formula.subqueries) (cs.clauseOf s (fs.map (Formula.map g)))
      (cs.clauseOf s (fs.map (Formula.map g'))) := by
  have hall := members Formula.isAny (s := " AND ") (by simp [openers]) (by simp)
    fun f hf => condition (h f hf)
  unfold Columns.clauseOf
  simp only [Formula.areEmpty_map, Columns.condition_all]
  cases hempty : Formula.areEmpty fs with
  -- no condition is written, so that no query of one is
  | true =>
      have hnone : fs.flatMap Formula.subqueries = [] := by
        rw [← flatMap_written, Formula.written_of_areEmpty hempty, List.flatMap_nil]
      exact free_cast C.nothing hnone.symm
  | false => exact C.opening hs hall

end Conditions

/-- The predicates of a condition whose ingredients are admitted. -/
theorem predicates (hcs : C.Qualifies cs) {f : Formula (Predicate Q)}
    (h : ∀ i ∈ f.ingredients, C.Admits ρ ρ' i) :
    ∀ p ∈ f.atoms, C.led p.subqueries (cs.predicate (p.map ρ))
      (cs.predicate ((p.revalue C.values).map ρ')) :=
  fun p hp => predicate hcs fun i hi => h i (List.mem_flatMap.2 ⟨p, hp, hi⟩)

theorem clauseOf (hcs : C.Qualifies cs) {s : String} (hs : s ∈ openers)
    {fs : List (Formula (Predicate Q))} (h : ∀ f ∈ fs, ∀ i ∈ f.ingredients, C.Admits ρ ρ' i) :
    C.free (fs.flatMap Formula.subqueries)
      (cs.clauseOf s (fs.map (Formula.map (Predicate.map ρ))))
      (cs.clauseOf s ((fs.map (Formula.map (Predicate.revalue C.values))).map
        (Formula.map (Predicate.map ρ')))) := by
  simp only [List.map_map, Formula.map_comp]
  exact clauseOfPredicates hs fun f hf => predicates hcs (h f hf)

/-! ## Rows -/

omit [LawfulOutput ω] [LawfulOutput ω'] in
theorem itemName {name : Option String} (h : ∀ s ∈ name, C.names s) :
    C.free [] (Columns.itemName name) (Columns.itemName name) := by
  cases name with
  | none => exact C.nothing
  | some s => exact C.opening (by simp [openers]) (C.name (h s rfl))

omit [LawfulOutput ω] [LawfulOutput ω'] in
theorem itemName_some {name : String} (h : C.names name) :
    C.free [] (Columns.itemName (some name)) (Columns.itemName (some name)) := by
  apply itemName
  intro s hs
  exact Option.mem_some.1 hs ▸ h

/-- A column with its name. -/
theorem namedColumn (hcs : C.Qualifies cs) {c : ColumnRef} (h : C.Refers c) {name : Option String}
    (hname : ∀ s ∈ name, C.names s) :
    C.led [] (cs.reference c ++ Columns.itemName (cs.columnName c name))
      (cs.reference c ++ Columns.itemName (cs.columnName c name)) := by
  refine led_append_left (reference hcs h) (itemName fun s hs => ?_)
  cases name with
  | some given =>
      cases hs
      exact hname s rfl
  | none =>
      -- a column without a name gets its own, where the physical one differs
      simp only [Columns.columnName] at hs
      split at hs
      · cases hs
        exact h.2
      · cases hs

theorem item (hcs : C.Qualifies cs) {i : SelectItem Q}
    (h : ∀ j ∈ i.ingredients, C.Admits ρ ρ' j) :
    C.led i.subqueries (cs.item (i.map ρ)) (cs.item ((i.revalue C.values).map ρ')) := by
  cases i with
  | column c name =>
      rcases List.forall_mem_append.1 h with ⟨hc, hname⟩
      exact namedColumn hcs (refers hc) fun s hs => admits_names.1 hname s (by simpa using hs)
  | fragment f name =>
      rcases List.forall_mem_cons.1 h with ⟨hf, hname⟩
      have hgiven : ∀ s ∈ name, C.names s := fun s hs =>
        admits_names.1 hname s (by simpa using hs)
      exact led_append_left (C.fragment hf) (itemName hgiven)
  | aggregate function c isDistinct name =>
      rcases List.forall_mem_append.1 h with ⟨hc, hname⟩
      have hgiven : ∀ s ∈ name, C.names s := fun s hs =>
        admits_names.1 hname s (by simpa using hs)
      -- whether of a column or of all rows
      have hcall {x y} (hargument : C.led [] x y) :=
        led_append_left
          (led_append_left (C.led_of_begun (C.starting (function.sql_mem isDistinct) hargument))
            (C.closing (s := ")") (by simp [closers])))
          (itemName hgiven)
      cases c with
      | none => exact hcall (C.constant (by simp [constants]))
      | some c => exact hcall (reference hcs (refers (by simpa using hc)))
  | window call w name =>
      rcases List.forall_mem_cons.1 h with ⟨hcall, hrest⟩
      rcases List.forall_mem_cons.1 hrest with ⟨hover, hname⟩
      have hgiven : ∀ s ∈ name, C.names s := fun s hs =>
        admits_names.1 hname s (by simpa using hs)
      have hwindow := append_opening (s := " OVER ") (C.fragment hcall) (by simp [openers])
        (C.name hover)
      exact led_append_left hwindow (itemName hgiven)
  | query q name =>
      have hq : C.begun [q] (ρ q) (ρ' q) := h (.query q) (by simp [SelectItem.ingredients])
      have hname : C.names name := h (.name name) (by simp [SelectItem.ingredients])
      exact C.led_of_free (append_left (bracketed (C.led_of_begun hq)) (itemName_some hname))
  | existence q name =>
      have hq : C.begun [q] (ρ q) (ρ' q) := h (.query q) (by simp [SelectItem.ingredients])
      have hname : C.names name := h (.name name) (by simp [SelectItem.ingredients])
      have hinner := C.led_of_free (bracketed (C.led_of_begun hq))
      have hexists := C.starting (s := "EXISTS ") (by simp [starters]) hinner
      exact led_append_left (C.led_of_begun hexists) (itemName_some hname)

theorem items (hcs : C.Qualifies cs) {is : List (SelectItem Q)}
    (h : ∀ i ∈ is, ∀ j ∈ i.ingredients, C.Admits ρ ρ' j) :
    C.led (is.flatMap SelectItem.subqueries) (cs.items (is.map (SelectItem.map ρ)))
      (cs.items ((is.map (SelectItem.revalue C.values)).map (SelectItem.map ρ'))) := by
  simp only [Columns.items, List.map_map]
  apply commas
  intro i hi
  exact item hcs (h i hi)

omit [LawfulOutput ω] [LawfulOutput ω'] in
/-- An entry of ORDER BY, if its columns are related. -/
theorem orderEntry {column : ColumnRef → Rendering ω} {column' : ColumnRef → Rendering ω'}
    {o : Order} (h : ∀ i ∈ o.ingredients, C.Admits ρ ρ' i)
    (hcolumn : ∀ c, C.Refers c → C.led [] (column c) (column' c)) :
    C.led [] (Columns.orderEntry column o)
      (Columns.orderEntry column' (o.revalue C.values)) := by
  rcases o with ⟨target, direction, nulls⟩
  have hnulls : C.free [] (Rendering.optional (fun n : Nulls => .fixed (" " ++ n.sql)) nulls)
      (Rendering.optional (fun n : Nulls => .fixed (" " ++ n.sql)) nulls) := by
    cases nulls with
    | none => exact C.nothing
    | some n => exact C.closing n.sql_mem
  have hentry {x y} (htarget : C.led [] x y) :=
    led_append_left (led_append_left htarget (C.closing direction.sql_mem)) hnulls
  cases target with
  | column c => exact hentry (hcolumn c (refers h))
  | fragment f => exact hentry (C.fragment (h (.fragment f) (by simp [Order.ingredients])))

theorem windowBody (hcs : C.Qualifies cs) {w : Window}
    (h : ∀ i ∈ w.ingredients, C.Admits ρ ρ' i) :
    C.led [] (cs.windowBody w) (cs.windowBody (w.revalue C.values)) := by
  rcases w with ⟨name, partitionBy, orderBy, frame⟩
  simp only [Window.ingredients, List.cons_append, List.forall_mem_cons, List.forall_mem_append,
    List.forall_mem_flatMap] at h
  rcases h with ⟨-, ⟨hpartition, horder⟩, hframe⟩
  have hcolumns : C.led [] (cs.references partitionBy) (cs.references partitionBy) :=
    references hcs fun c hc => refers (hpartition c hc)
  have hparts := C.starting (s := "PARTITION BY ") (by simp [starters]) hcolumns
  have hentries : C.led [] (.commas (orderBy.map (Columns.orderEntry cs.reference)))
      (.commas (orderBy.map fun o => Columns.orderEntry cs.reference (o.revalue C.values))) :=
    commas_plain fun o ho => orderEntry (horder o ho) fun c hc => reference hcs hc
  have hextent : ∀ f ∈ frame, C.led [] (.fragment f) (.fragment (f.revalue C.values)) := by
    intro f hf
    exact C.fragment (hframe (.fragment f) (by simpa using hf))
  -- each of the three parts may be missing
  refine separated_forall₂ (by simp [openers])
    (List.rel_append (List.rel_append ?partition ?order) ?frame)
  case partition =>
    cases partitionBy with
    | nil => exact .nil
    | cons => exact .cons (C.led_of_begun hparts) .nil
  case order =>
    simp only [Window.revalue, List.isEmpty_map, List.map_map]
    cases orderBy with
    | nil => exact .nil
    | cons o orderBy =>
        exact .cons (C.led_of_begun (C.starting (by simp [starters]) hentries)) .nil
  case frame =>
    cases frame with
    | none => exact .nil
    | some f => exact .cons (hextent f rfl) .nil

theorem window (hcs : C.Qualifies cs) {w : Window} (h : ∀ i ∈ w.ingredients, C.Admits ρ ρ' i) :
    C.led [] (cs.window w) (cs.window (w.revalue C.values)) := by
  have hname : C.names w.name := h (.name w.name) (by simp [Window.ingredients])
  have hbody := C.led_of_free (bracketed (windowBody hcs h))
  exact append_opening (C.name hname) (by simp [openers]) hbody

/-! ## Sources -/

omit [LawfulOutput ω] [LawfulOutput ω'] in
theorem joinSource {j : JoinSource Q} (h : ∀ i ∈ j.ingredients, C.Admits ρ ρ' i) :
    C.led j.subqueries (j.map ρ).rendering (j.map ρ').rendering := by
  cases j with
  | table path name =>
      have hpath : C.names path := h (.name path) (by simp [JoinSource.ingredients])
      have hgiven : ∀ s ∈ name, C.names s := fun s hs =>
        h (.name s) (by simpa [JoinSource.ingredients] using .inr hs)
      exact led_append_left (C.path (C.path_of_name hpath)) (itemName hgiven)
  | query q name =>
      have hq : C.begun [q] (ρ q) (ρ' q) := h (.query q) (by simp [JoinSource.ingredients])
      have hname : C.names name := h (.name name) (by simp [JoinSource.ingredients])
      exact C.led_of_free (append_left (bracketed (C.led_of_begun hq)) (itemName_some hname))

theorem lock {l : Lock} (h : ∀ i ∈ l.ingredients, C.Admits ρ ρ' i) :
    C.free [] l.rendering (l.revalue C.values).rendering := by
  rcases l with ⟨mode, tables, wait⟩
  -- a table by its path or a fragment that names it
  have htable : ∀ t ∈ tables, C.led [] t.rendering (t.revalue C.values).rendering := by
    intro t ht
    cases t with
    | path name =>
        have hname : C.names name :=
          h (.name name) (List.mem_flatMap.2 ⟨_, ht, by simp [LockTable.ingredients]⟩)
        exact C.path (C.path_of_name hname)
    | fragment f =>
        have hf : C.fragments f :=
          h (.fragment f) (List.mem_flatMap.2 ⟨_, ht, by simp [LockTable.ingredients]⟩)
        exact C.fragment hf
  have htables := clause_plain (s := " OF ") (by simp [openers]) htable
  have hwait : C.free [] (Rendering.optional (fun w : WaitPolicy => .fixed (" " ++ w.sql)) wait)
      (Rendering.optional (fun w : WaitPolicy => .fixed (" " ++ w.sql)) wait) := by
    cases wait with
    | none => exact C.nothing
    | some w => exact C.closing w.sql_mem
  have hlock := append_left (append_left (C.closing mode.sql_mem) htables) hwait
  simpa only [Lock.rendering, Lock.revalue, List.map_map, Function.comp_def] using hlock

theorem cte {c : Cte Q} (h : ∀ i ∈ c.ingredients, C.Admits ρ ρ' i) :
    C.led c.subqueries (c.map ρ).rendering ((c.revalue C.values).map ρ').rendering := by
  rcases c with ⟨name, columns, body, isRecursive⟩
  simp only [Cte.ingredients, List.cons_append, List.forall_mem_cons, List.forall_mem_append] at h
  rcases h with ⟨hname, hcolumns, hbody⟩
  have hlist : C.free []
      (if columns.isEmpty then .nothing else .bracketed (.commas (columns.map .name)))
      (if columns.isEmpty then .nothing else .bracketed (.commas (columns.map .name))) := by
    cases columns.isEmpty with
    | true => exact C.nothing
    | false =>
        have hgiven := commas_plain fun column hc => C.name (admits_names.1 hcolumns column hc)
        exact bracketed hgiven
  have hcte {l x y} (hinner : C.led l x y) :=
    append_opening (s := " AS ") (led_append_left (C.name hname) hlist) (by simp [openers])
      (C.led_of_free (bracketed hinner))
  cases body with
  | query q =>
      have hq : C.begun [q] (ρ q) (ρ' q) := hbody (.query q) (by simp)
      exact hcte (C.led_of_begun hq)
  | fragment f => exact hcte (C.fragment (hbody (.fragment f) (by simp)))

theorem join (hcs : C.Qualifies cs) {j : Join Q} (h : ∀ i ∈ j.ingredients, C.Admits ρ ρ' i) :
    C.free j.subqueries ((j.map ρ).rendering cs)
      (((j.revalue C.values).map ρ').rendering cs) := by
  rcases j with ⟨kind, source, on⟩
  rcases List.forall_mem_append.1 h with ⟨hsource, hon⟩
  have hhead := C.opening kind.sql_mem (joinSource hsource)
  refine C.append hhead ?_
  by_cases hcross : kind = .cross
  -- a cross join has no condition
  case pos =>
    simpa [Join.map, Join.revalue, hcross] using C.nothing
  case neg =>
    have htrue : C.free [] (.fixed " ON " ++ .fixed "TRUE") (.fixed " ON " ++ .fixed "TRUE") :=
      C.opening (by simp [openers]) (C.constant (by simp [constants]))
    cases on with
    | none => simpa [Join.map, Join.revalue, hcross] using htrue
    | some f =>
        cases hempty : f.isEmpty with
        | true =>
            -- a condition without predicates is TRUE
            have hnone : f.subqueries = [] := by
              simp [Formula.subqueries, Formula.atoms_of_isEmpty hempty]
            simpa [Join.map, Join.revalue, hcross, hempty, hnone] using htrue
        | false =>
            have hf := condition (predicates hcs (f := f) (by simpa using hon))
            have hclause := C.opening (s := " ON ") (by simp [openers]) hf
            simpa [Join.map, Join.revalue, hcross, hempty, Formula.map_map] using hclause

end Correspondence
end ParamSql
