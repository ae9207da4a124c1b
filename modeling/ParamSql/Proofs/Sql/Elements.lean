import ParamSql.Proofs.Sql.Arrangement
import ParamSql.Proofs.Sql.Tidy

/-!
# Elements — the parts of a statement have no gaps

For each function that writes a part of a statement there is one lemma: if the fragments in it are
filled and the queries inside it are tidy, then so is the part.  An element of a list begins in its
own way; a clause, which may be left out, stands behind what is ahead of it.

* `Ingredient.Suits` — what a part is made from;
* `Columns.isElement_condition`, `Columns.continues_clauseOf` — conditions, by induction on the
  formula, and the clauses that are left out with their keyword;
* `Columns.isElement_item`, `Columns.isElement_window` — the entries of lists;
* `Clauses.opensEmptyList` — the two lists that are opened without a look at their elements;
* `Clauses.headedBy_statement` — all other statements are tidy.
-/

namespace ParamSql

open Rendering
open Lexeme (isName isAttached beginsPart meets_of_begins)

variable {Q : Type} {cs : Columns} {ρ : Q → Rendering (List Lexeme)}

/-- Fragments are filled, and queries begin with a keyword. -/
def Ingredient.Suits (ρ : Q → Rendering (List Lexeme)) : Ingredient Q → Prop
  | .name _ => True
  | .fragment f => f.IsFilled
  | .query q => (ρ q).HeadedBy beginsPart

namespace Ingredient.Suits

variable {is : List (Ingredient Q)} (h : ∀ i ∈ is, i.Suits ρ)
include h

theorem fragment {f : Fragment} (hf : .fragment f ∈ is) : (Rendering.fragment f).IsElement :=
  have hfilled : f.IsFilled := h _ hf
  .fragment hfilled

theorem query {q : Q} (hq : .query q ∈ is) : (ρ q).IsElement :=
  have hpart : (ρ q).HeadedBy beginsPart := h _ hq
  hpart.isElement_of_part

end Ingredient.Suits

namespace Columns

/-! ## Columns and operands -/

theorem headedBy_target (column : String) : (cs.target column).HeadedBy isName :=
  .name _

theorem isElement_targets {columns : List String} (hne : columns ≠ []) :
    (cs.targets columns).IsElement :=
  .commas hne fun column _ => (headedBy_target column).isElement

theorem isElement_reference (c : ColumnRef) : (cs.reference c).IsElement := by
  have hcolumn : (if c.isStar then .fixed "*" else cs.target c.name).IsElement :=
    .choice (fun _ => IsElement.constant (by decide)) fun _ => (headedBy_target _).isElement
  unfold reference
  cases c.table.or cs.qualifier with
  | none => exact hcolumn
  | some table =>
      have hdotted : HeadedBy isAttached
          (.fixed "." ++ if c.isStar then .fixed "*" else cs.target c.name) :=
        hcolumn.behind (by decide) fun m hm => meets_of_begins (by decide) hm
      simpa only [append_assoc] using (HeadedBy.path_append table hdotted.headedOnlyBy).isElement

theorem isElement_references {columns : List ColumnRef} (hne : columns ≠ []) :
    (cs.references columns).IsElement :=
  .commas hne fun c _ => isElement_reference c

theorem isElement_operand {o : Operand Q} (h : ∀ i ∈ o.ingredients, i.Suits ρ) :
    (cs.operand (o.map ρ)).IsElement := by
  cases o with
  | column c => exact isElement_reference c
  | value v => exact .bind v
  | fragment f => exact Ingredient.Suits.fragment h (by simp [Operand.ingredients])
  | query q =>
      have hq : (ρ q).IsElement := Ingredient.Suits.query h (by simp [Operand.ingredients])
      exact hq.bracketed

/-! ## Conditions -/

theorem isElement_predicate {p : Predicate Q} (h : ∀ i ∈ p.ingredients, i.Suits ρ) :
    (cs.predicate (p.map ρ)).IsElement := by
  cases p with
  | compare c op o =>
      exact (isElement_reference c).lead op.sql_leads
        (isElement_operand (List.forall_mem_append.1 h).2)
  | nullCheck c isNull => exact (isElement_reference c).close (by cases isNull <;> decide)
  | inList c values negated =>
      unfold predicate
      simp only [Predicate.map]
      cases values with
      -- an empty list of values is written as a constant
      | nil => exact .constant (by cases negated <;> decide)
      | cons v vs =>
          have hvalues : (Rendering.commas ((v :: vs).map .bind)).IsElement :=
            .commas (List.cons_ne_nil v vs) fun v _ => .bind v
          exact ((isElement_reference c).lead (by cases negated <;> decide) hvalues).close
            (by decide)
  | inQuery c q negated =>
      have hq : (ρ q).IsElement := Ingredient.Suits.query h (by simp [Predicate.ingredients])
      exact ((isElement_reference c).lead (by cases negated <;> decide) hq).close (by decide)
  | existence q negated =>
      have hq : (ρ q).IsElement := Ingredient.Suits.query h (by simp [Predicate.ingredients])
      exact (IsElement.start (by cases negated <;> decide) hq).close (by decide)
  | between c low high negated =>
      refine HeadedBy.lead ?_ (by decide) (.bind high)
      exact (isElement_reference c).lead (by cases negated <;> decide) (.bind low)
  | fragment f => exact Ingredient.Suits.fragment h (by simp [Predicate.ingredients])
  | constant b => exact .constant (by cases b <;> decide)

/-- A group has at least one member if it has a predicate. -/
theorem isElement_members {needed : Formula (Predicate (Rendering (List Lexeme))) → Bool}
    {s : String} (hs : Lexeme.leads s = true) {fs : List (Formula (Predicate Q))}
    (hne : Formula.areEmpty fs = false)
    (h : ∀ f ∈ fs, f.isEmpty = false → (cs.condition (f.map (Predicate.map ρ))).IsElement) :
    (separated s ((Formula.written (fs.map (Formula.map (Predicate.map ρ)))).map
      (cs.member needed))).IsElement := by
  rw [Formula.written_map, List.map_map]
  refine .separated (fun _ hr => .lead hs hr) (Formula.written_ne_nil hne) fun f hf => ?_
  obtain ⟨hmem, hempty⟩ := Formula.mem_written.1 hf
  have hcondition := h f hmem hempty
  exact .choice (fun _ => hcondition.bracketed) fun _ => hcondition

/-- A condition with a predicate in it. -/
theorem isElement_condition {f : Formula (Predicate Q)} (h : ∀ i ∈ f.ingredients, i.Suits ρ)
    (hne : f.isEmpty = false) : (cs.condition (f.map (Predicate.map ρ))).IsElement := by
  have hatoms : ∀ p ∈ f.atoms, (cs.predicate (p.map ρ)).IsElement := fun p hp =>
    isElement_predicate fun i hi => h i (List.mem_flatMap.2 ⟨p, hp, hi⟩)
  clear h
  -- by induction on the formula; what has no predicates is not written
  induction f using Formula.induction with
  | atom p => simpa [Formula.map] using hatoms p (by simp [Formula.atoms])
  | not f ih =>
      rw [Formula.map, condition_not]
      exact (IsElement.start (by decide) (ih hne hatoms)).close (by decide)
  | all fs ih =>
      rw [Formula.map, Formula.mapList_eq_map, condition_all]
      exact isElement_members (s := " AND ") (by decide) hne fun f hf hempty =>
        ih f hf hempty fun p hp => hatoms p (Formula.mem_atoms_of_mem hf hp)
  | any fs ih =>
      rw [Formula.map, Formula.mapList_eq_map, condition_any]
      exact isElement_members (s := " OR ") (by decide) hne fun f hf hempty =>
        ih f hf hempty fun p hp => hatoms p (Formula.mem_atoms_of_mem hf hp)

theorem continues_clauseOf {s : String} (hs : Lexeme.leads s = true)
    {fs : List (Formula (Predicate Q))} (h : ∀ f ∈ fs, ∀ i ∈ f.ingredients, i.Suits ρ) :
    (cs.clauseOf s (fs.map (Formula.map (Predicate.map ρ)))).Continues := by
  unfold clauseOf
  rw [Formula.areEmpty_map]
  cases hempty : Formula.areEmpty fs with
  | true => exact .nothing
  | false =>
      have hall : (cs.condition ((Formula.all fs).map (Predicate.map ρ))).IsElement := by
        refine isElement_condition (fun i hi => ?_) hempty
        obtain ⟨p, hp, hi⟩ := List.mem_flatMap.1 hi
        obtain ⟨f, hf, hp⟩ : ∃ f ∈ fs, p ∈ f.atoms := by simpa [Formula.atoms] using hp
        exact h f hf i (List.mem_flatMap.2 ⟨p, hp, hi⟩)
      rw [Formula.map, Formula.mapList_eq_map] at hall
      exact .lead hs hall

/-! ## Rows -/

theorem continues_itemName (name : Option String) : (itemName name).Continues :=
  .optional fun s _ => .lead (by decide) (HeadedBy.name s).isElement

theorem isElement_item {i : SelectItem Q} (h : ∀ j ∈ i.ingredients, j.Suits ρ) :
    (cs.item (i.map ρ)).IsElement := by
  cases i with
  | column c name => exact (isElement_reference c).append (continues_itemName _)
  | fragment f name =>
      exact (Ingredient.Suits.fragment h (by simp [SelectItem.ingredients])).append
        (continues_itemName name)
  | aggregate function c isDistinct name =>
      refine HeadedBy.append (HeadedBy.close (IsElement.start (function.sql_starts isDistinct) ?_)
        (by decide)) (continues_itemName name)
      -- of a column or of all rows
      cases c with
      | none => exact .constant (by decide)
      | some c => exact isElement_reference c
  | window call w name =>
      have hcall : (Rendering.fragment call).IsElement :=
        Ingredient.Suits.fragment h (by simp [SelectItem.ingredients])
      exact (hcall.lead (by decide) (HeadedBy.name w).isElement).append (continues_itemName name)
  | query q name =>
      have hq : (ρ q).IsElement := Ingredient.Suits.query h (by simp [SelectItem.ingredients])
      exact hq.bracketed.append (continues_itemName (some name))
  | existence q name =>
      have hq : (ρ q).IsElement := Ingredient.Suits.query h (by simp [SelectItem.ingredients])
      exact (IsElement.start (by decide) hq.bracketed).append (continues_itemName (some name))

theorem isElement_items {is : List (SelectItem Q)} (hne : is ≠ [])
    (h : ∀ i ∈ is, ∀ j ∈ i.ingredients, j.Suits ρ) :
    (cs.items (is.map (SelectItem.map ρ))).IsElement := by
  rw [items, List.map_map]
  exact .commas hne fun i hi => isElement_item (h i hi)

theorem isElement_orderEntry {column : ColumnRef → Rendering (List Lexeme)}
    (hcolumn : ∀ c, (column c).IsElement) {o : Order} (h : ∀ i ∈ o.ingredients, i.Suits ρ) :
    (orderEntry column o).IsElement := by
  rcases o with ⟨target, direction, nulls⟩
  have hnulls : (Rendering.optional (fun n : Nulls => .fixed (" " ++ n.sql)) nulls).Continues :=
    .optional fun n _ => .close n.sql_closes
  cases target with
  | column c => exact ((hcolumn c).close direction.sql_closes).append hnulls
  | fragment f =>
      have hf : (Rendering.fragment f).IsElement :=
        Ingredient.Suits.fragment h (by simp [Order.ingredients])
      exact (hf.close direction.sql_closes).append hnulls

/-- The parts of the definition of a window, each of which may be missing. -/
def windowParts (cs : Columns) (w : Window) : List (Rendering (List Lexeme)) :=
  (if w.partitionBy.isEmpty then []
    else [Rendering.fixed "PARTITION BY " ++ cs.references w.partitionBy]) ++
    (if w.orderBy.isEmpty then []
      else [Rendering.clause "ORDER BY " (w.orderBy.map (orderEntry cs.reference))]) ++
    w.frame.toList.map Rendering.fragment

theorem headedBy_of_mem_windowParts {w : Window} (h : ∀ i ∈ w.ingredients, i.Suits ρ)
    {r : Rendering (List Lexeme)} (hr : r ∈ cs.windowParts w) : r.HeadedBy beginsPart := by
  rcases w with ⟨name, partitionBy, orderBy, frame⟩
  simp only [Window.ingredients, List.cons_append, List.forall_mem_cons, List.forall_mem_append,
    List.forall_mem_flatMap] at h
  obtain ⟨-, ⟨-, horder⟩, hframe⟩ := h
  simp only [windowParts, List.mem_append] at hr
  rcases hr with (hr | hr) | hr
  · cases partitionBy with
    | nil => cases hr
    | cons c columns =>
        obtain rfl := List.mem_singleton.1 hr
        exact .head (by simp [Lexeme.headTexts]) (isElement_references (List.cons_ne_nil c columns))
  · cases orderBy with
    | nil => cases hr
    | cons o orderBy =>
        obtain rfl := List.mem_singleton.1 hr
        exact .head (by simp [Lexeme.headTexts]) (.commas (List.cons_ne_nil o orderBy) fun o ho =>
          isElement_orderEntry isElement_reference (horder o ho))
  · obtain ⟨f, hf, rfl⟩ := List.mem_map.1 hr
    exact .fragment (hframe (.fragment f) (List.mem_map_of_mem hf))

theorem isElement_window {w : Window} (h : ∀ i ∈ w.ingredients, i.Suits ρ) :
    (cs.window w).IsElement := by
  have hbody : cs.windowBody w = separated " " (cs.windowParts w) := rfl
  unfold window
  rw [hbody]
  cases hparts : cs.windowParts w with
  | nil =>
      -- there is no part, so that the brackets meet
      intro ls hls
      obtain ⟨front, back, hfront, hback, rfl⟩ := result_append_eq_ok hls
      obtain ⟨name, keyword, hname, hkeyword, rfl⟩ := result_append_eq_ok hfront
      obtain ⟨i, -, rfl⟩ := name_eq_ok hname
      obtain rfl : [.fixed " AS "] = keyword := Except.ok.inj hkeyword
      obtain ⟨inner, hinner, rfl⟩ := bracketed_eq_ok hback
      obtain rfl : [] = inner := Except.ok.inj hinner
      exact ⟨.cons rfl (.window (.single rfl)), _, _, rfl, rfl⟩
  | cons r rs =>
      have hbody : (separated " " ((r :: rs).map id)).HeadedBy beginsPart :=
        .separated (fun _ hr => .blank hr) (List.cons_ne_nil r rs) fun r hr =>
          headedBy_of_mem_windowParts h (hparts ▸ hr)
      rw [List.map_id] at hbody
      exact (HeadedBy.name w.name).isElement.lead (by decide) hbody.isElement_of_part.bracketed

end Columns

/-! ## Sources -/

theorem JoinSource.isElement_rendering {j : JoinSource Q} (h : ∀ i ∈ j.ingredients, i.Suits ρ) :
    (j.map ρ).rendering.IsElement := by
  cases j with
  | table path name =>
      exact (HeadedBy.path path).isElement.append (Columns.continues_itemName name)
  | query q name =>
      have hq : (ρ q).IsElement := Ingredient.Suits.query h (by simp [JoinSource.ingredients])
      exact hq.bracketed.append (Columns.continues_itemName (some name))

theorem Join.continues_rendering {j : Join Q} (h : ∀ i ∈ j.ingredients, i.Suits ρ) :
    ((j.map ρ).rendering cs).Continues := by
  rcases j with ⟨kind, source, on⟩
  obtain ⟨hsource, hon⟩ := List.forall_mem_append.1 h
  have hjoined : Continues (.fixed (" " ++ kind.sql ++ " ") ++ (source.map ρ).rendering) :=
    .lead kind.sql_leads (JoinSource.isElement_rendering hsource)
  refine hjoined.append ?_
  simp only [Join.map]
  by_cases hcross : kind = .cross
  case pos => simpa [hcross] using HeadedOnlyBy.nothing
  case neg =>
    have htrue : Continues (.fixed " ON " ++ .fixed "TRUE") :=
      .lead (by decide) (.constant (by decide))
    simp only [hcross, if_false]
    cases on with
    | none => exact htrue
    | some f =>
        cases hempty : f.isEmpty with
        -- a condition without predicates is TRUE
        | true => simpa [hempty] using htrue
        | false =>
            have hcondition : (cs.condition (f.map (Predicate.map ρ))).IsElement :=
              Columns.isElement_condition (by simpa using hon) hempty
            simpa [hempty] using Continues.lead (s := " ON ") (by decide) hcondition

theorem Lock.continues_rendering {l : Lock} (h : ∀ i ∈ l.ingredients, i.Suits ρ) :
    l.rendering.Continues := by
  rcases l with ⟨mode, tables, wait⟩
  have htable : ∀ t ∈ tables, t.rendering.IsElement := by
    intro t ht
    cases t with
    | path name => exact (HeadedBy.path name).isElement
    | fragment f =>
        exact Ingredient.Suits.fragment h
          (List.mem_flatMap.2 ⟨_, ht, by simp [LockTable.ingredients]⟩)
  have hwait : (Rendering.optional (fun w : WaitPolicy => .fixed (" " ++ w.sql)) wait).Continues :=
    .optional fun w _ => .close w.sql_closes
  exact ((Continues.close mode.sql_closes).append (.clause (by decide) htable)).append hwait

theorem Cte.isElement_rendering {cte : Cte Q} (h : ∀ i ∈ cte.ingredients, i.Suits ρ) :
    (cte.map ρ).rendering.IsElement := by
  rcases cte with ⟨name, columns, body, isRecursive⟩
  -- the columns are attached to the name
  have hcolumns : HeadedOnlyBy isAttached (if columns.isEmpty then .nothing
      else .bracketed (.commas (columns.map .name))) := by
    cases columns with
    | nil => exact .nothing
    | cons column columns =>
        have hnames : (Rendering.commas ((column :: columns).map .name)).IsElement :=
          .commas (List.cons_ne_nil _ _) fun name _ => (HeadedBy.name name).isElement
        exact (hnames.headedBy_bracketed (by decide)).headedOnlyBy
  have hheading := (HeadedBy.name_append name hcolumns).isElement
  cases body with
  | query q =>
      have hq : (ρ q).IsElement := Ingredient.Suits.query h (by simp [Cte.ingredients])
      exact hheading.lead (by decide) hq.bracketed
  | fragment f =>
      have hf : (Rendering.fragment f).IsElement :=
        Ingredient.Suits.fragment h (by simp [Cte.ingredients])
      exact hheading.lead (by decide) hf.bracketed

/-! ## Lists that are opened without a look at their elements -/

/-- Rows that agree on no columns are to be distinct. -/
def Distinct.isOnNothing : Distinct → Bool
  | .rows => false
  | .on columns => columns.isEmpty

/-- The row that is there is to be updated by no assignments. -/
def OnConflict.setsNothing (o : OnConflict Q) : Bool :=
  match o.action with
  | .nothing | .merge _ => false
  | .update r => r.assignments.isEmpty

namespace Clauses

/-- Whether a statement opens a list that has no elements. -/
def opensEmptyList (c : Clauses Q) : Bool :=
  match c.mutation with
  | none => c.distinct.any Distinct.isOnNothing
  | some (.insert _ conflict) => conflict.any OnConflict.setsNothing
  | some (.update _) | some (.delete _) => false

variable {c : Clauses Q}

/-! ## SELECT -/

theorem continues_fromClause (h : ∀ i ∈ c.source.ingredients, i.Suits ρ) :
    (c.map ρ).fromClause.Continues := by
  unfold fromClause
  rw [map_source]
  cases hsource : c.source with
  | nothing => exact .nothing
  | table t => exact .lead (by decide) (HeadedBy.path t.path).isElement
  | query q name =>
      have hq : (ρ q).IsElement := Ingredient.Suits.query h (by simp [hsource, Source.ingredients])
      exact (Continues.lead (by decide) hq.bracketed).append
        (Columns.continues_itemName (some name))
  | fragment f name =>
      have hf : (Rendering.fragment f).IsElement :=
        Ingredient.Suits.fragment h (by simp [hsource, Source.ingredients])
      exact (Continues.lead (by decide) hf).append (Columns.continues_itemName (some name))

theorem isElement_selectList (h : ∀ item ∈ c.select, ∀ i ∈ item.ingredients, i.Suits ρ) :
    ((c.map ρ).selectList cs).IsElement := by
  have hstar : IsElement (.fixed "*") := .constant (by decide)
  unfold selectList
  simp only [expandedColumns_map, map_select, map_joins, List.isEmpty_map]
  cases hselect : c.select with
  | cons i is =>
      rw [hselect] at h
      simpa using Columns.isElement_items (List.cons_ne_nil i is) h
  | nil =>
      -- without a select list, the columns of the table are written or a star
      cases c.expandedColumns cs with
      | nil =>
          cases cs.qualifier with
          | none => exact hstar
          | some table =>
              have htable : IsElement (.path table ++ .fixed ".*") :=
                (HeadedBy.path_append table (HeadedBy.alone (by decide) (by decide)).headedOnlyBy)
                  |>.isElement
              simpa using HeadedBy.choice (fun _ => hstar) fun _ => htable
      | cons column columns =>
          have hitems : ∀ item ∈ (column :: columns).map SelectItem.ofColumn,
              (cs.item item : Rendering (List Lexeme)).IsElement := by
            intro item hitem
            obtain ⟨column, -, rfl⟩ := List.mem_map.1 hitem
            exact (Columns.isElement_reference _).append (Columns.continues_itemName _)
          exact .commas (List.cons_ne_nil _ _) hitems

theorem isElement_orderColumn (column : ColumnRef) :
    ((c.map ρ).orderColumn cs column).IsElement := by
  exact .choice (fun _ => (HeadedBy.name _).isElement) fun _ => Columns.isElement_reference column

/-- Ahead of a select list, if there are columns for the rows to agree on. -/
theorem isElement_distinctClause (hdistinct : c.distinct.any Distinct.isOnNothing = false)
    {r : Rendering (List Lexeme)} (h : r.IsElement) :
    ((c.map ρ).distinctClause cs ++ r).IsElement := by
  unfold distinctClause
  rw [map_distinct]
  rcases hclause : c.distinct with _ | (_ | columns)
  · simpa using h
  · exact .start (by decide) h
  · have hne : columns ≠ [] := by
      rintro rfl
      simp [hclause, Distinct.isOnNothing] at hdistinct
    simp only [append_assoc]
    exact .start (by decide) ((Columns.isElement_references hne).append (.lead (by decide) h))

theorem filters_suits (h : c.Each (Ingredient.Suits ρ)) :
    ∀ f ∈ c.filters, ∀ i ∈ f.ingredients, i.Suits ρ := by
  intro f hf
  rcases List.mem_append.1 hf with hcondition | hscope
  · exact h.conditions f hcondition
  · obtain ⟨s, hs, rfl⟩ := List.mem_map.1 hscope
    exact h.scopes s hs

theorem headedBy_selection (hmutation : c.mutation = none) (hlists : c.opensEmptyList = false)
    (h : c.Each (Ingredient.Suits ρ)) : ((c.map ρ).selection cs).HeadedBy beginsPart := by
  have hjoins : (concat (c.joins.map fun j => (j.map ρ).rendering cs)).Continues :=
    .concat fun j hj => Join.continues_rendering (h.joins j hj)
  have hwhere : (cs.clauseOf " WHERE " (c.filters.map (Formula.map (Predicate.map ρ)))).Continues :=
    Columns.continues_clauseOf (by decide) (filters_suits h)
  have hgroup : (clause " GROUP BY " (c.group.map fun o => cs.operand (o.map ρ))).Continues :=
    .clause (by decide) fun o ho => Columns.isElement_operand (h.group o ho)
  have hhaving :
      (cs.clauseOf " HAVING " (c.having.map (Formula.map (Predicate.map ρ)))).Continues :=
    Columns.continues_clauseOf (by decide) h.having
  have hwindows : (clause " WINDOW " (c.windows.map cs.window)).Continues :=
    .clause (by decide) fun w hw => Columns.isElement_window (h.windows w hw)
  have hsetOps : (concat (c.setOps.map fun op => setOperation (op.map ρ))).Continues :=
    .concat fun op hop =>
      have hq : (ρ op.query).IsElement :=
        Ingredient.Suits.query (h.setOps op hop) (by simp [SetOp.ingredients])
      .lead op.kind.sql_leads hq.bracketed
  have horder : (clause " ORDER BY "
      (c.order.map (Columns.orderEntry ((c.map ρ).orderColumn cs)))).Continues :=
    .clause (by decide) fun o ho =>
      Columns.isElement_orderEntry isElement_orderColumn (h.order o ho)
  have hbound (s : String) (hs : Lexeme.leads s = true) (n : Option Int64) :
      (Rendering.optional (fun n => .fixed s ++ .bind (.int n)) n).Continues :=
    .optional fun n _ => .lead hs (.bind (.int n))
  have hlock : (Rendering.optional Lock.rendering c.lock).Continues :=
    .optional fun l hl => Lock.continues_rendering (h.lock l hl)
  have hdistinct : c.distinct.any Distinct.isOnNothing = false := by
    simpa [opensEmptyList, hmutation] using hlists
  have htail := (continues_fromClause h.source).append <| hjoins.append <| hwhere.append <|
    hgroup.append <| hhaving.append <| hwindows.append <| hsetOps.append <| horder.append <|
    (hbound " LIMIT " (by decide) c.limit).append <|
    (hbound " OFFSET " (by decide) c.offset).append <| hlock.append .nothing
  simp only [selection, concat_cons, concat_nil, filters_map, map_joins, map_group, map_having,
    map_windows, map_setOps, map_order, map_limit, map_offset, map_lock, List.map_map]
  exact .head (by simp [Lexeme.headTexts])
    (isElement_distinctClause hdistinct ((isElement_selectList h.select).append htail))

/-! ## Changes -/

theorem isElement_target (verb : Verb) : ((c.map ρ).target verb).IsElement := by
  unfold target
  cases (c.map ρ).table? with
  | none => exact .fault _
  | some t => exact (HeadedBy.path t.path).isElement

theorem isElement_newValue {v : SetValue Q} (h : ∀ i ∈ v.ingredients, i.Suits ρ)
    (column : String) : (newValue cs column (v.map ρ)).IsElement := by
  cases v with
  | value v => exact .bind v
  | fragment f => exact Ingredient.Suits.fragment h (by simp [SetValue.ingredients])
  | increment v => exact (Columns.isElement_reference _).lead (by decide) (.bind v)
  | decrement v => exact (Columns.isElement_reference _).lead (by decide) (.bind v)
  | query q =>
      have hq : (ρ q).IsElement := Ingredient.Suits.query h (by simp [SetValue.ingredients])
      exact hq.bracketed
  | default => exact .constant (by decide)

theorem headedBy_assignments {r : Record Q} (hne : r.assignments ≠ [])
    (h : ∀ i ∈ r.ingredients, i.Suits ρ) : (assignments cs (r.map ρ)).HeadedBy isName := by
  rw [assignments, Record.map, List.map_map]
  refine .commas (fun _ hm => Lexeme.begins_of_isName hm) hne fun a ha => ?_
  have hvalue : ∀ i ∈ a.value.ingredients, i.Suits ρ := fun i hi =>
    h i (List.mem_flatMap.2 ⟨a, ha, List.mem_cons_of_mem _ hi⟩)
  exact (Columns.headedBy_target a.column).lead (by decide) (isElement_newValue hvalue a.column)

theorem isElement_insertedValue {r : Record Q} (h : ∀ i ∈ r.ingredients, i.Suits ρ)
    (column : String) : (insertedValue cs (r.map ρ) column).IsElement := by
  unfold insertedValue
  rw [Record.get?_map]
  cases hvalue : r.get? column with
  | none => exact .constant (by decide)
  | some v =>
      exact .choice (fun _ => .fault _) fun _ =>
        isElement_newValue (fun i hi => h i (Record.mem_ingredients hvalue hi)) column

/-- There is at least one row, and it has at least one column unless it stands by itself. -/
theorem continues_insertedRecords {rs : List (Record Q)}
    (h : ∀ r ∈ rs, ∀ i ∈ r.ingredients, i.Suits ρ) :
    (insertedRecords cs (rs.map (Record.map ρ))).Continues := by
  unfold insertedRecords
  split
  case h_1 => exact .fault _
  case h_2 => exact .close (by decide)
  case h_3 => exact .fault _
  case h_4 hrows hcolumns _ =>
    have hrs : rs ≠ [] := by
      rintro rfl
      exact hrows rfl
    have htuple : ∀ r ∈ rs, (bracketed (.commas
        ((recordColumns (rs.map (Record.map ρ))).map (insertedValue cs (r.map ρ))))).IsElement :=
      fun r hr => (IsElement.commas hcolumns fun column _ =>
        isElement_insertedValue (h r hr) column).bracketed
    simp only [append_assoc, List.map_map]
    exact .lead (by decide) ((Columns.isElement_targets hcolumns).append
      (.lead (by decide) (.commas hrs htuple)))

/-- Columns in brackets, if there are any. -/
theorem continues_columnList (columns : List String) :
    Continues (if columns.isEmpty then .nothing
      else .fixed " (" ++ cs.targets columns ++ .fixed ")") := by
  cases columns with
  | nil => exact .nothing
  | cons column columns =>
      have htargets : (cs.targets (column :: columns)).IsElement :=
        Columns.isElement_targets (List.cons_ne_nil _ _)
      exact (Continues.lead (by decide) htargets).append (.close (by decide))

theorem continues_insertedRows {rows : InsertRows Q} (h : ∀ i ∈ rows.ingredients, i.Suits ρ) :
    (insertedRows cs (rows.map ρ)).Continues := by
  cases rows with
  | records rs =>
      exact continues_insertedRecords fun r hr i hi => h i (List.mem_flatMap.2 ⟨r, hr, hi⟩)
  | query columns q =>
      have hq : (ρ q).HeadedBy beginsPart := h (.query q) (by simp [InsertRows.ingredients])
      rw [InsertRows.map, insertedRows, append_assoc]
      exact (continues_columnList columns).append (.blank hq)

theorem continues_conflictClause {o : OnConflict Q} (hsets : o.setsNothing = false)
    (h : ∀ i ∈ o.ingredients, i.Suits ρ) : (conflictClause cs (o.map ρ)).Continues := by
  rcases o with ⟨columns, action⟩
  refine ((Continues.close (by decide)).append (continues_columnList columns)).append ?_
  cases action with
  | nothing => exact .close (by decide)
  | merge merged =>
      refine .choice (fun _ => .fault _) fun _ => ?_
      cases merged with
      | nil => exact .fault _
      | cons column merged =>
          refine .set (by simp [Lexeme.setTexts]) ?_
          refine .commas (fun _ hm => Lexeme.begins_of_isName hm)
            (List.cons_ne_nil column merged) fun column _ => ?_
          exact (Columns.headedBy_target column).lead (by decide)
            (Columns.headedBy_target column).isElement
  | update r =>
      have hne : r.assignments ≠ [] := by simpa [OnConflict.setsNothing] using hsets
      have hassignments : (assignments cs (r.map ρ)).HeadedBy isName :=
        headedBy_assignments hne fun i hi => h i (List.mem_append_right _ hi)
      exact .choice (fun _ => .fault _) fun _ => .set (by simp [Lexeme.setTexts]) hassignments

theorem continues_changeFilter {s : String} (hs : Lexeme.leads s = true)
    (h : c.Each (Ingredient.Suits ρ)) : ((c.map ρ).changeFilter cs s).Continues := by
  have hsource : ∀ j ∈ c.joins, (changeSource (j.map ρ)).IsElement := fun j hj =>
    .choice (fun _ => JoinSource.isElement_rendering fun i hi =>
      h.joins j hj i (List.mem_append_left _ hi)) fun _ => .fault _
  have hconditions : ∀ f ∈ c.joins.filterMap Join.on ++ c.filters, ∀ i ∈ f.ingredients,
      i.Suits ρ := by
    intro f hf i hi
    rcases List.mem_append.1 hf with hjoin | hfilter
    · obtain ⟨j, hj, hon⟩ := List.mem_filterMap.1 hjoin
      exact h.joins j hj i (List.mem_append_right _ (by simpa [hon] using hi))
    · exact filters_suits h f hfilter i hi
  unfold changeFilter
  rw [changeConditions_map, map_joins, List.map_map]
  exact (Continues.clause hs hsource).append (Columns.continues_clauseOf (by decide) hconditions)

theorem headedBy_guarded {verb : Verb} {r : Rendering (List Lexeme)} (h : r.HeadedBy beginsPart) :
    (guarded verb (c.map ρ) r).HeadedBy beginsPart :=
  .choice (fun _ => h) fun _ => .fault _

theorem headedBy_updating {r : Record Q} (hr : ∀ i ∈ r.ingredients, i.Suits ρ)
    (h : c.Each (Ingredient.Suits ρ)) : ((c.map ρ).updating cs (r.map ρ)).HeadedBy beginsPart := by
  refine headedBy_guarded ?_
  cases hassignments : r.assignments with
  | nil =>
      simp only [Record.map, hassignments]
      exact .fault _
  | cons a as =>
      have hne : r.assignments ≠ [] := by simp [hassignments]
      refine .choice (fun _ => .fault _) fun _ => ?_
      have hfilter : ((c.map ρ).changeFilter cs " FROM ").Continues :=
        continues_changeFilter (by decide) h
      simp only [append_assoc]
      exact .head (by simp [Lexeme.headTexts]) ((isElement_target .update).append
        (.set (by simp [Lexeme.setTexts]) ((headedBy_assignments hne hr).append hfilter)))

theorem headedBy_deletion (hard : Bool) (h : c.Each (Ingredient.Suits ρ)) :
    ((c.map ρ).deletion cs hard).HeadedBy beginsPart := by
  refine headedBy_guarded ?_
  split
  case h_1 column _ =>
    simp only [append_assoc]
    exact .head (by simp [Lexeme.headTexts]) ((isElement_target .delete).append
      (.set (by simp [Lexeme.setTexts]) ((Columns.headedBy_target column).append
        ((Continues.close (by decide)).append (continues_changeFilter (by decide) h)))))
  case h_2 =>
    exact (HeadedBy.head (by simp [Lexeme.headTexts]) (isElement_target .delete)).append
      (continues_changeFilter (by decide) h)

theorem continues_returningClause (h : ∀ item ∈ c.returning, ∀ i ∈ item.ingredients, i.Suits ρ)
    (inCte : Bool) : ((c.map ρ).returningClause cs inCte).Continues := by
  unfold returningClause
  rw [map_returning, List.isEmpty_map]
  cases hreturning : c.returning with
  | nil =>
      cases inCte with
      | true => exact .close (by decide)
      | false => exact .nothing
  | cons i is =>
      rw [hreturning] at h
      exact .lead (by decide) (Columns.isElement_items (List.cons_ne_nil i is) h)

/-! ## Statements -/

theorem headedBy_body (inCte : Bool) (hlists : c.opensEmptyList = false)
    (h : c.Each (Ingredient.Suits ρ)) : ((c.map ρ).body cs inCte).HeadedBy beginsPart := by
  have hreturning : ((c.map ρ).returningClause cs inCte).Continues :=
    continues_returningClause h.returning inCte
  unfold body
  rw [map_mutation]
  cases hmutation : c.mutation with
  | none => exact headedBy_selection hmutation hlists h
  | some m =>
      have hm := h.mutation m hmutation
      cases m with
      | insert rows conflict =>
          obtain ⟨hrows, hconflict⟩ := List.forall_mem_append.1 hm
          have hclause : (Rendering.optional (conflictClause cs)
              (conflict.map (OnConflict.map ρ))).Continues := by
            cases conflict with
            | none => exact .nothing
            | some o =>
                have hsets : o.setsNothing = false := by
                  simpa [opensEmptyList, hmutation] using hlists
                exact continues_conflictClause hsets (by simpa using hconflict)
          simp only [Mutation.map, insertion, Option.map_some, append_assoc]
          exact .head (by simp [Lexeme.headTexts]) ((isElement_target .insert).append
            ((continues_insertedRows hrows).append (hclause.append hreturning)))
      | update r => exact (headedBy_updating hm h).append hreturning
      | delete hard => exact (headedBy_deletion hard h).append hreturning

/-- A statement has no gaps in it if it opens no empty list by itself. -/
theorem headedBy_statement (naming : Naming) (inCte : Bool) (hlists : c.opensEmptyList = false)
    (h : c.Each (Ingredient.Suits ρ)) : ((c.map ρ).statement naming inCte).HeadedBy beginsPart := by
  have hbody : ((c.map ρ).body (c.columns naming) inCte).HeadedBy beginsPart :=
    headedBy_body inCte hlists h
  unfold statement withClause
  rw [map_ctes, columns_map]
  cases hctes : c.ctes with
  | nil => simpa using hbody
  | cons cte ctes =>
      have hlist :
          (Rendering.commas ((cte :: ctes).map fun cte => (cte.map ρ).rendering)).IsElement :=
        .commas (List.cons_ne_nil _ _) fun cte hcte =>
          Cte.isElement_rendering (h.ctes cte (hctes ▸ hcte))
      simp only [List.isEmpty_map, List.isEmpty_cons, Bool.false_eq_true, if_false, append_assoc,
        List.map_map]
      exact .head (by split <;> simp [Lexeme.headTexts]) (hlist.append (.blank hbody))

end Clauses
end ParamSql
