import ParamSql.Proofs.Sql.Need
import ParamSql.Proofs.Sql.Nesting

/-!
# Takes — what it takes to write a part of a statement

A part with places for the queries in it can be written if a condition of its own holds and all of
its names can be quoted.  It binds as many values as it needs, and a fault in it is not that of an
unguarded change.

* `Need.IsMet` — a name can be quoted;
* `Slot.bound` — how many values are bound between the places;
* `Rendering.Takes r p needs` — writing `r` takes the condition `p` and the names and values
  `needs`;
* `Rendering.Takes.append`, `Rendering.Takes.separated` — parts behind each other;
* `Columns.takes_condition`, `Columns.takes_item`, `Join.takes` — one lemma for each part.
-/

namespace ParamSql

variable {Q : Type}

/-- A name can be quoted; a value can always be bound. -/
def Need.IsMet : Need → Prop
  | .name s => s ≠ "" ∧ '\x00' ∉ s.toList
  | .value => True

namespace Need

theorem values_append (needs more : List Need) :
    values (needs ++ more) = values needs + values more :=
  List.count_append

theorem isMet_name {s : String} : (Need.name s).IsMet ↔ ∃ i, Identifier.of s = .ok i := by
  unfold Identifier.of IsMet
  by_cases hempty : s = ""
  · simp [hempty]
  · by_cases hnul : '\x00' ∈ s.toList <;> simp [hempty, hnul]

/-- The names of a dotted text can be quoted if it is a path. -/
theorem isMet_path {s : String} : (∀ n ∈ path s, n.IsMet) ↔ ∃ p, Path.of s = .ok p := by
  unfold path Path.of
  induction Text.splitOn '.' s.toList with
  | nil => simp [pure, Except.pure]
  | cons part parts ih =>
      simp only [List.map_cons, List.forall_mem_cons, ih, isMet_name, List.mapM_cons]
      cases Identifier.of (String.ofList part) with
      | error f => simp [bind, Except.bind]
      | ok i =>
          cases parts.mapM (fun part => Identifier.of (String.ofList part)) with
          | error f => simp [bind, Except.bind]
          | ok p => simp [bind, Except.bind, pure, Except.pure]

end Need

/-- The values of lexemes are those of each of them. -/
theorem Lexeme.params_eq_flatMap (ls : List Lexeme) :
    params ls = ls.flatMap fun l => params [l] := by
  induction ls with
  | nil => rfl
  | cons l ls ih =>
      rw [List.flatMap_cons, ← ih, ← params_append, List.singleton_append]

/-- There are no values in a path. -/
theorem Path.params_lexemes (p : Path) : Lexeme.params p.lexemes = [] := by
  rw [Lexeme.params_eq_flatMap]
  exact List.flatMap_eq_nil_iff.2 (Path.forall_mem_lexemes rfl fun _ _ => rfl)

/-- How many values are bound between the places. -/
def Slot.bound (slots : List (Slot Q)) : Nat :=
  (Lexeme.params (Slot.fill (fun _ => []) slots)).length

theorem Slot.bound_append (slots more : List (Slot Q)) :
    bound (slots ++ more) = bound slots + bound more := by
  simp [bound, Lexeme.params_append]

theorem Slot.bound_ofLexemes (ls : List Lexeme) :
    bound (Output.ofLexemes ls : List (Slot Q)) = (Lexeme.params ls).length := by
  rw [bound, fill_ofLexemes]

namespace Rendering

/-- A part can be written if `p` holds and the names among `needs` can be quoted; the values among
them are those that it binds.  If it cannot be written, this is not for an unguarded change. -/
structure Takes (r : Rendering (List (Slot Q))) (p : Prop) (needs : List Need) : Prop where
  written : (∃ slots, r.result = .ok slots) ↔ p ∧ ∀ n ∈ needs, n.IsMet
  bound : ∀ slots, r.result = .ok slots → Slot.bound slots = Need.values needs
  plain : ∀ f, r.result = .error f → f.isGuard = false

/-! ## Parts -/

theorem exists_result_append_iff {ω : Type} [Output ω] {r s : Rendering ω} :
    (∃ o, (r ++ s).result = .ok o) ↔ (∃ o, r.result = .ok o) ∧ ∃ o, s.result = .ok o := by
  constructor
  · rintro ⟨o, h⟩
    rcases result_append_eq_ok h with ⟨x, y, hx, hy, -⟩
    exact ⟨⟨x, hx⟩, ⟨y, hy⟩⟩
  · rintro ⟨⟨x, hx⟩, ⟨y, hy⟩⟩
    exact ⟨_, result_append_ok hx hy⟩

/-- A fault in two parts is a fault in one of them, the first one being written otherwise. -/
theorem result_append_eq_error {ω : Type} [Output ω] {r s : Rendering ω} {f : CompileFault}
    (h : (r ++ s).result = .error f) :
    r.result = .error f ∨ (∃ o, r.result = .ok o) ∧ s.result = .error f := by
  cases hr : r.result with
  | error g =>
      rw [result_append_error s hr] at h
      exact .inl h
  | ok x =>
      cases hs : s.result with
      | error g =>
          rw [result_append_ok_error hr hs] at h
          exact .inr ⟨⟨x, rfl⟩, h⟩
      | ok y =>
          rw [result_append_ok hr hs] at h
          cases h

namespace Takes

variable {p p' : Prop} {needs needs' : List Need} {r r' : Rendering (List (Slot Q))}

/-- The condition may be stated in another way. -/
theorem of_iff (h : r.Takes p needs) (hp : p ↔ p') : r.Takes p' needs :=
  ⟨h.written.trans (and_congr_left' hp), h.bound, h.plain⟩

/-- The same names and values may be listed in another way. -/
theorem cast (h : r.Takes p needs) (heq : needs = needs') : r.Takes p needs' :=
  heq ▸ h

/-- Lexemes that bind as many values as are needed, behind names that can be quoted. -/
theorem lexemes {ls : List Lexeme} (hmet : ∀ n ∈ needs, n.IsMet)
    (hbound : (Lexeme.params ls).length = Need.values needs) :
    (Rendering.lexemes ls : Rendering (List (Slot Q))).Takes True needs where
  written := by simpa using hmet
  bound slots hslots := by
    cases hslots
    rw [Slot.bound_ofLexemes, hbound]
  plain f hf := by cases hf

theorem fault {f : CompileFault} (hf : f.isGuard = false) (h : ¬(p ∧ ∀ n ∈ needs, n.IsMet)) :
    (Rendering.fault f : Rendering (List (Slot Q))).Takes p needs where
  written := by simpa using h
  bound slots hslots := by cases hslots
  plain g hg := by
    cases hg
    exact hf

theorem fixed (s : String) : (Rendering.fixed s : Rendering (List (Slot Q))).Takes True [] :=
  lexemes (by simp) rfl

theorem nothing : (Rendering.nothing : Rendering (List (Slot Q))).Takes True [] :=
  lexemes (by simp) rfl

theorem bind (v : Value) : (Rendering.bind v : Rendering (List (Slot Q))).Takes True [.value] :=
  lexemes (by simp [Need.IsMet]) rfl

theorem fragment (f : Fragment) :
    (Rendering.fragment f : Rendering (List (Slot Q))).Takes True (Need.fragment f) := by
  have hpieces : (f.pieces.map Lexeme.ofPiece).map Lexeme.piece = f.pieces := by
    rw [List.map_map]
    refine (List.map_congr_left fun p _ => ?_).trans (List.map_id _)
    cases p <;> rfl
  refine lexemes (by simp [Need.fragment, Need.IsMet]) ?_
  rw [Lexeme.params, hpieces, f.values_pieces]
  simp [Need.values, Need.fragment, List.count_eq_length.2]

theorem name (s : String) :
    (Rendering.name s : Rendering (List (Slot Q))).Takes True [.name s] := by
  unfold Rendering.name
  cases h : Identifier.of s with
  | error f =>
      refine fault rfl fun hmet => ?_
      simpa [h] using Need.isMet_name.1 (hmet.2 (.name s) (List.mem_singleton_self _))
  | ok i => exact lexemes (by simpa using Need.isMet_name.2 ⟨i, h⟩) rfl

theorem path (s : String) :
    (Rendering.path s : Rendering (List (Slot Q))).Takes True (Need.path s) := by
  unfold Rendering.path
  cases h : Path.of s with
  | error f =>
      refine fault rfl fun hmet => ?_
      simpa [h] using Need.isMet_path.1 hmet.2
  | ok q =>
      have hvalues : Need.values (Need.path s) = 0 := by
        simp [Need.values, Need.path, List.count_eq_zero]
      exact lexemes (Need.isMet_path.2 ⟨q, h⟩)
        ((congrArg List.length q.params_lexemes).trans hvalues.symm)

/-- The place of a query. -/
theorem place (q : Q) : (Slot.place q).Takes True [] where
  written := by simp [Slot.place, result]
  bound slots hslots := by
    cases hslots
    rfl
  plain f hf := by cases hf

theorem append_both (h : r.Takes p needs) (h' : r'.Takes p' needs') :
    (r ++ r').Takes (p ∧ p') (needs ++ needs') where
  written := by
    rw [exists_result_append_iff, h.written, h'.written, List.forall_mem_append]
    exact and_and_and_comm
  bound slots hslots := by
    rcases result_append_eq_ok hslots with ⟨before, behind, hbefore, hbehind, rfl⟩
    exact (Slot.bound_append before behind).trans <|
      (congrArg₂ _ (h.bound before hbefore) (h'.bound behind hbehind)).trans
        (Need.values_append needs needs').symm
  plain f hf := by
    rcases result_append_eq_error hf with hf | ⟨-, hf⟩
    · exact h.plain f hf
    · exact h'.plain f hf

/-- Parts without conditions of their own. -/
theorem append (h : r.Takes True needs) (h' : r'.Takes True needs') :
    (r ++ r').Takes True (needs ++ needs') :=
  (h.append_both h').of_iff (and_self_iff)

/-- Only the first part has a condition of its own. -/
theorem append_free (h : r.Takes p needs) (h' : r'.Takes True needs') :
    (r ++ r').Takes p (needs ++ needs') :=
  (h.append_both h').of_iff (iff_of_eq (and_true _))

/-- A fixed text takes nothing. -/
theorem behind (s : String) (h : r.Takes p needs) : (.fixed s ++ r : Rendering _).Takes p needs :=
  ((fixed s).append_both h).of_iff (iff_of_eq (true_and _))

theorem before (h : r.Takes p needs) (s : String) : (r ++ .fixed s : Rendering _).Takes p needs :=
  List.append_nil needs ▸ h.append_free (fixed s)

theorem bracketed (h : r.Takes p needs) : (Rendering.bracketed r).Takes p needs :=
  (h.behind "(").before ")"

theorem ite {c : Prop} [Decidable c] (h : c → r.Takes p needs) (h' : ¬c → r'.Takes p needs) :
    (if c then r else r').Takes p needs := by
  split
  · exact h ‹_›
  · exact h' ‹_›

/-! ## Lists of parts -/

variable {α : Type} {write : α → Rendering (List (Slot Q))} {takes : α → List Need}
variable {cond : α → Prop}

theorem optional {o : Option α} (h : ∀ a, (write a).Takes True (takes a)) :
    (Rendering.optional write o).Takes True (o.toList.flatMap takes) := by
  cases o with
  | none => exact nothing
  | some a => simpa [Rendering.optional] using h a

theorem concat {l : List α} (h : ∀ a, (write a).Takes True (takes a)) :
    (Rendering.concat (l.map write)).Takes True (l.flatMap takes) := by
  induction l with
  | nil => exact nothing
  | cons a as ih =>
      rw [List.map_cons, Rendering.concat_cons, List.flatMap_cons]
      exact (h a).append ih

/-- Parts with a text between them, each with a condition of its own. -/
theorem separated_all (separator : String) {l : List α}
    (h : ∀ a ∈ l, (write a).Takes (cond a) (takes a)) :
    (Rendering.separated separator (l.map write)).Takes (∀ a ∈ l, cond a) (l.flatMap takes) := by
  induction l with
  | nil => exact nothing.of_iff (by simp)
  | cons a as ih =>
      have ha := h a (by simp)
      -- there is no separator behind the last part
      cases as with
      | nil => simpa using ha
      | cons b bs =>
          have hrest := (ih fun b hb => h b (by simp [hb])).behind separator
          rw [List.map_cons, List.map_cons, Rendering.separated_cons_cons, List.flatMap_cons]
          exact (ha.append_both hrest).of_iff List.forall_mem_cons.symm

theorem separated (separator : String) {l : List α}
    (h : ∀ a ∈ l, (write a).Takes True (takes a)) :
    (Rendering.separated separator (l.map write)).Takes True (l.flatMap takes) :=
  (separated_all separator h).of_iff (by simp)

/-- Parts without conditions of their own, whatever they are made from. -/
theorem separated_forall₂ (separator : String) {rs : List (Rendering (List (Slot Q)))}
    {lists : List (List Need)} (h : List.Forall₂ (fun r needs => r.Takes True needs) rs lists) :
    (Rendering.separated separator rs).Takes True lists.flatten := by
  have hzip : (Rendering.separated separator ((rs.zip lists).map Prod.fst)).Takes True
      ((rs.zip lists).flatMap Prod.snd) :=
    separated separator fun p hp => (List.forall₂_iff_zip.1 h).2 hp
  rw [List.map_fst_zip (Nat.le_of_eq h.length_eq), List.flatMap_def,
    List.map_snd_zip (Nat.le_of_eq h.length_eq.symm)] at hzip
  exact hzip

theorem commas {l : List α} (h : ∀ a ∈ l, (write a).Takes True (takes a)) :
    (Rendering.commas (l.map write)).Takes True (l.flatMap takes) :=
  separated ", " h

theorem clause_all (keyword : String) {l : List α}
    (h : ∀ a ∈ l, (write a).Takes (cond a) (takes a)) :
    (Rendering.clause keyword (l.map write)).Takes (∀ a ∈ l, cond a) (l.flatMap takes) := by
  unfold Rendering.clause
  -- the keyword is not written without parts
  cases l with
  | nil => exact nothing.of_iff (by simp)
  | cons a as => exact (separated_all ", " h).behind keyword

theorem clause (keyword : String) {l : List α} (h : ∀ a ∈ l, (write a).Takes True (takes a)) :
    (Rendering.clause keyword (l.map write)).Takes True (l.flatMap takes) :=
  (clause_all keyword h).of_iff (by simp)

end Takes
end Rendering

open Rendering

/-! ## Columns and operands -/

namespace Columns

variable (cs : Columns)

theorem takes_target (column : String) :
    (cs.target column : Rendering (List (Slot Q))).Takes True (cs.targetNeeds column) :=
  .name _

theorem takes_targets (columns : List String) :
    (cs.targets columns : Rendering (List (Slot Q))).Takes True (columns.flatMap cs.targetNeeds) :=
  .commas fun column _ => cs.takes_target column

theorem takes_reference (c : ColumnRef) :
    (cs.reference c : Rendering (List (Slot Q))).Takes True (cs.referenceNeeds c) := by
  have hcolumn : (if c.isStar then .fixed "*" else cs.target c.name :
      Rendering (List (Slot Q))).Takes True (if c.isStar then [] else cs.targetNeeds c.name) := by
    cases c.isStar with
    | true => exact .fixed "*"
    | false => exact cs.takes_target c.name
  unfold reference referenceNeeds
  cases c.table.or cs.qualifier with
  | none => exact hcolumn
  | some table => simpa using ((Takes.path table).before ".").append hcolumn

theorem takes_references (columns : List ColumnRef) :
    (cs.references columns : Rendering (List (Slot Q))).Takes True
      (columns.flatMap cs.referenceNeeds) :=
  .commas fun c _ => cs.takes_reference c

theorem takes_operand (o : Operand Q) :
    (cs.operand (o.map Slot.place)).Takes True (cs.operandNeeds o) := by
  cases o with
  | column c => exact cs.takes_reference c
  | value v => exact .bind v
  | fragment f => exact .fragment f
  | query q => exact (Takes.place q).bracketed

/-! ## Conditions -/

theorem takes_predicate (p : Predicate Q) :
    (cs.predicate (p.map Slot.place)).Takes True (cs.predicateNeeds p) := by
  cases p with
  | compare c op o =>
      exact ((cs.takes_reference c).before _).append (cs.takes_operand o)
  | nullCheck c isNull => exact (cs.takes_reference c).before _
  | inList c values negated =>
      unfold predicate predicateNeeds
      simp only [Predicate.map]
      -- an empty list of values is written as a constant
      cases values.isEmpty with
      | true => exact .fixed _
      | false =>
          have hvalues := Takes.commas (l := values) (Q := Q) fun v _ => .bind v
          simpa [List.map_eq_flatMap] using
            (((cs.takes_reference c).before _).append hvalues).before ")"
  | inQuery c q negated =>
      exact ((((cs.takes_reference c).before _).append (.place q)).before ")").cast
        (List.append_nil _)
  | existence q negated => exact ((Takes.place q).behind _).before ")"
  | between c low high negated =>
      exact (((((cs.takes_reference c).before _).append (.bind low)).before " AND ").append
        (.bind high)).cast (List.append_assoc _ _ _)
  | fragment f => exact .fragment f
  | constant b => exact .fixed _

/-- The members that are not written need nothing. -/
theorem flatMap_written_needs (fs : List (Formula (Predicate Q))) :
    (Formula.written fs).flatMap cs.conditionNeeds = fs.flatMap cs.conditionNeeds := by
  induction fs with
  | nil => rfl
  | cons f fs ih =>
      cases hf : f.isEmpty with
      | true =>
          have hatoms : f.atoms = [] := Formula.atoms_of_isEmpty hf
          simpa [Formula.written, hf, conditionNeeds, hatoms] using ih
      | false => simpa [Formula.written, hf] using ih

/-- A group takes what its members take. -/
theorem takes_members (separator : String)
    (needed : {R : Type} → Formula (Predicate R) → Bool)
    (hneeded : ∀ {R : Type} (g : Predicate Q → Predicate R) f, needed (f.map g) = needed f)
    {fs : List (Formula (Predicate Q))}
    (h : ∀ f ∈ fs, (cs.condition (f.map (Predicate.map Slot.place))).Takes True
      (cs.conditionNeeds f)) :
    (Rendering.separated separator ((Formula.written
      (fs.map (Formula.map (Predicate.map Slot.place)))).map (cs.member needed))).Takes True
        (fs.flatMap cs.conditionNeeds) := by
  rw [Formula.written_map, List.map_map, ← flatMap_written_needs]
  refine .separated separator fun f hf => ?_
  have hmember := h f (List.mem_filter.1 hf).1
  simp only [Function.comp_apply, member, hneeded]
  cases needed f with
  | true => exact hmember.bracketed
  | false => exact hmember

theorem takes_condition (f : Formula (Predicate Q)) :
    (cs.condition (f.map (Predicate.map Slot.place))).Takes True (cs.conditionNeeds f) := by
  -- by induction on the formula; the members of a group are taken one by one
  induction f using Formula.induction with
  | atom p => simpa [Formula.map, conditionNeeds, Formula.atoms] using cs.takes_predicate p
  | not f ih =>
      rw [Formula.map, condition_not]
      exact (ih.behind "NOT (").before ")"
  | all fs ih =>
      have hmembers := cs.takes_members " AND " Formula.isAny (by simp) ih
      rw [Formula.map, Formula.mapList_eq_map, condition_all]
      refine hmembers.cast ?_
      rw [conditionNeeds, Formula.atoms, Formula.atomsOf_eq_flatMap, List.flatMap_assoc]
      rfl
  | any fs ih =>
      have hmembers := cs.takes_members " OR " Formula.isAll (by simp) ih
      rw [Formula.map, Formula.mapList_eq_map, condition_any]
      refine hmembers.cast ?_
      rw [conditionNeeds, Formula.atoms, Formula.atomsOf_eq_flatMap, List.flatMap_assoc]
      rfl

theorem takes_clauseOf (keyword : String) (fs : List (Formula (Predicate Q))) :
    (cs.clauseOf keyword (fs.map (Formula.map (Predicate.map Slot.place)))).Takes True
      (fs.flatMap cs.conditionNeeds) := by
  have hall := cs.takes_members " AND " Formula.isAny (by simp) fun f (_ : f ∈ fs) =>
    cs.takes_condition f
  unfold clauseOf
  rw [Formula.areEmpty_map, condition_all]
  cases hempty : Formula.areEmpty fs with
  | true =>
      rw [← flatMap_written_needs, Formula.written_of_areEmpty hempty]
      exact .nothing
  | false => exact hall.behind keyword

/-! ## Rows -/

theorem takes_itemName (name : Option String) :
    (itemName name : Rendering (List (Slot Q))).Takes True (Need.title name) := by
  cases name with
  | none => exact .nothing
  | some s => exact (Takes.name s).behind " AS "

theorem takes_item (i : SelectItem Q) :
    (cs.item (i.map Slot.place)).Takes True (cs.itemNeeds i) := by
  cases i with
  | column c name => exact (cs.takes_reference c).append (takes_itemName _)
  | fragment f name => exact (Takes.fragment f).append (takes_itemName name)
  | aggregate function c isDistinct name =>
      cases c with
      | none => exact ((((Takes.fixed "*").behind _).before ")").append (takes_itemName name))
      | some c =>
          exact ((((cs.takes_reference c).behind _).before ")").append (takes_itemName name)).cast
            (by simp [itemNeeds])
  | window call w name =>
      exact ((((Takes.fragment call).before " OVER ").append (.name w)).append
        (takes_itemName name)).cast (by simp [itemNeeds])
  | query q name => exact (Takes.place q).bracketed.append (takes_itemName (some name))
  | existence q name =>
      exact ((Takes.place q).bracketed.behind "EXISTS ").append (takes_itemName (some name))

theorem takes_items (is : List (SelectItem Q)) :
    (cs.items (is.map (SelectItem.map Slot.place))).Takes True (is.flatMap cs.itemNeeds) := by
  rw [items, List.map_map]
  exact .commas fun i _ => cs.takes_item i

theorem takes_orderEntry {column : ColumnRef → Rendering (List (Slot Q))}
    {takes : ColumnRef → List Need} (h : ∀ c, (column c).Takes True (takes c)) (o : Order) :
    (orderEntry column o).Takes True (orderNeeds takes o) := by
  rcases o with ⟨target, direction, nulls⟩
  have hnulls : (Rendering.optional (fun n : Nulls => .fixed (" " ++ n.sql)) nulls :
      Rendering (List (Slot Q))).Takes True [] := by
    cases nulls with
    | none => exact .nothing
    | some n => exact .fixed _
  cases target with
  | column c => exact (((h c).before _).append hnulls).cast (List.append_nil _)
  | fragment f => exact (((Takes.fragment f).before _).append hnulls).cast (List.append_nil _)

theorem takes_windowBody (w : Window) :
    (cs.windowBody w : Rendering (List (Slot Q))).Takes True
      (w.partitionBy.flatMap cs.referenceNeeds ++
        w.orderBy.flatMap (orderNeeds cs.referenceNeeds) ++
          w.frame.toList.flatMap Need.fragment) := by
  rcases w with ⟨name, partitionBy, orderBy, frame⟩
  -- each of the three parts may be missing
  have hpartition : List.Forall₂ (fun (r : Rendering (List (Slot Q))) needs => r.Takes True needs)
      (if partitionBy.isEmpty then [] else [.fixed "PARTITION BY " ++ cs.references partitionBy])
      (if partitionBy.isEmpty then [] else [partitionBy.flatMap cs.referenceNeeds]) := by
    cases partitionBy with
    | nil => exact .nil
    | cons => exact .cons ((cs.takes_references _).behind "PARTITION BY ") .nil
  have horder : List.Forall₂ (fun (r : Rendering (List (Slot Q))) needs => r.Takes True needs)
      (if orderBy.isEmpty then []
        else [.clause "ORDER BY " (orderBy.map (orderEntry cs.reference))])
      (if orderBy.isEmpty then [] else [orderBy.flatMap (orderNeeds cs.referenceNeeds)]) := by
    cases orderBy with
    | nil => exact .nil
    | cons =>
        exact .cons (.clause "ORDER BY " fun o _ => takes_orderEntry cs.takes_reference o) .nil
  have hframe : List.Forall₂ (fun (r : Rendering (List (Slot Q))) needs => r.Takes True needs)
      (frame.toList.map Rendering.fragment) (frame.toList.map Need.fragment) := by
    cases frame with
    | none => exact .nil
    | some f => exact .cons (.fragment f) .nil
  refine (Takes.separated_forall₂ " " (List.rel_append (List.rel_append hpartition horder)
    hframe)).cast ?_
  cases partitionBy <;> cases orderBy <;> cases frame <;> simp

theorem takes_window (w : Window) :
    (cs.window w : Rendering (List (Slot Q))).Takes True (cs.windowNeeds w) :=
  (((Takes.name w.name).before " AS ").append (cs.takes_windowBody w).bracketed).cast
    (by simp [windowNeeds])

end Columns
end ParamSql
