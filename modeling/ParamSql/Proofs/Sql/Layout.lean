import ParamSql.Proofs.Sql.Condition
import ParamSql.Proofs.Sql.Outline
import ParamSql.Proofs.Sql.Reference

/-!
# Layout — the parts of a statement respect layouts

A layout is a property of lexemes, graded by the columns that are referred to in them.  It may ask
that lexemes stand behind each other in a certain way, as brackets do.  For each function that
writes a part of a statement there is one lemma: if the queries inside it are laid out, and refer to
no column of the statement, then so is the part, with the references of the part.

* `Layout` — such a property, closed under the ways in which parts are put together;
* `quietTexts`, `leftTexts`, `rightTexts`, `verbTexts` — the fixed texts without brackets, with one
  bracket, and those by which a change begins;
* `Rendering.Lays` — what is written is laid out;
* `Columns.lays_condition`, `Columns.lays_item`, `Columns.lays_window` — conditions, the select
  list, and the clauses behind it.
-/

namespace ParamSql

/-! ## Texts -/

/-- Fixed texts with as many opening as closing brackets, which do not begin a change. -/
def quietTexts : List String :=
  [" ", ", ", ".", ".*", "*", " = ", " <> ", " > ", " >= ", " < ", " <= ", " LIKE ", " ILIKE ",
    " NOT LIKE ", " NOT ILIKE ", " IS NULL", " IS NOT NULL", " BETWEEN ", " NOT BETWEEN ", " AND ",
    " OR ", "TRUE", "FALSE", "WITH ", "WITH RECURSIVE ", "SELECT ", "DISTINCT ", " AS ", "EXISTS ",
    " OVER ", " FROM ", " JOIN ", " LEFT JOIN ", " RIGHT JOIN ", " FULL JOIN ", " CROSS JOIN ",
    " ON ", " WHERE ", " GROUP BY ", " HAVING ", " WINDOW ", "PARTITION BY ", "ORDER BY ",
    " UNION ", " UNION ALL ", " INTERSECT ", " INTERSECT ALL ", " EXCEPT ", " EXCEPT ALL ",
    " ORDER BY ", " ASC", " DESC", " NULLS FIRST", " NULLS LAST", " LIMIT ", " OFFSET ",
    " FOR UPDATE", " FOR NO KEY UPDATE", " FOR SHARE", " FOR KEY SHARE", " OF ", " NOWAIT",
    " SKIP LOCKED", " DEFAULT VALUES", "DEFAULT", " ON CONFLICT", " DO NOTHING", " DO UPDATE SET ",
    " = EXCLUDED.", " SET ", " + ", " - ", " = now()", " USING ", " RETURNING ", " RETURNING 1"]

/-- Fixed texts that end with an opening bracket. -/
def leftTexts : List String :=
  ["(", " (", " IN (", " NOT IN (", "EXISTS (", "NOT EXISTS (", "NOT (", "DISTINCT ON (", "count(",
    "sum(", "avg(", "min(", "max(", "count(DISTINCT ", "sum(DISTINCT ", "avg(DISTINCT ",
    "min(DISTINCT ", "max(DISTINCT "]

/-- Fixed texts that begin with a closing bracket. -/
def rightTexts : List String :=
  [")", ") ", ") VALUES "]

/-- Fixed texts by which a change begins. -/
def verbTexts : List String :=
  ["INSERT INTO ", "UPDATE ", "DELETE FROM "]

theorem CompareOp.sql_quiet (op : CompareOp) : " " ++ op.sql ++ " " ∈ quietTexts := by
  cases op <;> simp [quietTexts, sql]

theorem Direction.sql_quiet (d : Direction) : " " ++ d.sql ∈ quietTexts := by
  cases d <;> simp [quietTexts, sql]

theorem Nulls.sql_quiet (n : Nulls) : " " ++ n.sql ∈ quietTexts := by
  cases n <;> simp [quietTexts, sql]

theorem JoinKind.sql_quiet (k : JoinKind) : " " ++ k.sql ++ " " ∈ quietTexts := by
  cases k <;> simp [quietTexts, sql]

theorem LockMode.sql_quiet (m : LockMode) : " " ++ m.sql ∈ quietTexts := by
  cases m <;> simp [quietTexts, sql]

theorem WaitPolicy.sql_quiet (w : WaitPolicy) : " " ++ w.sql ∈ quietTexts := by
  cases w <;> simp [quietTexts, sql]

theorem SetOpKind.sql_quiet (k : SetOpKind) : " " ++ k.sql ++ " " ∈ quietTexts := by
  cases k <;> simp [quietTexts, sql]

theorem Aggregate.sql_left (f : Aggregate) (isDistinct : Bool) :
    (f.sql ++ "(" ++ if isDistinct then "DISTINCT " else "") ∈ leftTexts := by
  cases f <;> cases isDistinct <;> simp [leftTexts, sql]

/-! ## Layouts -/

/-- Whether a lexeme is not a fixed text. -/
def Lexeme.isSupplied : Lexeme → Bool
  | .fixed _ => false
  | .name _ | .verbatim _ | .bind _ => true

/-- A property of lexemes with references of a statement among them. -/
structure Layout (cs : Columns) where
  holds : List ColumnRef → List Lexeme → Prop
  nil : holds [] []
  append : ∀ {rs ss ls ms}, holds rs ls → holds ss ms → holds (rs ++ ss) (ls ++ ms)
  supplied : ∀ {l : Lexeme}, l.isSupplied = true → holds [] [l]
  quiet : ∀ {s}, s ∈ quietTexts → holds [] [.fixed s]
  enclosed : ∀ {s t rs ls}, s ∈ leftTexts → t ∈ rightTexts → holds rs ls →
    holds rs (.fixed s :: ls ++ [.fixed t])
  reference : ∀ {r ls}, (cs.reference r : Rendering (List Lexeme)).result = .ok ls → holds [r] ls

/-- What is written is laid out, with some references in it. -/
def Rendering.Lays {cs : Columns} (L : Layout cs) (refs : List ColumnRef)
    (r : Rendering (List Lexeme)) : Prop :=
  ∀ ls, r.result = .ok ls → L.holds refs ls

open Rendering (Lays)

namespace Layout

variable {cs : Columns} (L : Layout cs)

/-! ## Parts -/

theorem fault (refs : List ColumnRef) (f : CompileFault) : Lays L refs (.fault f) := by
  intro ls h
  cases h

theorem of_supplied {ls : List Lexeme} (h : ∀ l ∈ ls, l.isSupplied = true) : L.holds [] ls := by
  induction ls with
  | nil => exact L.nil
  | cons l ls ih =>
      obtain ⟨hl, hls⟩ := List.forall_mem_cons.1 h
      exact L.append (L.supplied hl) (ih hls)

theorem lexemes {refs : List ColumnRef} {ls : List Lexeme} (h : L.holds refs ls) :
    Lays L refs (.lexemes ls) := by
  intro ms hms
  obtain rfl := Except.ok.inj hms
  rwa [ofLexemes_self]

theorem nothing : Lays L [] .nothing :=
  L.lexemes L.nil

theorem fixed {s : String} (hs : s ∈ quietTexts) : Lays L [] (.fixed s) :=
  L.lexemes (L.quiet hs)

theorem bind (v : Value) : Lays L [] (.bind v) :=
  L.lexemes (L.supplied rfl)

theorem fragment (f : Fragment) : Lays L [] (.fragment f) := by
  refine L.lexemes (L.of_supplied fun l hl => ?_)
  obtain ⟨p, -, rfl⟩ := List.mem_map.1 hl
  cases p <;> rfl

theorem name (s : String) : Lays L [] (.name s) := by
  unfold Rendering.name
  cases Identifier.of s with
  | error f => exact L.fault _ _
  | ok i => exact L.lexemes (L.supplied rfl)

/-- The names of a path are supplied, and the dots between them are quiet. -/
theorem path (s : String) : Lays L [] (.path s) := by
  unfold Rendering.path
  cases Path.of s with
  | error f => exact L.fault _ _
  | ok p =>
      refine L.lexemes ?_
      induction p with
      | nil => exact L.nil
      | cons i p ih =>
          cases p with
          | nil => exact L.supplied rfl
          | cons j p =>
              exact L.append (L.append (L.supplied (l := .name i) rfl)
                (L.quiet (s := ".") (by simp [quietTexts]))) ih

end Layout

namespace Rendering.Lays

variable {cs : Columns} {L : Layout cs} {refs refs' : List ColumnRef}
variable {r r' : Rendering (List Lexeme)} {s t : String}

theorem cast (h : r.Lays L refs) (heq : refs = refs') : r.Lays L refs' :=
  heq ▸ h

theorem both (h : r.Lays L refs) (h' : r'.Lays L refs') : (r ++ r').Lays L (refs ++ refs') := by
  intro ls hls
  obtain ⟨x, y, hx, hy, rfl⟩ := result_append_eq_ok hls
  exact L.append (h x hx) (h' y hy)

/-- A part without references may stand behind one that has some. -/
theorem both_plain (h : r.Lays L refs) (h' : r'.Lays L []) : (r ++ r').Lays L refs :=
  List.append_nil refs ▸ h.both h'

theorem plain_both (h : r.Lays L []) (h' : r'.Lays L refs) : (r ++ r').Lays L refs :=
  h.both h'

theorem behind (hs : s ∈ quietTexts) (h : r.Lays L refs) :
    (.fixed s ++ r : Rendering _).Lays L refs :=
  (L.fixed hs).plain_both h

theorem before (h : r.Lays L refs) (hs : s ∈ quietTexts) :
    (r ++ .fixed s : Rendering _).Lays L refs :=
  h.both_plain (L.fixed hs)

theorem enclose (hs : s ∈ leftTexts) (ht : t ∈ rightTexts) (h : r.Lays L refs) :
    (.fixed s ++ r ++ .fixed t : Rendering _).Lays L refs := by
  intro ls hls
  obtain ⟨x, y, hx, hy, rfl⟩ := result_append_eq_ok hls
  obtain ⟨v, w, hv, hw, rfl⟩ := result_append_eq_ok hx
  obtain rfl : [.fixed s] = v := Except.ok.inj hv
  obtain rfl : [.fixed t] = y := Except.ok.inj hy
  exact L.enclosed hs ht (h w hw)

theorem bracketed (h : r.Lays L refs) : r.bracketed.Lays L refs :=
  enclose (by simp [leftTexts]) (by simp [rightTexts]) h

/-- Brackets around a part that stands behind another one. -/
theorem both_enclosed (h : r.Lays L refs) (hs : s ∈ leftTexts) (ht : t ∈ rightTexts)
    (h' : r'.Lays L refs') :
    (r ++ .fixed s ++ r' ++ .fixed t : Rendering _).Lays L (refs ++ refs') := by
  have hboth := h.both (enclose hs ht h')
  simpa only [append_assoc] using hboth

/-- One of two parts, either of which is laid out. -/
theorem choice {c : Prop} [Decidable c] (h : c → r.Lays L refs) (h' : ¬c → r'.Lays L refs) :
    (if c then r else r').Lays L refs := by
  split
  · exact h ‹_›
  · exact h' ‹_›

/-! ## Lists of parts -/

variable {α : Type} {write : α → Rendering (List Lexeme)} {refer : α → List ColumnRef}

theorem optional {o : Option α} (h : ∀ a, (write a).Lays L (refer a)) :
    (Rendering.optional write o).Lays L (o.toList.flatMap refer) := by
  cases o with
  | none => exact L.nothing
  | some a => simpa [Rendering.optional] using h a

theorem concat {l : List α} (h : ∀ a, (write a).Lays L (refer a)) :
    (Rendering.concat (l.map write)).Lays L (l.flatMap refer) := by
  induction l with
  | nil => exact L.nothing
  | cons a as ih =>
      rw [List.map_cons, concat_cons, List.flatMap_cons]
      exact (h a).both ih

theorem separated (hs : s ∈ quietTexts) {l : List α} (h : ∀ a ∈ l, (write a).Lays L (refer a)) :
    (Rendering.separated s (l.map write)).Lays L (l.flatMap refer) := by
  induction l with
  | nil => exact L.nothing
  | cons a as ih =>
      have ha := h a List.mem_cons_self
      -- there is no separator behind the last part
      cases as with
      | nil => simpa using ha
      | cons b bs =>
          have hrest := (ih fun b hb => h b (List.mem_cons_of_mem a hb)).behind hs
          rw [List.map_cons, List.map_cons, separated_cons_cons, List.flatMap_cons]
          exact ha.both hrest

/-- Parts that are laid out, whatever they are made from. -/
theorem separated_forall₂ (hs : s ∈ quietTexts) {rs : List (Rendering (List Lexeme))}
    {lists : List (List ColumnRef)} (h : List.Forall₂ (fun r refs => r.Lays L refs) rs lists) :
    (Rendering.separated s rs).Lays L lists.flatten := by
  have hzip : (Rendering.separated s ((rs.zip lists).map Prod.fst)).Lays L
      ((rs.zip lists).flatMap Prod.snd) :=
    separated hs fun p hp => (List.forall₂_iff_zip.1 h).2 hp
  rw [List.map_fst_zip (Nat.le_of_eq h.length_eq), List.flatMap_def,
    List.map_snd_zip (Nat.le_of_eq h.length_eq.symm)] at hzip
  exact hzip

theorem commas {l : List α} (h : ∀ a ∈ l, (write a).Lays L (refer a)) :
    (Rendering.commas (l.map write)).Lays L (l.flatMap refer) :=
  separated (by simp [quietTexts]) h

theorem commas_plain {l : List α} (h : ∀ a ∈ l, (write a).Lays L []) :
    (Rendering.commas (l.map write)).Lays L [] :=
  (commas h).cast (List.flatMap_eq_nil_iff.2 fun _ _ => rfl)

theorem clause (hs : s ∈ quietTexts) {l : List α} (h : ∀ a ∈ l, (write a).Lays L (refer a)) :
    (Rendering.clause s (l.map write)).Lays L (l.flatMap refer) := by
  unfold Rendering.clause
  cases l with
  | nil => exact L.nothing
  | cons a as => exact (commas h).behind hs

end Rendering.Lays

/-! ## Columns and operands -/

namespace Columns

open Rendering.Lays

variable {Q : Type} {cs : Columns} {L : Layout cs} {ρ : Q → Rendering (List Lexeme)}

theorem lays_target (column : String) : (cs.target column).Lays L [] :=
  L.name _

theorem lays_targets (columns : List String) : (cs.targets columns).Lays L [] :=
  commas_plain fun column _ => lays_target column

theorem lays_reference (c : ColumnRef) : (cs.reference c).Lays L [c] :=
  fun _ hls => L.reference hls

theorem lays_references (columns : List ColumnRef) : (cs.references columns).Lays L columns :=
  (commas fun c _ => lays_reference c).cast (List.flatMap_singleton' columns)

theorem lays_operand (hρ : ∀ q, (ρ q).Lays L []) (o : Operand Q) :
    (cs.operand (o.map ρ)).Lays L o.references := by
  cases o with
  | column c => exact lays_reference c
  | value v => exact L.bind v
  | fragment f => exact L.fragment f
  | query q => exact (hρ q).bracketed

/-! ## Conditions -/

theorem lays_predicate (hρ : ∀ q, (ρ q).Lays L []) (p : Predicate Q) :
    (cs.predicate (p.map ρ)).Lays L p.references := by
  cases p with
  | compare c op o => exact ((lays_reference c).before op.sql_quiet).both (lays_operand hρ o)
  | nullCheck c isNull =>
      exact (lays_reference c).before (by cases isNull <;> simp [quietTexts])
  | inList c values negated =>
      unfold predicate Predicate.references
      simp only [Predicate.map]
      -- an empty list of values is written as a constant
      cases values.isEmpty with
      | true => exact L.fixed (by cases negated <;> simp [quietTexts])
      | false =>
          exact (lays_reference c).both_enclosed (by cases negated <;> simp [leftTexts])
            (by simp [rightTexts]) (commas_plain fun v _ => L.bind v)
  | inQuery c q negated =>
      exact (lays_reference c).both_enclosed (by cases negated <;> simp [leftTexts])
        (by simp [rightTexts]) (hρ q)
  | existence q negated =>
      exact (hρ q).enclose (by cases negated <;> simp [leftTexts]) (by simp [rightTexts])
  | between c low high negated =>
      have hkeyword : (if negated then " NOT BETWEEN " else " BETWEEN ") ∈ quietTexts := by
        cases negated <;> simp [quietTexts]
      exact ((((lays_reference c).before hkeyword).both_plain (L.bind low)).before
        (by simp [quietTexts])).both_plain (L.bind high)
  | fragment f => exact L.fragment f
  | constant b => exact L.fixed (by cases b <;> simp [quietTexts])

/-- The members that are not written have no references. -/
theorem flatMap_written_references (fs : List (Formula (Predicate Q))) :
    (Formula.written fs).flatMap Formula.references = fs.flatMap Formula.references := by
  induction fs with
  | nil => rfl
  | cons f fs ih =>
      cases hf : f.isEmpty with
      | true =>
          have hatoms : f.atoms = [] := Formula.atoms_of_isEmpty hf
          simpa [Formula.written, hf, Formula.references, hatoms] using ih
      | false => simpa [Formula.written, hf] using ih

/-- A group is laid out if its members are. -/
theorem lays_members {s : String} (hs : s ∈ quietTexts)
    (needed : {R : Type} → Formula (Predicate R) → Bool)
    (hneeded : ∀ {R : Type} (g : Predicate Q → Predicate R) f, needed (f.map g) = needed f)
    {fs : List (Formula (Predicate Q))}
    (h : ∀ f ∈ fs, (cs.condition (f.map (Predicate.map ρ))).Lays L f.references) :
    (Rendering.separated s ((Formula.written (fs.map (Formula.map (Predicate.map ρ)))).map
      (cs.member needed))).Lays L (fs.flatMap Formula.references) := by
  rw [Formula.written_map, List.map_map, ← flatMap_written_references]
  refine separated hs fun f hf => ?_
  have hmember := h f (List.mem_filter.1 hf).1
  simp only [Function.comp_apply, member, hneeded]
  cases needed f with
  | true => exact hmember.bracketed
  | false => exact hmember

theorem references_all (fs : List (Formula (Predicate Q))) :
    (Formula.all fs).references = fs.flatMap Formula.references := by
  rw [Formula.references, Formula.atoms, Formula.atomsOf_eq_flatMap, List.flatMap_assoc]
  rfl

theorem references_any (fs : List (Formula (Predicate Q))) :
    (Formula.any fs).references = fs.flatMap Formula.references :=
  references_all fs

theorem lays_condition (hρ : ∀ q, (ρ q).Lays L []) (f : Formula (Predicate Q)) :
    (cs.condition (f.map (Predicate.map ρ))).Lays L f.references := by
  -- by induction on the formula; the members of a group are laid out one by one
  induction f using Formula.induction with
  | atom p => simpa [Formula.map, Formula.references, Formula.atoms] using lays_predicate hρ p
  | not f ih =>
      rw [Formula.map, condition_not]
      exact ih.enclose (by simp [leftTexts]) (by simp [rightTexts])
  | all fs ih =>
      rw [Formula.map, Formula.mapList_eq_map, condition_all, references_all]
      exact lays_members (by simp [quietTexts]) Formula.isAny (by simp) ih
  | any fs ih =>
      rw [Formula.map, Formula.mapList_eq_map, condition_any, references_any]
      exact lays_members (by simp [quietTexts]) Formula.isAll (by simp) ih

theorem lays_clauseOf (hρ : ∀ q, (ρ q).Lays L []) {s : String} (hs : s ∈ quietTexts)
    (fs : List (Formula (Predicate Q))) :
    (cs.clauseOf s (fs.map (Formula.map (Predicate.map ρ)))).Lays L
      (fs.flatMap Formula.references) := by
  have hall := lays_members (L := L) (s := " AND ") (by simp [quietTexts]) Formula.isAny
    (by simp) fun f (_ : f ∈ fs) => lays_condition hρ f
  unfold clauseOf
  rw [Formula.areEmpty_map, condition_all]
  cases hempty : Formula.areEmpty fs with
  | true =>
      rw [← flatMap_written_references, Formula.written_of_areEmpty hempty]
      exact L.nothing
  | false => exact hall.behind hs

/-! ## Rows -/

theorem lays_itemName (name : Option String) : (itemName name).Lays L [] := by
  cases name with
  | none => exact L.nothing
  | some s => exact (L.name s).behind (by simp [quietTexts])

theorem lays_item (hρ : ∀ q, (ρ q).Lays L []) (i : SelectItem Q) :
    (cs.item (i.map ρ)).Lays L i.references := by
  cases i with
  | column c name => exact (lays_reference c).both_plain (lays_itemName _)
  | fragment f name => exact (L.fragment f).both_plain (lays_itemName name)
  | aggregate function c isDistinct name =>
      refine both_plain (enclose (function.sql_left isDistinct) (by simp [rightTexts]) ?_)
        (lays_itemName name)
      -- of a column or of all rows
      cases c with
      | none => exact L.fixed (by simp [quietTexts])
      | some c => exact lays_reference c
  | window call w name =>
      exact (((L.fragment call).before (by simp [quietTexts])).both_plain (L.name w)).both_plain
        (lays_itemName name)
  | query q name => exact (hρ q).bracketed.both_plain (lays_itemName (some name))
  | existence q name =>
      exact ((hρ q).bracketed.behind (by simp [quietTexts])).both_plain (lays_itemName (some name))

theorem lays_items (hρ : ∀ q, (ρ q).Lays L []) (is : List (SelectItem Q)) :
    (cs.items (is.map (SelectItem.map ρ))).Lays L (is.flatMap SelectItem.references) := by
  rw [items, List.map_map]
  exact commas fun i _ => lays_item hρ i

theorem lays_orderEntry {column : ColumnRef → Rendering (List Lexeme)}
    {refer : ColumnRef → List ColumnRef} (h : ∀ c, (column c).Lays L (refer c)) (o : Order) :
    (orderEntry column o).Lays L (o.references.flatMap refer) := by
  rcases o with ⟨target, direction, nulls⟩
  have hnulls : (Rendering.optional (fun n : Nulls => .fixed (" " ++ n.sql)) nulls).Lays L [] := by
    cases nulls with
    | none => exact L.nothing
    | some n => exact L.fixed n.sql_quiet
  cases target with
  | column c =>
      exact (((h c).before direction.sql_quiet).both_plain hnulls).cast (by simp [Order.references])
  | fragment f => exact ((L.fragment f).before direction.sql_quiet).both_plain hnulls

theorem lays_windowBody (w : Window) : (cs.windowBody w).Lays L w.references := by
  rcases w with ⟨name, partitionBy, orderBy, frame⟩
  -- each of the three parts may be missing
  have hpartition : List.Forall₂ (fun (r : Rendering (List Lexeme)) refs => r.Lays L refs)
      (if partitionBy.isEmpty then [] else [.fixed "PARTITION BY " ++ cs.references partitionBy])
      (if partitionBy.isEmpty then [] else [partitionBy]) := by
    cases partitionBy with
    | nil => exact .nil
    | cons => exact .cons ((lays_references _).behind (by simp [quietTexts])) .nil
  have horder : List.Forall₂ (fun (r : Rendering (List Lexeme)) refs => r.Lays L refs)
      (if orderBy.isEmpty then []
        else [.clause "ORDER BY " (orderBy.map (orderEntry cs.reference))])
      (if orderBy.isEmpty then [] else [orderBy.flatMap Order.references]) := by
    cases orderBy with
    | nil => exact .nil
    | cons o orderBy =>
        refine .cons (clause (by simp [quietTexts]) fun o _ => ?_) .nil
        exact (lays_orderEntry lays_reference o).cast (List.flatMap_singleton' _)
  have hframe : List.Forall₂ (fun (r : Rendering (List Lexeme)) refs => r.Lays L refs)
      (frame.toList.map Rendering.fragment) (frame.toList.map fun _ => []) := by
    cases frame with
    | none => exact .nil
    | some f => exact .cons (L.fragment f) .nil
  refine (separated_forall₂ (by simp [quietTexts]) (List.rel_append (List.rel_append hpartition
    horder) hframe)).cast ?_
  cases partitionBy <;> cases orderBy <;> cases frame <;> simp [Window.references]

theorem lays_window (w : Window) : (cs.window w).Lays L w.references := by
  have hname : (.name w.name ++ .fixed " AS " : Rendering _).Lays L [] :=
    (L.name w.name).before (by simp [quietTexts])
  exact hname.plain_both (lays_windowBody w).bracketed

end Columns
end ParamSql
