import ParamSql.Proofs.Sql.Guard

/-!
# Filtered — statements around their WHERE

A SELECT, an UPDATE and a DELETE have one WHERE each.  What is ahead of it and what is behind it
does not depend on the default filters, and neither does an INSERT, which has no WHERE.

* `Clauses.asked` — what is asked of the rows by the caller: by joins as well, in a change;
* `Clauses.ahead`, `Clauses.behind` — a statement around its WHERE;
* `FilterParts` — a statement as it is written: what is asked, and the default filters behind it;
* `Query.exists_filterParts` — every statement that is written has these parts;
* `Query.statement_withScopes` — with other default filters, only the items of these change.
-/

namespace ParamSql

namespace Formula

variable {α : Type}

theorem written_append (fs gs : List (Formula α)) :
    written (fs ++ gs) = written fs ++ written gs :=
  List.filter_append ..

end Formula

namespace Clauses

variable {Q : Type}

/-! ## What is asked -/

/-- Whether a statement adds rows. -/
def isInsertion (c : Clauses Q) : Bool :=
  match c.mutation with
  | some (.insert _ _) => true
  | _ => false

/-- What the caller asks of the rows of a statement.  In a SELECT the conditions of joins stand in
FROM. -/
def asked (c : Clauses Q) : List (Formula (Predicate Q)) :=
  match c.mutation with
  | none => c.conditions
  | some _ => c.demands

/-- The conditions of the default filters. -/
def defaults (c : Clauses Q) : List (Formula (Predicate Q)) :=
  c.scopes.map Scope.condition

/-- Whether a statement may be written without conditions, or has some. -/
def isGuarded (c : Clauses Q) : Bool :=
  !c.isChange || c.isNarrowed || c.all

/-- The same statement with other default filters. -/
def withScopes (c : Clauses Q) (scopes : List (Scope Q)) : Clauses Q :=
  { c with scopes }

/-! ## Around WHERE -/

variable {ω : Type} [Output ω]

/-- A SELECT ahead of its WHERE. -/
def selectionHead (cs : Columns) (c : Clauses (Rendering ω)) : Rendering ω :=
  .concat
    [.fixed "SELECT ", c.distinctClause cs, c.selectList cs, c.fromClause,
      .concat (c.joins.map (Join.rendering cs))]

/-- A SELECT behind its WHERE. -/
def selectionTail (cs : Columns) (c : Clauses (Rendering ω)) : Rendering ω :=
  .concat
    [.clause " GROUP BY " (c.group.map cs.operand),
      cs.clauseOf " HAVING " c.having,
      .clause " WINDOW " (c.windows.map cs.window),
      .concat (c.setOps.map setOperation),
      .clause " ORDER BY " (c.order.map (Columns.orderEntry (c.orderColumn cs))),
      Rendering.optional (fun n => .fixed " LIMIT " ++ .bind (.int n)) c.limit,
      Rendering.optional (fun n => .fixed " OFFSET " ++ .bind (.int n)) c.offset,
      Rendering.optional Lock.rendering c.lock]

/-- A statement ahead of its WHERE. -/
def ahead (cs : Columns) (c : Clauses (Rendering ω)) : Rendering ω :=
  c.withClause ++
    match c.mutation with
    | none => c.selectionHead cs
    | some m => c.unfiltered.changing cs m

/-- A statement behind its WHERE. -/
def behind (cs : Columns) (inCte : Bool) (c : Clauses (Rendering ω)) : Rendering ω :=
  match c.mutation with
  | none => c.selectionTail cs
  | some _ => c.returningClause cs inCte

theorem ahead_withScopes (cs : Columns) (c : Clauses (Rendering ω))
    (scopes : List (Scope (Rendering ω))) : (c.withScopes scopes).ahead cs = c.ahead cs := by
  unfold ahead
  cases hm : c.mutation <;> (simp only [withScopes, hm]; rfl)

theorem behind_withScopes (cs : Columns) (inCte : Bool) (c : Clauses (Rendering ω))
    (scopes : List (Scope (Rendering ω))) :
    (c.withScopes scopes).behind cs inCte = c.behind cs inCte := by
  unfold behind
  cases hm : c.mutation <;> simp only [withScopes, hm] <;> rfl

theorem asked_withScopes (c : Clauses Q) (scopes : List (Scope Q)) :
    (c.withScopes scopes).asked = c.asked := by
  unfold asked
  cases hm : c.mutation with
  | none => simp only [withScopes, hm]
  | some m => simp only [withScopes, hm, demands]

theorem exists_insert {c : Clauses Q} (h : c.isInsertion = true) :
    ∃ rows conflict, c.mutation = some (.insert rows conflict) := by
  unfold isInsertion at h
  split at h
  case h_1 rows conflict hm => exact ⟨rows, conflict, hm⟩
  case h_2 => cases h

theorem isInsertion_map {R : Type} (f : Q → R) (c : Clauses Q) :
    (c.map f).isInsertion = c.isInsertion := by
  unfold isInsertion
  rw [map_mutation]
  cases c.mutation with
  | none => rfl
  | some m => cases m <;> rfl

theorem isGuarded_map {R : Type} (f : Q → R) (c : Clauses Q) :
    (c.map f).isGuarded = c.isGuarded := by
  rw [isGuarded, isChange_map, isNarrowed_map]
  rfl

theorem asked_map {R : Type} (f : Q → R) (c : Clauses Q) :
    (c.map f).asked = c.asked.map (Formula.map (Predicate.map f)) := by
  unfold asked
  rw [map_mutation]
  cases c.mutation with
  | none => rfl
  | some m =>
      have hconditions := changeConditions_map f (c.withScopes [])
      simpa [demands, withScopes, filters] using hconditions

theorem defaults_map {R : Type} (f : Q → R) (c : Clauses Q) :
    (c.map f).defaults = c.defaults.map (Formula.map (Predicate.map f)) := by
  simp [defaults, map, Scope.map, Function.comp_def]

/-- An INSERT has no use for default filters. -/
theorem insertion_withScopes {c : Clauses (Rendering ω)} (hinsertion : c.isInsertion = true)
    (naming : Naming) (inCte : Bool) (scopes : List (Scope (Rendering ω))) :
    (c.withScopes scopes).statement naming inCte = c.statement naming inCte := by
  -- the rows and the conflict of an INSERT are all that its body reads
  rcases exists_insert hinsertion with ⟨rows, conflict, hm⟩
  unfold statement body
  simp only [withScopes, hm]
  rfl

variable [LawfulOutput ω]

theorem selection_eq_filtered (cs : Columns) (c : Clauses (Rendering ω)) :
    c.selection cs =
      c.selectionHead cs ++ cs.clauseOf " WHERE " c.filters ++ c.selectionTail cs := by
  simp only [selection, selectionHead, selectionTail, Rendering.concat_cons, Rendering.concat_nil,
    Rendering.append_assoc, Rendering.nothing_append]

/-- A statement other than an INSERT is written around its WHERE. -/
theorem statement_filtered (naming : Naming) (inCte : Bool) {c : Clauses (Rendering ω)}
    (hinsertion : c.isInsertion = false) (hguarded : c.isGuarded = true) :
    c.statement naming inCte = c.ahead (c.columns naming) ++
      (c.columns naming).clauseOf " WHERE " (c.asked ++ c.defaults) ++
        c.behind (c.columns naming) inCte := by
  unfold statement ahead behind asked defaults
  cases hm : c.mutation with
  | none =>
      have hbody : c.body (c.columns naming) inCte = c.selection (c.columns naming) := by
        simp [body, hm]
      simp only [hbody, selection_eq_filtered, filters, Rendering.append_assoc]
  | some m =>
      -- neither an update nor a deletion is an insertion, so the guard decides
      have hchange : c.isChange = true := by
        cases m <;> simp_all [isInsertion, isChange]
      have hguard : (c.isNarrowed || c.all) = true := by
        simpa [isGuarded, hchange] using hguarded
      simp only [body_of_mutation hm, changing_eq _ hm hchange hguard, demands_append_scopes,
        Rendering.append_assoc]

end Clauses

/-! ## Parts of a statement -/

/-- The items that are written in the WHERE of `c` for some formulas: one for each of them in which
there is a predicate, in order. -/
def Query.WrittenAs (naming : Naming) (c : Clauses Query) (fs : List (Formula (Predicate Query)))
    (items : List (List Lexeme)) : Prop :=
  List.Forall₂
    (fun f item => ((c.columns naming).member Formula.isAny
      (f.map (Predicate.map (rendering naming)))).result = .ok item)
    (Formula.written fs) items

/-- A statement as it is written: what is ahead of its WHERE, an item for everything that the caller
asks, an item for every default filter, and what is behind. -/
structure FilterParts (naming : Naming) (inCte : Bool) (c : Clauses Query) where
  head : List Lexeme
  asked : List (List Lexeme)
  defaults : List (List Lexeme)
  tail : List Lexeme
  head_eq : ((c.map (Query.rendering naming)).ahead (c.columns naming)).result = .ok head
  asked_eq : Query.WrittenAs naming c c.asked asked
  defaults_eq : Query.WrittenAs naming c c.defaults defaults
  tail_eq : ((c.map (Query.rendering naming)).behind (c.columns naming) inCte).result = .ok tail

namespace FilterParts

variable {naming : Naming} {inCte : Bool} {c : Clauses Query}

/-- The statement with items for other default filters. -/
def lexemesWith (p : FilterParts naming inCte c) (defaults : List (List Lexeme)) : List Lexeme :=
  p.head ++ Clauses.whereOf (p.asked ++ defaults) ++ p.tail

def lexemes (p : FilterParts naming inCte c) : List Lexeme :=
  p.lexemesWith p.defaults

end FilterParts

namespace Query

variable {naming : Naming} {inCte : Bool} {c : Clauses Query}

theorem WrittenAs.append {fs gs : List (Formula (Predicate Query))}
    {items more : List (List Lexeme)} (h : WrittenAs naming c fs items)
    (h' : WrittenAs naming c gs more) :
    WrittenAs naming c (fs ++ gs) (items ++ more) := by
  unfold WrittenAs
  rw [Formula.written_append]
  exact List.rel_append h h'

theorem WrittenAs.exists_append {fs gs : List (Formula (Predicate Query))}
    {items : List (List Lexeme)} (h : WrittenAs naming c (fs ++ gs) items) :
    ∃ front rear, items = front ++ rear ∧ WrittenAs naming c fs front ∧
      WrittenAs naming c gs rear := by
  unfold WrittenAs at h
  rw [Formula.written_append] at h
  -- the items of the first formulas are as many as these are
  have hfront := List.forall₂_take (Formula.written fs).length h
  have hrear := List.forall₂_drop (Formula.written fs).length h
  rw [List.take_left] at hfront
  rw [List.drop_left] at hrear
  exact ⟨_, _, (List.take_append_drop _ _).symm, hfront, hrear⟩

/-- If some formulas are dropped, the items of the others stay as they are. -/
theorem WrittenAs.exists_sublist {fs gs : List (Formula (Predicate Query))}
    {items : List (List Lexeme)} (h : WrittenAs naming c fs items) (hgs : gs.Sublist fs) :
    ∃ kept, kept.Sublist items ∧ WrittenAs naming c gs kept := by
  have hwritten : (Formula.written gs).Sublist (Formula.written fs) := hgs.filter _
  unfold WrittenAs at h ⊢
  -- only the written formulas matter, and what is dropped among these is dropped among the items
  generalize Formula.written gs = gs at hwritten
  generalize Formula.written fs = fs at hwritten h
  induction hwritten generalizing items with
  | slnil => exact ⟨[], List.nil_sublist _, .nil⟩
  | cons f hrest ih =>
      rcases List.forall₂_cons_left_iff.1 h with ⟨item, rest, -, hitems, rfl⟩
      rcases ih hitems with ⟨kept, hkept, hwritten⟩
      exact ⟨kept, hkept.cons item, hwritten⟩
  | cons_cons f hrest ih =>
      rcases List.forall₂_cons_left_iff.1 h with ⟨item, rest, hitem, hitems, rfl⟩
      rcases ih hitems with ⟨kept, hkept, hwritten⟩
      exact ⟨item :: kept, hkept.cons_cons item, .cons hitem hwritten⟩

/-- A statement other than an INSERT is written around its WHERE. -/
theorem statement_around (inCte : Bool) (hinsertion : c.isInsertion = false)
    (hguarded : c.isGuarded = true) :
    (statement naming inCte c : Rendering (List Lexeme)) =
      (c.map (rendering naming)).ahead (c.columns naming) ++
        (c.columns naming).clauseOf " WHERE "
          ((c.asked ++ c.defaults).map (Formula.map (Predicate.map (rendering naming)))) ++
        (c.map (rendering naming)).behind (c.columns naming) inCte := by
  rw [statement_eq_map, Clauses.statement_filtered naming inCte
    ((Clauses.isInsertion_map _ c).trans hinsertion) ((Clauses.isGuarded_map _ c).trans hguarded),
    Clauses.columns_map, Clauses.asked_map, Clauses.defaults_map, List.map_append]

theorem clauseOf_eq_ok_iff_writtenAs {fs : List (Formula (Predicate Query))} {ls : List Lexeme} :
    ((c.columns naming).clauseOf " WHERE "
        (fs.map (Formula.map (Predicate.map (rendering naming)))) :
      Rendering (List Lexeme)).result = .ok ls ↔
        ∃ items, WrittenAs naming c fs items ∧ ls = Clauses.whereOf items := by
  simp only [Clauses.clauseOf_eq_ok_iff, Formula.written_map, List.forall₂_map_left_iff, WrittenAs]

/-- A statement that is not guarded cannot be written. -/
theorem isGuarded_of_statement {ls : List Lexeme}
    (h : (statement naming inCte c : Rendering (List Lexeme)).result = .ok ls) :
    c.isGuarded = true := by
  cases hchange : c.isChange with
  | false => simp [Clauses.isGuarded, hchange]
  | true =>
      cases hguard : c.isNarrowed || c.all with
      | false => exact absurd h (statement_unguarded inCte hchange hguard ls)
      | true => simp [Clauses.isGuarded, hchange, hguard]

/-- Every statement other than an INSERT is written in its parts. -/
theorem exists_filterParts (hinsertion : c.isInsertion = false) {ls : List Lexeme}
    (h : (statement naming inCte c : Rendering (List Lexeme)).result = .ok ls) :
    ∃ parts : FilterParts naming inCte c, ls = parts.lexemes := by
  -- taken apart from behind: the tail, then WHERE with its items, then the head
  rw [statement_around inCte hinsertion (isGuarded_of_statement h)] at h
  rcases Rendering.result_append_eq_ok h with ⟨front, tail, hfront, htail, rfl⟩
  rcases Rendering.result_append_eq_ok hfront with ⟨head, filter, hhead, hfilter, rfl⟩
  rcases clauseOf_eq_ok_iff_writtenAs.1 hfilter with ⟨items, hitems, rfl⟩
  rcases hitems.exists_append with ⟨asked, defaults, rfl, hasked, hdefaults⟩
  exact ⟨⟨head, asked, defaults, tail, hhead, hasked, hdefaults, htail⟩, rfl⟩

/-- With other default filters, a statement is written with other items in the place of theirs. -/
theorem statement_withScopes (hinsertion : c.isInsertion = false) (hguarded : c.isGuarded = true)
    (parts : FilterParts naming inCte c) {scopes : List (Scope Query)} {items : List (List Lexeme)}
    (h : WrittenAs naming c (scopes.map Scope.condition) items) :
    (statement naming inCte (c.withScopes scopes) : Rendering (List Lexeme)).result =
      .ok (parts.lexemesWith items) := by
  have hfilter := clauseOf_eq_ok_iff_writtenAs.2 ⟨_, parts.asked_eq.append h, rfl⟩
  have hmap : (c.withScopes scopes).map (rendering naming) =
      (c.map (rendering naming)).withScopes
        (scopes.map (Scope.map (rendering naming)) : List (Scope (Rendering (List Lexeme)))) := rfl
  rw [statement_around inCte (c := c.withScopes scopes) hinsertion hguarded, hmap,
    Clauses.ahead_withScopes, Clauses.behind_withScopes, Clauses.asked_withScopes]
  exact Rendering.result_append_ok (Rendering.result_append_ok parts.head_eq hfilter) parts.tail_eq

/-- An INSERT does not depend on its default filters. -/
theorem statement_insertion (hinsertion : c.isInsertion = true) (scopes : List (Scope Query)) :
    (statement naming inCte (c.withScopes scopes) : Rendering (List Lexeme)) =
      statement naming inCte c := by
  rw [statement_eq_map, statement_eq_map]
  exact Clauses.insertion_withScopes ((Clauses.isInsertion_map _ c).trans hinsertion) naming inCte _

end Query
end ParamSql
