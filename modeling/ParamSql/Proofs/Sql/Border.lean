import ParamSql.Proofs.Sql.Nesting

/-!
# Border — what stands behind the statements inside a query

A statement inside a query ends where the query does, or where a fixed text begins: a bracket around
it, or a clause behind it.  No name and no value of the outer statement stands next to it.

* `Slot.Bordered` — behind every place of a query there is a fixed text or nothing;
* `Correspondence.bordering` — what respects correspondences has such places only;
* `Query.Surrounds.border`, `Query.Encloses.border` — what stands behind a query, and behind a
  statement of a chain.
-/

namespace ParamSql

variable {Q : Type}

/-- If there is anything, it begins with a fixed text. -/
def Lexeme.Border (ls : List Lexeme) : Prop :=
  ∀ l ∈ ls.head?, ∃ s, l = .fixed s

theorem Lexeme.Border.nil : Border [] := by
  intro l hl
  cases hl

theorem Lexeme.Border.append {ls ms : List Lexeme} (h : Border ls) (h' : Border ms) :
    Border (ls ++ ms) := by
  cases ls with
  | nil => exact h'
  | cons l ls => exact h

namespace Slot

/-- If there is anything, it begins with a fixed text. -/
def Border (slots : List (Slot Q)) : Prop :=
  ∀ slot ∈ slots.head?, ∃ s, slot = .lexeme (.fixed s)

/-- Every place of a query has a border behind it. -/
inductive Bordered : List (Slot Q) → Prop
  | nil : Bordered []
  | lexeme {l : Lexeme} {slots : List (Slot Q)} : Bordered slots → Bordered (.lexeme l :: slots)
  | query {q : Q} {slots : List (Slot Q)} : Border slots → Bordered slots →
      Bordered (.query q :: slots)

variable {slots more : List (Slot Q)}

theorem Border.nil : Border ([] : List (Slot Q)) := by
  intro slot hslot
  cases hslot

theorem Border.append (h : Border slots) (h' : Border more) : Border (slots ++ more) := by
  cases slots with
  | nil => exact h'
  | cons slot slots => exact h

theorem Border.fill (h : Border slots) (lexemes : Q → List Lexeme) :
    Lexeme.Border (fill lexemes slots) := by
  cases slots with
  | nil => exact .nil
  | cons slot slots =>
      obtain ⟨s, rfl⟩ := h slot rfl
      intro l hl
      obtain rfl : .fixed s = l := by simpa [Slot.fill] using hl
      exact ⟨s, rfl⟩

namespace Bordered

theorem of_lexemes (ls : List Lexeme) : Bordered (Output.ofLexemes ls : List (Slot Q)) := by
  induction ls with
  | nil => exact .nil
  | cons l ls ih => exact .lexeme ih

theorem append (h : Bordered slots) (h' : Bordered more) (hborder : Border more) :
    Bordered (slots ++ more) := by
  -- only the last place may have nothing behind it, and what is appended begins with a fixed text
  induction h with
  | nil => exact h'
  | lexeme _ ih => exact .lexeme ih
  | query hb _ ih => exact .query (hb.append hborder) ih

/-- The border behind a place. -/
theorem border {before behind : List (Slot Q)} {q : Q}
    (h : Bordered (before ++ .query q :: behind)) : Border behind := by
  -- by induction on the bordered slots, each of which is ahead of the place or is the place
  generalize hslots : before ++ .query q :: behind = slots at h
  induction h generalizing before with
  | nil => simp at hslots
  | lexeme _ ih =>
      cases before with
      | nil => cases hslots
      | cons slot before => exact ih (List.cons.inj hslots).2
  | query hborder _ ih =>
      cases before with
      | nil =>
          cases hslots
          exact hborder
      | cons slot before => exact ih (List.cons.inj hslots).2

end Bordered
end Slot

/-! ## Statements have borders -/

namespace Rendering

/-- Every place in what is written has a border behind it. -/
def IsBordered (r : Rendering (List (Slot Q))) : Prop :=
  ∀ slots, r.result = .ok slots → Slot.Bordered slots

/-- What is written is a border itself. -/
def IsBorder (r : Rendering (List (Slot Q))) : Prop :=
  ∀ slots, r.result = .ok slots → Slot.Border slots

variable {r r' : Rendering (List (Slot Q))}

theorem isBordered_lexemes (ls : List Lexeme) :
    (Rendering.lexemes ls : Rendering (List (Slot Q))).IsBordered := by
  intro slots h
  obtain rfl := Except.ok.inj h
  exact .of_lexemes ls

theorem isBordered_fault (f : CompileFault) :
    (Rendering.fault f : Rendering (List (Slot Q))).IsBordered := by
  intro slots h
  cases h

theorem isBorder_fault (f : CompileFault) :
    (Rendering.fault f : Rendering (List (Slot Q))).IsBorder := by
  intro slots h
  cases h

theorem isBorder_nothing : (Rendering.nothing : Rendering (List (Slot Q))).IsBorder := by
  intro slots h
  obtain rfl : [] = slots := Except.ok.inj h
  exact .nil

theorem isBordered_name (s : String) :
    (Rendering.name s : Rendering (List (Slot Q))).IsBordered := by
  unfold Rendering.name
  cases Identifier.of s with
  | error f => exact isBordered_fault _
  | ok i => exact isBordered_lexemes _

theorem isBordered_path (s : String) :
    (Rendering.path s : Rendering (List (Slot Q))).IsBordered := by
  unfold Rendering.path
  cases Path.of s with
  | error f => exact isBordered_fault _
  | ok p => exact isBordered_lexemes _

theorem isBordered_place (q : Q) : (Slot.place q).IsBordered := by
  intro slots h
  obtain rfl : [.query q] = slots := Except.ok.inj h
  exact .query .nil .nil

theorem IsBordered.append (h : r.IsBordered) (h' : r'.IsBordered) (hborder : r'.IsBorder) :
    (r ++ r').IsBordered := by
  intro slots hslots
  obtain ⟨x, y, hx, hy, rfl⟩ := result_append_eq_ok hslots
  exact (h x hx).append (h' y hy) (hborder y hy)

theorem IsBorder.append (h : r.IsBorder) (h' : r'.IsBorder) : (r ++ r').IsBorder := by
  intro slots hslots
  obtain ⟨x, y, hx, hy, rfl⟩ := result_append_eq_ok hslots
  exact (h x hx).append (h' y hy)

/-- Whatever stands behind a fixed text, the two are a border together. -/
theorem isBorder_fixed_append (s : String) : (.fixed s ++ r : Rendering _).IsBorder := by
  intro slots hslots
  obtain ⟨x, y, hx, -, rfl⟩ := result_append_eq_ok hslots
  obtain rfl : [.lexeme (.fixed s)] = x := Except.ok.inj hx
  intro slot hslot
  obtain rfl : .lexeme (.fixed s) = slot := Option.some.inj hslot
  exact ⟨s, rfl⟩

theorem isBorder_fixed (s : String) : (Rendering.fixed s : Rendering (List (Slot Q))).IsBorder := by
  simpa using isBorder_fixed_append s (r := .nothing)

/-- A fixed text has no place in it. -/
theorem IsBordered.behind (s : String) (h : r.IsBordered) :
    (.fixed s ++ r : Rendering _).IsBordered := by
  intro slots hslots
  obtain ⟨x, y, hx, hy, rfl⟩ := result_append_eq_ok hslots
  obtain rfl : [.lexeme (.fixed s)] = x := Except.ok.inj hx
  exact .lexeme (h y hy)

end Rendering

open Rendering

/-- The places of queries have borders behind them, whatever is written to the other output.  What
is free is a border itself, so that it may stand behind a place. -/
def Correspondence.bordering : Correspondence Q (List (Slot Q)) (List (Slot Q)) where
  values := .same
  names _ := True
  paths _ := True
  fragments _ := True
  free _ x _ := x.IsBordered ∧ x.IsBorder
  begun _ x _ := x.IsBordered
  led _ x _ := x.IsBordered
  led_of_free h := h.1
  led_of_begun h := h
  nothing := ⟨isBordered_lexemes [], isBorder_nothing⟩
  fault _ f := ⟨isBordered_fault f, isBorder_fault f⟩
  begun_fault _ f := isBordered_fault f
  append h h' := ⟨h.1.append h'.1 h'.2, h.2.append h'.2⟩
  begun_append h h' := h.append h'.1 h'.2
  led_append h h' := h.append h'.1 h'.2
  starting _ h := h.behind _
  opening _ h := ⟨h.behind _, isBorder_fixed_append _⟩
  closing _ := ⟨isBordered_lexemes _, isBorder_fixed _⟩
  constant _ := isBordered_lexemes _
  bind _ := isBordered_lexemes _
  bound _ _ := ⟨IsBordered.behind _ (isBordered_lexemes _), isBorder_fixed_append _⟩
  fragment _ := isBordered_lexemes _
  name _ := isBordered_name _
  physical _ _ := isBordered_name _
  path _ := isBordered_path _
  column _ h := (isBordered_path _).append (h.behind _) (isBorder_fixed_append _)
  star _ := (isBordered_path _).append (isBordered_lexemes _) (isBorder_fixed _)
  path_of_name _ := trivial
  qualified _ _ := trivial
  parsed := @ColumnRef.parsed_anything

/-- The queries inside a statement have borders behind them. -/
theorem Clauses.bordered_outline {c : Clauses Q} {naming : Naming} {inCte : Bool}
    {slots : List (Slot Q)} (h : c.outline naming inCte = .ok slots) : Slot.Bordered slots := by
  have hadmits : ∀ i ∈ c.ingredients,
      (Correspondence.bordering (Q := Q)).Admits Slot.place Slot.place i := by
    intro i _
    cases i with
    | query q => exact isBordered_place q
    | name s => trivial
    | fragment f => trivial
  exact Correspondence.statement hadmits naming inCte slots h

namespace Query

variable {naming : Naming}

/-- The statements of a chain have borders behind them. -/
theorem bordered_chainOutline {q : Query} {slots : List (Slot (Clauses Query))}
    (h : q.chainOutline = .ok slots) : Slot.Bordered slots := by
  have hchain : Correspondence.bordering.begun (q.namedMembers.flatMap fun member => [member.2])
      (q.chainOf Slot.place) (q.chainOf Slot.place) :=
    Correspondence.chainOf (fun c => [c]) (fun _ => isBordered_name _)
      fun _ _ => isBordered_place _
  exact hchain slots h

theorem Surrounds.border {q : Query} {inCte : Bool} {c : Clauses Query} {path : List Nat}
    {before behind : List Lexeme} (h : Surrounds naming q inCte c path before behind) :
    Lexeme.Border behind := by
  -- by induction on what surrounds the query, which ends with what surrounds the outermost one
  induction h with
  | here houtline => exact (Clauses.bordered_outline houtline).border.fill _
  | inside houtline _ ih => exact ih.append ((Clauses.bordered_outline houtline).border.fill _)

theorem Encloses.border {q : Query} {i : Nat} {inCte : Bool} {c : Clauses Query}
    {before behind : List Lexeme} (h : Encloses naming q i inCte c before behind) :
    Lexeme.Border behind := by
  cases h with
  | alone => exact .nil
  | chained _ houtline => exact (bordered_chainOutline houtline).border.fill _

end Query
end ParamSql
