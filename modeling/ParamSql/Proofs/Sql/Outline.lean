import ParamSql.Proofs.Sql.Draft

/-!
# Outline — statements with places for the queries inside them

If a statement is written with a mark in the place of every query inside it, what is written around
the marks cannot depend on these queries.

* `Slot`, `Slot.fill` — lexemes and places for queries, and the lexemes when the places are filled;
* `Clauses.outline` — a statement with places for its subqueries;
* `Clauses.statement_fills` — the places of an outline are those of the subqueries, in order, and
  the statement is its outline with every query written as it is by itself;
* `Query.chain_fills` — the same of the statements of a chain.
-/

namespace ParamSql

variable {Q : Type}

/-- A lexeme, or the place of a query. -/
inductive Slot (Q : Type)
  | lexeme (l : Lexeme)
  | query (q : Q)

namespace Slot

/-- The lexemes when the places are filled. -/
def fill (lexemes : Q → List Lexeme) (slots : List (Slot Q)) : List Lexeme :=
  slots.flatMap fun
    | .lexeme l => [l]
    | .query q => lexemes q

/-- The queries whose places are there, in order. -/
def queries (slots : List (Slot Q)) : List Q :=
  slots.flatMap fun
    | .lexeme _ => []
    | .query q => [q]

@[simp]
theorem fill_query (lexemes : Q → List Lexeme) (q : Q) (slots : List (Slot Q)) :
    fill lexemes (.query q :: slots) = lexemes q ++ fill lexemes slots := rfl

@[simp]
theorem queries_query (q : Q) (slots : List (Slot Q)) :
    queries (.query q :: slots) = q :: queries slots := rfl

@[simp]
theorem fill_append (lexemes : Q → List Lexeme) (slots more : List (Slot Q)) :
    fill lexemes (slots ++ more) = fill lexemes slots ++ fill lexemes more :=
  List.flatMap_append

@[simp]
theorem queries_append (slots more : List (Slot Q)) :
    queries (slots ++ more) = queries slots ++ queries more :=
  List.flatMap_append

/-- Around a query that has a place there are the slots ahead of it and those behind it. -/
theorem exists_split {slots : List (Slot Q)} {i : Nat} {q : Q} (h : (queries slots)[i]? = some q) :
    ∃ before behind, slots = before ++ .query q :: behind ∧ (queries before).length = i := by
  induction slots generalizing i with
  | nil => cases h
  | cons slot slots ih =>
      -- lexemes are passed over, places are counted
      cases slot with
      | lexeme l =>
          rcases ih h with ⟨before, behind, hslots, hi⟩
          exact ⟨.lexeme l :: before, behind, by rw [hslots, List.cons_append], hi⟩
      | query r =>
          cases i with
          | zero =>
              obtain rfl : r = q := Option.some.inj h
              exact ⟨[], slots, rfl, rfl⟩
          | succ i =>
              rcases ih h with ⟨before, behind, hslots, hi⟩
              exact ⟨.query r :: before, behind, by rw [hslots, List.cons_append],
                congrArg Nat.succ hi⟩

instance : Output (List (Slot Q)) where
  blank := []
  append before behind := before ++ behind
  ofLexeme l := [.lexeme l]

instance : LawfulOutput (List (Slot Q)) where
  append_assoc := List.append_assoc
  blank_append := List.nil_append
  append_blank := List.append_nil

/-- The place of a query. -/
def place (q : Q) : Rendering (List (Slot Q)) :=
  ⟨fun _ => .ok [.query q]⟩

theorem fill_ofLexemes (lexemes : Q → List Lexeme) (ls : List Lexeme) :
    fill lexemes (Output.ofLexemes ls) = ls := by
  induction ls with
  | nil => rfl
  | cons l ls ih => exact congrArg (l :: ·) ih

theorem queries_ofLexemes (ls : List Lexeme) :
    queries (Output.ofLexemes ls : List (Slot Q)) = [] := by
  induction ls with
  | nil => rfl
  | cons l ls ih => exact ih

@[simp]
theorem fill_map_lexeme (lexemes : Q → List Lexeme) (ls : List Lexeme) :
    fill lexemes (ls.map lexeme) = ls := by
  simp [fill, List.flatMap_map]

@[simp]
theorem queries_map_lexeme (ls : List Lexeme) : queries (ls.map lexeme : List (Slot Q)) = [] := by
  simp [queries, List.flatMap_map]

/-- Only what the places that are there are filled with matters. -/
theorem fill_congr {lexemes lexemes' : Q → List Lexeme} {slots : List (Slot Q)}
    (h : ∀ q ∈ queries slots, lexemes q = lexemes' q) :
    fill lexemes slots = fill lexemes' slots := by
  refine List.flatMap_congr fun slot hslot => ?_
  cases slot with
  | lexeme l => rfl
  | query q => exact h q (List.mem_flatMap.2 ⟨.query q, hslot, List.mem_singleton.2 rfl⟩)

end Slot

/-! ## Outlines are filled -/

namespace Rendering

/-- The lexemes of a rendering, if it can be written. -/
def lexemesOf (r : Rendering (List Lexeme)) : List Lexeme :=
  match r.result with
  | .ok ls => ls
  | .error _ => []

theorem lexemesOf_eq {r : Rendering (List Lexeme)} {ls : List Lexeme} (h : r.result = .ok ls) :
    r.lexemesOf = ls := by
  rw [lexemesOf, h]

/-- A rendering that can be written. -/
def IsWritten (r : Rendering (List Lexeme)) : Prop :=
  r.result = .ok r.lexemesOf

theorem isWritten_of {r : Rendering (List Lexeme)} {ls : List Lexeme} (h : r.result = .ok ls) :
    r.IsWritten := by
  rw [IsWritten, lexemesOf_eq h, h]

/-- `x` has places for the queries `qs`, and `y` is `x` with the places filled by `ρ`: whoever can
write `y` can write `x` and all queries, and the other way round. -/
structure Fills (ρ : Q → Rendering (List Lexeme)) (qs : List Q) (x : Rendering (List (Slot Q)))
    (y : Rendering (List Lexeme)) : Prop where
  -- the places are known even if a query cannot be written
  places : ∀ slots, x.result = .ok slots → Slot.queries slots = qs
  fill : ∀ slots, x.result = .ok slots → (∀ q ∈ qs, (ρ q).IsWritten) →
    y.result = .ok (Slot.fill (fun q => (ρ q).lexemesOf) slots)
  written : ∀ ls, y.result = .ok ls →
    (∃ slots, x.result = .ok slots) ∧ ∀ q ∈ qs, (ρ q).IsWritten

variable {ρ : Q → Rendering (List Lexeme)}

theorem Fills.lexemes (ls : List Lexeme) : Fills ρ [] (.lexemes ls) (.lexemes ls) where
  places slots h := by
    cases h
    exact Slot.queries_ofLexemes ls
  fill slots h _ := by
    cases h
    simp [Slot.fill_ofLexemes]
  written _ _ := ⟨⟨_, rfl⟩, by simp⟩

theorem Fills.fault (qs : List Q) (f : CompileFault) : Fills ρ qs (.fault f) (.fault f) where
  places slots h := by cases h
  fill slots h := by cases h
  written ls h := by cases h

theorem Fills.name (s : String) : Fills ρ [] (.name s) (.name s) := by
  unfold Rendering.name
  cases Identifier.of s with
  | error f => exact .fault [] _
  | ok i => exact .lexemes _

theorem Fills.path (s : String) : Fills ρ [] (.path s) (.path s) := by
  unfold Rendering.path
  cases Path.of s with
  | error f => exact .fault [] _
  | ok p => exact .lexemes _

theorem Fills.append {qs rs : List Q} {x x' : Rendering (List (Slot Q))}
    {y y' : Rendering (List Lexeme)} (h : Fills ρ qs x y) (h' : Fills ρ rs x' y') :
    Fills ρ (qs ++ rs) (x ++ x') (y ++ y') where
  places slots hslots := by
    rcases result_append_eq_ok hslots with ⟨before, behind, hbefore, hbehind, rfl⟩
    exact (Slot.queries_append before behind).trans
      (congrArg₂ _ (h.places before hbefore) (h'.places behind hbehind))
  fill slots hslots hwritten := by
    rcases result_append_eq_ok hslots with ⟨before, behind, hbefore, hbehind, rfl⟩
    -- the queries of each part fill the places of that part
    rcases List.forall_mem_append.1 hwritten with ⟨hqs, hrs⟩
    rw [result_append_ok (h.fill before hbefore hqs) (h'.fill behind hbehind hrs)]
    exact congrArg Except.ok (Slot.fill_append _ before behind).symm
  written ls hls := by
    rcases result_append_eq_ok hls with ⟨before, behind, hbefore, hbehind, rfl⟩
    rcases h.written before hbefore with ⟨⟨slots, hslots⟩, hqs⟩
    rcases h'.written behind hbehind with ⟨⟨slots', hslots'⟩, hrs⟩
    exact ⟨⟨_, result_append_ok hslots hslots'⟩, List.forall_mem_append.2 ⟨hqs, hrs⟩⟩

theorem Fills.place (q : Q) : Fills ρ [q] (Slot.place q) (ρ q) where
  places slots h := by
    cases h
    rfl
  fill slots h hwritten := by
    cases h
    rw [hwritten q (by simp)]
    simp [Slot.fill]
  written ls h := ⟨⟨_, rfl⟩, fun r hr => by
    rw [List.mem_singleton.1 hr]
    exact isWritten_of h⟩

end Rendering

/-- Statements are filled outlines. -/
def Agreement.outlining (ρ : Q → Rendering (List Lexeme)) :
    Agreement Q (List (Slot Q)) (List Lexeme) where
  names _ := True
  fragments _ := True
  free qs x y := Rendering.Fills ρ qs x y
  led qs x y := Rendering.Fills ρ qs x y
  led_of_free h := h
  nothing := .lexemes []
  fault _ _ := .fault _ _
  behind _ h := (Rendering.Fills.lexemes _).append h
  append h h' := h.append h'
  led_append h h' := h.append h'
  bind _ := .lexemes _
  fragment _ := .lexemes _
  name _ := .name _
  path _ := .path _
  physical _ _ := trivial
  qualified _ _ := trivial
  parsed := @ColumnRef.parsed_anything

/-- The statement of clauses with places for the queries in it. -/
def Clauses.outline (naming : Naming) (inCte : Bool) (c : Clauses Q) :
    Except CompileFault (List (Slot Q)) :=
  ((c.map Slot.place).statement naming inCte).result

/-- The places of an outline are those of the subqueries, in order, and the statement is its outline
with every query written as it is by itself. -/
theorem Clauses.statement_fills (ρ : Q → Rendering (List Lexeme)) (naming : Naming) (inCte : Bool)
    (c : Clauses Q) :
    Rendering.Fills ρ c.subqueries ((c.map Slot.place).statement naming inCte)
      ((c.map ρ).statement naming inCte) := by
  have hadmits : ∀ i ∈ c.ingredients, (Agreement.outlining ρ).Admits Slot.place ρ i := by
    intro i _
    cases i with
    | query q => exact .place q
    | name s => trivial
    | fragment f => trivial
  exact Agreement.statement hadmits naming inCte

namespace Query

/-- The statements of a query: its own, and those that are appended to it ahead of it. -/
def members (q : Query) : List (Clauses Query) :=
  q.namedMembers.map Prod.snd

/-- The chain of a query with places for its statements. -/
def chainOutline (q : Query) : Except CompileFault (List (Slot (Clauses Query))) :=
  (q.chainOf Slot.place).result

/-- A chain is its outline with every statement written as it is by itself. -/
theorem chain_fills (naming : Naming) (q : Query) :
    Rendering.Fills (statement naming true) q.members (q.chainOf Slot.place) (chain naming q) := by
  have hqueries : (q.namedMembers.flatMap fun member => [member.2]) = q.members := by
    simp [members, List.map_eq_flatMap]
  have hmembers : ∀ member ∈ q.namedMembers,
      (Agreement.outlining (statement naming true)).free [member.2] (Slot.place member.2)
        (statement naming true member.2) :=
    fun _ _ => .place _
  have hfills := Agreement.chainOf (fun c => [c]) (fun _ => trivial) hmembers
  rw [hqueries, ← chain_eq] at hfills
  exact hfills

/-- The appended statements in the order in which they run, and the query's own behind them. -/
theorem members_eq (q : Query) :
    q.members = q.dependents.map Dependent.clauses ++ [q.clauses] := by
  -- there is a name for every statement
  have hzip : ∀ (names : List String) (ds : List Dependent), ds.length ≤ names.length →
      (names.zip ds).map (fun p => p.2.clauses) = ds.map Dependent.clauses := by
    intro names ds hlength
    have hsnd := congrArg (List.map Dependent.clauses) (List.map_snd_zip hlength)
    rwa [List.map_map] at hsnd
  simp only [members, namedMembers, List.map_append, List.map_map, List.map_cons, List.map_nil]
  refine congrArg (· ++ _) (hzip _ _ ?_)
  simp

end Query
end ParamSql
