import Mathlib.Tactic.Ring
import ParamSql.Proofs.Sql.Arrangement
import ParamSql.Proofs.Sql.Within

/-!
# Brackets — how deep in brackets a change stands

Brackets are written around every query that stands in another statement.  They match, so that the
number of brackets that are open says how deep a part stands.  What the caller supplies as a text is
not looked into.

* `Matched`, `Lexeme.brackets` — matching brackets, and those of lexemes;
* `Lexeme.changeLevels` — the numbers of brackets around the verbs of changes;
* `Lexeme.Stands` — lexemes with matching brackets and changes at certain levels;
* `Layout.quietly`, `Query.lays_quietly` — where a statement has no changes in it, there are no
  verbs in what is written for it.
-/

namespace ParamSql

/-! ## Matching brackets -/

/-- Every bracket has its counterpart. -/
inductive Matched : List Char → Prop
  | nil : Matched []
  | append {bs cs : List Char} : Matched bs → Matched cs → Matched (bs ++ cs)
  | enclosed {bs : List Char} : Matched bs → Matched ('(' :: bs ++ [')'])

theorem Matched.count_eq {bs : List Char} (h : Matched bs) : bs.count '(' = bs.count ')' := by
  induction h with
  | nil => rfl
  | append _ _ ih ih' => simp [ih, ih']
  | enclosed _ ih => simp [ih]

namespace Lexeme

/-- The brackets of fixed texts. -/
def brackets (ls : List Lexeme) : List Char :=
  ls.flatMap fun
    | .fixed s => s.toList.filter fun c => c = '(' || c = ')'
    | .name _ | .verbatim _ | .bind _ => []

@[simp]
theorem brackets_nil : brackets [] = [] := rfl

@[simp]
theorem brackets_append (ls ms : List Lexeme) : brackets (ls ++ ms) = brackets ls ++ brackets ms :=
  List.flatMap_append

theorem brackets_cons (l : Lexeme) (ls : List Lexeme) :
    brackets (l :: ls) = brackets [l] ++ brackets ls :=
  brackets_append [l] ls

/-- How many brackets are opened and not closed. -/
def depth (ls : List Lexeme) : Int :=
  (brackets ls).count '(' - (brackets ls).count ')'

@[simp]
theorem depth_append (ls ms : List Lexeme) : depth (ls ++ ms) = depth ls + depth ms := by
  simp only [depth, brackets_append, List.count_append, Nat.cast_add]
  ring

theorem depth_eq_zero {ls : List Lexeme} (h : Matched (brackets ls)) : depth ls = 0 := by
  simp [depth, h.count_eq]

/-! ## Changes and their levels -/

/-- Whether a change begins. -/
def isVerb : Lexeme → Bool
  | .fixed s => s ∈ verbTexts
  | .name _ | .verbatim _ | .bind _ => false

/-- The levels of the changes behind `d` open brackets, in order. -/
def changeLevels : Int → List Lexeme → List Int
  | _, [] => []
  | d, l :: ls => (if l.isVerb then [d] else []) ++ changeLevels (d + depth [l]) ls

theorem changeLevels_append (d : Int) (ls ms : List Lexeme) :
    changeLevels d (ls ++ ms) = changeLevels d ls ++ changeLevels (d + depth ls) ms := by
  induction ls generalizing d with
  | nil => simp [changeLevels, depth]
  | cons l ls ih =>
      have hdepth : depth (l :: ls) = depth [l] + depth ls := depth_append [l] ls
      rw [List.cons_append, changeLevels, changeLevels, ih, hdepth, List.append_assoc,
        Int.add_assoc]

/-- In one more bracket, every change stands one level deeper. -/
theorem changeLevels_add (d e : Int) (ls : List Lexeme) :
    changeLevels (d + e) ls = (changeLevels d ls).map (· + e) := by
  induction ls generalizing d with
  | nil => rfl
  | cons l ls ih =>
      have hswap : d + e + depth [l] = d + depth [l] + e := by ring
      rw [changeLevels, changeLevels, hswap, ih, List.map_append]
      cases l.isVerb <;> rfl

/-- The brackets of lexemes match, and these are the levels at which changes stand in them. -/
structure Stands (levels : List Int) (ls : List Lexeme) : Prop where
  matched : Matched (brackets ls)
  levels : changeLevels 0 ls = levels

namespace Stands

variable {levels levels' : List Int} {ls ms : List Lexeme} {s t : String}

theorem nil : Stands [] [] :=
  ⟨.nil, rfl⟩

theorem append (h : Stands levels ls) (h' : Stands levels' ms) :
    Stands (levels ++ levels') (ls ++ ms) where
  matched := by
    rw [brackets_append]
    exact h.matched.append h'.matched
  levels := by
    rw [changeLevels_append, depth_eq_zero h.matched, Int.add_zero, h.levels, h'.levels]

/-- Around what stands in brackets there may be anything without changes. -/
theorem quietly_append (h : Stands [] ls) (h' : Stands levels ms) : Stands levels (ls ++ ms) :=
  h.append h'

theorem append_quietly (h : Stands levels ls) (h' : Stands [] ms) : Stands levels (ls ++ ms) :=
  List.append_nil levels ▸ h.append h'

theorem supplied {l : Lexeme} (h : l.isSupplied = true) : Stands [] [l] := by
  cases l with
  | fixed s => cases h
  | name i => exact ⟨.nil, rfl⟩
  | verbatim s => exact ⟨.nil, rfl⟩
  | bind v => exact ⟨.nil, rfl⟩

/-- A verb stands at the level where it is written. -/
theorem verb (h : s ∈ verbTexts) : Stands [0] [.fixed s] := by
  have hverbs : ∀ s ∈ verbTexts, brackets [.fixed s] = [] := by decide +kernel
  exact ⟨hverbs s h ▸ .nil, by simp [changeLevels, isVerb, h]⟩

theorem quiet (h : s ∈ quietTexts) : Stands [] [.fixed s] := by
  have hquiet : ∀ s ∈ quietTexts, s ∉ verbTexts ∧
      (brackets [.fixed s] = [] ∨ brackets [.fixed s] = ['(', ')']) := by
    decide +kernel
  obtain ⟨hverb, hbrackets⟩ := hquiet s h
  refine ⟨?_, by simp [changeLevels, isVerb, hverb]⟩
  rcases hbrackets with hnone | hboth
  · exact hnone ▸ .nil
  · exact hboth ▸ .enclosed .nil

/-- What is enclosed in brackets stands one level deeper. -/
theorem enclosed (hs : s ∈ leftTexts) (ht : t ∈ rightTexts) (h : Stands levels ls) :
    Stands (levels.map (· + 1)) (.fixed s :: ls ++ [.fixed t]) := by
  have hleft : ∀ s ∈ leftTexts, s ∉ verbTexts ∧ brackets [.fixed s] = ['('] := by decide +kernel
  have hright : ∀ t ∈ rightTexts, t ∉ verbTexts ∧ brackets [.fixed t] = [')'] := by decide +kernel
  obtain ⟨hsverb, hopen⟩ := hleft s hs
  obtain ⟨htverb, hclose⟩ := hright t ht
  constructor
  case matched =>
    rw [brackets_append, brackets_cons, hopen, hclose]
    exact .enclosed h.matched
  case levels =>
    have hdepth : depth [.fixed s] = 0 + 1 := by rw [depth, hopen]; rfl
    rw [changeLevels_append, changeLevels, hdepth, Int.zero_add, changeLevels_add, h.levels]
    simp [changeLevels, isVerb, hsverb, htverb]

theorem of_forall (h : ∀ l ∈ ls, Stands [] [l]) : Stands [] ls := by
  induction ls with
  | nil => exact .nil
  | cons l ls ih =>
      obtain ⟨hl, hls⟩ := List.forall_mem_cons.1 h
      exact hl.append (ih hls)

/-- Parts behind each other, with a text without changes between them. -/
theorem intercalate {α : Type} (hs : s ∈ quietTexts) {levels : α → List Int} {l : List α}
    {lss : List (List Lexeme)} (h : List.Forall₂ (fun a ls => Stands (levels a) ls) l lss) :
    Stands (l.flatMap levels) ([.fixed s].intercalate lss) := by
  induction h with
  | nil => exact .nil
  | cons ha hrest ih =>
      -- there is no separator behind the last part
      cases hrest with
      | nil => simpa using ha
      | cons hb hbs =>
          rw [List.intercalate_cons_cons, List.flatMap_cons, List.append_assoc]
          exact ha.append ((quiet hs).quietly_append ih)

theorem intercalate_map {α : Type} (hs : s ∈ quietTexts) {levels : α → List Int}
    {write : α → List Lexeme} {l : List α} (h : ∀ a ∈ l, Stands (levels a) (write a)) :
    Stands (l.flatMap levels) ([.fixed s].intercalate (l.map write)) :=
  intercalate hs (List.forall₂_map_right_iff.2 (List.forall₂_same.2 h))

end Stands
end Lexeme

/-! ## Statements without changes -/

/-- There are only names in a reference, with dots between them, or a star. -/
theorem Columns.forall_mem_reference {cs : Columns} {P : Lexeme → Prop} (hnames : ∀ i, P (.name i))
    (hdot : P (.fixed ".")) (hstar : P (.fixed "*")) {r : ColumnRef} {ls : List Lexeme}
    (h : (cs.reference r : Rendering (List Lexeme)).result = .ok ls) : ∀ l ∈ ls, P l := by
  have hcolumn {ls : List Lexeme}
      (h : (if r.isStar then .fixed "*" else cs.target r.name : Rendering (List Lexeme)).result =
        .ok ls) : ∀ l ∈ ls, P l := by
    split at h
    · obtain rfl : [.fixed "*"] = ls := Except.ok.inj h
      simpa using hstar
    · obtain ⟨i, -, rfl⟩ := Rendering.name_eq_ok h
      simpa using hnames i
  unfold reference at h
  cases htable : r.table.or cs.qualifier with
  | none =>
      rw [htable] at h
      exact hcolumn h
  | some table =>
      rw [htable] at h
      obtain ⟨front, last, hfront, hlast, rfl⟩ := Rendering.result_append_eq_ok h
      obtain ⟨first, dot, hfirst, hdot', rfl⟩ := Rendering.result_append_eq_ok hfront
      obtain rfl : [.fixed "."] = dot := Except.ok.inj hdot'
      obtain ⟨p, -, rfl⟩ := Rendering.path_eq_ok hfirst
      have hpath := Path.forall_mem_lexemes hdot fun i (_ : i ∈ p) => hnames i
      exact List.forall_mem_append.2 ⟨List.forall_mem_append.2 ⟨hpath, by simpa using hdot⟩,
        hcolumn hlast⟩

/-- Brackets match, and no change begins. -/
def Layout.quietly (cs : Columns) : Layout cs where
  holds _ ls := Lexeme.Stands [] ls
  nil := .nil
  append h h' := h.append h'
  supplied h := .supplied h
  quiet h := .quiet h
  enclosed hs ht h := .enclosed hs ht h
  reference h := .of_forall <| Columns.forall_mem_reference (fun _ => .supplied rfl)
    (.quiet (by simp [quietTexts])) (.quiet (by simp [quietTexts])) h

namespace Query

variable {naming : Naming}

/-- No statement that is written for a query inside another one is a change. -/
def IsQuiet (q : Query) : Prop :=
  ∀ c ∈ q.clauses.nodes, c.mutation = none

theorem IsQuiet.subquery {q r : Query} (h : q.IsQuiet) (hr : r ∈ q.clauses.subqueries) :
    r.IsQuiet := by
  intro c hc
  refine h c ?_
  rw [Clauses.nodes_eq]
  exact List.mem_cons_of_mem _ (List.mem_flatMap.2 ⟨r, hr, hc⟩)

theorem IsQuiet.mutation_eq_none {q : Query} (h : q.IsQuiet) : q.clauses.mutation = none := by
  refine h _ ?_
  rw [Clauses.nodes_eq]
  exact List.mem_cons_self

/-- In what is written for a query without changes in it, no change begins. -/
theorem lays_quietly {cs : Columns} {q : Query} (h : q.IsQuiet) :
    (q.rendering naming).Lays (Layout.quietly cs) [] := by
  -- by induction on the query: the queries inside it have no changes in them either
  induction q using Query.induction with
  | step c as ih _ =>
      intro ls hls
      obtain ⟨-, hstatement⟩ := rendering_eq_ok hls
      rw [statement_eq_map] at hstatement
      have hsubqueries : ∀ r ∈ c.subqueries,
          (r.rendering naming).Lays (Layout.quietly (c.columns naming)) [] := fun r hr =>
        ih r (Clauses.query_mem_ingredients hr) (h.subquery hr)
      obtain ⟨own, rest, rfl, hown, hrest⟩ := Clauses.exists_laid hsubqueries hstatement
      have hnone : c.mutation = none := h.mutation_eq_none
      simp only [Clauses.IsLaid, hnone] at hrest
      exact Lexeme.Stands.append hown hrest

end Query
end ParamSql
