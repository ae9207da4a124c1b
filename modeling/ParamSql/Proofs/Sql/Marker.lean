import Mathlib.Algebra.GroupWithZero.Nat
import ParamSql.Proofs.Sql.Filtered
import ParamSql.Proofs.Sql.Quoting

/-!
# Marker — how often a default filter is written

A default filter can be told from the rest of a statement if there is a character in it that is
nowhere else.  Wherever such a character stands, a default filter has been written, and every one is
written once in every SELECT, UPDATE and DELETE that has it.

* `Lexeme.occurrences` — how often a character stands in lexemes, other than in placeholders;
* `Query.Spares`, `Clauses.Spares` — what a statement is written from does not have the character;
* `Correspondence.counting` — then it stands only where inner queries stand;
* `Clauses.marks` — the default filters of a statement that have it;
* `Query.count_compiled` — how often it stands in the text of a compiled query.
-/

namespace ParamSql

/-! ## Lexemes -/

namespace Lexeme

/-- What a lexeme adds to the text, other than a placeholder. -/
def spelling : Lexeme → String
  | .fixed s => s
  | .name i => i.quoted
  | .verbatim s => s
  | .bind _ => ""

/-- How often a character stands in lexemes. -/
def occurrences (ch : Char) (ls : List Lexeme) : Nat :=
  (ls.map fun l => l.spelling.toList.count ch).sum

variable {ch : Char}

@[simp]
theorem occurrences_nil : occurrences ch [] = 0 := rfl

@[simp]
theorem occurrences_cons (l : Lexeme) (ls : List Lexeme) :
    occurrences ch (l :: ls) = l.spelling.toList.count ch + occurrences ch ls := rfl

@[simp]
theorem occurrences_append (ls ms : List Lexeme) :
    occurrences ch (ls ++ ms) = occurrences ch ls + occurrences ch ms := by
  simp [occurrences]

theorem occurrences_eq_zero {ls : List Lexeme} (h : ∀ l ∈ ls, ch ∉ l.spelling.toList) :
    occurrences ch ls = 0 := by
  induction ls with
  | nil => rfl
  | cons l ls ih =>
      obtain ⟨hl, hls⟩ := List.forall_mem_cons.1 h
      rw [occurrences_cons, List.count_eq_zero.2 hl, ih hls]

/-- Numbers have nothing to do with other characters. -/
theorem count_textFrom (hdollar : ch ≠ '$') (hdigit : ch.isDigit = false) (n : Nat)
    (ls : List Lexeme) : (textFrom n ls).toList.count ch = occurrences ch ls := by
  have hnumber : ∀ k : Nat, ch ∉ ("$" ++ toString k).toList := by
    intro k hk
    rcases List.mem_cons.1 (by simpa using hk) with rfl | hdigits
    · exact hdollar rfl
    · have htrue := Nat.isDigit_of_mem_toDigits (b := 10) (by omega) (by omega) hdigits
      rw [hdigit] at htrue
      cases htrue
  induction ls generalizing n with
  | nil => rfl
  | cons l ls ih =>
      rw [occurrences_cons]
      -- a placeholder is a number, and everything else is written as it is spelled
      cases l with
      | bind v =>
          rw [textFrom_bind, String.toList_append, List.count_append,
            List.count_eq_zero.2 (hnumber n), ih (n + 1)]
          rfl
      | fixed s => rw [textFrom_fixed, String.toList_append, List.count_append, ih n]; rfl
      | name i => rw [textFrom_name, String.toList_append, List.count_append, ih n]; rfl
      | verbatim s => rw [textFrom_verbatim, String.toList_append, List.count_append, ih n]; rfl

/-- A fixed text without the character, between lexemes. -/
theorem occurrences_intercalate {s : String} (hs : ch ∉ s.toList) (lss : List (List Lexeme)) :
    occurrences ch ([.fixed s].intercalate lss) = (lss.map (occurrences ch)).sum := by
  induction lss with
  | nil => rfl
  | cons ls lss ih =>
      cases lss with
      | nil => simp
      | cons ms lss =>
          have hfixed : occurrences ch [.fixed s] = 0 :=
            occurrences_eq_zero (by simpa [spelling] using hs)
          rw [List.intercalate_cons_cons, occurrences_append, occurrences_append, hfixed, ih]
          simp

theorem occurrences_whereOf (hwhere : ch ∉ " WHERE ".toList) (hand : ch ∉ " AND ".toList)
    (items : List (List Lexeme)) :
    occurrences ch (Clauses.whereOf items) = (items.map (occurrences ch)).sum := by
  unfold Clauses.whereOf
  cases items with
  | nil => rfl
  | cons item items =>
      have hkeyword : (Lexeme.fixed " WHERE ").spelling.toList.count ch = 0 :=
        List.count_eq_zero.2 hwhere
      rw [List.isEmpty_cons, if_neg Bool.false_ne_true, occurrences_cons, hkeyword,
        occurrences_intercalate hand, Nat.zero_add]

end Lexeme

/-! ## Statements without the character -/

/-- The character is not in the text of a fragment. -/
def Fragment.Lacks (ch : Char) (f : Fragment) : Prop :=
  ∀ s, .text s ∈ f.pieces → ch ∉ s.toList

/-- The character is neither in fixed texts nor in placeholders nor in the names of a query. -/
structure Query.Spares (q : Query) (ch : Char) : Prop where
  dollar : ch ≠ '$'
  digit : ch.isDigit = false
  quote : ch ≠ '"'
  fixed : ∀ s ∈ vocabulary, ch ∉ s.toList
  quoted : ∀ s, q.Quotes s → ch ∉ s.toList

namespace Rendering

/-- The character stands some number of times in what is written. -/
def Counts (ch : Char) (n : Nat) (x : Rendering (List Lexeme)) : Prop :=
  ∀ ls, x.result = .ok ls → Lexeme.occurrences ch ls = n

variable {ch : Char} {m n : Nat} {x y : Rendering (List Lexeme)} {s : String} {q : Query}

theorem counts_fault (f : CompileFault) : (fault f : Rendering (List Lexeme)).Counts ch n := by
  intro ls hls
  cases hls

theorem counts_lexemes {ls : List Lexeme} (h : ∀ l ∈ ls, ch ∉ l.spelling.toList) :
    (lexemes ls : Rendering (List Lexeme)).Counts ch 0 := by
  intro ms hms
  cases hms
  rw [ofLexemes_self]
  exact Lexeme.occurrences_eq_zero h

theorem counts_fixed (h : ch ∉ s.toList) : (fixed s : Rendering (List Lexeme)).Counts ch 0 :=
  counts_lexemes (by simpa [Lexeme.spelling] using h)

theorem Counts.append (hx : x.Counts ch m) (hy : y.Counts ch n) : (x ++ y).Counts ch (m + n) := by
  intro ls hls
  rcases result_append_eq_ok hls with ⟨before, behind, hbefore, hbehind, rfl⟩
  calc
    Lexeme.occurrences ch (before ++ behind)
        = Lexeme.occurrences ch before + Lexeme.occurrences ch behind :=
          Lexeme.occurrences_append before behind
    _ = m + n := by rw [hx before hbefore, hy behind hbehind]

theorem Counts.behind (h : ch ∉ s.toList) (hx : x.Counts ch n) : (fixed s ++ x).Counts ch n := by
  have happend := (counts_fixed h).append hx
  rwa [Nat.zero_add] at happend

theorem counts_bind (v : Value) : (bind v : Rendering (List Lexeme)).Counts ch 0 :=
  counts_lexemes (by simp [Lexeme.spelling])

theorem counts_fragment {f : Fragment} (h : f.Lacks ch) :
    (fragment f : Rendering (List Lexeme)).Counts ch 0 := by
  refine counts_lexemes fun l hl => ?_
  rcases List.mem_map.1 hl with ⟨piece, hpiece, rfl⟩
  cases piece with
  | text s => exact h s hpiece
  | bind v => simp [Lexeme.ofPiece, Lexeme.spelling]

theorem counts_name (hq : q.Spares ch) (h : q.Quotes s) :
    (name s : Rendering (List Lexeme)).Counts ch 0 := by
  unfold name
  cases hi : Identifier.of s with
  | error f => exact counts_fault _
  | ok i =>
      have htext : ch ∉ i.text.toList := by
        rw [Identifier.text_of hi]
        exact hq.quoted s h
      exact counts_lexemes
        (by simpa [Lexeme.spelling] using Identifier.notMem_quoted hq.quote htext)

theorem counts_path (hq : q.Spares ch) (h : q.IsPath s) :
    (path s : Rendering (List Lexeme)).Counts ch 0 := by
  intro ls hls
  rcases exists_of_path h hls with ⟨i, rest, rfl, hnames⟩
  have hdot : ch ∉ ".".toList := hq.fixed "." (by simp [vocabulary])
  exact Lexeme.occurrences_eq_zero (Path.forall_mem_lexemes hdot fun j hj =>
    Identifier.notMem_quoted hq.quote (hq.quoted _ (hnames j hj)))

end Rendering

/-- If neither fixed texts nor names have the character, it stands in a statement as often as in the
queries in it. -/
def Correspondence.counting {Q : Type} {q : Query} {ch : Char} (hq : q.Spares ch)
    (weight : Q → Nat) : Correspondence Q (List Lexeme) (List Lexeme) where
  values := .same
  names := q.Names
  paths := q.IsPath
  fragments f := f.Lacks ch
  free l x _ := x.Counts ch (l.map weight).sum
  begun l x _ := x.Counts ch (l.map weight).sum
  led l x _ := x.Counts ch (l.map weight).sum
  led_of_free h := h
  led_of_begun h := h
  nothing := Rendering.counts_lexemes (by simp)
  fault _ _ := Rendering.counts_fault _
  begun_fault _ _ := Rendering.counts_fault _
  append h h' := by
    rw [List.map_append, List.sum_append]
    exact h.append h'
  begun_append h h' := by
    rw [List.map_append, List.sum_append]
    exact h.append h'
  led_append h h' := by
    rw [List.map_append, List.sum_append]
    exact h.append h'
  starting hs h := h.behind (hq.fixed _ (starters_subset hs))
  opening hs h := h.behind (hq.fixed _ (openers_subset hs))
  closing hs := Rendering.counts_fixed (hq.fixed _ (closers_subset hs))
  constant hs := Rendering.counts_fixed (hq.fixed _ (constants_subset hs))
  bind := Rendering.counts_bind
  bound hs n := (Rendering.counts_bind (.int n)).behind (hq.fixed _ (bounds_subset hs))
  fragment h := Rendering.counts_fragment h
  name h := Rendering.counts_name hq h.quotes
  physical n h := Rendering.counts_name hq (.physical n h)
  path h := Rendering.counts_path hq h
  column hs hx := by
    have hdot := hx.behind (hq.fixed "." (by simp [vocabulary]))
    simpa using (Rendering.counts_path hq hs).append hdot
  star hs := (Rendering.counts_path hq hs).append
    (Rendering.counts_fixed (hq.fixed ".*" (by simp [vocabulary])))
  path_of_name h := h.isPath
  qualified := Query.isPath_append
  parsed h := h.parse

/-! ## Marked default filters -/

/-- Whether a default filter is a text. -/
def Scope.isMarker (s : String) : Scope Query → Bool
  | ⟨_, .atom (.fragment ⟨⟨[.text t], []⟩, _⟩)⟩ => t = s
  | _ => false

theorem Scope.condition_of_isMarker {s : String} {scope : Scope Query}
    (h : scope.isMarker s = true) :
    scope.condition = .atom (.fragment ⟨⟨[.text s], []⟩, rfl⟩) := by
  unfold isMarker at h
  split at h
  case h_1 name t _ =>
    obtain rfl : t = s := by simpa using h
    rfl
  case h_2 => cases h

namespace Clauses

/-- How many of the default filters of a statement are written as a text: those of an INSERT are not
written. -/
def marks (s : String) (c : Clauses Query) : Nat :=
  if c.isInsertion then 0 else c.scopes.countP (Scope.isMarker s)

/-- The statement without these default filters. -/
def unmarked (s : String) (c : Clauses Query) : Clauses Query :=
  c.withScopes (c.scopes.filter fun scope => !scope.isMarker s)

/-- Other than in these default filters, the character is not in the fragments of a statement. -/
def Spares (ch : Char) (s : String) (c : Clauses Query) : Prop :=
  ∀ f, .fragment f ∈ (c.unmarked s).ingredients → f.Lacks ch

theorem ingredients_withScopes_subset {c : Clauses Query} {scopes : List (Scope Query)}
    (h : scopes ⊆ c.scopes) : (c.withScopes scopes).ingredients ⊆ c.ingredients := by
  have each : (c.withScopes scopes).Each (· ∈ c.ingredients) :=
    { c.each_ingredients with
      scopes := fun scope hscope => c.each_ingredients.scopes scope (h hscope) }
  exact fun i hi => each_iff.1 each i hi

/-- There are no queries in a text. -/
theorem subqueries_unmarked (s : String) (c : Clauses Query) :
    (c.unmarked s).subqueries = c.subqueries := by
  have hscopes : ∀ scopes : List (Scope Query),
      ((scopes.filter fun scope => !scope.isMarker s).map Scope.condition).flatMap
        Formula.subqueries = (scopes.map Scope.condition).flatMap Formula.subqueries := by
    intro scopes
    induction scopes with
    | nil => rfl
    -- a marker that is left out has no query in its condition
    | cons scope scopes ih =>
        cases hmarker : scope.isMarker s with
        | false => simp [hmarker, ih]
        | true =>
            have hnone : scope.condition.subqueries = [] := by
              rw [Scope.condition_of_isMarker hmarker]
              simp [Formula.subqueries, Formula.atoms, Predicate.subqueries]
            simp [hmarker, ih, hnone]
  have hfilters : (c.unmarked s).filters.flatMap Formula.subqueries =
      c.filters.flatMap Formula.subqueries := by
    simp only [filters, List.flatMap_append]
    exact congrArg _ (hscopes c.scopes)
  have hselection : (c.unmarked s).selectionSubqueries = c.selectionSubqueries := by
    simp only [selectionSubqueries, hfilters]
    rfl
  have hchange : (c.unmarked s).changeSubqueries = c.changeSubqueries := by
    simp only [changeSubqueries, List.flatMap_append, hfilters]
    rfl
  have hbody : (c.unmarked s).bodySubqueries = c.bodySubqueries := by
    simp only [bodySubqueries, hselection, hchange]
    rfl
  exact congrArg (c.ctes.flatMap Cte.subqueries ++ ·) hbody

end Clauses

namespace Query

variable {naming : Naming} {inCte : Bool} {c : Clauses Query} {ch : Char} {s : String}

/-- A marker is written as it is. -/
theorem WrittenAs.of_marker {scope : Scope Query} (hmarker : scope.isMarker s = true)
    {items : List (List Lexeme)} (h : WrittenAs naming c [scope.condition] items) :
    items = [[.verbatim s]] := by
  rw [Scope.condition_of_isMarker hmarker] at h
  rcases List.forall₂_cons_left_iff.1 h with ⟨item, rest, hitem, hrest, rfl⟩
  obtain rfl : rest = [] := List.forall₂_nil_left_iff.1 hrest
  have hmember : ((c.columns naming).member Formula.isAny
      ((Formula.atom (Predicate.fragment ⟨⟨[.text s], []⟩, rfl⟩)).map
        (Predicate.map (rendering naming)))) =
        (Rendering.lexemes [.verbatim s] : Rendering (List Lexeme)) :=
    Columns.condition_atom ..
  rw [hmember, Rendering.result_lexemes, ofLexemes_self] at hitem
  rw [Except.ok.inj hitem]

/-- A marked default filter is an item in which the character stands once, and without it the other
items stay as they are. -/
theorem WrittenAs.exists_unmarked (honce : s.toList.count ch = 1) {scopes : List (Scope Query)}
    {items : List (List Lexeme)} (h : WrittenAs naming c (scopes.map Scope.condition) items) :
    ∃ kept, WrittenAs naming c
        ((scopes.filter fun scope => !scope.isMarker s).map Scope.condition) kept ∧
      (items.map (Lexeme.occurrences ch)).sum =
        (kept.map (Lexeme.occurrences ch)).sum + scopes.countP (Scope.isMarker s) := by
  induction scopes generalizing items with
  | nil =>
      obtain rfl : items = [] := List.forall₂_nil_left_iff.1 h
      exact ⟨[], .nil, rfl⟩
  | cons scope scopes ih =>
      have hsplit : WrittenAs naming c ([scope.condition] ++ scopes.map Scope.condition) items := h
      rcases hsplit.exists_append with ⟨front, rear, rfl, hfront, hrear⟩
      rcases ih hrear with ⟨kept, hkept, hsum⟩
      -- one marker less among the filters is one item less with the character
      cases hmarker : scope.isMarker s with
      | false =>
          refine ⟨front ++ kept, ?_, ?_⟩
          · simpa [hmarker] using hfront.append hkept
          · simp [hmarker, hsum, Nat.add_assoc]
      | true =>
          obtain rfl := hfront.of_marker hmarker
          refine ⟨kept, ?_, ?_⟩
          · simpa [hmarker] using hkept
          · simp [hmarker, hsum, Lexeme.spelling, honce]
            omega

/-! ## Marked statements -/

section Marked

variable {top : Query} (hspares : top.Spares ch)
include hspares

/-- Without its marked default filters, the character stands in a statement as often as in the
queries that it contains. -/
theorem occurrences_unmarked (hnames : ∀ name, .name name ∈ c.ingredients → top.Names name)
    (hc : c.Spares ch s) {ls : List Lexeme}
    (h : (statement naming inCte (c.unmarked s) : Rendering (List Lexeme)).result = .ok ls) :
    Lexeme.occurrences ch ls =
      (c.subqueries.map fun r => Lexeme.occurrences ch (r.rendering naming).lexemesOf).sum := by
  have hsubset : (c.unmarked s).ingredients ⊆ c.ingredients :=
    Clauses.ingredients_withScopes_subset (List.filter_subset_self _)
  have hadmits : ∀ i ∈ (c.unmarked s).ingredients,
      (Correspondence.counting hspares fun r : Query =>
        Lexeme.occurrences ch (r.rendering naming).lexemesOf).Admits
          (rendering naming) (rendering naming) i := by
    intro i hi
    -- names and fragments are without the character, and a query counts for what is written for it
    cases i with
    | name name => exact hnames name (hsubset hi)
    | fragment f => exact hc f hi
    | query r =>
        intro ls hls
        rw [List.map_singleton, List.sum_singleton, Rendering.lexemesOf_eq hls]
  have hcounts := Correspondence.statement hadmits naming inCte
  rw [Clauses.subqueries_unmarked] at hcounts
  rw [statement_eq_map] at h
  exact hcounts ls h

/-- With them, it stands there once more for each. -/
theorem occurrences_marked (honce : s.toList.count ch = 1)
    (hnames : ∀ name, .name name ∈ c.ingredients → top.Names name) (hc : c.Spares ch s)
    {ls : List Lexeme}
    (h : (statement naming inCte c : Rendering (List Lexeme)).result = .ok ls) :
    Lexeme.occurrences ch ls = c.marks s +
      (c.subqueries.map fun r => Lexeme.occurrences ch (r.rendering naming).lexemesOf).sum := by
  have hwhere : ch ∉ " WHERE ".toList := hspares.fixed _ (by simp [vocabulary])
  have hand : ch ∉ " AND ".toList := hspares.fixed _ (by simp [vocabulary])
  cases hinsertion : c.isInsertion with
  | true =>
      -- the default filters of an INSERT are not written
      rw [← statement_insertion hinsertion (c.scopes.filter fun scope => !scope.isMarker s)] at h
      rw [Clauses.marks, if_pos hinsertion, Nat.zero_add]
      exact occurrences_unmarked hspares hnames hc h
  | false =>
      rcases exists_filterParts hinsertion h with ⟨parts, rfl⟩
      rcases parts.defaults_eq.exists_unmarked honce with ⟨kept, hkept, hsum⟩
      have hunmarked := occurrences_unmarked hspares hnames hc
        (statement_withScopes hinsertion (isGuarded_of_statement h) parts hkept)
      rw [← hunmarked, Clauses.marks, if_neg (by simp [hinsertion])]
      simp only [FilterParts.lexemes, FilterParts.lexemesWith, Lexeme.occurrences_append,
        Lexeme.occurrences_whereOf hwhere hand, List.map_append, List.sum_append, hsum]
      omega

/-- The character stands in a statement once for every marked default filter of the statements that
are written in it. -/
theorem occurrences_statement (honce : s.toList.count ch = 1)
    (hnames : ∀ d ∈ c.nodes, ∀ name, .name name ∈ d.ingredients → top.Names name)
    (hnodes : ∀ d ∈ c.nodes, d.Spares ch s) {ls : List Lexeme}
    (h : (statement naming inCte c : Rendering (List Lexeme)).result = .ok ls) :
    Lexeme.occurrences ch ls = (c.nodes.map (Clauses.marks s)).sum := by
  -- by induction on the statement, as its nodes are listed
  induction c using Clauses.nodes.induct generalizing inCte ls with
  | case1 c ih =>
      rw [Clauses.nodes_eq] at hnames hnodes
      obtain ⟨hown, hinner⟩ := List.forall_mem_cons.1 hnames
      obtain ⟨hspared, hrest⟩ := List.forall_mem_cons.1 hnodes
      have hwritten : ∀ r ∈ c.subqueries, (rendering naming r).IsWritten := by
        rw [statement_eq_map] at h
        exact ((c.statement_fills (rendering naming) naming inCte).written ls h).2
      -- the queries in the statement have nodes of their own, to which the induction applies
      have hqueries : ∀ r ∈ c.subqueries, Lexeme.occurrences ch (rendering naming r).lexemesOf =
          (r.clauses.nodes.map (Clauses.marks s)).sum := fun r hr =>
        ih r hr (fun d hd => hinner d (List.mem_flatMap.2 ⟨r, hr, hd⟩))
          (fun d hd => hrest d (List.mem_flatMap.2 ⟨r, hr, hd⟩)) (rendering_eq_ok (hwritten r hr)).2
      rw [occurrences_marked hspares honce hown hspared h, List.map_congr_left hqueries,
        Clauses.nodes_eq, List.map_cons, List.sum_cons, List.map_flatMap, List.flatMap_def,
        List.sum_flatten, List.map_map]
      rfl

/-- The character stands in a chain as often as in its statements. -/
theorem occurrences_chain {q : Query} {ls : List Lexeme}
    (h : (chain naming q : Rendering (List Lexeme)).result = .ok ls) :
    Lexeme.occurrences ch ls =
      (q.members.map fun d => Lexeme.occurrences ch (statement naming true d).lexemesOf).sum := by
  have hqueries : (q.namedMembers.flatMap fun member => [member.2]) = q.members := by
    simp [members, List.map_eq_flatMap]
  let C := Correspondence.counting hspares fun d : Clauses Query =>
    Lexeme.occurrences ch (statement naming true d).lexemesOf
  have hmembers : ∀ member ∈ q.namedMembers,
      C.begun [member.2] (statement naming true member.2) (statement naming true member.2) := by
    intro member _ ls hls
    rw [List.map_singleton, List.sum_singleton, Rendering.lexemesOf_eq hls]
  have hcounts := Correspondence.chainOf (fun d => [d])
    (fun index => Rendering.counts_name hspares (.generated index)) hmembers
  rw [hqueries, ← chain_eq] at hcounts
  exact hcounts ls h

end Marked

/-- A default filter that is marked by a character occurs in the text of a compiled query as often
as SELECTs, UPDATEs and DELETEs are written for it that have this default filter. -/
theorem count_compiled {q : Query} {options : CompileOptions} {compiled : Compiled}
    (hspares : q.Spares ch) (honce : s.toList.count ch = 1)
    (hwrites : ∀ d, q.Writes d → d.Spares ch s) (h : q.compile options = .ok compiled) :
    compiled.sql.toList.count ch = (q.nodes.map (Clauses.marks s)).sum := by
  rcases compile_eq_ok_iff.1 h with ⟨ls, hls, -, rfl⟩
  have hmember : ∀ d ∈ q.members, ∀ {inCte : Bool} {ls : List Lexeme},
      (statement options.naming inCte d : Rendering (List Lexeme)).result = .ok ls →
        Lexeme.occurrences ch ls = (d.nodes.map (Clauses.marks s)).sum := by
    intro d hd inCte ls hls
    have hnode : ∀ e ∈ d.nodes, q.Writes e := fun e he => ⟨d, hd, Clauses.mem_nodes_iff.1 he⟩
    exact occurrences_statement hspares honce
      (fun e he name hname => .supplied (supplies_of_writes (hnode e he) hname))
      (fun e he => hwrites e (hnode e he)) hls
  rw [Lexeme.text_eq, Lexeme.count_textFrom hspares.dollar hspares.digit]
  unfold rendered at hls
  -- a query by itself is one statement, and a chain has all of them as members
  cases happended : q.appended with
  | nil =>
      rw [happended] at hls
      have hown : q.members = [q.clauses] := members_of_appended_nil happended
      rw [hmember q.clauses (by simp [hown]) hls, nodes, hown, List.flatMap_singleton]
  | cons a as =>
      rw [happended] at hls
      have hwritten := ((chain_fills options.naming q).written ls hls).2
      rw [occurrences_chain hspares hls, nodes, List.map_flatMap, List.flatMap_def,
        List.sum_flatten, List.map_map]
      exact congrArg List.sum (List.map_congr_left fun d hd => hmember d hd (hwritten d hd))

end Query
end ParamSql
