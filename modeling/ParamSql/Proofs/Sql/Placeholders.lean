import ParamSql.Proofs.Sql.Draft
import ParamSql.Proofs.Text.Characters
import ParamSql.Query.Table
import Std.Data.String.ToNat

/-!
# Placeholders — what is read back from a numbered text

A placeholder is a `$` with the digits behind it.  A numbered text can be read back if there is no
other `$` in it, and if no digit stands behind a marker, where it would be taken for a part of the
number.

* `Glyph.Spaced gs` — the two conditions on a text with markers;
* `Compiled.placeholders_filledFrom` — the placeholders of a spaced text are the numbers of its
  markers, in order;
* `Agreement.spacing` — statements are spaced, whatever the fixed texts and names in them, if the
  fragments in them are;
* `Query.compile_placeholders` — the placeholders of a compiled query.
-/

namespace ParamSql

/-! ## Spaced texts -/

namespace Glyph

/-- A text does not begin with a digit. -/
def StartsClear (gs : List Glyph) : Prop :=
  ∀ c, gs.head? = some (.char c) → c.isDigit = false

/-- There is no `$` in a text, and no digit behind a marker. -/
def Spaced : List Glyph → Prop
  | [] => True
  | .char c :: gs => c ≠ '$' ∧ Spaced gs
  | .marker :: gs => StartsClear gs ∧ Spaced gs

theorem startsClear_nil : StartsClear [] := by
  intro c hc
  cases hc

theorem startsClear_marker (gs : List Glyph) : StartsClear (.marker :: gs) := by
  intro c hc
  cases hc

theorem StartsClear.append {gs hs : List Glyph} (hg : StartsClear gs) (hh : StartsClear hs) :
    StartsClear (gs ++ hs) := by
  cases gs with
  | nil => exact hh
  | cons g gs => exact hg

theorem Spaced.append {gs hs : List Glyph} (hg : Spaced gs) (hh : Spaced hs)
    (hclear : StartsClear hs) : Spaced (gs ++ hs) := by
  induction gs with
  | nil => exact hh
  | cons g gs ih =>
      -- only behind a marker does it matter what comes next
      cases g with
      | char c => exact ⟨hg.1, ih hg.2⟩
      | marker => exact ⟨hg.1.append hclear, ih hg.2⟩

/-- A text without markers needs no space behind it. -/
theorem Spaced.ofText_append {s : String} {hs : List Glyph} (htext : '$' ∉ s.toList)
    (hh : Spaced hs) : Spaced (ofText s ++ hs) := by
  unfold ofText
  generalize s.toList = cs at htext ⊢
  induction cs with
  | nil => exact hh
  | cons c cs ih =>
      rcases not_or.1 (List.mem_cons.not.1 htext) with ⟨hc, hcs⟩
      exact ⟨fun h => hc h.symm, ih hcs⟩

end Glyph

/-! ## Reading back -/

namespace Compiled

theorem placeholders_cons_of_ne {c : Char} (h : c ≠ '$') (cs : List Char) :
    placeholders (c :: cs) = placeholders cs := by
  simp [placeholders, h]

/-- Texts without a `$` have no placeholders. -/
theorem placeholders_append {ds : List Char} (h : '$' ∉ ds) (cs : List Char) :
    placeholders (ds ++ cs) = placeholders cs := by
  induction ds with
  | nil => rfl
  | cons d ds ih =>
      rcases not_or.1 (List.mem_cons.not.1 h) with ⟨hd, hds⟩
      rw [List.cons_append, placeholders_cons_of_ne (fun heq => hd heq.symm), ih hds]

/-- A `$` with digits behind it is read as a placeholder if no other digit follows. -/
theorem placeholders_digits {d : Char} {ds cs : List Char}
    (hdigits : ∀ c ∈ d :: ds, c.isDigit = true) (hcs : cs.head?.all (!·.isDigit)) :
    placeholders ('$' :: (d :: ds ++ cs)) = String.ofList (d :: ds) :: placeholders cs := by
  have hdollar : '$' ∉ d :: ds := by
    intro h
    have hdigit := hdigits '$' h
    revert hdigit
    decide
  -- the run of digits ends where the other text begins
  have hrun : (d :: ds ++ cs).takeWhile Char.isDigit = d :: ds := by
    rw [List.takeWhile_append_of_pos hdigits]
    cases cs with
    | nil => simp
    | cons c cs =>
        have hc : c.isDigit = false := by simpa using hcs
        simp [hc]
  rw [placeholders, hrun, placeholders_append hdollar]
  simp [hdigits d (by simp)]

/-- A numbered placeholder is read back if no digit stands behind it. -/
theorem placeholders_number (n : Nat) {cs : List Char} (hcs : cs.head?.all (!·.isDigit)) :
    placeholders ('$' :: ((toString n).toList ++ cs)) = toString n :: placeholders cs := by
  have hdigits : ∀ c ∈ (toString n).toList, c.isDigit = true := fun c hc =>
    Nat.isDigit_of_mem_toDigits (b := 10) (by omega) (by omega) (by simpa using hc)
  have htext : toString n = String.ofList (toString n).toList := String.ofList_toList.symm
  cases hn : (toString n).toList with
  | nil =>
      simp [Nat.toDigits_ne_nil] at hn
  | cons d ds =>
      rw [hn] at hdigits htext
      rw [placeholders_digits hdigits hcs, ← htext]

/-- The placeholders of a spaced text are the numbers of its markers, in order. -/
theorem placeholders_filledFrom {gs : List Glyph} (h : Glyph.Spaced gs) (n : Nat) :
    placeholders (Glyph.filledFrom (fun k => "$" ++ toString k) n gs) =
      (List.range' n (Glyph.markers gs)).map toString := by
  -- by induction on the text: what is ahead of a marker has no `$`, and what is behind it no digit
  induction gs generalizing n with
  | nil => rfl
  | cons g gs ih =>
      cases g with
      | char c =>
          rw [Glyph.filledFrom, placeholders_cons_of_ne h.1, ih h.2]
          rfl
      | marker =>
          -- the text behind the marker begins with no digit, filled or not
          have hclear : (Glyph.filledFrom (fun k => "$" ++ toString k) (n + 1) gs).head?.all
              (!·.isDigit) := by
            cases gs with
            | nil => rfl
            | cons g gs =>
                cases g with
                | char c =>
                    have hc : c.isDigit = false := h.1 c rfl
                    simpa [Glyph.filledFrom] using hc
                | marker => simp [Glyph.filledFrom]
          have hnumber := placeholders_number n hclear
          rw [ih h.2] at hnumber
          simpa [Glyph.filledFrom, Glyph.markers, List.range'_succ] using hnumber

/-- Different numbers are counted apart. -/
theorem size_ofList_numbers (n m : Nat) :
    (Std.HashSet.ofList ((List.range' n m).map toString)).size = m := by
  -- different numbers have different digits
  have hdistinct : ((List.range' n m).map toString).Pairwise (fun s t => (s == t) = false) := by
    rw [List.pairwise_map]
    have hnodup : (List.range' n m).Nodup := List.nodup_range'
    apply hnodup.imp
    intro k l hne
    simpa [Nat.repr_inj] using hne
  rw [Std.HashSet.size_ofList hdistinct]
  simp

end Compiled

/-! ## What a statement is written from -/

theorem Aliases.dollar_notMem_nameAt (index : Nat) : '$' ∉ (nameAt index).toList := by
  unfold nameAt
  split
  · decide
  · intro h
    rcases (by simpa using h : '$' ∈ Nat.toDigits 10 index) with hdigit
    have hisDigit := Nat.isDigit_of_mem_toDigits (b := 10) (by omega) (by omega) hdigit
    revert hisDigit
    decide

/-- The text of a fragment with markers in the places of its values. -/
def Fragment.glyphs (f : Fragment) : List Glyph :=
  f.pieces.flatMap fun
    | .text s => Glyph.ofText s
    | .bind _ => [.marker]

/-- There is no `$` in a fragment, and no digit directly behind the place of a value. -/
def Fragment.IsPlain (f : Fragment) : Prop :=
  Glyph.Spaced f.glyphs

/-- There is no `$` in a name, and a fragment is plain. -/
def Ingredient.IsPlain : Ingredient Query → Prop
  | .name s => '$' ∉ s.toList
  | .fragment f => f.IsPlain
  | .query _ => True

/-- All names and fragments in a query are plain, at any depth. -/
def Query.IsPlain (q : Query) : Prop :=
  ∀ i, q.Supplies i → i.IsPlain

theorem Query.isPlain_of {q : Query} (hown : ∀ i ∈ q.clauses.ingredients, i.IsPlain)
    (hinner : ∀ r, .query r ∈ q.clauses.ingredients → r.IsPlain)
    (happended : ∀ a ∈ q.appended, a.query.IsPlain) : q.IsPlain :=
  forall_supplies hown hinner happended

theorem Fragment.glyphs_ofLexemes (f : Fragment) :
    (Output.ofLexemes (f.pieces.map .ofPiece) : Draft).glyphs = f.glyphs := by
  unfold glyphs
  induction f.pieces with
  | nil => rfl
  | cons p pieces ih =>
      cases p <;> simp [ih] <;> rfl

/-! ## Statements are spaced -/

namespace Rendering

/-- What is written is spaced, and begins with no digit. -/
def IsClear (r : Rendering Draft) : Prop :=
  ∀ d, r.result = .ok d → Glyph.Spaced d.glyphs ∧ Glyph.StartsClear d.glyphs

/-- What is written is spaced, if it does not stand behind a marker. -/
def IsSpaced (r : Rendering Draft) : Prop :=
  ∀ d, r.result = .ok d → Glyph.Spaced d.glyphs

theorem IsClear.append {x y : Rendering Draft} (hx : x.IsClear) (hy : y.IsClear) :
    (x ++ y).IsClear := by
  intro d hd
  rcases result_append_eq_ok hd with ⟨before, behind, hbefore, hbehind, rfl⟩
  rcases hx before hbefore with ⟨hspaced, hclear⟩
  rcases hy behind hbehind with ⟨hspaced', hclear'⟩
  exact ⟨hspaced.append hspaced' hclear', hclear.append hclear'⟩

theorem IsSpaced.append {x y : Rendering Draft} (hx : x.IsSpaced) (hy : y.IsClear) :
    (x ++ y).IsSpaced := by
  intro d hd
  rcases result_append_eq_ok hd with ⟨before, behind, hbefore, hbehind, rfl⟩
  rcases hy behind hbehind with ⟨hspaced, hclear⟩
  exact (hx before hbefore).append hspaced hclear

/-- A fixed text keeps a part away from the markers ahead. -/
theorem IsSpaced.behind {s : String} (hs : s ∈ vocabulary) {x : Rendering Draft}
    (hx : x.IsSpaced) : (fixed s ++ x).IsClear := by
  intro d hd
  rcases result_append_eq_ok hd with ⟨before, behind, hbefore, hbehind, rfl⟩
  rcases plain_of_mem_vocabulary hs with ⟨hdollar, c, rest, htext, hdigit⟩
  have hglyphs : before.glyphs = Glyph.ofText s := by
    cases hbefore
    exact List.append_nil _
  -- the text begins with something else than a digit, whatever stands behind it
  rw [Draft.append_glyphs, hglyphs]
  refine ⟨Glyph.Spaced.ofText_append hdollar (hx behind hbehind), ?_⟩
  simpa [Glyph.StartsClear, Glyph.ofText, htext] using hdigit

theorem isClear_bind (v : Value) : (bind v).IsClear := by
  intro d hd
  cases hd
  exact ⟨⟨Glyph.startsClear_nil, trivial⟩, Glyph.startsClear_marker []⟩

theorem isSpaced_fragment {f : Fragment} (h : f.IsPlain) : (fragment f).IsSpaced := by
  intro d hd
  cases hd
  rw [Fragment.glyphs_ofLexemes]
  exact h

/-- A quoted name begins with a quote. -/
theorem startsClear_quoted (i : Identifier) (gs : List Glyph) :
    Glyph.StartsClear (Glyph.ofText i.quoted ++ gs) := by
  simp [Identifier.quoted, Glyph.ofText, Glyph.StartsClear]

theorem isClear_name {s : String} (h : '$' ∉ s.toList) : (name s).IsClear := by
  unfold name
  intro d hd
  cases hi : Identifier.of s with
  | error f =>
      rw [hi] at hd
      cases hd
  | ok i =>
      rw [hi] at hd
      cases hd
      have htext : '$' ∉ i.text.toList := by rwa [Identifier.text_of hi]
      exact ⟨.ofText_append (Identifier.dollar_notMem_quoted htext) trivial,
        startsClear_quoted i []⟩

/-- The parts of a path are kept apart by dots. -/
theorem spaced_path {p : Path} (h : ∀ i ∈ p, '$' ∉ i.text.toList) :
    Glyph.Spaced (Output.ofLexemes ((p.map Lexeme.name).intersperse (.fixed ".")) : Draft).glyphs ∧
      Glyph.StartsClear
        (Output.ofLexemes ((p.map Lexeme.name).intersperse (.fixed ".")) : Draft).glyphs := by
  induction p with
  | nil => exact ⟨trivial, Glyph.startsClear_nil⟩
  | cons i rest ih =>
      have hi := Identifier.dollar_notMem_quoted (h i (by simp))
      rcases ih fun k hk => h k (List.mem_cons_of_mem i hk) with ⟨hrest, -⟩
      -- the last part has no dot behind it
      cases rest with
      | nil =>
          simp only [List.map_cons, List.map_nil, List.intersperse_singleton, Output.ofLexemes_cons,
            Draft.append_glyphs, Draft.glyphs_ofLexeme, Lexeme.piece]
          exact ⟨.ofText_append hi trivial, startsClear_quoted i _⟩
      | cons j rest =>
          simp only [List.map_cons, List.intersperse_cons_cons, Output.ofLexemes_cons,
            Draft.append_glyphs, Draft.glyphs_ofLexeme, Lexeme.piece] at hrest ⊢
          have hdot : '$' ∉ ".".toList := by decide
          exact ⟨.ofText_append hi (.ofText_append hdot hrest), startsClear_quoted i _⟩

theorem isClear_path {s : String} (h : '$' ∉ s.toList) : (path s).IsClear := by
  unfold path
  intro d hd
  cases hp : Path.of s with
  | error f =>
      rw [hp] at hd
      cases hd
  | ok p =>
      rw [hp] at hd
      cases hd
      exact spaced_path (Path.dollar_notMem h hp)

end Rendering

/-- The fixed texts keep everything else in a statement apart. -/
def Agreement.spacing : Agreement Query Draft Draft where
  names s := '$' ∉ s.toList
  fragments f := f.IsPlain
  free _ x _ := x.IsClear
  led _ x _ := x.IsSpaced
  led_of_free h d hd := (h d hd).1
  nothing d hd := by
    cases hd
    exact ⟨trivial, Glyph.startsClear_nil⟩
  fault _ _ d hd := by cases hd
  behind hs h := h.behind hs
  append h h' := h.append h'
  led_append h h' := h.append h'
  bind v := Rendering.isClear_bind v
  fragment h := Rendering.isSpaced_fragment h
  name h := Rendering.isClear_name h
  path h := Rendering.isClear_path h
  physical n h := n.dollar_notMem_physical h
  qualified hs ht := by simpa using ⟨hs, ht⟩
  parsed h := ColumnRef.dollar_notMem_parse h

/-- What is written for a plain query is spaced. -/
theorem Query.spaced_rendered {q : Query} (h : q.IsPlain) (naming : Naming) {d : Draft}
    (hd : (q.rendered naming).result = .ok d) : Glyph.Spaced d.glyphs :=
  (Agreement.spacing.rendered (fun h => h) Aliases.dollar_notMem_nameAt naming
    (fun i hi => by cases i <;> exact h _ hi) d hd).1

/-! ## Compiled queries -/

namespace Query

/-- The numbered text of a compiled query fits its values.  It is a draft whose markers are numbered
in order, one for each value; with the values in the place of the markers, the draft is what would
have been written with the values inline.  If there is no `$` in what the caller supplies, and no
digit behind a placeholder in a fragment, the placeholders of the text are exactly the numbers of
the values. -/
theorem compile_in_step {q : Query} {options : CompileOptions} {c : Compiled}
    (h : q.compile options = .ok c) :
    (∃ d : Draft, (q.rendered options.naming).result = .ok d ∧
      c.sql = d.numbered ∧ c.params = d.params ∧ d.markers = c.params.length ∧
      ∀ literal : Value → String,
        (q.rendered options.naming).result =
          .ok (⟨d.filled (Draft.literalAt literal c.params)⟩ : Inlined literal)) ∧
      (q.IsPlain →
        Compiled.placeholders c.sql.toList = (List.range' 1 c.params.length).map toString ∧
          c.placeholderCount = c.params.length) := by
  rcases compile_eq_ok_iff.1 h with ⟨ls, hls, -, rfl⟩
  -- the lexemes that were compiled, put down as a draft
  have hdraft :
      (q.rendered options.naming : Rendering Draft).result = .ok (Output.ofLexemes ls) := by
    rw [rendered_eq_map, hls]
    rfl
  have hparams := Draft.params_ofLexemes ls
  have hnumbered := Draft.numbered_ofLexemes ls
  have hmarkers := Draft.markers_ofLexemes ls
  rw [hparams] at hmarkers
  refine ⟨⟨_, hdraft, hnumbered.symm, hparams.symm, hmarkers, fun literal => ?_⟩, fun hplain => ?_⟩
  · -- and written inline
    rw [rendered_eq_map, hls, ← hparams, ← Draft.filled_ofLexemes]
    rfl
  · have hspaced := spaced_rendered hplain options.naming hdraft
    have hread := Compiled.placeholders_filledFrom hspaced 1
    have hplaceholders : Compiled.placeholders (Lexeme.text ls).toList =
        (List.range' 1 (Lexeme.params ls).length).map toString := by
      rw [← hnumbered, ← hmarkers, Draft.numbered, Draft.filled, String.toList_ofList]
      exact hread
    refine ⟨hplaceholders, ?_⟩
    rw [Compiled.placeholderCount, Compiled.placeholderCountOf, hplaceholders]
    exact Compiled.size_ofList_numbers 1 _

/-- A query with two values, one of them in a fragment. -/
def byIdOrName : Query :=
  (Table.named "t").query.filter
    (.any [Condition.compare "id" .eq (.value (.int 7)),
      Condition.fragment ((Fragment.ofText "name = ").bind (.text "ann"))])

theorem isPlain_byIdOrName : byIdOrName.IsPlain := by
  have hingredients : byIdOrName.clauses.ingredients =
      [.name "t", .name "id", .fragment ((Fragment.ofText "name = ").bind (.text "ann"))] := rfl
  refine isPlain_of ?own ?inner ?appended
  case own =>
    intro i hi
    rw [hingredients] at hi
    simp only [List.mem_cons, List.not_mem_nil, or_false] at hi
    rcases hi with rfl | rfl | rfl
    · simp [Ingredient.IsPlain]
    · simp [Ingredient.IsPlain]
    · have hpieces : ((Fragment.ofText "name = ").bind (.text "ann")).pieces =
          [.text "name = ", .bind (.text "ann")] := rfl
      simp [Ingredient.IsPlain, Fragment.IsPlain, Fragment.glyphs, hpieces, Glyph.ofText,
        Glyph.Spaced, Glyph.startsClear_nil]
  case inner =>
    intro q hq
    rw [hingredients] at hq
    simp at hq
  case appended =>
    intro a ha
    cases ha

theorem compile_in_step_byIdOrName :
    byIdOrName.compile {} =
        .ok ⟨"SELECT * FROM \"t\" WHERE (\"t\".\"id\" = $1 OR name = $2)",
          [.int 7, .text "ann"], false⟩ ∧
      Compiled.placeholders "SELECT * FROM \"t\" WHERE (\"t\".\"id\" = $1 OR name = $2)".toList =
        ["1", "2"] := by
  have hcompile : byIdOrName.compile {} =
      .ok ⟨"SELECT * FROM \"t\" WHERE (\"t\".\"id\" = $1 OR name = $2)",
        [.int 7, .text "ann"], false⟩ := by
    rfl
  exact ⟨hcompile, ((compile_in_step hcompile).2 isPlain_byIdOrName).1⟩

end Query
end ParamSql
