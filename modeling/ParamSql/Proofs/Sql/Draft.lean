import ParamSql.Proofs.Sql.Agreement

/-!
# Draft — text and values kept apart

A statement can be written to other outputs than lexemes.  Two of them say what the numbering of
placeholders means: in a draft the text has unnumbered markers and the values are collected on the
side, and in an inlined text every value stands where it is bound.

* `Glyph`, `Draft` — texts with markers, and the values that were bound;
* `Draft.filled f d` — the text of `d` with `f k` in the place of the `k`-th marker, counted from 1;
* `Inlined literal` — texts in which `literal v` stands for the value `v`;
* `Query.rendered_eq_map` — what is written to any output are the lexemes, put down one by one;
* `Draft.filled_ofLexemes` — filling the markers of a draft with its values is writing them inline.
-/

namespace ParamSql

/-! ## Drafts -/

/-- A character of a text, or the place of a bound value. -/
inductive Glyph
  | char (c : Char)
  | marker
  deriving DecidableEq, Repr

namespace Glyph

/-- The glyphs of a text. -/
@[irreducible]
def ofText (s : String) : List Glyph :=
  s.toList.map char

/-- The number of markers. -/
def markers : List Glyph → Nat
  | [] => 0
  | .char _ :: gs => markers gs
  | .marker :: gs => markers gs + 1

/-- The text with `f k` in the place of the marker that is counted as `k`, from `n` on. -/
def filledFrom (f : Nat → String) : Nat → List Glyph → List Char
  | _, [] => []
  | n, .char c :: gs => c :: filledFrom f n gs
  | n, .marker :: gs => (f n).toList ++ filledFrom f (n + 1) gs

@[simp]
theorem markers_ofText (s : String) : markers (ofText s) = 0 := by
  unfold ofText
  induction s.toList with
  | nil => rfl
  | cons c cs ih => simpa [markers] using ih

@[simp]
theorem filledFrom_ofText (f : Nat → String) (n : Nat) (s : String) :
    filledFrom f n (ofText s) = s.toList := by
  unfold ofText
  induction s.toList with
  | nil => rfl
  | cons c cs ih => simpa [filledFrom] using ih

@[simp]
theorem markers_append (gs hs : List Glyph) : markers (gs ++ hs) = markers gs + markers hs := by
  induction gs with
  | nil => simp [markers]
  | cons g gs ih =>
      cases g with
      | char c => simpa [markers] using ih
      | marker =>
          simp only [List.cons_append, markers, ih]
          omega

/-- The markers behind a text are counted on. -/
theorem filledFrom_append (f : Nat → String) (n : Nat) (gs hs : List Glyph) :
    filledFrom f n (gs ++ hs) = filledFrom f n gs ++ filledFrom f (n + markers gs) hs := by
  -- one marker more has been counted behind each marker
  induction gs generalizing n with
  | nil => simp [filledFrom, markers]
  | cons g gs ih =>
      cases g with
      | char c => simp [filledFrom, markers, ih]
      | marker =>
          have hcount : n + 1 + markers gs = n + (markers gs + 1) := by omega
          simp [filledFrom, markers, ih, hcount]

/-- Only what stands for the markers that are there matters. -/
theorem filledFrom_congr {f g : Nat → String} {n m : Nat} {gs : List Glyph}
    (h : ∀ k < markers gs, f (n + k) = g (m + k)) : filledFrom f n gs = filledFrom g m gs := by
  induction gs generalizing n m with
  | nil => rfl
  | cons glyph gs ih =>
      cases glyph with
      | char c =>
          simp only [filledFrom]
          rw [ih h]
      | marker =>
          have hfirst : f n = g m := h 0 (by simp [markers])
          have hrest : ∀ k < markers gs, f (n + 1 + k) = g (m + 1 + k) := by
            intro k hk
            have hnext := h (k + 1) (by simpa [markers] using hk)
            rw [Nat.add_assoc, Nat.add_comm 1 k, hnext, Nat.add_assoc, Nat.add_comm 1 k]
          simp only [filledFrom, hfirst]
          rw [ih hrest]

end Glyph

/-- A text with markers, and the values that were bound in it, in order. -/
structure Draft where
  glyphs : List Glyph
  params : List Value

namespace Draft

/-- The number of markers. -/
def markers (d : Draft) : Nat :=
  Glyph.markers d.glyphs

/-- The text with `f k` in the place of the `k`-th marker. -/
def filled (f : Nat → String) (d : Draft) : String :=
  String.ofList (Glyph.filledFrom f 1 d.glyphs)

/-- The text with numbered placeholders. -/
def numbered (d : Draft) : String :=
  d.filled fun k => "$" ++ toString k

instance : Output Draft where
  blank := ⟨[], []⟩
  append d e := ⟨d.glyphs ++ e.glyphs, d.params ++ e.params⟩
  ofLexeme
    | .fixed s => ⟨Glyph.ofText s, []⟩
    | .name i => ⟨Glyph.ofText i.quoted, []⟩
    | .verbatim s => ⟨Glyph.ofText s, []⟩
    | .bind v => ⟨[.marker], [v]⟩

instance : LawfulOutput Draft where
  append_assoc _ _ _ := by simp [Output.append]
  blank_append _ := by simp [Output.append, Output.blank]
  append_blank _ := by simp [Output.append, Output.blank]

end Draft

/-- A text in which values are written as `literal` says. -/
structure Inlined (literal : Value → String) where
  text : String

namespace Inlined

variable (literal : Value → String)

instance : Output (Inlined literal) where
  blank := ⟨""⟩
  append t u := ⟨t.text ++ u.text⟩
  ofLexeme
    | .fixed s => ⟨s⟩
    | .name i => ⟨i.quoted⟩
    | .verbatim s => ⟨s⟩
    | .bind v => ⟨literal v⟩

instance : LawfulOutput (Inlined literal) where
  append_assoc _ _ _ := by simp [Output.append, String.append_assoc]
  blank_append _ := by simp [Output.append, Output.blank]
  append_blank _ := by simp [Output.append, Output.blank]

theorem text_ofLexeme (l : Lexeme) : (Output.ofLexeme l : Inlined literal).text =
    match l.piece with
    | .text s => s
    | .bind v => literal v := by
  cases l <;> rfl

end Inlined

/-! ## Lexemes put down in other outputs -/

section Naturality

variable {ω : Type} [Output ω]

/-- A rendering to another output puts down the lexemes one by one. -/
def Rendering.Follows (y : Rendering ω) (x : Rendering (List Lexeme)) : Prop :=
  y.result = x.result.map Output.ofLexemes

namespace Rendering.Follows

theorem lexemes (ls : List Lexeme) :
    (Rendering.lexemes ls : Rendering ω).Follows (.lexemes ls) := by
  simp [Follows, Except.map]

theorem name (s : String) : (Rendering.name s : Rendering ω).Follows (.name s) := by
  unfold Rendering.name
  cases Identifier.of s with
  | error f => rfl
  | ok i => exact lexemes _

theorem path (s : String) : (Rendering.path s : Rendering ω).Follows (.path s) := by
  unfold Rendering.path
  cases Path.of s with
  | error f => rfl
  | ok p => exact lexemes _

theorem append [LawfulOutput ω] {x x' : Rendering (List Lexeme)} {y y' : Rendering ω}
    (h : y.Follows x) (h' : y'.Follows x') : (y ++ y').Follows (x ++ x') := by
  -- a fault is the same fault in both outputs
  cases hx : x.result with
  | error f =>
      have hy : y.result = .error f := by rw [h, hx]; rfl
      rw [Follows, result_append_error x' hx, result_append_error y' hy]
      rfl
  | ok before =>
      have hy : y.result = .ok (Output.ofLexemes before) := by rw [h, hx]; rfl
      cases hx' : x'.result with
      | error f =>
          have hy' : y'.result = .error f := by rw [h', hx']; rfl
          rw [Follows, result_append_ok_error hx hx', result_append_ok_error hy hy']
          rfl
      | ok behind =>
          have hy' : y'.result = .ok (Output.ofLexemes behind) := by rw [h', hx']; rfl
          rw [Follows, result_append_ok hx hx', result_append_ok hy hy', ← Output.ofLexemes_append]
          rfl

end Rendering.Follows

/-- What is written to an output follows what is written as lexemes. -/
def Agreement.naturality (ω : Type) [Output ω] [LawfulOutput ω] :
    Agreement Query (List Lexeme) ω where
  names _ := True
  fragments _ := True
  free _ x y := y.Follows x
  led _ x y := y.Follows x
  led_of_free h := h
  nothing := .lexemes []
  fault _ _ := rfl
  behind _ h := (Rendering.Follows.lexemes _).append h
  append h h' := h.append h'
  led_append h h' := h.append h'
  bind _ := .lexemes _
  fragment _ := .lexemes _
  name _ := .name _
  path _ := .path _
  physical _ _ := trivial
  qualified _ _ := trivial
  parsed := @ColumnRef.parsed_anything

variable [LawfulOutput ω]

/-- A query is written to any output as its lexemes, put down one by one. -/
theorem Query.rendered_eq_map (q : Query) (naming : Naming) :
    (q.rendered naming : Rendering ω).result =
      (q.rendered naming : Rendering (List Lexeme)).result.map Output.ofLexemes :=
  (Agreement.naturality ω).rendered (fun h => h) (fun _ => trivial) naming fun i _ => by
    cases i <;> trivial

end Naturality

/-! ## Filling the markers -/

namespace Draft

@[simp]
theorem append_glyphs (d e : Draft) : (Output.append d e).glyphs = d.glyphs ++ e.glyphs := rfl

@[simp]
theorem append_params (d e : Draft) : (Output.append d e).params = d.params ++ e.params := rfl

/-- The text of a lexeme, if it is not the place of a value. -/
theorem glyphs_ofLexeme (l : Lexeme) : (Output.ofLexeme l : Draft).glyphs =
    match l.piece with
    | .text s => Glyph.ofText s
    | .bind _ => [.marker] := by
  cases l <;> rfl

theorem params_ofLexeme (l : Lexeme) : (Output.ofLexeme l : Draft).params =
    match l.piece with
    | .text _ => []
    | .bind v => [v] := by
  cases l <;> rfl

/-- Every marker is the place of one value. -/
theorem markers_ofLexemes (ls : List Lexeme) :
    (Output.ofLexemes ls : Draft).markers = (Output.ofLexemes ls : Draft).params.length := by
  induction ls with
  | nil => rfl
  | cons l ls ih =>
      have hl : Glyph.markers (Output.ofLexeme l : Draft).glyphs =
          (Output.ofLexeme l : Draft).params.length := by
        rw [glyphs_ofLexeme, params_ofLexeme]
        cases l.piece with
        | text s => exact Glyph.markers_ofText s
        | bind v => rfl
      simp only [markers] at ih ⊢
      simp [hl, ih]

theorem params_ofLexemes (ls : List Lexeme) :
    (Output.ofLexemes ls : Draft).params = Lexeme.params ls := by
  induction ls with
  | nil => rfl
  | cons l ls ih =>
      rw [Output.ofLexemes_cons, append_params, ih, params_ofLexeme]
      cases l <;> rfl

/-- The numbered text of lexemes, written behind a text with `n` placeholders. -/
theorem writeAfter_ofLexemes (ls : List Lexeme) (done : String) (n : Nat) :
    ((ls.map Lexeme.piece).foldl Piece.writeAfter (done, n)).1 =
      done ++ String.ofList (Glyph.filledFrom (fun k => "$" ++ toString k) (n + 1)
        (Output.ofLexemes ls : Draft).glyphs) := by
  -- the number that comes next is carried along with the text that is done
  induction ls generalizing done n with
  | nil => simp [Output.blank, Glyph.filledFrom]
  | cons l ls ih =>
      have hglyphs := glyphs_ofLexeme l
      cases hl : l.piece with
      | text s =>
          rw [hl] at hglyphs
          simp [hl, Piece.writeAfter, Piece.part, Part.writeAfter, ih, hglyphs,
            Glyph.filledFrom_append, String.append_assoc]
      | bind v =>
          rw [hl] at hglyphs
          simp [hl, Piece.writeAfter, Piece.part, Part.writeAfter, ih, hglyphs, Glyph.filledFrom,
            String.append_assoc, Nat.repr_eq_ofList_toDigits]

theorem numbered_ofLexemes (ls : List Lexeme) :
    (Output.ofLexemes ls : Draft).numbered = Lexeme.text ls := by
  simp [numbered, filled, Lexeme.text, Piece.numbered, writeAfter_ofLexemes]

/-- The text of the `k`-th value, if there is one. -/
def literalAt (literal : Value → String) (params : List Value) (k : Nat) : String :=
  (params[k - 1]?.map literal).getD ""

/-- Writing values inline is filling the markers with them. -/
theorem filled_ofLexemes (literal : Value → String) (ls : List Lexeme) :
    (Output.ofLexemes ls : Inlined literal).text =
      (Output.ofLexemes ls : Draft).filled
        (literalAt literal (Output.ofLexemes ls : Draft).params) := by
  -- the values of the lexemes ahead are counted along
  have hfrom : ∀ (before : List Value) (ls : List Lexeme),
      (Output.ofLexemes ls : Inlined literal).text = String.ofList (Glyph.filledFrom
        (literalAt literal (before ++ (Output.ofLexemes ls : Draft).params)) (before.length + 1)
        (Output.ofLexemes ls : Draft).glyphs) := by
    intro before ls
    induction ls generalizing before with
    | nil => rfl
    | cons l ls ih =>
        have hinlined : (Output.ofLexemes (l :: ls) : Inlined literal).text =
            (Output.ofLexeme l : Inlined literal).text ++
              (Output.ofLexemes ls : Inlined literal).text := rfl
        have htext := Inlined.text_ofLexeme literal l
        have hglyphs := glyphs_ofLexeme l
        have hparams := params_ofLexeme l
        rw [hinlined, Output.ofLexemes_cons, append_params, append_glyphs]
        cases hl : l.piece with
        | text s =>
            rw [hl] at htext hglyphs hparams
            simp [htext, hglyphs, hparams, Glyph.filledFrom_append, ih before]
        | bind v =>
            rw [hl] at htext hglyphs hparams
            have hvalue : literalAt literal
                (before ++ v :: (Output.ofLexemes ls : Draft).params) (before.length + 1) =
                  literal v := by
              simp [literalAt]
            have hrest := ih (before ++ [v])
            simp only [List.append_assoc, List.singleton_append, List.length_append,
              List.length_singleton] at hrest
            simp [htext, hglyphs, hparams, Glyph.filledFrom, hvalue, hrest]
  simpa [filled] using hfrom [] ls

end Draft
end ParamSql
