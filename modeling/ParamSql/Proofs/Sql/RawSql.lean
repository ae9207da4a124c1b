import Mathlib.Data.List.Chain
import ParamSql.Proofs.Sql.Filled
import ParamSql.Proofs.Sql.Placeholders

/-!
# RawSql — a monoid of texts with values

However raw SQL is built, it has a marker for every value, and its texts are as long as can be: none
is empty, and no two of them meet.  So it is known from its characters and the places and values of
its markers, and what is appended to it is such a sequence behind another.

* `Part.glyphs`, `Glyph.grouped` — the characters and markers of parts, and the parts made of them;
* `RawSql.IsCanonical` — markers and values are in step, and the parts are those of one text with
  gaps only;
* `RawSql.canonical_isKept` — which all that is appended leaves as it is;
* `Part.foldl_writeAfter_foldl_put` — whether texts are joined does not show in what is written;
* `RawSql.IsBuilt` — raw SQL that is built, in whatever way;
* `TemplateArg.raw?` — what an argument of a template puts down;
* `RawSql.raw_sql_forms_monoid` — the laws of raw SQL.
-/

namespace ParamSql

/-! ## Characters and markers -/

/-- The glyphs of a part. -/
def Glyph.ofPart : Part → List Glyph
  | .text s => ofText s
  | .marker => [.marker]

namespace Part

/-- The glyphs of parts. -/
def glyphs (parts : List Part) : List Glyph :=
  parts.flatMap Glyph.ofPart

/-- Two parts next to each other, which are not both texts. -/
def Apart (p q : Part) : Prop :=
  p = .marker ∨ q = .marker

@[simp]
theorem glyphs_append (parts behind : List Part) :
    glyphs (parts ++ behind) = glyphs parts ++ glyphs behind :=
  List.flatMap_append

@[simp]
theorem glyphs_singleton (p : Part) : glyphs [p] = Glyph.ofPart p :=
  List.flatMap_singleton Glyph.ofPart p

theorem glyphs_put (parts : List Part) (p : Part) :
    glyphs (put parts p) = glyphs parts ++ Glyph.ofPart p := by
  cases p with
  | marker => simp [put]
  | text s =>
      rcases addText_cases parts s with ⟨rfl, h⟩ | ⟨before, last, rfl, -, h⟩ | ⟨-, -, h⟩
      · simp [put, h, Glyph.ofPart, Glyph.ofText]
      · simp [put, h, Glyph.ofPart, Glyph.ofText]
      · simp [put, h]

theorem glyphs_foldl_put (parts behind : List Part) :
    glyphs (behind.foldl put parts) = glyphs parts ++ glyphs behind := by
  induction behind generalizing parts with
  | nil => simp [glyphs]
  | cons p behind ih =>
      rw [List.foldl_cons, ih, glyphs_put, List.append_assoc]
      rfl

/-- A text is only put behind a marker, or joined to the text that is there. -/
theorem isChain_put {parts : List Part} (h : parts.IsChain Apart) (p : Part) :
    (put parts p).IsChain Apart := by
  cases p with
  | marker =>
      refine List.isChain_append.2 ⟨h, .singleton _, fun _ _ _ hq => .inr ?_⟩
      exact (Option.some.inj hq).symm
  | text s =>
      rcases addText_cases parts s with ⟨-, hadd⟩ | ⟨before, last, rfl, -, hadd⟩ | ⟨hlast, -, hadd⟩
      · rwa [put, hadd]
      · obtain ⟨hbefore, -, hmeet⟩ := List.isChain_append.1 h
        rw [put, hadd]
        refine List.isChain_append.2 ⟨hbefore, .singleton _, fun p hp _ _ => ?_⟩
        have hlast : Part.text last ≠ .marker := by simp
        exact .inl ((hmeet p hp (.text last) rfl).resolve_right hlast)
      · rw [put, hadd]
        refine List.isChain_append.2 ⟨h, .singleton _, fun p hp _ _ => ?_⟩
        cases p with
        | marker => exact .inl rfl
        | text last => exact absurd hp (hlast last)

theorem isChain_foldl_put {parts : List Part} (h : parts.IsChain Apart) (behind : List Part) :
    (behind.foldl put parts).IsChain Apart := by
  induction behind generalizing parts with
  | nil => exact h
  | cons p behind ih => exact ih (isChain_put h p)

end Part

/-! ## Texts made of characters -/

namespace Glyph

/-- A glyph ahead of parts: a character belongs to the text that begins there. -/
def onto : Glyph → List Part → List Part
  | .marker, parts => .marker :: parts
  | .char c, .text s :: parts => .text (String.ofList (c :: s.toList)) :: parts
  | .char c, parts => .text (String.ofList [c]) :: parts

/-- The texts that glyphs make, with the markers between them. -/
def grouped (gs : List Glyph) : List Part :=
  gs.foldr onto []

variable {parts : List Part}

/-- Characters make one text, if no other one begins behind them. -/
theorem foldr_onto_chars {cs : List Char} (hcs : cs ≠ [])
    (hparts : ∀ t, parts.head? ≠ some (.text t)) :
    (cs.map char).foldr onto parts = .text (String.ofList cs) :: parts := by
  induction cs with
  | nil => exact absurd rfl hcs
  | cons c cs ih =>
      cases cs with
      | nil =>
          -- the last character begins a text of its own
          match parts, hparts with
          | [], _ => rfl
          | .marker :: parts, _ => rfl
          | .text t :: parts, h => exact absurd rfl (h t)
      | cons d ds =>
          rw [List.map_cons, List.foldr_cons, ih (List.cons_ne_nil d ds), onto,
            String.toList_ofList]

/-- The characters of a text make this text, if no other one begins behind it. -/
theorem foldr_onto_ofText {s : String} (hs : s ≠ "")
    (hparts : ∀ t, parts.head? ≠ some (.text t)) :
    (ofText s).foldr onto parts = .text s :: parts := by
  have hchars : s.toList ≠ [] := by simpa using hs
  unfold ofText
  rw [foldr_onto_chars hchars hparts, String.ofList_toList]

/-- Texts that are not empty and do not meet are made again of their characters. -/
theorem grouped_glyphs (hfilled : .text "" ∉ parts) (hapart : parts.IsChain Part.Apart) :
    grouped (Part.glyphs parts) = parts := by
  induction parts with
  | nil => rfl
  | cons part parts ih =>
      obtain ⟨hpart, hrest⟩ : .text "" ≠ part ∧ .text "" ∉ parts := by simpa using hfilled
      have hbehind := ih hrest hapart.tail
      cases part with
      | marker => exact congrArg (.marker :: ·) hbehind
      | text s =>
          have hs : s ≠ "" := fun heq => hpart (heq ▸ rfl)
          -- a text that begins behind this one would be next to it
          have hhead : ∀ t, parts.head? ≠ some (.text t) := by
            intro t ht
            obtain ⟨rest, rfl⟩ := List.head?_eq_some_iff.1 ht
            rcases (List.isChain_cons_cons.1 hapart).1 with hmarker | hmarker <;> cases hmarker
          calc grouped (ofText s ++ Part.glyphs parts)
              = (ofText s).foldr onto (grouped (Part.glyphs parts)) := List.foldr_append
            _ = (ofText s).foldr onto parts := by rw [hbehind]
            _ = .text s :: parts := foldr_onto_ofText hs hhead

end Glyph

/-! ## Canonical raw SQL -/

namespace RawSql

/-- The characters and markers of raw SQL. -/
def glyphs (r : RawSql) : List Glyph :=
  Part.glyphs r.parts

/-- There is a marker for every value, there is something in each text, and no two texts are next to
each other. -/
structure IsCanonical (r : RawSql) : Prop where
  inStep : r.parts.count .marker = r.values.length
  filled : .text "" ∉ r.parts
  apart : r.parts.IsChain Part.Apart

variable {r s t : RawSql}

@[simp]
theorem glyphs_append (r s : RawSql) : (r ++ s).glyphs = r.glyphs ++ s.glyphs :=
  Part.glyphs_foldl_put r.parts s.parts

@[simp]
theorem values_append (r s : RawSql) : (r ++ s).values = r.values ++ s.values := rfl

theorem append_empty (r : RawSql) : r ++ empty = r := by
  change (⟨r.parts, r.values ++ []⟩ : RawSql) = r
  rw [List.append_nil]

theorem append_ofText (r : RawSql) (s : String) : r ++ ofText s = r.addText s := by
  change (⟨(ofText s).parts.foldl Part.put r.parts, r.values ++ []⟩ : RawSql) = r.addText s
  rw [List.append_nil, addText, ofText]
  split
  case isTrue hs => simp [Part.addText, hs]
  case isFalse => rfl

namespace IsCanonical

theorem parts_eq_iff (hr : r.IsCanonical) (hs : s.IsCanonical) :
    r.parts = s.parts ↔ r.glyphs = s.glyphs := by
  constructor
  · exact congrArg Part.glyphs
  · intro h
    rw [← Glyph.grouped_glyphs hr.filled hr.apart, ← Glyph.grouped_glyphs hs.filled hs.apart]
    exact congrArg Glyph.grouped h

/-- Canonical raw SQL is the same if it has the same characters and markers, and the same values. -/
theorem eq_iff (hr : r.IsCanonical) (hs : s.IsCanonical) :
    r = s ↔ r.glyphs = s.glyphs ∧ r.values = s.values := by
  constructor
  · rintro rfl
    exact ⟨rfl, rfl⟩
  · rintro ⟨hglyphs, hvalues⟩
    rcases r with ⟨parts, vs⟩
    obtain rfl : parts = s.parts := (hr.parts_eq_iff hs).2 hglyphs
    obtain rfl : vs = s.values := hvalues
    rfl

end IsCanonical

/-- Raw SQL stays canonical, whatever is appended. -/
theorem canonical_isKept : IsKept IsCanonical where
  empty := ⟨rfl, isProper_empty, .nil⟩
  addText h s :=
    ⟨inStep_isKept.addText h.inStep s, IsProper.addText h.filled s,
      Part.isChain_put h.apart (.text s)⟩
  bind h v :=
    ⟨inStep_isKept.bind h.inStep v, IsProper.bind h.filled v, Part.isChain_put h.apart .marker⟩
  append {_ s} hr hs :=
    ⟨inStep_isKept.append hr.inStep hs.inStep, IsProper.append hr.filled s,
      Part.isChain_foldl_put hr.apart s.parts⟩

/-! ## The written text -/

end RawSql

namespace Part

/-- Whether a text is joined to another one does not show in what is written. -/
theorem foldl_writeAfter_put (parts : List Part) (p : Part) (done : String × Nat) :
    (put parts p).foldl writeAfter done = writeAfter (parts.foldl writeAfter done) p := by
  cases p with
  | marker => simp [put]
  | text s =>
      rcases addText_cases parts s with ⟨rfl, h⟩ | ⟨before, last, rfl, -, h⟩ | ⟨-, -, h⟩
      · simp [put, h, writeAfter]
      · simp [put, h, writeAfter, String.append_assoc]
      · simp [put, h]

theorem foldl_writeAfter_foldl_put (parts behind : List Part) (done : String × Nat) :
    (behind.foldl put parts).foldl writeAfter done =
      behind.foldl writeAfter (parts.foldl writeAfter done) := by
  induction behind generalizing parts with
  | nil => rfl
  | cons p behind ih => rw [List.foldl_cons, ih, foldl_writeAfter_put, List.foldl_cons]

/-- What has been written is left as it is, and every marker is counted. -/
theorem foldl_writeAfter (parts : List Part) (done : String) (n : Nat) :
    parts.foldl writeAfter (done, n) = (done ++ textAfter n parts, n + parts.count .marker) := by
  induction parts generalizing done n with
  | nil => simp [textAfter]
  | cons p parts ih =>
      cases p with
      | text s =>
          have hfirst : textAfter n (.text s :: parts) = s ++ textAfter n parts := by
            rw [textAfter, List.foldl_cons, writeAfter, ih, String.empty_append]
          have hcount : (Part.text s :: parts).count .marker = parts.count .marker :=
            List.count_cons_of_ne (by simp)
          rw [List.foldl_cons, writeAfter, ih, hfirst, hcount, String.append_assoc]
      | marker =>
          have hfirst : textAfter n (.marker :: parts) =
              "$" ++ toString (n + 1) ++ textAfter (n + 1) parts := by
            rw [textAfter, List.foldl_cons, writeAfter, ih, String.empty_append]
          rw [List.foldl_cons, writeAfter, ih, hfirst, List.count_cons_self,
            Nat.add_right_comm n 1, Nat.add_assoc n]
          simp only [String.append_assoc]

end Part

namespace RawSql

variable {r s t : RawSql}

theorem text_eq_textAfter (r : RawSql) : r.text = Part.textAfter 0 r.parts :=
  congrArg Prod.fst (Part.foldl_writeAfter_foldl_put [] r.parts ("", 0))

/-- The markers of what is appended are counted on. -/
theorem text_append (hr : r.InStep) (s : RawSql) :
    (r ++ s).text = r.text ++ Part.textAfter r.values.length s.parts := by
  have hr : r.parts.count .marker = r.values.length := hr
  calc (r ++ s).text
      = ((s.parts.foldl Part.put r.parts).foldl Part.writeAfter ("", 0)).1 := text_eq_textAfter _
    _ = (s.parts.foldl Part.writeAfter (r.parts.foldl Part.writeAfter ("", 0))).1 := by
        rw [Part.foldl_writeAfter_foldl_put]
    _ = r.text ++ Part.textAfter r.values.length s.parts := by
        rw [Part.foldl_writeAfter r.parts, Part.foldl_writeAfter s.parts, text_eq_textAfter, hr,
          String.empty_append, Nat.zero_add]

end RawSql

/-- A fragment is written out with its values in their places as it is with them in a list. -/
theorem Fragment.numbered_pieces (f : Fragment) : Piece.numbered f.pieces = f.text := by
  rw [RawSql.text_eq_textAfter, Part.textAfter, ← f.map_part_pieces, List.foldl_map]
  rfl

/-! ## Templates -/

/-- What an argument puts down, if it can be written. -/
def TemplateArg.raw? : TemplateArg RawSql → Option RawSql
  | .bind v => some (RawSql.empty.bind v)
  | .inline v => v.literal?.map RawSql.ofText
  | .fragment r => some r

namespace RawSql

variable {r s t : RawSql}

theorem addArg_of_raw? {a : TemplateArg RawSql} (h : a.raw? = some s) :
    r.addArg a = .ok (r ++ s) := by
  cases a with
  | bind v =>
      obtain rfl := Option.some.inj h
      rfl
  | inline v =>
      obtain ⟨text, htext, rfl⟩ := Option.map_eq_some_iff.1 h
      simp [addArg, inline, htext, append_ofText]
  | fragment t =>
      obtain rfl := Option.some.inj h
      rfl

theorem exists_addArg_error {a : TemplateArg RawSql} (h : a.raw? = none) :
    ∃ e, r.addArg a = .error e := by
  cases a with
  | bind v => cases h
  | inline v =>
      have hv : v.literal? = none := Option.map_eq_none_iff.1 h
      exact ⟨.notInlinable v.typeName, by simp [addArg, inline, hv]⟩
  | fragment t => cases h

/-- A segment and what stands behind it, behind raw SQL. -/
def addBlock (r : RawSql) (block : String × RawSql) : RawSql :=
  r.addText block.1 ++ block.2

/-- With a segment more than arguments, what is put down are the segments and the arguments by
turns. -/
theorem addTemplate_eq_ok_iff {segments : List String} {args : List (TemplateArg RawSql)}
    (h : segments.length = args.length + 1) : r.addTemplate segments args = .ok s ↔
      ∃ rs, args.map TemplateArg.raw? = rs.map some ∧
        s = (segments.zip (rs ++ [empty])).foldl addBlock r := by
  -- by induction on the arguments, each of which takes the segment ahead of it
  induction args generalizing r segments with
  | nil =>
      obtain ⟨segment, rfl⟩ : ∃ segment, segments = [segment] := List.length_eq_one_iff.1 h
      -- the last segment has nothing behind it
      have hlast : addBlock r (segment, empty) = r.addText segment := append_empty _
      constructor
      · intro hadd
        obtain rfl := Except.ok.inj hadd
        exact ⟨[], rfl, hlast.symm⟩
      · rintro ⟨rs, hrs, rfl⟩
        obtain rfl : rs = [] := by simpa using hrs
        exact congrArg Except.ok hlast.symm
  | cons a args ih =>
      cases segments with
      | nil => cases h
      | cons segment segments =>
          have hrest : segments.length = args.length + 1 := Nat.succ.inj h
          rw [addTemplate, List.map_cons]
          cases ha : a.raw? with
          | none =>
              -- an argument that cannot be written makes the whole template fail
              obtain ⟨e, he⟩ := exists_addArg_error (r := r.addText segment) ha
              rw [he]
              constructor
              · intro hok
                cases hok
              · rintro ⟨rs, hrs, -⟩
                cases rs <;> simp at hrs
          | some k =>
              rw [addArg_of_raw? ha]
              refine (ih hrest).trans ⟨?_, ?_⟩
              · rintro ⟨rs, hrs, rfl⟩
                exact ⟨k :: rs, by rw [List.map_cons, hrs], rfl⟩
              · rintro ⟨rs, hrs, rfl⟩
                cases rs with
                | nil => simp at hrs
                | cons k' rs =>
                    obtain ⟨rfl, hothers⟩ : k = k' ∧ args.map TemplateArg.raw? = rs.map some := by
                      simpa using hrs
                    exact ⟨rs, hothers, rfl⟩

/-- A template is raw SQL if there is a segment more than arguments and all of these can be written:
the segments, each with its argument behind it, from the left to the right. -/
theorem template_eq_ok_iff {segments : List String} {args : List (TemplateArg RawSql)} :
    template segments args = .ok r ↔ segments.length = args.length + 1 ∧
      ∃ rs, args.map TemplateArg.raw? = rs.map some ∧
        r = (segments.zip (rs ++ [empty])).foldl addBlock empty := by
  unfold template
  split
  case isTrue h => rw [addTemplate_eq_ok_iff h, and_iff_right h]
  case isFalse h => exact ⟨nofun, fun hok => absurd hok.1 h⟩

end RawSql

/-- A value that has no text of its own in a statement. -/
def Value.isUnwritable : Value → Bool
  | .bytes _ => true
  | .json _ => true
  | .uuid _ => true
  | .timestamp _ => true
  | .array _ => true
  | .float x => !x.isFinite
  | _ => false

theorem Value.literal?_eq_none_iff (v : Value) : v.literal? = none ↔ v.isUnwritable = true := by
  cases v with
  | float x => cases hx : x.isFinite <;> simp [literal?, isUnwritable, hx]
  | null | bool | int | text | bytes | json | uuid | timestamp | array =>
      simp [literal?, isUnwritable]

namespace TemplateArg

theorem raw?_eq_none_iff (a : TemplateArg RawSql) :
    a.raw? = none ↔ ∃ v, a = .inline v ∧ v.isUnwritable = true := by
  cases a with
  | bind v => simp [raw?]
  | inline v => simp [raw?, ← Value.literal?_eq_none_iff]
  | fragment r => simp [raw?]

theorem exists_raws_iff (args : List (TemplateArg RawSql)) :
    (∃ rs : List RawSql, args.map raw? = rs.map some) ↔ ¬∃ a ∈ args, a.raw? = none := by
  constructor
  · rintro ⟨rs, hrs⟩ ⟨a, ha, hnone⟩
    have hmem : a.raw? ∈ rs.map some := hrs ▸ List.mem_map_of_mem ha
    simp [hnone] at hmem
  · intro hall
    refine ⟨args.map fun a => a.raw?.getD .empty, ?_⟩
    rw [List.map_map]
    refine List.map_congr_left fun a ha => ?_
    cases hk : a.raw? with
    | none => exact absurd ⟨a, ha, hk⟩ hall
    | some k => simp [hk]

end TemplateArg

namespace RawSql

variable {r s t : RawSql}

/-- A template fails if there are too few or too many segments, or else for a value without a
text. -/
theorem exists_template_error_iff {segments : List String} {args : List (TemplateArg RawSql)} :
    (∃ e, template segments args = .error e) ↔ segments.length ≠ args.length + 1 ∨
      ∃ v, .inline v ∈ args ∧ v.isUnwritable = true := by
  have hfails : (∃ e, template segments args = .error e) ↔
      ¬∃ r, template segments args = .ok r := by
    cases template segments args with
    | error e => simp
    | ok r => simp
  -- the values without a text are the arguments that put nothing down
  have hunwritable : (∃ v, .inline v ∈ args ∧ v.isUnwritable = true) ↔
      ∃ a ∈ args, a.raw? = none := by
    simp only [TemplateArg.raw?_eq_none_iff]
    constructor
    · rintro ⟨v, hv, hunwritable⟩
      exact ⟨_, hv, v, rfl, hunwritable⟩
    · rintro ⟨_, hv, v, rfl, hunwritable⟩
      exact ⟨v, hv, hunwritable⟩
  have hraw : (∃ r, template segments args = .ok r) ↔ segments.length = args.length + 1 ∧
      ¬∃ a ∈ args, a.raw? = none := by
    simp only [template_eq_ok_iff, exists_and_left, ← TemplateArg.exists_raws_iff]
    exact and_congr_right fun _ =>
      ⟨fun ⟨_, rs, hrs, _⟩ => ⟨rs, hrs⟩, fun ⟨rs, hrs⟩ => ⟨_, rs, hrs, rfl⟩⟩
  calc (∃ e, template segments args = .error e)
      ↔ ¬∃ r, template segments args = .ok r := hfails
    _ ↔ ¬(segments.length = args.length + 1 ∧ ¬∃ a ∈ args, a.raw? = none) := not_congr hraw
    _ ↔ segments.length ≠ args.length + 1 ∨ ∃ a ∈ args, a.raw? = none := by
        rw [not_and_or, not_not]
    _ ↔ _ := or_congr_right hunwritable.symm

/-! ## Raw SQL that is built -/

/-- Raw SQL that is built of texts, values, names, literals and other such raw SQL. -/
inductive IsBuilt : RawSql → Prop
  | text (s : String) : (ofText s).IsBuilt
  | addText {r : RawSql} (h : r.IsBuilt) (s : String) : (r.addText s).IsBuilt
  | bind {r : RawSql} (h : r.IsBuilt) (v : Value) : (r.bind v).IsBuilt
  | bindList {r : RawSql} (h : r.IsBuilt) (vs : List Value) : (r.bindList vs).IsBuilt
  | addPath {r s : RawSql} (h : r.IsBuilt) {path : String} (hadd : r.addPath path = .ok s) :
      s.IsBuilt
  | inline {r s : RawSql} (h : r.IsBuilt) {v : Value} (hadd : r.inline v = .ok s) : s.IsBuilt
  | append {r s : RawSql} (hr : r.IsBuilt) (hs : s.IsBuilt) : (r ++ s).IsBuilt
  | template {r : RawSql} {segments : List String} {args : List (TemplateArg RawSql)}
      (hargs : ∀ k, .fragment k ∈ args → k.IsBuilt) (h : template segments args = .ok r) :
      r.IsBuilt

/-- Whatever is kept when raw SQL is appended to holds of all that is built. -/
theorem IsBuilt.of_isKept {P : RawSql → Prop} (hP : IsKept P) (h : r.IsBuilt) : P r := by
  induction h with
  | text s => exact hP.ofText s
  | addText _ s ih => exact hP.addText ih s
  | bind _ v ih => exact hP.bind ih v
  | bindList _ vs ih => exact hP.bindList ih vs
  | addPath _ hadd ih => exact hP.addPath ih hadd
  | inline _ hadd ih => exact hP.inline ih hadd
  | append _ _ ihr ihs => exact hP.append ihr ihs
  | template _ h ih => exact hP.template ih h

/-- All that is built is canonical. -/
theorem IsBuilt.isCanonical (h : r.IsBuilt) : r.IsCanonical :=
  h.of_isKept canonical_isKept

/-- Raw SQL is a monoid of texts with values.  What is built has a marker for every value and is
canonical, whichever way it is built, so that it is the same if its characters and markers and its
values are.  What is appended to it stands behind its parts and values, and its text is the first
text and the second one with its markers counted on.  A template is made of its segments and
arguments from the left to the right, and it fails just if their numbers do not fit, or for an
inlined value without a text.  What a statement takes of it is a fragment with the same text and
values. -/
theorem raw_sql_forms_monoid {r s t : RawSql} (hr : r.IsBuilt) (hs : s.IsBuilt) (ht : t.IsBuilt)
    (segments : List String) (args : List (TemplateArg RawSql)) :
    r.IsCanonical ∧
      (r = s ↔ r.glyphs = s.glyphs ∧ r.values = s.values) ∧
      (r.parts = s.parts ↔ r.glyphs = s.glyphs) ∧
      r ++ s ++ t = r ++ (s ++ t) ∧ ofText "" ++ r = r ∧ r ++ ofText "" = r ∧
      (r ++ s).values = r.values ++ s.values ∧
      (r ++ s).text = r.text ++ Part.textAfter r.values.length s.parts ∧
      s.text = Part.textAfter 0 s.parts ∧
      (∀ k, template segments args = .ok k ↔ segments.length = args.length + 1 ∧
        ∃ rs, args.map TemplateArg.raw? = rs.map some ∧
          k = (segments.zip (rs ++ [ofText ""])).foldl addBlock (ofText "")) ∧
      ((∃ e, template segments args = .error e) ↔ segments.length ≠ args.length + 1 ∨
        ∃ v, .inline v ∈ args ∧ v.isUnwritable = true) ∧
      ∃ f : Fragment, f.toRawSql = r ∧ Piece.numbered f.pieces = r.text ∧
        Piece.values f.pieces = r.values := by
  have hcr := hr.isCanonical
  have hcs := hs.isCanonical
  have hct := ht.isCanonical
  have hempty : ofText "" = empty := rfl
  -- both sides are canonical, and have the same characters and values
  have hassoc : r ++ s ++ t = r ++ (s ++ t) :=
    ((canonical_isKept.append (canonical_isKept.append hcr hcs) hct).eq_iff
      (canonical_isKept.append hcr (canonical_isKept.append hcs hct))).2 (by simp)
  have hleft : empty ++ r = r :=
    ((canonical_isKept.append canonical_isKept.empty hcr).eq_iff hcr).2
      ⟨glyphs_append empty r, rfl⟩
  have hfragment : ∃ f : Fragment, f.toRawSql = r ∧ Piece.numbered f.pieces = r.text ∧
      Piece.values f.pieces = r.values :=
    ⟨⟨r, hcr.inStep⟩, rfl, Fragment.numbered_pieces _, Fragment.values_pieces _⟩
  rw [hempty]
  exact ⟨hcr, hcr.eq_iff hcs, hcr.parts_eq_iff hcs, hassoc, hleft, r.append_empty,
    r.values_append s, text_append hcr.inStep s, s.text_eq_textAfter, fun _ => template_eq_ok_iff,
    exists_template_error_iff, hfragment⟩

/-- A condition with raw SQL in the place of an argument. -/
def lowered : RawSql :=
  ⟨[.text "name = lower(", .marker, .text ")"], [.text "X"]⟩

/-- A condition with a list of values. -/
def listed : RawSql :=
  ((ofText " AND id IN (").bindList [.int 1, .null]).addText ")"

theorem isBuilt_lowered : lowered.IsBuilt := by
  have hinner : (((ofText "lower(").bind (.text "X")).addText ")").IsBuilt :=
    .addText (.bind (.text "lower(") (.text "X")) ")"
  have htemplate : template ["name = ", ""]
      [.fragment (((ofText "lower(").bind (.text "X")).addText ")")] = .ok lowered := rfl
  refine .template (fun k hk => ?_) htemplate
  obtain rfl : k = _ := by simpa using hk
  exact hinner

theorem isBuilt_listed : listed.IsBuilt :=
  .addText (.bindList (.text " AND id IN (") [.int 1, .null]) ")"

theorem raw_sql_forms_monoid_lowered :
    lowered.IsBuilt ∧ listed.IsBuilt ∧ lowered.IsCanonical ∧
      (lowered ++ listed).text = lowered.text ++ Part.textAfter 1 listed.parts ∧
      (lowered ++ listed).text = "name = lower($1) AND id IN ($2, $3)" ∧
      (lowered ++ listed).values = [.text "X", .int 1, .null] ∧
      ∃ e, template ["x = ", ""] [.inline (.json .null)] = .error e := by
  obtain ⟨hcanonical, -, -, -, -, -, -, htext, -, -, hfails, -⟩ :=
    raw_sql_forms_monoid isBuilt_lowered isBuilt_listed isBuilt_listed ["x = ", ""]
      [.inline (.json .null)]
  exact ⟨isBuilt_lowered, isBuilt_listed, hcanonical, htext, rfl, rfl,
    hfails.2 (.inr ⟨.json .null, List.mem_cons_self, rfl⟩)⟩

end RawSql
end ParamSql
