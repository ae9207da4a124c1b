import ParamSql.Identifier
import ParamSql.Value.Basic

/-!
# RawSql — text and bound values in two lists

The caller's own SQL is kept in two lists: texts with markers between them, and the values that are
bound. A marker has no number and no value of its own; the markers are numbered when the text is
written, and the first value is meant for the first one.

- `Part`, `Part.addText`, `Part.put`: texts and markers, one behind another; a text joins a text.
- `Part.writeAfter`: how parts are written, with numbers for the markers.
- `RawSql`: the two lists, and `addText`, `bind`, `bindList`, `addPath`, `inline`, `append` on them.
- `RawSql.text`: the text with the markers numbered.
- `RawSql.template`: segments with arguments between them.
- `RawSql.IsKept`: a property that all of these functions keep.
- `RawSql.InStep`: there are as many markers as values, which is such a property.
-/

namespace ParamSql

/-! ## Parts -/

/-- A part of raw SQL: text, or the place of a value. -/
inductive Part
  | text (s : String)
  | marker
  deriving DecidableEq, Repr, Inhabited

namespace Part

/-- Text behind parts. It is joined to a text at their end, and no text is no part. -/
def addText (parts : List Part) (s : String) : List Part :=
  if s.isEmpty then parts
  else
    match parts.getLast? with
    | some (.text last) => parts.dropLast ++ [.text (last ++ s)]
    | _ => parts ++ [.text s]

/-- One more part behind others. -/
def put (parts : List Part) : Part → List Part
  | .text s => addText parts s
  | .marker => parts ++ [.marker]

/-- Writes a part behind a text with a number of placeholders. -/
def writeAfter : String × Nat → Part → String × Nat
  | (done, n), .text s => (done ++ s, n)
  | (done, n), .marker => (done ++ "$" ++ toString (n + 1), n + 1)

/-- The text of parts behind a number of placeholders, which are counted on. -/
def textAfter (n : Nat) (parts : List Part) : String :=
  (parts.foldl writeAfter ("", n)).1

/-- Text is nothing, or is joined to the last part, or is a part of its own. -/
theorem addText_cases (parts : List Part) (s : String) :
    (s = "" ∧ addText parts s = parts) ∨
      (∃ before last, parts = before ++ [.text last] ∧ s ≠ "" ∧
        addText parts s = before ++ [.text (last ++ s)]) ∨
      ((∀ last, parts.getLast? ≠ some (.text last)) ∧ s ≠ "" ∧
        addText parts s = parts ++ [.text s]) := by
  unfold addText
  by_cases hs : s.isEmpty
  case pos => exact .inl ⟨by simpa using hs, if_pos hs⟩
  case neg =>
    have hne : s ≠ "" := by simpa using hs
    rw [if_neg hs]
    split
    case h_1 last hlast =>
      obtain ⟨before, rfl⟩ := List.getLast?_eq_some_iff.1 hlast
      exact .inr (.inl ⟨before, last, rfl, hne, by rw [List.dropLast_concat]⟩)
    case h_2 hother => exact .inr (.inr ⟨fun last => hother last, hne, rfl⟩)

@[simp]
theorem count_addText (parts : List Part) (s : String) :
    (addText parts s).count .marker = parts.count .marker := by
  rcases addText_cases parts s with ⟨-, h⟩ | ⟨before, last, rfl, -, h⟩ | ⟨-, -, h⟩ <;> simp [h]

theorem count_put (parts : List Part) (p : Part) :
    (put parts p).count .marker = parts.count .marker + [p].count .marker := by
  cases p with
  | text s => simp [put]
  | marker => simp [put]

theorem count_foldl_put (parts behind : List Part) :
    (behind.foldl put parts).count .marker = parts.count .marker + behind.count .marker := by
  induction behind generalizing parts with
  | nil => rfl
  | cons p behind ih =>
      rw [List.foldl_cons, ih, count_put, Nat.add_assoc, ← List.count_append, List.singleton_append]

end Part

/-! ## Faults -/

/-- Why raw SQL cannot be built. -/
inductive FragmentFault
  | identifier (fault : IdentifierFault)
  | segmentCount (arguments segments : Nat)
  | notInlinable (typeName : String)
  deriving DecidableEq, Repr

def FragmentFault.message : FragmentFault → String
  | .identifier fault => fault.message
  | .segmentCount arguments segments =>
      s!"expected {arguments + 1} template segments for {arguments} values, got {segments}"
  | .notInlinable typeName => s!"cannot inline a {typeName} value as SQL text"

/-! ## Raw SQL -/

/-- Texts with markers between them, and values. -/
structure RawSql where
  parts : List Part
  values : List Value
  deriving Repr, Inhabited

/-- What stands between two segments of a template, which may be raw SQL in some form. -/
inductive TemplateArg (F : Type)
  | bind (v : Value)
  | inline (v : Value)
  | fragment (f : F)
  deriving Repr

def TemplateArg.map {F G : Type} (g : F → G) : TemplateArg F → TemplateArg G
  | .bind v => .bind v
  | .inline v => .inline v
  | .fragment f => .fragment (g f)

namespace RawSql

def empty : RawSql := ⟨[], []⟩

def isEmpty (r : RawSql) : Bool :=
  r.parts.isEmpty

/-- Literal text. -/
def ofText (s : String) : RawSql :=
  ⟨if s.isEmpty then [] else [.text s], []⟩

/-- Appends literal text. -/
def addText (r : RawSql) (s : String) : RawSql :=
  { r with parts := Part.addText r.parts s }

/-- Appends a marker, and the value to the others. -/
def bind (r : RawSql) (v : Value) : RawSql :=
  ⟨r.parts ++ [.marker], r.values ++ [v]⟩

/-- Appends markers separated by commas; no values at all are written as `NULL`. -/
def bindList (r : RawSql) : List Value → RawSql
  | [] => r.addText "NULL"
  | v :: vs => vs.foldl (fun r w => (r.addText ", ").bind w) (r.bind v)

/-- Appends a quoted path. -/
def addPath (r : RawSql) (path : String) : Except FragmentFault RawSql :=
  match quotePath path with
  | .ok quoted => .ok (r.addText quoted)
  | .error fault => .error (.identifier fault)

/-- Appends the text of a primitive value in place of a marker. -/
def inline (r : RawSql) (v : Value) : Except FragmentFault RawSql :=
  match v.literal? with
  | some s => .ok (r.addText s)
  | none => .error (.notInlinable v.typeName)

/-- Appends the parts one by one, and the values behind the others. -/
def append (r s : RawSql) : RawSql :=
  ⟨s.parts.foldl Part.put r.parts, r.values ++ s.values⟩

instance : Append RawSql := ⟨append⟩

/-- The text with the markers numbered from `$1`: written out part by part, and then numbered. -/
def text (r : RawSql) : String :=
  Part.textAfter 0 (empty ++ r).parts

/-! ### Templates -/

/-- Appends an argument of a template. -/
def addArg (r : RawSql) : TemplateArg RawSql → Except FragmentFault RawSql
  | .bind v => .ok (r.bind v)
  | .inline v => r.inline v
  | .fragment s => .ok (r ++ s)

/-- Appends segments, each followed by its argument. -/
def addTemplate (r : RawSql) : List String → List (TemplateArg RawSql) → Except FragmentFault RawSql
  | [], _ => .ok r
  | s :: ss, [] => addTemplate (r.addText s) ss []
  | s :: ss, a :: as =>
      match (r.addText s).addArg a with
      | .ok r' => addTemplate r' ss as
      | .error fault => .error fault

/-- The raw SQL of a template, which has one segment more than arguments. -/
def template (segments : List String) (args : List (TemplateArg RawSql)) :
    Except FragmentFault RawSql :=
  if segments.length = args.length + 1 then empty.addTemplate segments args
  else .error (.segmentCount args.length segments.length)

/-! ### What is kept by building -/

/-- A property of raw SQL that is kept when text, values and other raw SQL are appended. -/
structure IsKept (P : RawSql → Prop) : Prop where
  empty : P empty
  addText {r : RawSql} (h : P r) (s : String) : P (r.addText s)
  bind {r : RawSql} (h : P r) (v : Value) : P (r.bind v)
  append {r s : RawSql} (hr : P r) (hs : P s) : P (r ++ s)

namespace IsKept

variable {P : RawSql → Prop} {r s : RawSql}

theorem ofText (hP : IsKept P) (s : String) : P (.ofText s) := by
  have htext : RawSql.ofText s = RawSql.empty.addText s := by
    simp only [RawSql.ofText, RawSql.addText, RawSql.empty, Part.addText]
    split <;> rfl
  exact htext ▸ hP.addText hP.empty s

theorem bindList (hP : IsKept P) (h : P r) (vs : List Value) : P (r.bindList vs) := by
  have hbehind : ∀ (vs : List Value) {r : RawSql}, P r →
      P (vs.foldl (fun r w => (r.addText ", ").bind w) r) := by
    intro vs
    induction vs with
    | nil => exact id
    | cons v vs ih => exact fun h => ih (hP.bind (hP.addText h ", ") v)
  cases vs with
  | nil => exact hP.addText h "NULL"
  | cons v vs => exact hbehind vs (hP.bind h v)

theorem addPath (hP : IsKept P) (h : P r) {path : String} (hadd : r.addPath path = .ok s) :
    P s := by
  unfold RawSql.addPath at hadd
  split at hadd
  · obtain rfl := Except.ok.inj hadd
    exact hP.addText h _
  · cases hadd

theorem inline (hP : IsKept P) (h : P r) {v : Value} (hadd : r.inline v = .ok s) : P s := by
  unfold RawSql.inline at hadd
  split at hadd
  · obtain rfl := Except.ok.inj hadd
    exact hP.addText h _
  · cases hadd

theorem addArg (hP : IsKept P) (h : P r) {a : TemplateArg RawSql}
    (ha : ∀ t, a = .fragment t → P t) (hadd : r.addArg a = .ok s) : P s := by
  cases a with
  | bind v =>
      obtain rfl := Except.ok.inj hadd
      exact hP.bind h v
  | inline v => exact hP.inline h hadd
  | fragment t =>
      obtain rfl := Except.ok.inj hadd
      exact hP.append h (ha t rfl)

theorem addTemplate (hP : IsKept P) (h : P r) {segments : List String}
    {args : List (TemplateArg RawSql)} (hargs : ∀ t, .fragment t ∈ args → P t)
    (hadd : r.addTemplate segments args = .ok s) : P s := by
  -- on the segments, each of which takes its argument with it
  induction segments generalizing r args with
  | nil =>
      obtain rfl := Except.ok.inj hadd
      exact h
  | cons segment segments ih =>
      have hsegment := hP.addText h segment
      cases args with
      | nil => exact ih hsegment (by simp) hadd
      | cons a args =>
          rw [RawSql.addTemplate] at hadd
          split at hadd
          · rename_i r' hr'
            have harg := hP.addArg hsegment (fun t ht => hargs t (ht ▸ .head _)) hr'
            exact ih harg (fun t ht => hargs t (.tail _ ht)) hadd
          · cases hadd

theorem template (hP : IsKept P) {segments : List String} {args : List (TemplateArg RawSql)}
    (hargs : ∀ t, .fragment t ∈ args → P t) (h : RawSql.template segments args = .ok s) :
    P s := by
  unfold RawSql.template at h
  split at h
  · exact hP.addTemplate hP.empty hargs h
  · cases h

end IsKept

/-- There are as many markers as values. -/
def InStep (r : RawSql) : Prop :=
  r.parts.count .marker = r.values.length

/-- Markers and values stay in step, whatever is appended. -/
theorem inStep_isKept : IsKept InStep where
  empty := rfl
  addText h s := by simpa [InStep, addText] using h
  bind h v := by simpa [InStep, bind] using h
  append {r s} hr hs := by
    change (s.parts.foldl Part.put r.parts).count .marker = (r.values ++ s.values).length
    rw [Part.count_foldl_put, hr, hs, List.length_append]

end RawSql
end ParamSql
