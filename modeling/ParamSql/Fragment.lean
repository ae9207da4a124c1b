import ParamSql.RawSql

/-!
# Fragment — raw SQL with its values in their places

A fragment is raw SQL in which there is a value for every marker. It is built by the functions of
raw SQL, which keep it so, and is taken apart into pieces, where each value stands in its place.

- `Fragment`: raw SQL in step, and the functions that build it.
- `Piece`, `Fragment.pieces`: text pieces and bound values, in order.
- `Piece.numbered`: the text in which placeholders stand for the values.
-/

namespace ParamSql

/-! ## Pieces -/

/-- A piece of a text with values in it. -/
inductive Piece
  | text (s : String)
  | bind (v : Value)
  deriving Repr, Inhabited, BEq

namespace Piece

/-- The text of a piece, or the marker of its value. -/
def part : Piece → Part
  | .text s => .text s
  | .bind _ => .marker

/-- The bound values, in order. -/
def values (pieces : List Piece) : List Value :=
  pieces.filterMap fun
    | .bind v => some v
    | .text _ => none

/-- Parts with their values, of which each marker takes the next one. -/
def pair : List Part → List Value → List Piece
  | [], _ => []
  | .text s :: parts, vs => .text s :: pair parts vs
  | .marker :: parts, v :: vs => .bind v :: pair parts vs
  -- there is a value for every marker of a fragment
  | .marker :: _, [] => []

/-- Writes a piece behind a text with a number of placeholders. -/
def writeAfter (done : String × Nat) (p : Piece) : String × Nat :=
  Part.writeAfter done p.part

/-- The text in which the places of the values are numbered from `$1`. -/
def numbered (pieces : List Piece) : String :=
  (pieces.foldl writeAfter ("", 0)).1

/-- Parts and values are found again in their pieces, if there is a value for every marker. -/
theorem pair_spec {parts : List Part} {vs : List Value} (h : parts.count .marker = vs.length) :
    (pair parts vs).map part = parts ∧ values (pair parts vs) = vs := by
  induction parts generalizing vs with
  | nil =>
      obtain rfl : vs = [] := List.eq_nil_of_length_eq_zero h.symm
      exact ⟨rfl, rfl⟩
  | cons p parts ih =>
      cases p with
      | text s =>
          have hrest : parts.count .marker = vs.length := by simpa using h
          obtain ⟨hparts, hvalues⟩ := ih hrest
          exact ⟨congrArg (Part.text s :: ·) hparts, hvalues⟩
      | marker =>
          cases vs with
          | nil => simp at h
          | cons v vs =>
              have hrest : parts.count .marker = vs.length := by simpa using h
              obtain ⟨hparts, hvalues⟩ := ih hrest
              exact ⟨congrArg (Part.marker :: ·) hparts, congrArg (v :: ·) hvalues⟩

end Piece

/-! ## Fragments -/

/-- Raw SQL with a value for every marker. -/
structure Fragment extends RawSql where
  inStep : toRawSql.InStep
  deriving Repr

namespace Fragment

/-- Raw SQL that has been built, in step, as a fragment. -/
def ofResult (result : Except FragmentFault RawSql) (h : ∀ r, result = .ok r → r.InStep) :
    Except FragmentFault Fragment :=
  match result, h with
  | .ok r, h => .ok ⟨r, h r rfl⟩
  | .error fault, _ => .error fault

def empty : Fragment := ⟨.empty, RawSql.inStep_isKept.empty⟩

instance : Inhabited Fragment := ⟨empty⟩

/-- Literal text. -/
def ofText (s : String) : Fragment :=
  ⟨.ofText s, RawSql.inStep_isKept.ofText s⟩

/-- One fragment behind another. -/
def append (f g : Fragment) : Fragment :=
  ⟨f.toRawSql ++ g.toRawSql, RawSql.inStep_isKept.append f.inStep g.inStep⟩

instance : Append Fragment := ⟨append⟩

/-- Appends literal text. -/
def addText (f : Fragment) (s : String) : Fragment :=
  ⟨f.toRawSql.addText s, RawSql.inStep_isKept.addText f.inStep s⟩

/-- Appends a placeholder for a value. -/
def bind (f : Fragment) (v : Value) : Fragment :=
  ⟨f.toRawSql.bind v, RawSql.inStep_isKept.bind f.inStep v⟩

/-- Appends placeholders separated by commas; no values at all are written as `NULL`. -/
def bindList (f : Fragment) (vs : List Value) : Fragment :=
  ⟨f.toRawSql.bindList vs, RawSql.inStep_isKept.bindList f.inStep vs⟩

/-- Appends a quoted path. -/
def addPath (f : Fragment) (path : String) : Except FragmentFault Fragment :=
  ofResult (f.toRawSql.addPath path) fun _ =>
    RawSql.inStep_isKept.addPath f.inStep

/-- Appends the text of a primitive value in place of a placeholder. -/
def inline (f : Fragment) (v : Value) : Except FragmentFault Fragment :=
  ofResult (f.toRawSql.inline v) fun _ =>
    RawSql.inStep_isKept.inline f.inStep

/-- What stands between two segments of a template. -/
abbrev Arg := TemplateArg Fragment

theorem inStep_of_mem {args : List Arg} {r : RawSql}
    (h : .fragment r ∈ args.map (TemplateArg.map toRawSql)) : r.InStep := by
  obtain ⟨a, -, ha⟩ := List.mem_map.1 h
  cases a with
  | fragment f =>
      obtain rfl : f.toRawSql = r := TemplateArg.fragment.inj ha
      exact f.inStep
  | bind v => cases ha
  | inline v => cases ha

/-- The fragment of a template, which has one segment more than arguments. -/
def template (segments : List String) (args : List Arg) : Except FragmentFault Fragment :=
  ofResult (RawSql.template segments (args.map (.map toRawSql))) fun _ =>
    RawSql.inStep_isKept.template fun _ => inStep_of_mem

/-! ## Views -/

/-- Texts and values, each in its place. -/
def pieces (f : Fragment) : List Piece :=
  Piece.pair f.parts f.values

theorem map_part_pieces (f : Fragment) : f.pieces.map Piece.part = f.parts :=
  (Piece.pair_spec f.inStep).1

theorem pieces_ofText {s : String} (hs : s ≠ "") : (ofText s).pieces = [.text s] := by
  have hempty : s.isEmpty = false := by simpa using hs
  simp [pieces, ofText, RawSql.ofText, hempty, Piece.pair]

theorem values_pieces (f : Fragment) : Piece.values f.pieces = f.values :=
  (Piece.pair_spec f.inStep).2

/-- A fragment is known from its pieces. -/
theorem eq_of_pieces {f g : Fragment} (h : f.pieces = g.pieces) : f = g := by
  rcases f with ⟨⟨parts, vs⟩, hf⟩
  rcases g with ⟨⟨parts', vs'⟩, hg⟩
  obtain rfl : parts = parts' := by
    have hparts := congrArg (List.map Piece.part) h
    rwa [map_part_pieces, map_part_pieces] at hparts
  obtain rfl : vs = vs' := by
    have hvalues := congrArg Piece.values h
    rwa [values_pieces, values_pieces] at hvalues
  rfl

end Fragment
end ParamSql
