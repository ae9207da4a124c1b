import ParamSql.Fragment

/-!
# Filled — fragments with something in them

* `RawSql.IsProper` — no part is an empty text;
* `RawSql.IsProper.append` — nor of such raw SQL behind other raw SQL;
* `Fragment.IsFilled` — a fragment begins with something;
* `RawSql.IsProper.isFilled_iff` — without empty texts, all do that are not empty.
-/

namespace ParamSql

/-! ## Parts -/

theorem Part.text_notMem_put {parts : List Part} (h : .text "" ∉ parts) (p : Part) :
    .text "" ∉ put parts p := by
  cases p with
  | marker => simpa [put] using h
  | text s =>
      rcases addText_cases parts s with ⟨-, hadd⟩ | ⟨before, last, rfl, hs, hadd⟩ | ⟨-, hs, hadd⟩
      · simpa [put, hadd] using h
      -- a text that another one is joined to is not empty then
      · have hjoined : last ++ s ≠ "" := by simp [hs]
        have hbefore : .text "" ∉ before := fun hmem => h (List.mem_append_left _ hmem)
        simpa [put, hadd, hbefore] using hjoined.symm
      · simpa [put, hadd, h] using hs.symm

theorem Part.text_notMem_foldl_put {parts : List Part} (h : .text "" ∉ parts)
    (behind : List Part) : .text "" ∉ behind.foldl put parts := by
  induction behind generalizing parts with
  | nil => exact h
  | cons p behind ih => exact ih (text_notMem_put h p)

namespace RawSql

/-- No part is an empty text. -/
def IsProper (r : RawSql) : Prop :=
  .text "" ∉ r.parts

variable {r s : RawSql}

theorem isProper_empty : empty.IsProper := by
  simp [IsProper, empty]

theorem isProper_ofText (s : String) : (ofText s).IsProper := by
  unfold IsProper ofText
  split
  case isTrue => simp
  case isFalse hs =>
    have hne : "" ≠ s := fun heq => hs (heq ▸ rfl)
    simpa using hne

theorem IsProper.addText (h : r.IsProper) (s : String) : (r.addText s).IsProper :=
  Part.text_notMem_put h (.text s)

theorem IsProper.bind (h : r.IsProper) (v : Value) : (r.bind v).IsProper :=
  Part.text_notMem_put h .marker

theorem IsProper.append (h : r.IsProper) (s : RawSql) : (r ++ s).IsProper :=
  Part.text_notMem_foldl_put h s.parts

end RawSql

namespace Fragment

/-- There is something in a fragment, and it begins with it. -/
def IsFilled (f : Fragment) : Prop :=
  ∃ p rest, f.pieces = p :: rest ∧ p ≠ .text ""

theorem isFilled_iff {f : Fragment} (h : f.IsProper) : f.IsFilled ↔ f.isEmpty = false := by
  have hparts := f.map_part_pieces
  unfold IsFilled RawSql.isEmpty
  cases hpieces : f.pieces with
  | nil =>
      rw [hpieces] at hparts
      simp [← hparts]
  | cons p rest =>
      rw [hpieces] at hparts
      refine iff_of_true ⟨p, rest, rfl, ?_⟩ (by rw [← hparts]; rfl)
      rintro rfl
      exact h (hparts ▸ List.mem_cons_self)

end Fragment
end ParamSql
