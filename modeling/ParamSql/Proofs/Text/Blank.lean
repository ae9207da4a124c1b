import Mathlib.Data.List.Basic
import ParamSql.Proofs.Text.Numbered

/-!
# Blank — words and the blanks around them

* `Text.IsWord w` — a text without blanks that is not empty;
* `Text.blankWords_append` — a word goes on up to the next blank;
* `Text.blankWords_blanks` — blanks in front of a text are no part of its words;
* `Text.blankWords_append_of_blank` — a blank keeps the words before it from those behind it;
* `Text.isWord_numbered` — a name that ends in a number is a word.
-/

namespace ParamSql
namespace Text

/-! ## Characters -/

/-- The visible characters of ASCII are not blank. -/
theorem isBlank_eq_false {c : Char} (hlow : 33 ≤ c.toNat) (hhigh : c.toNat < 128) :
    isBlank c = false := by
  simp only [isBlank, inSpans, blankSpans, Span.contains, List.any_cons, List.any_nil,
    Bool.or_false, Bool.or_eq_false_iff, Bool.and_eq_false_iff, decide_eq_false_iff_not]
  omega

theorem isBlank_of_isDigit {c : Char} (h : c.isDigit = true) : isBlank c = false := by
  have hrange : 48 ≤ c.toNat ∧ c.toNat ≤ 57 := by
    simpa [Char.isDigit, UInt32.le_iff_toNat_le] using h
  exact isBlank_eq_false (by omega) (by omega)

/-! ## Words -/

/-- A text without blanks that is not empty. -/
def IsWord (w : List Char) : Prop :=
  w ≠ [] ∧ ∀ c ∈ w, isBlank c = false

/-- A character that is not blank. -/
def isSolid (c : Char) : Bool :=
  !isBlank c

@[simp] theorem blankWords_nil : blankWords [] = [] := rfl

/-- A word that has begun goes on up to the next blank. -/
theorem blankWords_go (begun : List Char) (hbegun : begun ≠ []) (cs : List Char) :
    blankWords.go begun cs =
      (begun.reverse ++ cs.takeWhile isSolid) :: blankWords (cs.dropWhile isSolid) := by
  have hempty : begun.isEmpty = false := by simpa using hbegun
  -- every character either ends the word or is added to what has begun
  induction cs generalizing begun with
  | nil => simp [blankWords, blankWords.go, hempty]
  | cons c cs ih =>
      cases hc : isBlank c with
      | true => simp [blankWords, blankWords.go, hc, hempty, isSolid]
      | false =>
          have hlonger := ih (c :: begun) (List.cons_ne_nil c begun) rfl
          simp only [blankWords.go, hc, Bool.false_eq_true, if_false, hlonger]
          simp [isSolid, hc]

/-- A word goes on up to the next blank. -/
theorem blankWords_append {w : List Char} (h : IsWord w) (cs : List Char) :
    blankWords (w ++ cs) =
      (w ++ cs.takeWhile isSolid) :: blankWords (cs.dropWhile isSolid) := by
  cases w with
  | nil => exact absurd rfl h.1
  | cons c w =>
      have hc : isBlank c = false := h.2 c (List.mem_cons_self ..)
      have hw : ∀ x ∈ w, isSolid x = true := by
        intro x hx
        simp [isSolid, h.2 x (List.mem_cons_of_mem c hx)]
      have hfirst : blankWords (c :: w ++ cs) = blankWords.go [c] (w ++ cs) := by
        simp [blankWords, blankWords.go, hc]
      rw [hfirst, blankWords_go [c] (List.cons_ne_nil c []), List.takeWhile_append_of_pos hw,
        List.dropWhile_append_of_pos hw]
      simp

/-- Blanks in front of a text are no part of its words. -/
theorem blankWords_blanks {gap : List Char} (h : ∀ c ∈ gap, isBlank c = true) (cs : List Char) :
    blankWords (gap ++ cs) = blankWords cs := by
  induction gap with
  | nil => rfl
  | cons c gap ih =>
      rcases List.forall_mem_cons.1 h with ⟨hc, hgap⟩
      have hnext : blankWords (c :: gap ++ cs) = blankWords (gap ++ cs) := by
        simp [blankWords, blankWords.go, hc]
      rw [hnext, ih hgap]

theorem blankWords_of_blanks {gap : List Char} (h : ∀ c ∈ gap, isBlank c = true) :
    blankWords gap = [] := by
  rw [← List.append_nil gap, blankWords_blanks h, blankWords_nil]

/-- A word, blanks, and the words of what is behind them. -/
theorem blankWords_cons {w gap : List Char} (hw : IsWord w) (hne : gap ≠ [])
    (hgap : ∀ c ∈ gap, isBlank c = true) (cs : List Char) :
    blankWords (w ++ (gap ++ cs)) = w :: blankWords cs := by
  cases gap with
  | nil => exact absurd rfl hne
  | cons c gap =>
      have hc : isBlank c = true := hgap c (List.mem_cons_self ..)
      calc
        blankWords (w ++ (c :: gap ++ cs))
            = w :: blankWords (c :: gap ++ cs) := by
              rw [blankWords_append hw]
              simp [isSolid, hc]
        _ = w :: blankWords cs := by rw [blankWords_blanks hgap]

/-- A blank keeps the words before it from those behind it. -/
theorem blankWords_append_of_blank {cs rest : List Char} (h : ∀ c ∈ rest.head?, isBlank c = true) :
    blankWords (cs ++ rest) = blankWords cs ++ blankWords rest := by
  -- for every word that has begun, since the induction goes through the text ahead of the blank
  have hgo :
      ∀ begun, blankWords.go begun (cs ++ rest) = blankWords.go begun cs ++ blankWords rest := by
    induction cs with
    | nil =>
        intro begun
        cases rest with
        | nil => simp
        | cons c rest =>
            have hc : isBlank c = true := h c rfl
            cases hbegun : begun.isEmpty <;> simp [blankWords, blankWords.go, hc, hbegun]
    | cons c cs ih =>
        intro begun
        cases hc : isBlank c <;> cases hbegun : begun.isEmpty <;>
          simp [blankWords.go, hc, hbegun, ih]
  exact hgo []

theorem blankWords_word {w : List Char} (h : IsWord w) : blankWords w = [w] := by
  have hall : ∀ c ∈ w, isSolid c = true := fun c hc => by simp [isSolid, h.2 c hc]
  have hw := blankWords_append h []
  simpa [blankWords, blankWords.go] using hw

/-! ## Names that end in a number -/

theorem isWord_numbered {beginning : String} (h : ∀ c ∈ beginning.toList, isBlank c = false)
    (k : Nat) :
    IsWord (beginning ++ toString k).toList := by
  rw [toList_numbered]
  refine ⟨fun hnil => Nat.toDigits_ne_nil (List.append_eq_nil_iff.1 hnil).2, ?_⟩
  intro c hc
  rcases List.mem_append.1 hc with hletter | hdigit
  · exact h c hletter
  · exact isBlank_of_isDigit (Nat.isDigit_of_mem_toDigits (by omega) (by omega) hdigit)

end Text
end ParamSql
