import Mathlib.Order.Bounds.Basic
import ParamSql.Connection.Log

/-!
# Reports — what the log says of a statement

A text that is too long is cut before it is logged.  The place of the cut is sought in octets of
UTF-8, backwards from the limit, and the text is cut between characters all the same:

* `Text.IsBoundary text i` — whole characters are ahead of the index and behind it;
* `Text.isGreatest_lastBoundary` — the search ends at the last boundary up to the limit;
* `Text.ahead?_eq_some_iff` — there is a text ahead of an index if the index is a boundary;
* `Text.IsLongestWithin size text part` — no beginning that fits is longer;
* `Text.beginning?_eq_some_iff` — this is what is left of a text;
* `IsReportOf max text logged`, `truncate?_eq_some_iff` — dots are put behind it if the text was too
  long;
* `Driver.logs_longest_beginning` — every statement is logged by such a text, whatever its outcome.
-/

namespace ParamSql
namespace Text

/-! ## Boundaries -/

/-- An index, counted in octets of UTF-8, that has whole characters ahead of it and behind it. -/
def IsBoundary (text : String) (i : Nat) : Prop :=
  ∃ before behind : String, text = before ++ behind ∧ before.utf8ByteSize = i

/-- The octet at an index shows whether a character begins there. -/
theorem isValid_iff_isBoundary {text : String} {i : Nat} :
    String.Pos.Raw.IsValid text ⟨i⟩ ↔ IsBoundary text i := by
  rw [String.Pos.Raw.isValid_iff_exists_append]
  simp [IsBoundary, String.Pos.Raw.ext_iff, eq_comm]

theorem lastBoundary_of_isBoundary {text : String} {i : Nat} (h : IsBoundary text (i + 1)) :
    lastBoundary text (i + 1) = i + 1 := by
  have hvalid := String.Pos.Raw.isValid_eq_true_iff.2 (isValid_iff_isBoundary.2 h)
  rw [lastBoundary, if_pos hvalid]

/-- Inside of a character the search goes one octet back. -/
theorem lastBoundary_of_not_isBoundary {text : String} {i : Nat} (h : ¬IsBoundary text (i + 1)) :
    lastBoundary text (i + 1) = lastBoundary text i := by
  have hvalid : ¬String.Pos.Raw.isValid text ⟨i + 1⟩ = true := fun hvalid =>
    h (isValid_iff_isBoundary.1 (String.Pos.Raw.isValid_eq_true_iff.1 hvalid))
  rw [lastBoundary, if_neg hvalid]

theorem lastBoundary_le (text : String) (size : Nat) : lastBoundary text size ≤ size := by
  induction size with
  | zero => exact Nat.le_refl 0
  | succ size ih =>
      by_cases h : IsBoundary text (size + 1)
      · exact (lastBoundary_of_isBoundary h).le
      · rw [lastBoundary_of_not_isBoundary h]
        exact ih.trans (Nat.le_succ size)

/-- The search passes over no boundary. -/
theorem le_lastBoundary {text : String} {i size : Nat} (hi : IsBoundary text i) (hle : i ≤ size) :
    i ≤ lastBoundary text size := by
  induction size with
  | zero => exact hle
  | succ size ih =>
      by_cases h : IsBoundary text (size + 1)
      · rw [lastBoundary_of_isBoundary h]
        exact hle
      · -- the index that is passed over is no boundary, and `i` is one
        have hne : i ≠ size + 1 := fun heq => h (heq ▸ hi)
        rw [lastBoundary_of_not_isBoundary h]
        exact ih (by omega)

/-- The search ends at the last boundary up to where it begins. -/
theorem isGreatest_lastBoundary (text : String) (size : Nat) :
    IsGreatest {i | IsBoundary text i ∧ i ≤ size} (lastBoundary text size) := by
  have hboundary := isValid_iff_isBoundary.1 (isValid_lastBoundary text size)
  exact ⟨⟨hboundary, lastBoundary_le text size⟩, fun _ hi => le_lastBoundary hi.1 hi.2⟩

/-- A text can be cut at its boundaries, and nowhere else. -/
theorem ahead?_eq_some_iff {text part : String} {i : Nat} :
    ahead? text i = some part ↔ ∃ behind, text = part ++ behind ∧ part.utf8ByteSize = i := by
  constructor
  · intro h
    -- a character begins at the index, so that the text splits there, and what is ahead is that
    -- long
    rw [ahead?] at h
    split at h
    case isTrue hvalid =>
      have hsplits := (text.pos ⟨i⟩ hvalid).splits
      rw [Option.some.inj h] at hsplits
      have hend : (⟨i⟩ : String.Pos.Raw) = part.rawEndPos := hsplits.offset_eq_rawEndPos
      exact ⟨_, hsplits.eq_append, (congrArg String.Pos.Raw.byteIdx hend).symm⟩
    case isFalse => cases h
  · rintro ⟨behind, htext, rfl⟩
    have hvalid : String.Pos.Raw.IsValid text ⟨part.utf8ByteSize⟩ :=
      isValid_iff_isBoundary.2 ⟨part, behind, htext, rfl⟩
    have hsplits : (text.pos ⟨part.utf8ByteSize⟩ hvalid).Splits part behind := ⟨htext, rfl⟩
    rw [ahead?, dif_pos hvalid, hsplits.copy_sliceTo_eq]

/-! ## The longest beginning -/

/-- A beginning of the text that takes no more than `size` octets, and goes as far as any other. -/
structure IsLongestWithin (size : Nat) (text part : String) : Prop where
  isPrefix : part.toList <+: text.toList
  fits : part.utf8ByteSize ≤ size
  longest : ∀ other : String, other.toList <+: text.toList → other.utf8ByteSize ≤ size →
    other.toList <+: part.toList

theorem isPrefix_iff {part text : String} :
    part.toList <+: text.toList ↔ ∃ behind, text = part ++ behind := by
  constructor
  · rintro ⟨cs, hcs⟩
    exact ⟨String.ofList cs, String.toList_inj.1 (by simp [hcs])⟩
  · rintro ⟨behind, rfl⟩
    exact ⟨behind.toList, by simp⟩

theorem eq_of_isPrefix {part text : String} (h : part.toList <+: text.toList)
    (hsize : text.utf8ByteSize ≤ part.utf8ByteSize) : text = part := by
  obtain ⟨behind, rfl⟩ := isPrefix_iff.1 h
  -- nothing is left behind a beginning that is as long as the text
  have hnothing : behind.utf8ByteSize = 0 := by
    rw [String.utf8ByteSize_append] at hsize
    omega
  rw [String.utf8ByteSize_eq_zero_iff.1 hnothing, String.append_empty]

namespace IsLongestWithin

variable {size : Nat} {text part : String}

/-- A text that fits is its own longest beginning. -/
theorem whole (h : text.utf8ByteSize ≤ size) : IsLongestWithin size text text :=
  ⟨List.prefix_rfl, h, fun _ hother _ => hother⟩

theorem unique {other : String} (h : IsLongestWithin size text part)
    (h' : IsLongestWithin size text other) : part = other := by
  have hle := h'.longest part h.isPrefix h.fits
  have hge := h.longest other h'.isPrefix h'.fits
  exact String.toList_inj.1 (hle.eq_of_length_le hge.length_le)

/-- What is ahead of the last boundary is the longest beginning: that of another one ends at a
boundary, too. -/
theorem of_ahead? (h : ahead? text (lastBoundary text size) = some part) :
    IsLongestWithin size text part := by
  obtain ⟨behind, htext, hpart⟩ := ahead?_eq_some_iff.1 h
  have hlast := isGreatest_lastBoundary text size
  have hbegins : part.toList <+: text.toList := isPrefix_iff.2 ⟨behind, htext⟩
  refine ⟨hbegins, hpart.le.trans hlast.1.2, fun other hother hfits => ?_⟩
  have hboundary : IsBoundary text other.utf8ByteSize := by
    obtain ⟨rest, hrest⟩ := isPrefix_iff.1 hother
    exact ⟨other, rest, hrest, rfl⟩
  have hle : other.utf8ByteSize ≤ part.utf8ByteSize := hpart ▸ hlast.2 ⟨hboundary, hfits⟩
  -- of two beginnings of one text the one with more octets goes on where the other ends
  rcases List.prefix_or_prefix_of_prefix hother hbegins with hshorter | hlonger
  · exact hshorter
  · have heq : other = part := eq_of_isPrefix hlonger hle
    exact heq ▸ List.prefix_rfl

end IsLongestWithin

/-- What is left of a text is its longest beginning that fits. -/
theorem beginning?_eq_some_iff {text part : String} {size : Nat} :
    beginning? text size = some part ↔ IsLongestWithin size text part := by
  -- a text has one longest beginning, and the cut does not fail, so it has found that one
  have hof : ∀ {part}, beginning? text size = some part → IsLongestWithin size text part := by
    intro part h
    rw [beginning?] at h
    split at h
    case isTrue hfits =>
      cases h
      exact .whole hfits
    case isFalse => exact .of_ahead? h
  refine ⟨hof, fun h => ?_⟩
  obtain ⟨found, hfound⟩ := Option.isSome_iff_exists.1 (isSome_beginning? text size)
  rw [hfound, (hof hfound).unique h]

end Text

/-! ## Reports -/

/-- A text as it is reported under a limit: as it is, or cut with three dots behind it. -/
inductive IsReportOf : Option Nat → String → String → Prop
  | whole {max : Option Nat} {text : String} (h : ∀ size ∈ max, text.utf8ByteSize ≤ size) :
      IsReportOf max text text
  | cut {size : Nat} {text part : String} (h : size < text.utf8ByteSize)
      (hpart : Text.IsLongestWithin size text part) : IsReportOf (some size) text (part ++ "...")

/-- A text is reported in the one way that its limit allows. -/
theorem truncate?_eq_some_iff {max : Option Nat} {text logged : String} :
    truncate? max text = some logged ↔ IsReportOf max text logged := by
  constructor
  · intro h
    cases max with
    | none =>
        cases h
        exact .whole (by simp)
    | some size =>
        rw [truncate?] at h
        split at h
        case isTrue hlong =>
          obtain ⟨part, hpart, rfl⟩ := Option.map_eq_some_iff.1 h
          exact .cut hlong (Text.beginning?_eq_some_iff.1 hpart)
        case isFalse hfits =>
          cases h
          exact .whole (by simpa using hfits)
  · intro h
    cases h with
    | whole h =>
        cases max with
        | none => rfl
        | some size => rw [truncate?, if_neg (h size rfl).not_gt]
    | cut h hpart =>
        rw [truncate?, if_pos h, Text.beginning?_eq_some_iff.2 hpart]
        rfl

/-- No cut fails. -/
theorem truncate?_eq_truncate (max : Option Nat) (text : String) :
    truncate? max text = some (truncate max text) :=
  (Option.some_get _).symm

/-- A limit inside of a character, and one at which nothing is left. -/
example : truncate (some 2) "héllo" = "h..." ∧ truncate (some 0) "é" = "..." := by
  decide

/-- Whatever the outcome, the event shows the text as it is reported. -/
theorem LogConfig.lookup_sql_event (config : LogConfig) (c : Call)
    (outcome : Except Error Reply) :
    (config.event c outcome).fields.lookup "sql" =
      some (.string (truncate config.maxSqlLength c.sql)) := by
  cases outcome <;> rfl

/-- Every statement is logged, whatever its outcome: as it is if there is no limit or it fits, and
otherwise by the longest beginning of whole characters that fits and three dots.  The text is cut at
the last boundary up to the limit, so that no cut fails. -/
theorem Driver.logs_longest_beginning {σ : Type} (d : Driver σ) (config : LogConfig) (c : Call)
    (s : σ) :
    (∀ size, IsGreatest {i | Text.IsBoundary c.sql i ∧ i ≤ size} (Text.lastBoundary c.sql size)) ∧
    ∃ logged event,
      truncate? config.maxSqlLength c.sql = some logged ∧
      IsReportOf config.maxSqlLength c.sql logged ∧
      event.fields.lookup "sql" = some (.string logged) ∧
      (d.logged config).query c s = ((d.query c s).1, d.trace event (d.query c s).2) := by
  have hcut := truncate?_eq_truncate config.maxSqlLength c.sql
  refine ⟨Text.isGreatest_lastBoundary c.sql, truncate config.maxSqlLength c.sql,
    config.event c (d.query c s).1, hcut, truncate?_eq_some_iff.1 hcut, ?_, rfl⟩
  exact config.lookup_sql_event c (d.query c s).1

end ParamSql
