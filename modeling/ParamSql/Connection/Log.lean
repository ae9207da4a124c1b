import ParamSql.Connection.Driver

/-!
# Log — reporting every statement

- `LogConfig`: how statements are reported.
- `Text.lastBoundary`, `Text.beginning?`: where a long text is cut, and what is left of it.
- `truncate?`, `truncate`: a long text is reported by its beginning.
- `Driver.logged`: a driver that reports every statement with its outcome.
-/

namespace ParamSql

/-- How statements are reported: the level of those that succeed, after how many octets their text
is cut, and whether the values are reported with it. -/
structure LogConfig where
  level : Level := .debug
  maxSqlLength : Option Nat := some 1000
  logParams : Bool := false
  deriving Repr

namespace Text

/-- The last index up to the given one, counted in octets of UTF-8, that is not inside of a
character. -/
def lastBoundary (text : String) : Nat → Nat
  | 0 => 0
  | i + 1 => if String.Pos.Raw.isValid text ⟨i + 1⟩ then i + 1 else lastBoundary text i

/-- The text ahead of an index. There is none if the index is inside of a character or behind the
text. -/
def ahead? (text : String) (i : Nat) : Option String :=
  if h : String.Pos.Raw.IsValid text ⟨i⟩ then some (text.sliceTo (text.pos ⟨i⟩ h)).copy else none

/-- The text, or as much of its beginning as takes no more than `size` octets. -/
def beginning? (text : String) (size : Nat) : Option String :=
  if text.utf8ByteSize ≤ size then some text else ahead? text (lastBoundary text size)

theorem isValid_lastBoundary (text : String) (size : Nat) :
    String.Pos.Raw.IsValid text ⟨lastBoundary text size⟩ := by
  induction size with
  | zero => exact String.Pos.Raw.isValid_zero
  | succ i ih =>
      rw [lastBoundary]
      split
      case isTrue h => exact String.Pos.Raw.isValid_eq_true_iff.1 h
      case isFalse => exact ih

theorem isSome_beginning? (text : String) (size : Nat) : (beginning? text size).isSome := by
  rw [beginning?]
  split
  · rfl
  · rw [ahead?, dif_pos (isValid_lastBoundary text size)]
    rfl

end Text

/-- The text, or its beginning and three dots if it takes more than `max` octets. There is none if
the text is cut inside of a character. -/
def truncate? (max : Option Nat) (text : String) : Option String :=
  match max with
  | none => some text
  | some max =>
      if max < text.utf8ByteSize then (Text.beginning? text max).map (· ++ "...") else some text

theorem isSome_truncate? (max : Option Nat) (text : String) : (truncate? max text).isSome := by
  cases max with
  | none => rfl
  | some max =>
      rw [truncate?]
      split
      · rw [Option.isSome_map]
        exact Text.isSome_beginning? text max
      · rfl

/-- The text as it is reported: it is never cut inside of a character. -/
def truncate (max : Option Nat) (text : String) : String :=
  (truncate? max text).get (isSome_truncate? max text)

namespace LogConfig

/-- The report on a statement and its outcome. -/
def event (config : LogConfig) (c : Call) (outcome : Except Error Reply) : Event :=
  let sql := truncate config.maxSqlLength c.sql
  let params := if config.logParams then some (Value.array c.params).toJson.text else none
  match outcome with
  | .ok reply => .statement config.level sql c.params.length params reply.rowCount
  | .error e => .statementFailed sql c.params.length params e

end LogConfig

/-- The driver that reports every statement with its outcome. -/
def Driver.logged {σ : Type} (config : LogConfig) (d : Driver σ) : Driver σ where
  query c s :=
    let (outcome, s) := d.query c s
    (outcome, d.trace (config.event c outcome) s)
  close := d.close
  trace := d.trace

end ParamSql
