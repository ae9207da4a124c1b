/-!
# Instant — points in time

An instant is counted from the beginning of 1970 in UTC and lies between the years -262143 and
262142, the range in which every instant has a count of microseconds in 64 bits. Leap seconds are
not counted: an instant in one has the seconds of the instants ahead of it, and more nanoseconds
than there are in a second.

- `Instant`: seconds, and nanoseconds within the second and a leap second behind it.
- `Instant.isLeap`: whether the instant is in a leap second.
- `Instant.micros`: microseconds since the beginning of 2000, the unit of the wire format.
- `Instant.civil`, `Instant.rfc3339`: the calendar date, and the text of RFC 3339.
-/

namespace ParamSql

/-! ## The calendar -/

/-- A date of the proleptic Gregorian calendar. -/
structure CivilDate where
  year : Int
  month : Nat
  day : Nat
  deriving DecidableEq, Repr

/-- The date a number of days after the first of January 1970. Years are counted from March, so
that the leap day is the last of its year, in eras of four centuries. -/
def CivilDate.ofDays (days : Int) : CivilDate :=
  let shifted := days + 719468
  let era := Int.fdiv shifted 146097
  let dayOfEra := (shifted - era * 146097).toNat
  let yearOfEra :=
    (dayOfEra - dayOfEra / 1460 + dayOfEra / 36524 - dayOfEra / 146096) / 365
  let dayOfYear := dayOfEra - (365 * yearOfEra + yearOfEra / 4 - yearOfEra / 100)
  let fromMarch := (5 * dayOfYear + 2) / 153
  let day := dayOfYear - (153 * fromMarch + 2) / 5 + 1
  let month := if fromMarch < 10 then fromMarch + 3 else fromMarch - 9
  let year := (yearOfEra : Int) + era * 400
  ⟨if month ≤ 2 then year + 1 else year, month, day⟩

/-! ## Instants -/

/-- The first second of the year -262143. -/
def firstSecond : Int := -8334601228800

/-- The last second of the year 262142. -/
def lastSecond : Int := 8210266876799

/-- A point in time: seconds since the beginning of 1970 in UTC, and nanoseconds, of which there are
two seconds so that a leap second has a place behind the second ahead of it. -/
structure Instant where
  seconds : Int
  nanos : Nat
  nanos_lt : nanos < 2000000000
  first_le : firstSecond ≤ seconds
  le_last : seconds ≤ lastSecond
  deriving DecidableEq, Repr

namespace Instant

/-- Whether the instant is in a leap second. -/
def isLeap (t : Instant) : Bool :=
  1000000000 ≤ t.nanos

/-- The instant of the given seconds and nanoseconds, if they are in range. A leap second is only
taken behind the last second of a minute. -/
def of? (seconds : Int) (nanos : Nat) : Option Instant :=
  if h : (nanos < 1000000000 ∨ nanos < 2000000000 ∧ seconds % 60 = 59) ∧
      firstSecond ≤ seconds ∧ seconds ≤ lastSecond then
    some ⟨seconds, nanos, by omega, h.2.1, h.2.2⟩
  else none

/-- The seconds from the beginning of 1970 to the beginning of 2000. -/
def secondsTo2000 : Int := 946684800

/-- Microseconds since the beginning of 2000, the rest of a microsecond being dropped toward that
instant. A leap second has the microseconds of the second behind it. -/
def micros (t : Instant) : Int :=
  Int.tdiv ((t.seconds - secondsTo2000) * 1000000000 + t.nanos) 1000

/-- The instant a number of microseconds after the beginning of 2000, if it is in range. -/
def ofMicros? (micros : Int) : Option Instant :=
  let sinceEpoch := micros + secondsTo2000 * 1000000
  of? (Int.fdiv sinceEpoch 1000000) ((Int.fmod sinceEpoch 1000000).toNat * 1000)

/-! ## Text -/

/-- A number in at least `width` digits. -/
def padded (width n : Nat) : String :=
  let digits := Nat.toDigits 10 n
  String.ofList (List.replicate (width - digits.length) '0' ++ digits)

/-- A year in at least four digits; it has a sign when it is negative or has more digits. -/
def yearText (year : Int) : String :=
  if year < 0 then "-" ++ padded 4 year.natAbs
  else if year ≤ 9999 then padded 4 year.natAbs
  else "+" ++ padded 4 year.natAbs

/-- The fraction of a second in three, six or nine digits, as few as are exact. -/
def fractionText (nanos : Nat) : String :=
  if nanos = 0 then ""
  else if nanos % 1000000 = 0 then "." ++ padded 3 (nanos / 1000000)
  else if nanos % 1000 = 0 then "." ++ padded 6 (nanos / 1000)
  else "." ++ padded 9 nanos

/-- The date of an instant. -/
def civil (t : Instant) : CivilDate :=
  .ofDays (Int.fdiv t.seconds 86400)

/-- Date and time as in RFC 3339, in UTC. A leap second is one more second of its minute. -/
def rfc3339 (t : Instant) : String :=
  let date := t.civil
  let second := (Int.fmod t.seconds 86400).toNat
  yearText date.year ++ "-" ++ padded 2 date.month ++ "-" ++ padded 2 date.day ++ "T" ++
    padded 2 (second / 3600) ++ ":" ++ padded 2 (second / 60 % 60) ++ ":" ++
    padded 2 (second % 60 + t.nanos / 1000000000) ++ fractionText (t.nanos % 1000000000) ++ "Z"

end Instant
end ParamSql
