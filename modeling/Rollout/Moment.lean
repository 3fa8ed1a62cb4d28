import Rollout.Duration
import Rollout.Number.Binary64

namespace Rollout

structure Moment where
  seconds : Int
  nanos : Nat
  deriving DecidableEq, Repr, Inhabited

namespace Moment

structure Date where
  year : Int
  month : Nat
  day : Nat
  deriving DecidableEq, Repr

-- The date of a number of days since the start of 1970. Years are counted from March, so that the
-- leap day ends a year, and in cycles of 400.
def dateOfDays (days : Int) : Date :=
  let shifted := days + 719468
  let era := shifted.fdiv 146097
  let ofEra := (shifted.fmod 146097).toNat
  let yearOfEra := (ofEra - ofEra / 1460 + ofEra / 36524 - ofEra / 146096) / 365
  let ofYear := ofEra - (365 * yearOfEra + yearOfEra / 4 - yearOfEra / 100)
  let fromMarch := (5 * ofYear + 2) / 153
  let day := ofYear - (153 * fromMarch + 2) / 5 + 1
  let month := if fromMarch < 10 then fromMarch + 3 else fromMarch - 9
  ⟨yearOfEra + era * 400 + (if month ≤ 2 then 1 else 0), month, day⟩

def date (m : Moment) : Date := dateOfDays (m.seconds.fdiv 86400)

def ofDay (m : Moment) : Nat := (m.seconds.fmod 86400).toNat

def clockText (m : Moment) : String :=
  let s := m.ofDay
  Text.padded 2 (s / 3600) ++ ":" ++ Text.padded 2 (s % 3600 / 60) ++ ":" ++ Text.padded 2 (s % 60)

def timeText (m : Moment) : String := m.clockText ++ "." ++ Text.padded 3 (m.nanos / 1000000)

def yearText (year : Int) : String :=
  if 0 ≤ year ∧ year ≤ 9999 then Text.padded 4 year.toNat
  else if year < 0 then "-" ++ Text.padded 4 (-year).toNat
  else "+" ++ toString year

-- A fraction of a second with as many groups of three digits as it needs.
def fractionText (nanos : Nat) : String :=
  if nanos = 0 then ""
  else if nanos % 1000000 = 0 then "." ++ Text.padded 3 (nanos / 1000000)
  else if nanos % 1000 = 0 then "." ++ Text.padded 6 (nanos / 1000)
  else "." ++ Text.padded 9 nanos

def render (m : Moment) : String :=
  let d := m.date
  yearText d.year ++ "-" ++ Text.padded 2 d.month ++ "-" ++ Text.padded 2 d.day ++ "T" ++ m.clockText ++
    fractionText m.nanos ++ "Z"

def millisBetween (start stop : Moment) : Int :=
  ((stop.seconds - start.seconds) * 1000000000 + (stop.nanos - start.nanos : Int)).tdiv 1000000

end Moment

-- Milliseconds as seconds with one decimal place, rounded from the nearest double.
def secondsText (millis : Int) : String :=
  let tenths := match Binary64.ofDecimal (millis < 0) millis.natAbs (-3) with
    | .finite _ m e =>
      if 0 ≤ e then m * Nat.pow 2 e.toNat * 10 else Binary64.roundDiv (m * 10) (Nat.pow 2 (-e).toNat)
    | _ => 0
  (if millis < 0 then "-" else "") ++ s!"{tenths / 10}.{tenths % 10}s"

end Rollout
