import Rollout.Text.Blank

namespace Rollout

structure Duration where
  nanos : Nat
  deriving DecidableEq, Repr

namespace Duration

def ofMillis (n : Nat) : Duration := ⟨n * 1000000⟩
def ofSeconds (n : Nat) : Duration := ⟨n * 1000000000⟩
def millis (d : Duration) : Nat := d.nanos / 1000000
def seconds (d : Duration) : Nat := d.nanos / 1000000000

def yearSeconds : Nat := 31557600
def monthSeconds : Nat := 2630016
def daySeconds : Nat := 86400

def counted (n : Nat) (unit : String) : List String :=
  if n = 0 then [] else if n = 1 then [s!"1{unit}"] else [s!"{n}{unit}s"]

def plain (n : Nat) (unit : String) : List String :=
  if n = 0 then [] else [s!"{n}{unit}"]

def render (d : Duration) : String :=
  if d.nanos = 0 then "0s"
  else
    let secs := d.seconds
    let rest := secs % yearSeconds
    let days := rest % monthSeconds
    let time := days % daySeconds
    let sub := d.nanos % 1000000000
    " ".intercalate <|
      counted (secs / yearSeconds) "year" ++ counted (rest / monthSeconds) "month" ++
      counted (days / daySeconds) "day" ++ plain (time / 3600) "h" ++ plain (time % 3600 / 60) "m" ++
      plain (time % 60) "s" ++ plain (sub / 1000000) "ms" ++ plain (sub / 1000 % 1000) "us" ++
      plain (sub % 1000) "ns"

-- A whole part, and a fraction of the given number of digits without zeros at its end.
def decimal (whole fraction width : Nat) : String :=
  let digits := (Text.padded width fraction).toList
  let kept := (digits.reverse.dropWhile (· == '0')).reverse
  if kept.isEmpty then toString whole else s!"{whole}." ++ String.ofList kept

-- The largest unit of which there is one at least, with the rest as a fraction.
def brief (d : Duration) : String :=
  let n := d.nanos
  if 1000000000 ≤ n then decimal (n / 1000000000) (n % 1000000000) 9 ++ "s"
  else if 1000000 ≤ n then decimal (n / 1000000) (n % 1000000) 6 ++ "ms"
  else if 1000 ≤ n then decimal (n / 1000) (n % 1000) 3 ++ "µs"
  else s!"{n}ns"

def unitNanos? (unit : String) : Option Nat :=
  let second := 1000000000
  if unit ∈ ["nanos", "nsec", "ns"] then some 1
  else if unit ∈ ["usec", "us", "µs"] then some 1000
  else if unit ∈ ["millis", "msec", "ms"] then some 1000000
  else if unit ∈ ["seconds", "second", "secs", "sec", "s"] then some second
  else if unit ∈ ["minutes", "minute", "mins", "min", "m"] then some (60 * second)
  else if unit ∈ ["hours", "hour", "hrs", "hr", "h"] then some (3600 * second)
  else if unit ∈ ["days", "day", "d"] then some (86400 * second)
  else if unit ∈ ["weeks", "week", "wks", "wk", "w"] then some (604800 * second)
  else if unit ∈ ["months", "month", "M"] then some (2630016 * second)
  else if unit ∈ ["years", "year", "yrs", "yr", "y"] then some (31557600 * second)
  else none

end Duration

end Rollout
