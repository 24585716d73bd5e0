/-!
Lengths of time. A `Duration` is never negative and is exact to the nanosecond; a `Span` is signed.
-/

namespace Quarantine

/-- A length of time, in nanoseconds. -/
structure Duration where
  nanos : Nat
  deriving DecidableEq, Repr, Inhabited

namespace Duration

def zero : Duration :=
  ⟨0⟩

def ofSeconds (n : Nat) : Duration :=
  ⟨n * 1000000000⟩

def ofMillis (n : Nat) : Duration :=
  ⟨n * 1000000⟩

def seconds (d : Duration) : Nat :=
  d.nanos / 1000000000

def subsecondNanos (d : Duration) : Nat :=
  d.nanos % 1000000000

def millis (d : Duration) : Nat :=
  d.nanos / 1000000

def ofParts (seconds nanos : Nat) : Duration :=
  ⟨seconds * 1000000000 + nanos⟩

/-- Milliseconds, a begun one counted as whole: the resolution of timers. -/
def ticks (d : Duration) : Nat :=
  (d.nanos + 999999) / 1000000

/-- The longest wait of a timer, in milliseconds: thirty years of 365 days. Timers have a far future,
and what is to wait beyond it wakes when it has come: that is seen on a clock that runs ahead, for a
wait of one nanosecond more as for the longest duration there is. -/
def longestWait : Nat := 946080000000

/-- How long a timer waits for a duration. Two durations beyond the far future come to the same. -/
def wait (d : Duration) : Nat :=
  min d.ticks longestWait

/-- The longest duration: whole seconds have 64 bits. -/
def max : Duration :=
  ⟨18446744073709551615 * 1000000000 + 999999999⟩

/-- A sum under way. Its seconds and its nanoseconds are counted apart, each in 64 bits. -/
structure Tally where
  seconds : Nat
  nanos : Nat
  seconds_lt : seconds < 18446744073709551616 := by decide
  nanos_lt : nanos < 18446744073709551616 := by decide
  deriving DecidableEq, Repr

namespace Tally

def zero : Tally :=
  { seconds := 0, nanos := 0 }

/-- Nanoseconds are carried over to the seconds only when there is no room for more of them. -/
def add? (t : Tally) (d : Duration) : Option Tally :=
  if seconds_lt : t.seconds + d.seconds < 18446744073709551616 then
    if nanos_lt : t.nanos + d.subsecondNanos < 18446744073709551616 then
      some ⟨t.seconds + d.seconds, t.nanos + d.subsecondNanos, seconds_lt, nanos_lt⟩
    else if carried_lt :
        t.seconds + d.seconds + t.nanos / 1000000000 < 18446744073709551616 then
      some
        { seconds := t.seconds + d.seconds + t.nanos / 1000000000
          nanos := t.nanos % 1000000000 + d.subsecondNanos
          seconds_lt := carried_lt
          nanos_lt := by unfold subsecondNanos; omega }
    else none
  else none

/-- The duration that was counted, once all its nanoseconds are carried over. -/
def close? (t : Tally) : Option Duration :=
  if t.seconds + t.nanos / 1000000000 < 18446744073709551616 then
    some (.ofParts (t.seconds + t.nanos / 1000000000) (t.nanos % 1000000000))
  else none

end Tally

/-- The sum of some durations, unless a sum on the way to it exceeds its 64 bits. -/
def sum? (ds : List Duration) : Option Duration :=
  (ds.foldlM Tally.add? Tally.zero).bind Tally.close?

/-- The digits of a fraction `n` of `scale`, where `scale` is ten to the power of `places`, without
zeros at its end. -/
def fractionDigits (places n : Nat) : List Char :=
  let digits := Nat.toDigits 10 n
  let padded := List.replicate (places - digits.length) '0' ++ digits
  (padded.reverse.dropWhile (· = '0')).reverse

def inUnits (d : Duration) (unit places : Nat) (name : String) : String :=
  let whole := toString (d.nanos / unit)
  let rest := d.nanos % unit
  if rest = 0 then whole ++ name
  else whole ++ "." ++ String.ofList (fractionDigits places rest) ++ name

/-- The duration in the largest unit of which it holds a whole one. -/
def text (d : Duration) : String :=
  if 1000000000 ≤ d.nanos then d.inUnits 1000000000 9 "s"
  else if 1000000 ≤ d.nanos then d.inUnits 1000000 6 "ms"
  else if 1000 ≤ d.nanos then d.inUnits 1000 3 "µs"
  else d.inUnits 1 0 "ns"

end Duration

/-- A signed length of time, in nanoseconds. Its milliseconds fit into 64 bits with a sign. -/
structure Span where
  nanos : Int
  bounded : nanos.natAbs ≤ 9223372036854775807 * 1000000 := by decide
  deriving DecidableEq, Repr

namespace Span

def ofNanos? (n : Int) : Option Span :=
  if h : n.natAbs ≤ 9223372036854775807 * 1000000 then some ⟨n, h⟩ else none

def ofSeconds? (n : Int) : Option Span :=
  ofNanos? (n * 1000000000)

def ofMillis? (n : Int) : Option Span :=
  ofNanos? (n * 1000000)

/-- Whole seconds, cut toward zero. -/
def seconds (s : Span) : Int :=
  s.nanos.tdiv 1000000000

def millis (s : Span) : Int :=
  s.nanos.tdiv 1000000

def isPositive (s : Span) : Bool :=
  0 < s.nanos

/-- The same length without a sign, if the span is positive. -/
def toDuration? (s : Span) : Option Duration :=
  if s.isPositive then some ⟨s.nanos.toNat⟩ else none

end Span

end Quarantine
