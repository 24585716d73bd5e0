import Quarantine.Time.Calendar
import Quarantine.Time.Duration

/-!
Points in time, in UTC. A leap second is the second before it with a billion nanoseconds or more, so
it comes after that second and before the next.
-/

namespace Quarantine

structure Instant where
  /-- Seconds since the beginning of 1970. -/
  seconds : Int
  /-- Nanoseconds of the second, a billion or more in a leap second. -/
  nanos : Nat
  nanos_lt : nanos < 2000000000 := by decide
  deriving DecidableEq, Repr

namespace Instant

instance : Inhabited Instant :=
  ⟨⟨0, 0, by decide⟩⟩

def before (s t : Instant) : Bool :=
  s.seconds < t.seconds || (s.seconds = t.seconds && s.nanos < t.nanos)

/-- The first and the last second that have a date. -/
def minSeconds : Int :=
  Date.toDays ⟨Date.minYear, 1, 1⟩ * 86400

def maxSeconds : Int :=
  Date.toDays ⟨Date.maxYear, 12, 31⟩ * 86400 + 86399

/-- The point in time a span earlier, unless it has no date. Leap seconds are not counted. -/
def minus? (t : Instant) (span : Span) : Option Instant :=
  let total := t.seconds * 1000000000 + t.nanos - span.nanos
  let seconds := total.fdiv 1000000000
  let nanos := (total.fmod 1000000000).toNat
  if h : minSeconds ≤ seconds ∧ seconds ≤ maxSeconds ∧ nanos < 2000000000 then
    some ⟨seconds, nanos, h.2.2⟩
  else none

def next (t : Instant) : Instant :=
  if h : t.nanos + 1 < 1000000000 then ⟨t.seconds, t.nanos + 1, by omega⟩
  else ⟨t.seconds + 1, 0, by decide⟩

/-- The same point in time without its fraction of a second; a leap second stays one. -/
def truncate (t : Instant) : Instant :=
  if t.nanos < 1000000000 then ⟨t.seconds, 0, by decide⟩ else ⟨t.seconds, 1000000000, by decide⟩

end Instant

end Quarantine
