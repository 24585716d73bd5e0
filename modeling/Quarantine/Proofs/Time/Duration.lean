import Quarantine.Time.Duration

/-!
Lengths of time in units. What is cut to whole units stays as it is when it is cut again, and it is
what it was if and only if it was whole. A timer tells whole milliseconds apart as far as it can
wait. A sum of lengths is exact if it is no longer than the longest of them, and there is none
otherwise: of the sums on the way to it none is too large before the sum itself is.
-/

namespace Quarantine

namespace Duration

/-- Cut to whole seconds. -/
def wholeSeconds (d : Duration) : Duration :=
  .ofSeconds d.seconds

/-- Whole milliseconds, of which 64 bits are kept. -/
def wholeMillis (d : Duration) : Duration :=
  .ofMillis (d.millis % 18446744073709551616)

variable (d : Duration)

theorem wholeSeconds_eq_self_iff : d.wholeSeconds = d ↔ 1000000000 ∣ d.nanos := by
  cases d
  simp only [wholeSeconds, ofSeconds, seconds, mk.injEq]
  omega

theorem wholeSeconds_wholeSeconds : d.wholeSeconds.wholeSeconds = d.wholeSeconds := by
  rw [wholeSeconds_eq_self_iff]
  exact ⟨d.seconds, Nat.mul_comm _ _⟩

theorem wholeMillis_eq_self_iff :
    d.wholeMillis = d ↔ 1000000 ∣ d.nanos ∧ d.millis < 18446744073709551616 := by
  cases d
  simp only [wholeMillis, ofMillis, millis, mk.injEq]
  omega

theorem wholeMillis_wholeMillis : d.wholeMillis.wholeMillis = d.wholeMillis := by
  rw [wholeMillis_eq_self_iff]
  simp only [wholeMillis, ofMillis, millis]
  omega

/-- Whatever a timer can wait for comes in time under a limit if and only if it is no longer. -/
theorem le_wait_ofMillis {n m : Nat} (measured : m ≤ longestWait) :
    m ≤ (ofMillis n).wait ↔ m ≤ n := by
  simp only [wait, ticks, ofMillis]
  omega

/-- The nanoseconds of some durations together, however many these are. -/
def total : List Duration → Nat
  | [] => 0
  | d :: ds => d.nanos + total ds

namespace Tally

/-- What has been counted so far, in nanoseconds. -/
def value (t : Tally) : Nat :=
  t.seconds * 1000000000 + t.nanos

/-- Carrying over changes nothing in what has been counted. There is no room for more seconds only
when the sum is too long in any case. -/
theorem add?_cases (t : Tally) (d : Duration) :
    (∃ t', t.add? d = some t' ∧ t'.value = t.value + d.nanos) ∨
      (t.add? d = none ∧ max.nanos < t.value + d.nanos) := by
  have longest : max.nanos = 18446744073709551615 * 1000000000 + 999999999 := rfl
  fun_cases add? t d with
    simp only [value, Duration.seconds, subsecondNanos] at *
  | case1 seconds_lt nanos_lt => exact .inl ⟨_, rfl, by dsimp only; omega⟩
  | case2 seconds_lt full carried_lt => exact .inl ⟨_, rfl, by dsimp only; omega⟩
  | case3 seconds_lt full long => exact .inr ⟨trivial, by omega⟩
  | case4 long => exact .inr ⟨trivial, by omega⟩

theorem close?_eq (t : Tally) :
    t.close? = if t.value ≤ max.nanos then some ⟨t.value⟩ else none := by
  have longest : max.nanos = 18446744073709551615 * 1000000000 + 999999999 := rfl
  have fits : t.seconds + t.nanos / 1000000000 < 18446744073709551616 ↔ t.value ≤ max.nanos := by
    simp only [value]
    omega
  have whole : ofParts (t.seconds + t.nanos / 1000000000) (t.nanos % 1000000000) = ⟨t.value⟩ := by
    simp only [ofParts, value, Duration.mk.injEq]
    omega
  simp only [close?, fits, whole]

theorem foldlM_add? (t : Tally) (ds : List Duration) :
    (ds.foldlM add? t).bind close? =
      if t.value + total ds ≤ max.nanos then some ⟨t.value + total ds⟩ else none := by
  induction ds generalizing t with
  | nil =>
      rw [List.foldlM_nil, total, Nat.add_zero]
      exact t.close?_eq
  | cons d ds ih =>
      rw [List.foldlM_cons, total, ← Nat.add_assoc]
      obtain ⟨t', counted, value⟩ | ⟨full, long⟩ := t.add?_cases d
      · rw [counted, ← value]
        exact ih t'
      · rw [full, if_neg (by omega)]
        rfl

end Tally

theorem sum?_eq (ds : List Duration) :
    sum? ds = if total ds ≤ max.nanos then some ⟨total ds⟩ else none := by
  have none_yet : Tally.zero.value = 0 := rfl
  rw [sum?, Tally.foldlM_add?, none_yet, Nat.zero_add]

example : sum? [⟨999999999⟩, ⟨1⟩] = some (ofSeconds 1) ∧ sum? [max, ⟨1⟩] = none := by decide

end Duration

namespace Span

variable (s : Span)

theorem natAbs_seconds_le : (s.seconds * 1000000000).natAbs ≤ s.nanos.natAbs := by
  rw [seconds, Int.natAbs_mul, Int.natAbs_tdiv]
  exact Nat.div_mul_le_self _ _

/-- Cut to whole seconds, toward zero. -/
def wholeSeconds : Span :=
  ⟨s.seconds * 1000000000, Nat.le_trans s.natAbs_seconds_le s.bounded⟩

/-- The whole seconds of a span are those of a span. -/
theorem ofSeconds?_seconds : ofSeconds? s.seconds = some s.wholeSeconds :=
  dif_pos s.wholeSeconds.bounded

theorem wholeSeconds_eq_self_iff : s.wholeSeconds = s ↔ 1000000000 ∣ s.nanos := by
  cases s
  simp only [wholeSeconds, seconds, mk.injEq]
  exact ⟨fun whole => ⟨_, whole.symm.trans (Int.mul_comm _ _)⟩, Int.tdiv_mul_cancel⟩

theorem wholeSeconds_wholeSeconds : s.wholeSeconds.wholeSeconds = s.wholeSeconds := by
  rw [wholeSeconds_eq_self_iff]
  exact ⟨s.seconds, Int.mul_comm _ _⟩

theorem seconds_bounds : -9223372036854775808 ≤ s.seconds ∧ s.seconds < 9223372036854775808 := by
  have small := s.natAbs_seconds_le
  have bounded := s.bounded
  omega

end Span

end Quarantine
