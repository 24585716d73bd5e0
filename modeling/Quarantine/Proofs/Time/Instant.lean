import Quarantine.Proofs.Store.Records

/-!
Points in time on one line. The point that lies a span before another is told by their places on the
line, and there is one as long as it has a date.
-/

namespace Quarantine

namespace Instant

/-- Nanoseconds since the beginning of 1970. -/
def line (t : Instant) : Int :=
  t.seconds * 1000000000 + t.nanos

def later (s t : Instant) : Instant :=
  if s.before t then t else s

/-- The point in time that lies a span earlier is in no leap second. -/
theorem minus?_eq_some_iff {t u : Instant} {span : Span} :
    t.minus? span = some u ↔
      u.line = t.line - span.nanos ∧ u.nanos < 1000000000 ∧
        minSeconds ≤ u.seconds ∧ u.seconds ≤ maxSeconds := by
  have whole : ∀ n : Int, n.fdiv 1000000000 = n / 1000000000 := fun n =>
    Int.fdiv_eq_ediv_of_nonneg n (by decide)
  have rest : ∀ n : Int, n.fmod 1000000000 = n % 1000000000 := fun n =>
    Int.fmod_eq_emod_of_nonneg n (by decide)
  obtain ⟨seconds, nanos, bound⟩ := u
  simp only [minus?, whole, rest, line]
  split
  · next dated =>
      simp only [Option.some.injEq, mk.injEq]
      omega
  · next undated =>
      simp only [reduceCtorEq, false_iff]
      omega

/-- There is a point in time a span earlier if that lies between the first and the last date. -/
theorem minus?_isSome_iff {t : Instant} {span : Span} :
    (t.minus? span).isSome = true ↔
      minSeconds * 1000000000 ≤ t.line - span.nanos ∧
        t.line - span.nanos < (maxSeconds + 1) * 1000000000 := by
  rw [Option.isSome_iff_exists]
  constructor
  · rintro ⟨u, earlier⟩
    obtain ⟨place, -, first, last⟩ := minus?_eq_some_iff.mp earlier
    have bound := (minus?_eq_some_iff.mp earlier).2.1
    rw [← place, line]
    omega
  · rintro ⟨first, last⟩
    have some_second := Int.emod_lt_of_pos (t.line - span.nanos) (show 0 < 1000000000 by decide)
    refine ⟨⟨(t.line - span.nanos) / 1000000000,
      ((t.line - span.nanos) % 1000000000).toNat, by omega⟩, minus?_eq_some_iff.mpr ?_⟩
    simp only [line] at first last ⊢
    omega

theorem before_later {s t u : Instant} :
    u.before (s.later t) = (u.before s || u.before t) := by
  rw [Bool.eq_iff_iff, Bool.or_eq_true, later]
  split
  · next early =>
      rw [before_iff] at early ⊢
      rw [before_iff]
      omega
  · next late =>
      rw [before_iff] at late ⊢
      rw [before_iff]
      omega

end Instant

end Quarantine
