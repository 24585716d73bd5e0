import Quarantine.Document.View
import Quarantine.Proofs.Time.Instant
import Quarantine.Proofs.Time.Timestamp

/-!
What callers see of a record. Its times are cut to whole seconds, all of them towards the past, so
that no two of them change places. A leap second that does not end a minute has no text of its own:
it is shown as the second after it, which begins at the same place.
-/

namespace Quarantine

namespace Instant

/-- The point in time has a date. -/
structure OnCalendar (t : Instant) : Prop where
  first : minSeconds ≤ t.seconds
  last : t.seconds ≤ maxSeconds

/-- What a text in whole seconds tells. -/
def told (t : Instant) : Instant :=
  if 1000000000 ≤ t.nanos ∧ t.seconds % 60 ≠ 59 then
    { (default : Instant) with seconds := t.seconds + 1 }
  else t.truncate

variable {t u : Instant}

end Instant

namespace Timestamp

variable {t : Instant}

/-- The text of a leap second that does not end a minute is that of the next second. -/
theorem writeChars_astray (precision : Precision) (leap : 1000000000 ≤ t.nanos)
    (astray : t.seconds % 60 ≠ 59) :
    writeChars precision t =
      writeChars precision ⟨t.seconds + 1, t.nanos - 1000000000, by have := t.nanos_lt; omega⟩ := by
  have bound := t.nanos_lt
  have days (n : Int) : n.fdiv 86400 = n / 86400 := Int.fdiv_eq_ediv_of_nonneg _ (by decide)
  have of_day (n : Int) : n.fmod 86400 = n % 86400 := Int.fmod_eq_emod_of_nonneg _ (by decide)
  obtain ⟨second, counted⟩ : ∃ second : Nat, t.seconds % 86400 = second :=
    ⟨(t.seconds % 86400).toNat, by omega⟩
  have next : (t.seconds + 1) % 86400 = (second + 1 : Nat) := by omega
  simp only [writeChars, clockChars, days, of_day, counted, next, Int.toNat_natCast,
    show (t.seconds + 1) / 86400 = t.seconds / 86400 by omega,
    show (second + 1) / 3600 = second / 3600 by omega,
    show (second + 1) / 60 % 60 = second / 60 % 60 by omega,
    show (second + 1) % 60 + (t.nanos - 1000000000) / 1000000000 =
      second % 60 + t.nanos / 1000000000 by omega,
    show (t.nanos - 1000000000) % 1000000000 = t.nanos % 1000000000 by omega]

/-- Each point in time with a date is shown by a text that can be read. -/
theorem read_write_seconds (dated : t.OnCalendar) : read (write .seconds t) = some t.told := by
  obtain ⟨first, last⟩ := dated
  rw [Instant.told]
  split
  · next astray =>
      have bound := t.nanos_lt
      have end_of_minute : Instant.maxSeconds % 60 = 59 := by decide
      rw [write, writeChars_astray .seconds astray.1 astray.2]
      refine (read_write .seconds ⟨?_, ?_, fun late => ?_⟩).trans ?_
      · dsimp only
        omega
      · dsimp only
        omega
      · dsimp only at late
        omega
      · rw [Precision.kept, Instant.truncate, if_pos (by dsimp only; omega)]
        rfl
  · next own =>
      exact read_write .seconds ⟨first, last, fun late => by omega⟩

end Timestamp

/-- The times of the record have dates. -/
structure Document.OnCalendar (d : Document) : Prop where
  createdAt : d.createdAt.OnCalendar
  analyzedAt : ∀ t ∈ d.analyzedAt, t.OnCalendar

namespace View

/-- A text that the view of a record shows, and the point in time that it shows. -/
inductive Shows (d : Document) : String → Instant → Prop
  | created : Shows d (ofDocument d).createdAt d.createdAt
  | analyzed {text t} (shown : (ofDocument d).analyzedAt = some text)
      (stored : d.analyzedAt = some t) : Shows d text t

variable {d : Document} {text : String} {t : Instant}

theorem analyzedAt_eq_some_iff :
    (ofDocument d).analyzedAt = some text ↔
      d.isPending = false ∧ ∃ t, d.analyzedAt = some t ∧ Timestamp.write .seconds t = text := by
  simp only [ofDocument]
  cases d.isPending <;> simp

theorem Shows.eq_write (shows : Shows d text t) : text = Timestamp.write .seconds t := by
  cases shows with
  | created => rfl
  | analyzed shown stored =>
      obtain ⟨-, s, stored', rfl⟩ := analyzedAt_eq_some_iff.mp shown
      cases stored.symm.trans stored'
      rfl

theorem Shows.read (shows : Shows d text t) (dated : d.OnCalendar) :
    Timestamp.read text = some t.told := by
  rw [shows.eq_write]
  cases shows with
  | created => exact Timestamp.read_write_seconds dated.createdAt
  | analyzed _ stored => exact Timestamp.read_write_seconds (dated.analyzedAt t stored)

end View

end Quarantine
