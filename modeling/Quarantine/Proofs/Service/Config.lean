import Quarantine.Proofs.Json.Reading
import Quarantine.Proofs.Time.Duration
import Quarantine.Service.Config

/-!
A configuration and its JSON form. What is read back is the configuration in the units of the form:
whole seconds, cut toward zero, and whole milliseconds of which 64 bits are kept. So one that is
written in these units already comes back as it was, and all others do from the second time on.
-/

namespace Quarantine

open Json

namespace Ladder

/-- The ladder with its waits cut to whole seconds. -/
def coarse (l : Ladder) : Ladder :=
  ⟨l.steps.map Duration.wholeSeconds⟩

theorem coarse_eq_self_iff (l : Ladder) :
    l.coarse = l ↔ ∀ d ∈ l.steps, 1000000000 ∣ d.nanos := by
  obtain ⟨steps⟩ := l
  have each : steps.map Duration.wholeSeconds = steps.map id ↔
      ∀ d ∈ steps, d.wholeSeconds = d := List.map_inj_left
  simpa only [List.map_id, Duration.wholeSeconds_eq_self_iff, coarse, mk.injEq] using each

theorem fits_toJson {l : Ladder} (storable : ∀ d ∈ l.steps, d.nanos ≤ Duration.max.nanos) :
    l.toJson.Fits := by
  refine ⟨itemsFit_map fun d step => ?_, trivial⟩
  have small := storable d step
  simp only [Duration.max] at small
  simp only [Json.nat, Fits, Duration.seconds]
  omega

theorem reads_toJson {l : Ladder} (storable : ∀ d ∈ l.steps, d.nanos ≤ Duration.max.nanos) :
    Reads reader l.toJson l.coarse := by
  have small : ∀ n ∈ l.steps.map Duration.seconds, n < 18446744073709551616 := by
    intro n written
    obtain ⟨d, step, rfl⟩ := List.mem_map.mp written
    have small := storable d step
    simp only [Duration.max] at small
    simp only [Duration.seconds]
    omega
  have waits := (reads_list fun n written => reads_nat64 (small n written)).map
    fun ns => some (ns.map Duration.ofSeconds)
  rw [List.map_map, List.map_map] at waits
  have filled : Fills fields none [("steps", .list (l.steps.map (Json.nat ∘ Duration.seconds)))]
      (some (l.steps.map (Duration.ofSeconds ∘ Duration.seconds))) :=
    .field rfl rfl waits .done
  exact fun rest => Reader.run_bind (reads_record filled rest)

end Ladder

namespace ScanSettings

def coarse (s : ScanSettings) : ScanSettings :=
  ⟨s.capacity, s.ladder.coarse, s.attemptTimeout.wholeMillis⟩

variable {s : ScanSettings}

theorem fits_toJson (capacity : s.capacity < 18446744073709551616)
    (steps : ∀ d ∈ s.ladder.steps, d.nanos ≤ Duration.max.nanos) : s.toJson.Fits := by
  refine ⟨by simpa [Json.nat, Fits] using capacity, Ladder.fits_toJson steps, ?_, trivial⟩
  simp only [Json.nat, Fits]
  omega

theorem reads_toJson (capacity : s.capacity < 18446744073709551616)
    (steps : ∀ d ∈ s.ladder.steps, d.nanos ≤ Duration.max.nanos) :
    Reads reader s.toJson s.coarse := by
  have timeout : s.attemptTimeout.millis % 18446744073709551616 < 18446744073709551616 :=
    Nat.mod_lt _ (by omega)
  have filled : Fills fields {}
      [("capacity", .nat s.capacity), ("ladder", s.ladder.toJson),
        ("attempt_timeout", .nat (s.attemptTimeout.millis % 18446744073709551616))]
      ⟨some s.capacity, some s.ladder.coarse, some s.attemptTimeout.wholeMillis⟩ :=
    .field rfl rfl ((reads_nat64 capacity).map _) <|
    .field rfl rfl ((Ladder.reads_toJson steps).map _) <|
    .field rfl rfl ((reads_nat64 timeout).map _) .done
  exact fun rest => Reader.run_bind (reads_record filled rest)

end ScanSettings

namespace Config

/-- What is left of a configuration in the units of its JSON form. -/
def coarse (c : Config) : Config :=
  { c with resultTtl := c.resultTtl.wholeSeconds, scan := c.scan.coarse }

/-- The numbers of a configuration fit into the fields that hold them, which have 64 bits. Any time
to keep results and any timeout of an attempt do. -/
structure Storable (c : Config) : Prop where
  maxUploadSize : c.maxUploadSize < 18446744073709551616
  capacity : c.scan.capacity < 18446744073709551616
  steps : ∀ d ∈ c.scan.ladder.steps, d.nanos ≤ Duration.max.nanos

/-- All that a configuration says in its JSON form is said in whole units. -/
structure Whole (c : Config) : Prop where
  resultTtl : 1000000000 ∣ c.resultTtl.nanos
  steps : ∀ d ∈ c.scan.ladder.steps, 1000000000 ∣ d.nanos
  attemptTimeout : 1000000 ∣ c.scan.attemptTimeout.nanos
  millis : c.scan.attemptTimeout.millis < 18446744073709551616

theorem reads_ttl (ttl : Span) : Reads ttlReader (.int ttl.seconds) ttl.wholeSeconds := by
  intro rest
  refine (Reader.run_bind (reads_int64 ttl.seconds_bounds rest)).trans ?_
  rw [ttl.ofSeconds?_seconds]
  rfl

variable {c : Config}

theorem fits_toJson (storable : c.Storable) : c.toJson.Fits := by
  have seconds := c.resultTtl.seconds_bounds
  refine ⟨trivial, trivial, by simpa [Json.nat, Fits] using storable.maxUploadSize, ?_,
    ScanSettings.fits_toJson storable.capacity storable.steps, trivial⟩
  simp only [Fits]
  omega

theorem reads_toJson (storable : c.Storable) : Reads reader c.toJson c.coarse := by
  have filled : Fills fields {}
      [("version", .text c.version), ("information", .text c.information),
        ("max_upload_size", .nat c.maxUploadSize), ("result_ttl", .int c.resultTtl.seconds),
        ("scan", c.scan.toJson)]
      ⟨some c.version, some c.information, some c.maxUploadSize, some c.resultTtl.wholeSeconds,
        some c.scan.coarse⟩ :=
    .field rfl rfl ((reads_text c.version).map _) <|
    .field rfl rfl ((reads_text c.information).map _) <|
    .field rfl rfl ((reads_nat64 storable.maxUploadSize).map _) <|
    .field rfl rfl ((reads_ttl c.resultTtl).map _) <|
    .field rfl rfl ((ScanSettings.reads_toJson storable.capacity storable.steps).map _) .done
  exact fun rest => Reader.run_bind (reads_record filled rest)

theorem coarse_eq_self_iff : c.coarse = c ↔ c.Whole := by
  obtain ⟨version, information, size, ttl, capacity, ladder, timeout⟩ := c
  simp only [coarse, ScanSettings.coarse, mk.injEq, ScanSettings.mk.injEq, true_and,
    Span.wholeSeconds_eq_self_iff, Ladder.coarse_eq_self_iff, Duration.wholeMillis_eq_self_iff]
  constructor
  · rintro ⟨ttl, steps, timeout, millis⟩
    exact ⟨ttl, steps, timeout, millis⟩
  · rintro ⟨ttl, steps, timeout, millis⟩
    exact ⟨ttl, steps, timeout, millis⟩

theorem Storable.coarse (storable : c.Storable) : c.coarse.Storable where
  maxUploadSize := storable.maxUploadSize
  capacity := storable.capacity
  steps := by
    intro d cut
    obtain ⟨e, step, rfl⟩ := List.mem_map.mp cut
    exact Nat.le_trans (Nat.div_mul_le_self _ _) (storable.steps e step)

theorem whole_coarse (c : Config) : c.coarse.Whole where
  resultTtl := c.resultTtl.wholeSeconds.wholeSeconds_eq_self_iff.mp
    c.resultTtl.wholeSeconds_wholeSeconds
  steps := by
    intro d cut
    obtain ⟨e, -, rfl⟩ := List.mem_map.mp cut
    exact e.wholeSeconds.wholeSeconds_eq_self_iff.mp e.wholeSeconds_wholeSeconds
  attemptTimeout := (Duration.wholeMillis_eq_self_iff _).mp (Duration.wholeMillis_wholeMillis _) |>.1
  millis := (Duration.wholeMillis_eq_self_iff _).mp (Duration.wholeMillis_wholeMillis _) |>.2

/-- A configuration that is written and read back is the same in the units of the JSON form. It is
the same altogether if and only if it was in these units, and so it is the second time. -/
theorem json_round_trip (storable : c.Storable) :
    Json.read reader c.toJson.render = .ok c.coarse ∧
      (Json.read reader c.toJson.render = .ok c ↔ c.Whole) ∧
      Json.read reader c.coarse.toJson.render = .ok c.coarse := by
  have once := read_render (fits_toJson storable) (reads_toJson storable)
  have twice := read_render (fits_toJson storable.coarse) (reads_toJson storable.coarse)
  refine ⟨once, ?_, ?_⟩
  · rw [once, Except.ok.injEq, coarse_eq_self_iff]
  · rwa [coarse_eq_self_iff.mpr c.whole_coarse] at twice

/-- Nothing in this configuration is in whole units, and its timeout has more than 64 bits. -/
def fractional : Config :=
  ⟨"\"1\\2\"\n", "\x00é", 18446744073709551615, ⟨-1500000000, by decide⟩,
    ⟨0, ⟨[⟨1999999999⟩, ⟨5⟩]⟩, ⟨18446744073709551616002500000⟩⟩⟩

theorem fractional_json_round_trip :
    fractional.Storable ∧
      Json.read reader fractional.toJson.render =
        .ok ⟨"\"1\\2\"\n", "\x00é", 18446744073709551615, ⟨-1000000000, by decide⟩,
          ⟨0, ⟨[⟨1000000000⟩, ⟨0⟩]⟩, ⟨2000000⟩⟩⟩ ∧
      ¬ Json.read reader fractional.toJson.render = .ok fractional := by
  have storable : fractional.Storable := ⟨by decide, by decide, by decide⟩
  obtain ⟨once, same, -⟩ := json_round_trip storable
  exact ⟨storable, once, fun unchanged => absurd (same.mp unchanged).resultTtl (by decide)⟩

end Config

end Quarantine
