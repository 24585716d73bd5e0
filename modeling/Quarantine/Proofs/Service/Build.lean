import Quarantine.Service.Build

/-!
What comes of building a service. Nothing is refused but a part that is missing or does not answer.
If all are there and answer, the configuration alone decides: up to the most places that can be
counted there is a service, which is swept if records are kept for some time, and above it the
building breaks down.
-/

namespace Quarantine

variable {σ : Type} [PayloadStore σ] {m : Moment}

/-- All the parts are there, and each of them answers to a ping. -/
structure Parts.Answering (m : Moment) (parts : Parts σ) (engine : String) (stores : Stores σ) :
    Prop where
  given : parts = ⟨some stores.payloads, some stores.records, some (engine, .ok ())⟩
  payloads : stores.pingPayloads m = .ok ()
  records : stores.pingRecords m = .ok ()

theorem Stores.ping_ok_iff {s : Stores σ} {engine : String} {answer : Except ScanError Unit} :
    (s.ping m engine answer).1 = .ok () ↔
      s.pingPayloads m = .ok () ∧ s.pingRecords m = .ok () ∧ answer = .ok () := by
  unfold Stores.ping
  cases s.pingPayloads m with
  | error e => simp
  | ok _ =>
      cases s.pingRecords m with
      | error e => simp
      | ok _ => cases answer <;> simp

namespace Service

/-- The calls that are made before a service is built. -/
def pings : Trace :=
  [.call .pingPayloads, .call .pingRecords, .call .pingEngine]

section Period

variable {c : Config}

/-- Records are swept as often as the time that they are kept, if that is positive. -/
theorem sweepPeriod?_eq_some_iff {period : Duration} :
    sweepPeriod? c = some period ↔
      0 < c.resultTtl.nanos ∧ (period.nanos : Int) = c.resultTtl.nanos := by
  obtain ⟨nanos⟩ := period
  simp only [sweepPeriod?, Span.toDuration?, Span.isPositive, decide_eq_true_eq]
  split
  · simp only [Option.some.injEq, Duration.mk.injEq]
    omega
  · simp only [reduceCtorEq, false_iff]
    omega

theorem sweepPeriod?_isSome_iff : (sweepPeriod? c).isSome = true ↔ 0 < c.resultTtl.nanos := by
  rw [Option.isSome_iff_exists]
  constructor
  · rintro ⟨period, swept⟩
    exact (sweepPeriod?_eq_some_iff.mp swept).1
  · intro positive
    exact ⟨⟨c.resultTtl.nanos.toNat⟩, sweepPeriod?_eq_some_iff.mpr ⟨positive, by simp; omega⟩⟩

/-- A sweeper is announced if and only if records are swept. -/
theorem sweeperStarted_mem_announcement {engine : String} :
    (∃ seconds, .notice (.sweeperStarted seconds) ∈ announcement c engine) ↔
      0 < c.resultTtl.nanos := by
  rw [← sweepPeriod?_isSome_iff]
  cases swept : sweepPeriod? c with
  | none => simp [announcement, swept, Entry.notice]
  | some period => simp [announcement, swept, Entry.notice]

end Period

variable {c : Config} {parts : Parts σ} {engine : String} {stores : Stores σ}

theorem build_of_answering (answering : parts.Answering m engine stores) :
    build m c parts =
      if maxPlaces < c.scan.places then (.crashed, pings)
      else (.ready (.idle c engine stores), pings ++ announcement c engine) := by
  have answered : (stores.ping m engine (.ok ())).1 = .ok () :=
    Stores.ping_ok_iff.mpr ⟨answering.payloads, answering.records, rfl⟩
  rw [answering.given]
  simp only [build, assemble, answered]
  rfl

/-- Only a part that is missing or does not answer makes a service be refused. -/
theorem refused_iff :
    (∃ e, (build m c parts).1 = .refused e) ↔
      ¬ ∃ engine stores, parts.Answering m engine stores := by
  constructor
  · rintro ⟨e, refused⟩ ⟨engine, stores, answering⟩
    rw [build_of_answering answering] at refused
    split at refused <;> cases refused
  · intro unanswered
    obtain ⟨payloads, records, engine⟩ := parts
    cases payloads with
    | none => exact ⟨_, rfl⟩
    | some payloads =>
        cases records with
        | none => exact ⟨_, rfl⟩
        | some records =>
            cases engine with
            | none => exact ⟨_, rfl⟩
            | some engine =>
                obtain ⟨engine, answer⟩ := engine
                simp only [build, assemble]
                cases pinged : ((⟨payloads, records⟩ : Stores σ).ping m engine answer).1 with
                | error e => exact ⟨e, rfl⟩
                | ok _ =>
                    obtain ⟨first, second, rfl⟩ := Stores.ping_ok_iff.mp pinged
                    exact absurd ⟨engine, ⟨payloads, records⟩, rfl, first, second⟩ unanswered

/-- If all parts are there and answer, then a service is built exactly if its places can be counted:
it is idle, has at least one place, and is swept in the background exactly if records are not kept
for ever, at a period that is not zero. Otherwise the building breaks down, and is not refused. -/
theorem build_ready_iff (m : Moment) (c : Config) (parts : Parts σ) :
    ((∃ e, (build m c parts).1 = .refused e) ↔
        ¬ ∃ engine stores, parts.Answering m engine stores) ∧
      ∀ engine stores, parts.Answering m engine stores →
        (c.scan.capacity ≤ maxPlaces →
          build m c parts =
            (.ready (.idle c engine stores), pings ++ announcement c engine)) ∧
        (maxPlaces < c.scan.capacity → build m c parts = (.crashed, pings)) ∧
        (State.idle c engine stores).capacity = max 1 c.scan.capacity ∧
        ((∃ seconds, .notice (.sweeperStarted seconds) ∈ announcement c engine) ↔
          0 < c.resultTtl.nanos) ∧
        ((sweepPeriod? c).isSome = true ↔ 0 < c.resultTtl.nanos) ∧
        ∀ period, sweepPeriod? c = some period →
          0 < period.nanos ∧ (period.nanos : Int) = c.resultTtl.nanos := by
  refine ⟨refused_iff, fun engine stores answering => ?_⟩
  have built := build_of_answering (c := c) answering
  have countable : maxPlaces < c.scan.places ↔ maxPlaces < c.scan.capacity := by
    simp only [ScanSettings.places, maxPlaces]
    omega
  refine ⟨fun few => ?_, fun many => ?_, Nat.max_comm _ _, sweeperStarted_mem_announcement,
    sweepPeriod?_isSome_iff, fun period swept => ?_⟩
  · rw [built, if_neg (by rw [countable]; omega)]
  · rw [built, if_pos (countable.mpr many)]
  · obtain ⟨positive, same⟩ := sweepPeriod?_eq_some_iff.mp swept
    exact ⟨by omega, same⟩

/-- As many places as can be counted, and results that are kept for less than a second. -/
def utmost : Config :=
  (Config.standard.withScanConcurrency maxPlaces).withResultTtl ⟨1, by decide⟩

theorem utmost_build_ready :
    (build (.calm default) utmost ⟨some Payloads.empty, some .empty, some ("engine", .ok ())⟩).1 =
        .ready (.idle utmost "engine" ⟨.empty, .empty⟩) ∧
      (State.idle utmost "engine" (⟨.empty, .empty⟩ : Stores Payloads)).capacity = maxPlaces ∧
      (sweepPeriod? utmost).isSome = true := by
  obtain ⟨-, built⟩ := build_ready_iff (.calm default) utmost
    ⟨some Payloads.empty, some .empty, some ("engine", .ok ())⟩
  obtain ⟨ready, -, places, -, swept, -⟩ := built "engine" ⟨.empty, .empty⟩ ⟨rfl, rfl, rfl⟩
  refine ⟨?_, places, swept.mpr (by decide)⟩
  rw [ready (by decide)]

/-- One place more than can be counted. -/
def boundless : Config :=
  Config.standard.withScanConcurrency 2305843009213693952

theorem boundless_build_crashes :
    (Json.read Config.reader
        "\x7b\"scan\":\x7b\"capacity\":2305843009213693952\x7d\x7d").toOption =
          some boundless ∧
      Parts.Answering (.calm default) ⟨some Payloads.empty, some .empty, some ("engine", .ok ())⟩
        "engine" ⟨.empty, .empty⟩ ∧
      (build (.calm default) boundless
        ⟨some Payloads.empty, some .empty, some ("engine", .ok ())⟩).1 = .crashed :=
  ⟨by decide +kernel, ⟨rfl, rfl, rfl⟩, rfl⟩

end Service

end Quarantine
