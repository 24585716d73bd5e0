import Quarantine.Proofs.Service.Origin
import Quarantine.Service.Build

/-!
A document that waits for its verdict has its bytes, as long as no call fails and no record is swept
away. Bytes are taken away by a scan that has seen a verdict written down and by an upload that has
seen one in its way. So whoever is about to take bytes away knows of a verdict, and it stays, for
nothing removes a record.
-/

namespace Quarantine

/-- A service of this configuration does this. It sweeps only if records are ever out of date, and
then by its own span. -/
def Action.Serves (c : Config) : Action → Prop
  | .sweep ttl => ttl = c.resultTtl ∧ (Service.sweepPeriod? c).isSome
  | _ => True

instance (c : Config) : DecidablePred (Action.Serves c)
  | .sweep _ => inferInstanceAs (Decidable (_ ∧ _))
  | .submit _ | .upload _ | .drop _ | .schedule _ | .enter _ | .scan _ | .answer _ _ =>
    inferInstanceAs (Decidable True)

namespace Stores

/-- The record under an id has a verdict. -/
def Judges (s : Stores Payloads) (id : DocumentId) : Prop :=
  ∃ d, s.records.document? id = some d ∧ d.isPending = false

/-- There are bytes under an id, or its record needs none. -/
def Covers (s : Stores Payloads) (id : DocumentId) : Prop :=
  (∃ bytes, s.payloads.kept.get? id = some bytes) ∨ s.Judges id

/-- Every record that needs bytes has them. -/
structure Covered (s : Stores Payloads) : Prop where
  online : s.records.online = true
  record : ∀ id d, s.records.document? id = some d → s.Covers id

/-- Records stay, and what was covered in the old stores is so in the new ones. -/
structure Grows (old new : Stores Payloads) : Prop where
  lasts : old.records.Lasts new.records
  covers : ∀ id, old.Covers id → new.Covers id

end Stores

/-- An upload that is about to write a record has seen to it that the record is covered. One that is
about to take bytes away knows of a verdict. -/
def Upload.Careful (s : Stores Payloads) : Upload → Prop
  | .inherit _ _ source => source.isPending = false
  | .create identity _ => s.Covers identity.id
  | .discard id _ => s.Judges id
  | .lookup _ _ _ | .keep _ _ _ | .inspect _ | .settled _ | .dropped => True

/-- A scan that is about to take bytes away knows of a verdict. -/
def Scan.Careful (s : Stores Payloads) (scan : Scan) : Prop :=
  scan.phase = .releasing → s.Judges scan.id

namespace Stores

variable {s s' : Stores Payloads}

theorem Judges.mono {id : DocumentId} (judges : s.Judges id) (lasts : s.records.Lasts s'.records) :
    s'.Judges id := by
  obtain ⟨d, found, verdict⟩ := judges
  obtain ⟨e, found, -, -, same⟩ := lasts id d found
  exact ⟨e, found, by rw [same verdict]; exact verdict⟩

theorem Grows.rfl : s.Grows s :=
  ⟨.rfl, fun _ covers => covers⟩

theorem Grows.of_lasts {records : Records} (lasts : s.records.Lasts records) :
    s.Grows { s with records := records } :=
  ⟨lasts, fun _ covers => covers.imp_right fun judges => judges.mono lasts⟩

theorem Grows.frame (grows : s.Grows s') :
    State.Frame Upload.Careful Upload.Careful Scan.Careful Scan.Careful s s' where
  upload u careful := by
    cases u with
    | create identity tag => exact grows.covers _ careful
    | discard id result => exact Judges.mono careful grows.lasts
    | inherit _ _ _ => exact careful
    | lookup _ _ _ | keep _ _ _ | inspect _ | settled _ | dropped => trivial
  scan _ careful releasing := (careful releasing).mono grows.lasts

theorem covered_empty : Stores.empty.Covered where
  online := rfl
  record := by intro id d found; cases found

theorem judges_add {d : Document} (verdict : d.isPending = false) :
    ({ s with records := s.records.add d } : Stores Payloads).Judges d.id :=
  ⟨d, by rw [Records.document?_add, if_pos rfl], verdict⟩

theorem Covered.add {d : Document} (covered : s.Covered) (free : s.records.document? d.id = none)
    (covers : ({ s with records := s.records.add d } : Stores Payloads).Covers d.id) :
    ({ s with records := s.records.add d } : Stores Payloads).Covered where
  online := covered.online
  record id e found := by
    rw [Records.document?_add] at found
    split at found
    · next same => rw [← same]; exact covers
    · exact (Grows.of_lasts (.add free)).covers id (covered.record id e found)

section Judge

variable {id : DocumentId} {d : Document} {status : Status}
  (found : s.records.document? id = some d) (time : Instant)

include found

theorem judges_judge (verdict : status.isPending = false) :
    ({ s with records := s.records.judge id status time } : Stores Payloads).Judges id :=
  ⟨{ d with status := status, analyzedAt := some time }, by
    rw [Records.document?_judge, found, Option.map_some, if_pos (Records.id_of_document? found)],
    verdict⟩

theorem Covered.judge (covered : s.Covered) (pending : d.isPending = true) :
    ({ s with records := s.records.judge id status time } : Stores Payloads).Covered where
  online := covered.online
  record j e stored := by
    rw [Records.document?_judge] at stored
    obtain ⟨f, old, -⟩ := Option.map_eq_some_iff.mp stored
    exact (Grows.of_lasts (.judge found pending status time)).covers j (covered.record j f old)

end Judge

theorem covers_keep (id : DocumentId) (bytes : Bytes) :
    ({ s with payloads := s.payloads.keep id bytes } : Stores Payloads).Covers id :=
  .inl ⟨bytes, by rw [Payloads.get?_keep, if_pos rfl]⟩

theorem Grows.keep (id : DocumentId) (bytes : Bytes) :
    s.Grows { s with payloads := s.payloads.keep id bytes } where
  lasts := .rfl
  covers j covers := by
    by_cases same : j = id
    · subst same
      exact covers_keep j bytes
    · refine covers.imp_left ?_
      rintro ⟨held, found⟩
      exact ⟨held, by rw [Payloads.get?_keep, if_neg same, found]⟩

theorem Grows.drop {id : DocumentId} (judged : s.Judges id) :
    s.Grows { s with payloads := s.payloads.drop id } where
  lasts := .rfl
  covers j covers := by
    by_cases same : j = id
    · subst same
      exact .inr judged
    · refine covers.imp_left ?_
      rintro ⟨held, found⟩
      exact ⟨held, by rw [Payloads.get?_drop, if_neg same, found]⟩

theorem Covered.payloads {payloads : Payloads} (covered : s.Covered)
    (grows : s.Grows { s with payloads := payloads }) :
    ({ s with payloads := payloads } : Stores Payloads).Covered where
  online := covered.online
  record id d found := grows.covers id (covered.record id d found)

theorem Covered.upload {m : Moment} {u next : Upload} {t : Trace} (covered : s.Covered)
    (calm : m.Calm) (careful : u.Careful s) (goes : Upload.Goes m s u next s' t) :
    s'.Covered ∧ next.Careful s' ∧ s.Grows s' := by
  have lasts := goes.lasts
  cases goes with
  | known _ _ | other _ _ _ | unknown _ _ | unread _ _ | uninherited _ | unkept _ | taken _ _
  | winnerPending _ _ | winnerUnread _ | undiscarded _ => exact ⟨covered, trivial, .rfl⟩
  | judged _ _ judged => exact ⟨covered, judged, .rfl⟩
  | inherited free => exact ⟨covered.add free (.inr (judges_add careful)), trivial, .of_lasts lasts⟩
  | @kept identity content _ _ =>
      have grows : s.Grows _ := .keep identity.id (content.take identity.size)
      exact ⟨covered.payloads grows, covers_keep _ _, grows⟩
  | created free =>
      have grows := Grows.of_lasts lasts
      exact ⟨covered.add free (grows.covers _ careful), trivial, grows⟩
  | uncreated failed refused =>
      rw [s.alreadyExists_of_saveRecord m calm.2 covered.online failed] at refused
      cases refused
  | winnerJudged got judged => exact ⟨covered, ⟨_, s.getRecord_ok m got, judged⟩, .rfl⟩
  | discarded _ =>
      have grows : s.Grows _ := .drop careful
      exact ⟨covered.payloads grows, trivial, grows⟩

theorem Covered.scan {c : ScanSettings} {engine : String} {m : Moment} {id : DocumentId}
    {phase next : Scan.Phase} {t : Trace} (covered : s.Covered) (calm : m.Calm)
    (careful : Scan.Careful s ⟨id, phase⟩) (goes : Scan.Goes c engine m s id phase next s' t) :
    s'.Covered ∧ Scan.Careful s' ⟨id, next⟩ ∧ s.Grows s' := by
  cases goes with
  | opened _ | unopened _ | reopened _ | lost _ _ | unreleased _ =>
      exact ⟨covered, fun releasing => (by cases releasing), .rfl⟩
  | retried _ =>
      refine ⟨covered, Scan.retry_phase (P := fun phase => Scan.Careful s ⟨id, phase⟩) ?_ ?_, .rfl⟩
      · intro wait releasing
        cases releasing
      · intro releasing
        cases releasing
  | @recorded _ verdict _ found pending =>
      -- The verdict is written down before the bytes go, so the scan knows of one.
      exact ⟨covered.judge found m.now pending,
        fun _ => judges_judge found m.now verdict.isPending_status,
        .of_lasts (.judge found pending _ _)⟩
  | already refused => exact ⟨covered, fun _ => s.judged_of_updateRecord m calm.2 refused, .rfl⟩
  | released _ =>
      have grows : s.Grows _ := .drop (careful rfl)
      exact ⟨covered.payloads grows, fun releasing => (by cases releasing), grows⟩

end Stores

namespace State

variable {c : Config} {engine : String} {steps : List (Moment × Action)} {s : State Payloads}
  {t : Trace}

theorem Covered.apply {m : Moment} {a : Action} {s' : State Payloads}
    (each : s.Each Stores.Covered Upload.Careful Scan.Careful) (calm : m.Calm)
    (unswept : ∀ span, a ≠ .sweep span) (moved : s.apply m a = some (s', t)) :
    s'.Each Stores.Covered Upload.Careful Scan.Careful := by
  refine each.apply moved ⟨each.stores, Stores.Grows.rfl.frame⟩
    (fun _ _ => fun releasing => by cases releasing) ?submit ?upload trivial
    (fun _ _ => fun releasing => by cases releasing) ?scan ?answer
    (fun span _ action _ => absurd action (unswept span))
  case submit =>
    intro r _
    exact Upload.start_of (P := Upload.Careful s.stores) (fun _ => trivial) fun _ _ _ => trivial
  case upload =>
    intro i u next stores trace _ stored stepped _
    obtain ⟨covered, careful, grows⟩ :=
      each.stores.upload calm (each.uploads u stored) (Upload.goes_of_step stepped)
    exact ⟨covered, careful, grows.frame⟩
  case scan =>
    intro i scan next stores trace _ stored stepped _
    obtain ⟨same, goes⟩ := Scan.goes_of_step stepped
    obtain ⟨covered, careful, grows⟩ := each.stores.scan calm (each.scans scan stored) goes
    exact ⟨covered, fun releasing => same ▸ careful releasing, grows.frame⟩
  case answer =>
    intro i answer scan next _ _ answered releasing
    obtain ⟨-, attempt, source, -, went⟩ := Scan.answer_cases answered
    obtain ⟨v, -, recording⟩ | ⟨wait, resting⟩ | finished := went
    · cases recording.symm.trans releasing
    · cases resting.symm.trans releasing
    · rw [releasing] at finished
      cases finished

/-- In a calm run without sweeps every record that needs bytes has them. -/
theorem covered_of_run (ttl : c.resultTtl.nanos ≤ 0) (calm : ∀ x ∈ steps, x.1.Calm)
    (serves : ∀ x ∈ steps, x.2.Serves c)
    (ran : (State.idle c engine Stores.empty).run steps = some (s, t)) :
    s.Each Stores.Covered Upload.Careful Scan.Careful := by
  refine run_induction (P := fun steps s _ => (∀ x ∈ steps, x.1.Calm ∧ x.2.Serves c) →
    s.Each Stores.Covered Upload.Careful Scan.Careful) ?_ ?_ ran fun x h => ⟨calm x h, serves x h⟩
  · intro _
    exact Each.idle Stores.covered_empty c engine
  · intro steps s t x s' t' _ ih moved right
    have each := ih fun y h => right y (List.mem_append_left _ h)
    obtain ⟨calm, serves⟩ := right x (List.mem_append_right _ List.mem_cons_self)
    refine Covered.apply each calm ?_ moved
    intro span action
    -- Records that are kept for ever are not swept.
    rw [action] at serves
    have never : ¬ 0 < c.resultTtl.nanos := Int.not_lt.mpr ttl
    simp [Action.Serves, Service.sweepPeriod?, Span.toDuration?, Span.isPositive, never] at serves

/-- A document that waits for its verdict has its bytes. -/
theorem pending_has_bytes (ttl : c.resultTtl.nanos ≤ 0) (calm : ∀ x ∈ steps, x.1.Calm)
    (serves : ∀ x ∈ steps, x.2.Serves c)
    (ran : (State.idle c engine Stores.empty).run steps = some (s, t)) :
    ∀ d ∈ s.stores.records.documents, d.status = .pending →
      ∃ bytes, s.stores.payloads.kept.get? d.id = some bytes := by
  intro d stored pending
  have found := (originates ran).stores.distinct.document?_of_mem stored
  cases (covered_of_run ttl calm serves ran).stores.record d.id d found with
  | inl bytes => exact bytes
  | inr verdict =>
      obtain ⟨e, judged, verdict⟩ := verdict
      cases found.symm.trans judged
      rw [Document.isPending, pending] at verdict
      cases verdict

/-- Two uploads of one content keep its bytes before either has recorded it. The first records it,
and its scan comes to nothing yet; the second leaves its bytes where they are. -/
def race : List (Moment × Action) :=
  calmly 0 [.submit (.ofBytes [7]), .submit (.ofBytes [7]), .upload 0, .upload 1, .upload 0,
    .upload 1, .upload 0, .upload 1, .enter 0, .scan 0, .answer 0 .late, .upload 1]

theorem race_keeps_bytes :
    ∃ p ∈ (State.idle (Config.standard.withResultTtl ⟨0, by decide⟩) "engine" .empty).run race,
      ∃ d ∈ p.1.stores.records.documents, d.status = .pending ∧
        ∃ bytes, p.1.stores.payloads.kept.get? d.id = some bytes := by
  obtain ⟨p, ran, d, stored, pending⟩ :
      ∃ p ∈ (State.idle (Config.standard.withResultTtl ⟨0, by decide⟩) "engine" .empty).run race,
        ∃ d ∈ p.1.stores.records.documents, d.status = .pending := by decide +kernel
  exact ⟨p, ran, d, stored, pending,
    pending_has_bytes (by decide) (by decide) (by decide) ran d stored pending⟩

end State

end Quarantine
