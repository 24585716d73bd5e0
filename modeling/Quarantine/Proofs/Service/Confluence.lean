import Quarantine.Proofs.Service.Verdicts

/-!
Scans of some documents that wait for a verdict, with an engine that judges bytes by what they are.
Whenever the scans are asked for, however many run at a time and in whatever order they make their
steps, they leave the same behind: what the stores hold at any time is told by which documents have
been judged, when, and which bytes have been released, and in the end that is all of them. Stores or
engines that fail, and uploads or sweeps meanwhile, are not covered.
-/

namespace Quarantine

/-- How far some scans have come: when each document was judged, if it was, and whether its bytes
have been released. -/
structure Headway where
  judgedAt : DocumentId → Option Instant
  released : DocumentId → Bool

namespace Headway

def none : Headway :=
  ⟨fun _ => .none, fun _ => false⟩

def judge (id : DocumentId) (time : Instant) (h : Headway) : Headway :=
  { h with judgedAt := fun j => if j = id then some time else h.judgedAt j }

def release (id : DocumentId) (h : Headway) : Headway :=
  { h with released := fun j => j = id || h.released j }

/-- Only some documents have been judged, and no bytes were released before that. -/
structure Among (ids : List DocumentId) (h : Headway) : Prop where
  judged : ∀ id, (h.judgedAt id).isSome = true → id ∈ ids
  released : ∀ id, h.released id = true → (h.judgedAt id).isSome = true

variable {ids : List DocumentId} {h : Headway} {id : DocumentId}

theorem Among.judge (among : h.Among ids) (own : id ∈ ids) (time : Instant) :
    (h.judge id time).Among ids where
  judged j judged := by
    by_cases same : j = id
    · exact same ▸ own
    · exact among.judged j (by simpa [Headway.judge, same] using judged)
  released j gone := by
    by_cases same : j = id
    · simp [Headway.judge, same]
    · simpa [Headway.judge, same] using among.released j gone

theorem Among.release (among : h.Among ids) (judged : (h.judgedAt id).isSome = true) :
    (h.release id).Among ids where
  judged := among.judged
  released j gone := by
    cases Bool.or_eq_true_iff.mp gone with
    | inl same => exact (of_decide_eq_true same) ▸ judged
    | inr gone => exact among.released j gone

end Headway

/-- A record without the time of its verdict. -/
def Document.untimed (d : Document) : Document :=
  { d with analyzedAt := none }

namespace Stores

variable (f : Bytes → Verdict) (s : Stores Payloads) {h : Headway} {id : DocumentId}

/-- The record of a document that has been judged by its bytes. -/
def judgedBy (h : Headway) (d : Document) : Document :=
  match h.judgedAt d.id, s.payloads.kept.get? d.id with
  | some time, some bytes => { d with status := (f bytes).status, analyzedAt := some time }
  | _, _ => d

/-- What has become of the stores when scans have come so far. -/
def scanned (h : Headway) : Stores Payloads where
  payloads := { s.payloads with kept := ⟨s.payloads.kept.entries.filter fun e => !h.released e.1⟩ }
  records := { s.records with documents := s.records.documents.map (s.judgedBy f h) }

theorem id_judgedBy (d : Document) : (s.judgedBy f h d).id = d.id := by
  unfold judgedBy
  split <;> rfl

theorem scanned_none : s.scanned f .none = s := by
  have records : s.judgedBy f .none = id := rfl
  have payloads : s.payloads.kept.entries.filter (fun e => !Headway.none.released e.1) =
      s.payloads.kept.entries := List.filter_eq_self.mpr fun _ _ => rfl
  rw [scanned, records, payloads, List.map_id]

theorem document?_scanned :
    (s.scanned f h).records.document? id = (s.records.document? id).map (s.judgedBy f h) := by
  simp only [scanned, Records.document?, List.find?_map]
  congr 2
  funext d
  simp only [Function.comp_apply, id_judgedBy]

theorem get?_scanned :
    (s.scanned f h).payloads.kept.get? id =
      if h.released id then none else s.payloads.kept.get? id := by
  simp only [scanned, Table.get?]
  induction s.payloads.kept.entries with
  | nil => simp
  | cons e rest ih =>
      by_cases own : e.1 = id
      · cases gone : h.released id with
        | true => simpa [own, gone] using ih
        | false => simp [own, gone]
      · cases gone : h.released e.1 <;> simp_all

theorem scanned_judge {bytes : Bytes} (kept : s.payloads.kept.get? id = some bytes)
    (time : Instant) :
    ({ s.scanned f h with
      records := (s.scanned f h).records.judge id (f bytes).status time } : Stores Payloads) =
      s.scanned f (h.judge id time) := by
  simp only [scanned, Records.judge, List.map_map, mk.injEq, Records.mk.injEq, true_and, and_true,
    Headway.judge]
  refine List.map_congr_left fun d _ => ?_
  simp only [Function.comp_apply, id_judgedBy]
  by_cases own : d.id = id
  · subst own
    simp only [judgedBy, kept, if_true]
    split <;> rfl
  · simp [judgedBy, own]

theorem scanned_release :
    ({ s.scanned f h with payloads := (s.scanned f h).payloads.drop id } : Stores Payloads) =
      s.scanned f (h.release id) := by
  simp only [scanned, Payloads.drop, Table.erase, List.filter_filter, Headway.release]
  congr 3
  refine List.filter_congr fun e _ => ?_
  by_cases own : e.1 = id <;> simp [own]

theorem untimed_judgedBy {h h' : Headway} {d : Document}
    (both : (h'.judgedAt d.id).isSome = true ↔ (h.judgedAt d.id).isSome = true) :
    (s.judgedBy f h' d).untimed = (s.judgedBy f h d).untimed := by
  unfold judgedBy
  cases first : h.judgedAt d.id with
  | none =>
      rw [first] at both
      rw [Option.not_isSome_iff_eq_none.mp (mt both.mp Bool.false_ne_true)]
  | some time =>
      obtain ⟨time', second⟩ := Option.isSome_iff_exists.mp (both.mpr (by rw [first]; rfl))
      rw [second]
      cases s.payloads.kept.get? d.id <;> rfl

/-- Both stores can be reached, and there are bytes and a record without a verdict of each of some
documents. -/
structure Awaiting (ids : List DocumentId) (s : Stores Payloads) : Prop where
  online : s.Online
  pending : ∀ id ∈ ids, ∃ d, s.records.document? id = some d ∧ d.isPending = true
  kept : ∀ id ∈ ids, ∃ bytes, s.payloads.kept.get? id = some bytes

/-- The stores are what some scans have made of others. -/
def From (f : Bytes → Verdict) (ids : List DocumentId) (s s' : Stores Payloads) : Prop :=
  ∃ h : Headway, h.Among ids ∧ s' = s.scanned f h

theorem isPending_judgedBy {d : Document} (judged : (s.judgedBy f h d).isPending = false)
    (pending : d.isPending = true) : (h.judgedAt d.id).isSome = true := by
  unfold judgedBy at judged
  split at judged
  · next at_ _ => rw [at_]; rfl
  · rw [pending] at judged
    cases judged

end Stores

/-- What a scan goes by: the bytes that were there at the beginning, and that what it has done
before has shown in the stores. -/
def Scan.Heeds (f : Bytes → Verdict) (start s : Stores Payloads) (scan : Scan) : Prop :=
  match scan.phase with
  | .queued | .opening => True
  | .analyzing _ source => ∃ bytes, start.payloads.kept.get? scan.id = some bytes ∧
      source = .ofBytes bytes
  | .recording _ v => ∃ bytes, start.payloads.kept.get? scan.id = some bytes ∧ v = f bytes
  | .releasing => ∃ d, s.records.document? scan.id = some d ∧ d.isPending = false
  | .ended => s.payloads.kept.get? scan.id = none
  | .resting _ _ | .crashed => False

/-- What the scans that look on go by is still so: a verdict stays, and bytes do not come again. -/
structure Stores.Leaves (s s' : Stores Payloads) : Prop where
  records : s.records.Lasts s'.records
  payloads : ∀ id, s.payloads.kept.get? id = none → s'.payloads.kept.get? id = none

theorem Scan.Heeds.mono {f : Bytes → Verdict} {start s s' : Stores Payloads} {scan : Scan}
    (heeds : scan.Heeds f start s) (leaves : s.Leaves s') : scan.Heeds f start s' := by
  obtain ⟨id, phase⟩ := scan
  cases phase with
  | queued | opening | analyzing _ _ | recording _ _ => exact heeds
  | releasing =>
      obtain ⟨d, found, judged⟩ := heeds
      obtain ⟨e, found', -, -, same⟩ := leaves.records id d found
      exact ⟨e, found', by rw [same judged, judged]⟩
  | ended => exact leaves.payloads id heeds
  | resting _ _ | crashed => exact heeds

theorem Stores.Leaves.rfl {s : Stores Payloads} : s.Leaves s :=
  ⟨.rfl, fun _ absent => absent⟩

/-- A call of a scan makes headway or none, and goes on by what it has seen. -/
theorem Scan.Goes.heeds {f : Bytes → Verdict} {ids : List DocumentId} {start s s' : Stores Payloads}
    {c : ScanSettings} {engine : String} {m : Moment} {id : DocumentId} {phase next : Scan.Phase}
    {t : Trace} (goes : Scan.Goes c engine m s id phase next s' t) (calm : m.Calm)
    (awaiting : start.Awaiting ids) (own : id ∈ ids) (made : start.From f ids s)
    (heeds : Scan.Heeds f start s ⟨id, phase⟩) :
    start.From f ids s' ∧ Scan.Heeds f start s' ⟨id, next⟩ ∧ s.Leaves s' := by
  obtain ⟨h, among, rfl⟩ := made
  obtain ⟨d, stored, pending⟩ := awaiting.pending id own
  have record : (start.scanned f h).records.document? id = some (start.judgedBy f h d) := by
    rw [Stores.document?_scanned, stored]
    rfl
  have online : (start.scanned f h).Online := awaiting.online
  cases goes with
  | opened fetched =>
      refine ⟨⟨h, among, rfl⟩, ?_, .rfl⟩
      have whole : m.Whole := fun e breaking => by rw [calm.1] at breaking; cases breaking
      obtain ⟨bytes, found, rfl⟩ := Stores.fetchPayload_ok m _ whole fetched
      rw [Stores.get?_scanned] at found
      split at found
      · cases found
      · exact ⟨bytes, found, rfl⟩
  | unopened failed =>
      refine ⟨⟨h, among, rfl⟩, ?_, .rfl⟩
      rw [Stores.fetchPayload_calm m _ calm.1 online.1] at failed
      show (start.scanned f h).payloads.kept.get? id = none
      split at failed
      · cases failed
      · assumption
  | reopened _ | retried _ => exact heeds.elim
  | recorded found unjudged =>
      obtain ⟨bytes, kept, rfl⟩ := heeds
      refine ⟨⟨h.judge id m.now, among.judge own m.now, start.scanned_judge f kept m.now⟩,
        ⟨_, by rw [Records.document?_judge, found]; rfl, ?_⟩,
        ⟨.judge found unjudged _ _, fun _ absent => absent⟩⟩
      dsimp only
      rw [if_pos (Records.id_of_document? found)]
      exact (f bytes).isPending_status
  | already refused =>
      exact ⟨⟨h, among, rfl⟩, Stores.judged_of_updateRecord m _ calm.2 refused, .rfl⟩
  | lost failed other =>
      exact absurd (Stores.alreadyAnalyzed_of_updateRecord m _ calm.2 online.2 record failed)
        (other id.text)
  | released deleted =>
      have judged : (h.judgedAt id).isSome = true := by
        obtain ⟨e, found, judged⟩ := heeds
        cases record.symm.trans found
        rw [← Records.id_of_document? stored]
        exact start.isPending_judgedBy f judged pending
      refine ⟨⟨h.release id, among.release judged, start.scanned_release f⟩, ?_,
        ⟨.rfl, fun j absent => ?_⟩⟩
      · exact (Payloads.get?_drop id id _).trans (if_pos rfl)
      · rw [Payloads.get?_drop, absent, ite_self]
  | unreleased failed =>
      exact ⟨⟨h, among, rfl⟩, Stores.absent_of_deletePayload m _ calm.grants online.1 failed, .rfl⟩

/-- An engine that is given bytes answers in time, with the verdict that is due to them. -/
def Scan.Prompt (f : Bytes → Verdict) (deadline : Nat) (p : Source × Scan.Answer) : Prop :=
  ∀ bytes, p.1.readAll = .ok bytes →
    ∃ latency ≤ deadline, p.2 = .within deadline latency (.ofResult (.ok (f bytes)))

theorem Scan.Prompt.answer {f : Bytes → Verdict} {deadline : Nat} {bytes : Bytes}
    {a : Scan.Answer} (prompt : Scan.Prompt f deadline (.ofBytes bytes, a)) :
    a = .verdict (f bytes) := by
  obtain ⟨latency, soon, answered⟩ := prompt bytes (Source.readAll_ofBytes bytes)
  exact answered.trans (if_pos soon)

theorem Scan.Prompt.of_verdict (f : Bytes → Verdict) (deadline : Nat) (bytes : Bytes) :
    Scan.Prompt f deadline (.ofBytes bytes, .verdict (f bytes)) := by
  intro read given
  cases (Source.readAll_ofBytes bytes).symm.trans given
  exact ⟨0, Nat.zero_le _, rfl⟩

theorem Scan.Heeds.answer {f : Bytes → Verdict} {start s : Stores Payloads} {c : ScanSettings}
    {engine : String} {a : Scan.Answer} (deadline : Nat) {scan next : Scan} {t : Trace}
    (heeds : scan.Heeds f start s) (answered : scan.answer c engine a = some (next, t))
    (prompt : ∀ attempt source, scan.phase = .analyzing attempt source →
      Scan.Prompt f deadline (source, a)) : next.Heeds f start s := by
  obtain ⟨id, phase⟩ := scan
  cases phase with
  | analyzing attempt source =>
      obtain ⟨bytes, kept, rfl⟩ := heeds
      obtain rfl := (prompt attempt _ rfl).answer
      cases answered
      exact ⟨bytes, kept, rfl⟩
  | queued | opening | resting _ _ | recording _ _ | releasing | ended | crashed => cases answered

namespace Action

/-- The document that is asked to be scanned. -/
def scheduled? : Action → Option DocumentId
  | .schedule id => some id
  | .submit _ | .upload _ | .drop _ | .enter _ | .scan _ | .answer _ _ | .sweep _ => none

/-- Scans of some documents are asked for, or go on. -/
def Scans (ids : List DocumentId) : Action → Prop
  | .schedule id => id ∈ ids
  | .enter _ | .scan _ | .answer _ _ => True
  | .submit _ | .upload _ | .drop _ | .sweep _ => False

instance (ids : List DocumentId) : DecidablePred (Scans ids)
  | .schedule id => inferInstanceAs (Decidable (id ∈ ids))
  | .enter _ | .scan _ | .answer _ _ => .isTrue trivial
  | .submit _ | .upload _ | .drop _ | .sweep _ => .isFalse id

end Action

namespace State

variable {ids : List DocumentId} {s₀ s s' : State Payloads} {steps : List (Moment × Action)}
  {t : Trace}

/-- The scans are those that were asked for, in that order. -/
theorem scans_of_run (scanning : ∀ x ∈ steps, x.2.Scans ids) (ran : s₀.run steps = some (s, t)) :
    s.scans.map (·.id) = s₀.scans.map (·.id) ++ steps.filterMap (·.2.scheduled?) := by
  refine run_induction (P := fun steps s _ => (∀ x ∈ steps, x.2.Scans ids) →
    s.scans.map (·.id) = s₀.scans.map (·.id) ++ steps.filterMap (·.2.scheduled?)) ?_ ?_ ran scanning
  · exact fun _ => (List.append_nil _).symm
  · intro steps s t x s' t' _ ih moved scanning
    have before := ih fun y h => scanning y (List.mem_append_left _ h)
    have own := scanning x List.mem_concat_self
    rw [List.filterMap_append, ← List.append_assoc, ← before]
    obtain ⟨m, a⟩ := x
    cases a with
    | schedule id =>
        obtain ⟨rfl, -⟩ := apply_schedule moved
        simp [State.schedule, Action.scheduled?]
    | enter i =>
        obtain ⟨scan, -, -, -, rfl, -⟩ := apply_enter moved
        exact (map_id_askPlace i s).trans (List.append_nil _).symm
    | scan i =>
        obtain ⟨scan, next, stores, trace, found, stepped, rfl, -⟩ := apply_scan moved
        have same := (Scan.goes_of_step stepped).1
        exact (map_id_putScan (s := { s with stores := stores }) found same).trans
          (List.append_nil _).symm
    | answer i a =>
        obtain ⟨scan, next, found, answered, rfl⟩ := apply_answer moved
        exact (map_id_putScan found (Scan.answer_cases answered).1).trans (List.append_nil _).symm
    | submit _ | upload _ | drop _ | sweep _ => exact own.elim

theorem asked_of_run (fresh : s₀.scans = []) (scanning : ∀ x ∈ steps, x.2.Scans ids)
    (ran : s₀.run steps = some (s, t)) : ∀ scan ∈ s.scans, scan.id ∈ ids := by
  intro scan stored
  have listed : scan.id ∈ s.scans.map (·.id) := List.mem_map.mpr ⟨scan, stored, rfl⟩
  rw [scans_of_run scanning ran, fresh] at listed
  obtain ⟨⟨m, a⟩, member, schedules⟩ := List.mem_filterMap.mp listed
  have allowed := scanning _ member
  cases a with
  | schedule id =>
      cases schedules
      exact allowed
  | submit _ | upload _ | drop _ | enter _ | scan _ | answer _ _ | sweep _ => cases schedules

/-- A run in which some documents are scanned, from its beginning until all scans are over: each of
the documents is asked for, and nothing else goes on; no store fails, and the engine is prompt. -/
structure Completes (f : Bytes → Verdict) (ids : List DocumentId) (stores : Stores Payloads)
    (c : Config) (engine : String) (steps : List (Moment × Action)) (s : State Payloads) :
    Prop where
  ran : ∃ t, (State.idle c engine stores).run steps = some (s, t)
  calm : ∀ x ∈ steps, x.1.Calm
  scanning : ∀ x ∈ steps, x.2.Scans ids
  all : ∀ id ∈ ids, id ∈ steps.filterMap (·.2.scheduled?)
  prompt : ∀ p ∈ (State.idle c engine stores).analyses steps,
    Scan.Prompt f c.scan.attemptTimeout.wait p
  finished : ∀ scan ∈ s.scans, scan.phase.isOver = true

variable {f : Bytes → Verdict} {stores : Stores Payloads} {c : Config} {engine : String}

def Heeds (f : Bytes → Verdict) (ids : List DocumentId) (start : Stores Payloads)
    (s : State Payloads) : Prop :=
  s.Each (start.From f ids) (fun _ _ => True) (Scan.Heeds f start)

theorem heeds_of_run {deadline : Nat} (awaiting : s₀.stores.Awaiting ids) (fresh : s₀.scans = [])
    (calm : ∀ x ∈ steps, x.1.Calm) (scanning : ∀ x ∈ steps, x.2.Scans ids)
    (prompt : ∀ p ∈ s₀.analyses steps, Scan.Prompt f deadline p)
    (ran : s₀.run steps = some (s, t)) : s.Heeds f ids s₀.stores := by
  refine run_induction (P := fun steps s _ => (∀ x ∈ steps, x.1.Calm) →
    (∀ x ∈ steps, x.2.Scans ids) → (∀ p ∈ s₀.analyses steps, Scan.Prompt f deadline p) →
    s.Heeds f ids s₀.stores) ?_ ?_ ran calm scanning prompt
  · intro _ _ _
    refine ⟨⟨.none, ⟨nofun, nofun⟩, (s₀.stores.scanned_none f).symm⟩, fun _ _ => trivial, ?_⟩
    rw [fresh]
    exact fun _ stored => absurd stored List.not_mem_nil
  · intro steps s t x s' t' ran ih moved calm scanning prompt
    have front : ∀ {y}, y ∈ steps → y ∈ steps ++ [x] := List.mem_append_left _
    have each := ih (fun y h => calm y (front h)) (fun y h => scanning y (front h)) fun p h =>
      prompt p (by rw [analyses_concat ran]; exact List.mem_append_left _ h)
    have own := scanning x List.mem_concat_self
    have asked := asked_of_run fresh (fun y h => scanning y (front h)) ran
    have still : Frame (fun _ _ => True) (fun _ _ => True) (Scan.Heeds f s₀.stores)
        (Scan.Heeds f s₀.stores) s.stores s.stores := ⟨fun _ own => own, fun _ own => own⟩
    refine each.apply moved ⟨each.stores, still⟩ (fun _ _ => trivial) (fun _ _ => trivial) ?upload
      trivial (fun _ _ => trivial) ?scan ?answer ?sweep
    case upload =>
      intro i u next stores trace action
      rw [action] at own
      exact own.elim
    case scan =>
      intro i scan next stores trace _ stored stepped _
      obtain ⟨same, goes⟩ := Scan.goes_of_step stepped
      obtain ⟨made, heeds, leaves⟩ := goes.heeds (calm x List.mem_concat_self) awaiting
        (asked scan stored) each.stores (each.scans scan stored)
      rw [← same] at heeds
      exact ⟨made, heeds, fun _ _ => trivial, fun _ own => own.mono leaves⟩
    case answer =>
      intro i a scan next action found answered
      refine (each.scans scan (List.mem_of_getElem? found)).answer deadline answered ?_
      intro attempt source analyzing
      obtain ⟨id, phase⟩ := scan
      cases analyzing
      refine prompt _ ?_
      simp [analyses_concat ran x, answered?, action, found]
    case sweep =>
      intro ttl stores action
      rw [action] at own
      exact own.elim

/-- When all scans are over, each of the documents has been judged, and its bytes released. -/
theorem Completes.scanned (run : Completes f ids stores c engine steps s)
    (awaiting : stores.Awaiting ids) :
    ∃ h : Headway, s.stores = stores.scanned f h ∧
      (∀ id, (h.judgedAt id).isSome = true ↔ id ∈ ids) ∧
      ∀ id, h.released id = true ↔ id ∈ ids := by
  obtain ⟨t, ran⟩ := run.ran
  have waiting : (State.idle c engine stores).stores.Awaiting ids := awaiting
  have each := heeds_of_run waiting rfl run.calm run.scanning run.prompt ran
  obtain ⟨h, among, made⟩ := each.stores
  have released : ∀ id ∈ ids, h.released id = true := by
    intro id own
    have listed : id ∈ s.scans.map (·.id) := by
      rw [scans_of_run run.scanning ran]
      exact List.mem_append_right _ (run.all id own)
    obtain ⟨⟨id, phase⟩, stored, rfl⟩ := List.mem_map.mp listed
    have finished := run.finished _ stored
    have heeds := each.scans _ stored
    cases phase with
    | ended =>
        obtain ⟨bytes, kept⟩ := awaiting.kept id own
        have gone : s.stores.payloads.kept.get? id = none := heeds
        rw [made, Stores.get?_scanned] at gone
        split at gone
        · assumption
        · cases kept.symm.trans gone
    | crashed => exact heeds.elim
    | queued | opening | resting _ _ | analyzing _ _ | recording _ _ | releasing => cases finished
  refine ⟨h, made, fun id => ⟨among.judged id, fun own => ?_⟩, fun id => ⟨fun gone => ?_, ?_⟩⟩
  · exact among.released id (released id own)
  · exact among.judged id (among.released id gone)
  · exact released id

/-- Scans of documents that wait for a verdict give each the verdict that is due to its bytes and
release these, and touch nothing else. So what is left behind does not depend on the capacity, nor
on when the scans are asked for and how their steps come one between another, but for the times of
the verdicts. -/
theorem scans_confluent (awaiting : stores.Awaiting ids)
    (run : Completes f ids stores c engine steps s) :
    (∀ id ∈ ids, ∃ d bytes time, stores.records.document? id = some d ∧
      stores.payloads.kept.get? id = some bytes ∧
      s.stores.records.document? id =
        some { d with status := (f bytes).status, analyzedAt := some time } ∧
      s.stores.payloads.kept.get? id = none) ∧
    (∀ id, id ∉ ids → s.stores.records.document? id = stores.records.document? id ∧
      s.stores.payloads.kept.get? id = stores.payloads.kept.get? id) ∧
    ∀ c' engine' steps' s', Completes f ids stores c' engine' steps' s' →
      s'.stores.payloads = s.stores.payloads ∧
      s'.stores.records.documents.map Document.untimed =
        s.stores.records.documents.map Document.untimed ∧
      s'.stores.records.online = s.stores.records.online := by
  obtain ⟨h, made, judged, released⟩ := run.scanned awaiting
  refine ⟨fun id own => ?_, fun id other => ?_, fun c' engine' steps' s' run' => ?_⟩
  · obtain ⟨d, stored, -⟩ := awaiting.pending id own
    obtain ⟨bytes, kept⟩ := awaiting.kept id own
    obtain ⟨time, at_⟩ := Option.isSome_iff_exists.mp ((judged id).mpr own)
    have same := Records.id_of_document? stored
    refine ⟨d, bytes, time, stored, kept, ?_, ?_⟩
    · rw [made, Stores.document?_scanned, stored, Option.map_some, Stores.judgedBy, same, at_, kept]
    · rw [made, Stores.get?_scanned, if_pos ((released id).mpr own)]
  · have unjudged : h.judgedAt id = none := by
      simpa using mt (judged id).mp other
    have unreleased := mt (released id).mp other
    refine ⟨?_, by rw [made, Stores.get?_scanned, if_neg unreleased]⟩
    rw [made, Stores.document?_scanned]
    cases stored : stores.records.document? id with
    | none => rfl
    | some d =>
        rw [Option.map_some, Stores.judgedBy, Records.id_of_document? stored, unjudged]
  · obtain ⟨h', made', judged', released'⟩ := run'.scanned awaiting
    have gone : h'.released = h.released :=
      funext fun id => Bool.eq_iff_iff.mpr ((released' id).trans (released id).symm)
    rw [made, made']
    refine ⟨by simp only [Stores.scanned, gone], ?_, rfl⟩
    simp only [Stores.scanned, List.map_map]
    refine List.map_congr_left fun d _ => ?_
    exact stores.untimed_judgedBy f ((judged' d.id).trans (judged d.id).symm)

/-- One content that is infected, and one that is not. -/
def twoWaiting : Stores Payloads where
  payloads := { Payloads.empty with kept := ⟨[(⟨"a"⟩, [7]), (⟨"b"⟩, [8])]⟩ }
  records := { Records.empty with
    documents := [.fresh ⟨"a"⟩ "7" "" default, .fresh ⟨"b"⟩ "8" "" default] }

def sevens (bytes : Bytes) : Verdict :=
  if bytes = [7] then .infected "sevens" else .clean

/-- One after the other, and the second is asked for late. -/
def inTurn : List (Moment × Action) :=
  calmly 0 [.schedule ⟨"a"⟩, .enter 0, .scan 0, .answer 0 (.verdict (.infected "sevens")), .scan 0,
      .scan 0] ++
    calmly 9 [.schedule ⟨"b"⟩, .enter 1, .scan 1, .answer 1 (.verdict .clean), .scan 1, .scan 1]

/-- All at a time, the first of them twice. -/
def atOnce : List (Moment × Action) :=
  calmly 5 [.schedule ⟨"b"⟩, .schedule ⟨"a"⟩, .schedule ⟨"a"⟩, .enter 2, .enter 1, .enter 0,
    .scan 1, .scan 2, .scan 0, .answer 2 (.verdict (.infected "sevens")),
    .answer 1 (.verdict (.infected "sevens")), .scan 1, .answer 0 (.verdict .clean), .scan 2,
    .scan 0, .scan 2, .scan 1, .scan 0]

theorem completes_of_answers {p : State Payloads × Trace}
    (ran : p ∈ (State.idle c engine stores).run steps)
    (calm : ∀ x ∈ steps, x.1.Calm) (scanning : ∀ x ∈ steps, x.2.Scans ids)
    (all : ∀ id ∈ ids, id ∈ steps.filterMap (·.2.scheduled?))
    (answers : ∀ q ∈ (State.idle c engine stores).analyses steps,
      q = (.ofBytes q.1.bytes, .verdict (f q.1.bytes)))
    (finished : ∀ scan ∈ p.1.scans, scan.phase.isOver = true) :
    Completes f ids stores c engine steps p.1 := by
  refine ⟨⟨p.2, ran⟩, calm, scanning, all, fun q answered => ?_, finished⟩
  rw [answers q answered]
  exact .of_verdict f _ _

theorem scans_confluent_in_turn_and_at_once :
    twoWaiting.Awaiting [⟨"a"⟩, ⟨"b"⟩] ∧
      ∃ s s', Completes sevens [⟨"a"⟩, ⟨"b"⟩] twoWaiting (Config.standard.withScanConcurrency 1)
          "engine" inTurn s ∧
        Completes sevens [⟨"a"⟩, ⟨"b"⟩] twoWaiting .standard "engine" atOnce s' ∧
        s'.stores.payloads = s.stores.payloads ∧
        s'.stores.records.documents.map Document.untimed =
          s.stores.records.documents.map Document.untimed := by
  have awaiting : twoWaiting.Awaiting [⟨"a"⟩, ⟨"b"⟩] := by
    refine ⟨⟨rfl, rfl⟩, fun id own => ?_, fun id own => ?_⟩
    · have stored : ∀ id ∈ [(⟨"a"⟩ : DocumentId), ⟨"b"⟩],
          ∃ d ∈ twoWaiting.records.document? id, d.isPending = true := by decide
      exact stored id own
    · have kept : ∀ id ∈ [(⟨"a"⟩ : DocumentId), ⟨"b"⟩],
          (twoWaiting.payloads.kept.get? id).isSome = true := by decide
      exact Option.isSome_iff_exists.mp (kept id own)
  obtain ⟨p, ran, finished⟩ : ∃ p ∈ (State.idle (Config.standard.withScanConcurrency 1) "engine"
      twoWaiting).run inTurn, ∀ scan ∈ p.1.scans, scan.phase.isOver = true := by decide +kernel
  obtain ⟨p', ran', finished'⟩ : ∃ p ∈ (State.idle .standard "engine" twoWaiting).run atOnce,
      ∀ scan ∈ p.1.scans, scan.phase.isOver = true := by decide +kernel
  have first : Completes sevens [⟨"a"⟩, ⟨"b"⟩] twoWaiting (Config.standard.withScanConcurrency 1)
      "engine" inTurn p.1 := completes_of_answers ran (by decide) (by decide) (by decide)
    (by decide +kernel) finished
  have second : Completes sevens [⟨"a"⟩, ⟨"b"⟩] twoWaiting .standard "engine" atOnce p'.1 :=
    completes_of_answers ran' (by decide) (by decide) (by decide) (by decide +kernel) finished'
  obtain ⟨-, -, alike⟩ := scans_confluent awaiting first
  obtain ⟨payloads, records, -⟩ := alike _ _ _ _ second
  exact ⟨awaiting, p.1, p'.1, first, second, payloads, records⟩

end State

end Quarantine
