import Quarantine.Proofs.Service.Pending

/-!
Whose bytes they are. Bytes belong to a document that waits for its verdict, to an upload that has
kept them and goes on, or to a scan that is about to release them. Ownership passes from one to the
next, and in a service at rest only documents are left to own any.

There is one gap. An upload that finds a record in its way looks at it again, to see whether the
bytes are still needed. If the record has been swept away in the meantime, the upload leaves the
bytes where they are, and nobody owns them any more. So the law holds up to that case, of which the
log tells, and without sweeps it holds throughout.
-/

namespace Quarantine

/-- Whether the caller of an upload goes away. -/
def Action.drops : Action → Bool
  | .drop _ => true
  | .submit _ | .upload _ | .schedule _ | .enter _ | .scan _ | .answer _ _ | .sweep _ => false

namespace Stores

/-- A record under this id waits for its verdict. -/
def Pends (s : Stores Payloads) (id : DocumentId) : Prop :=
  ∃ d ∈ s.records.documents, d.id = id ∧ d.isPending = true

def Keeps (s : Stores Payloads) (id : DocumentId) : Prop :=
  (s.payloads.kept.get? id).isSome = true

variable {s : Stores Payloads} {id : DocumentId}

theorem Pends.add (pends : s.Pends id) (d : Document) :
    ({ s with records := s.records.add d } : Stores Payloads).Pends id := by
  obtain ⟨e, stored, own⟩ := pends
  exact ⟨e, List.mem_cons_of_mem d stored, own⟩

theorem Pends.judge (pends : s.Pends id) {j : DocumentId} (other : j ≠ id) (status : Status)
    (time : Instant) :
    ({ s with records := s.records.judge j status time } : Stores Payloads).Pends id := by
  obtain ⟨e, stored, own, pending⟩ := pends
  refine ⟨e, s.records.mem_judge.mpr (.inl ⟨stored, fun same => ?_⟩), own, pending⟩
  exact other (same.symm.trans own)

/-- What waits for its verdict is never out of date. -/
theorem Pends.purged (pends : s.Pends id) (cutoff : Instant) :
    ({ s with records := s.records.purged cutoff } : Stores Payloads).Pends id := by
  obtain ⟨e, stored, own, pending⟩ := pends
  refine ⟨e, s.records.mem_purged.mpr ⟨stored, ?_⟩, own, pending⟩
  rw [Document.isPurgeable, pending]
  rfl

theorem keeps_of_keep {j : DocumentId} {bytes : Bytes} (other : j ≠ id)
    (kept : ({ s with payloads := s.payloads.keep j bytes } : Stores Payloads).Keeps id) :
    s.Keeps id := by
  rw [Keeps, Payloads.get?_keep, if_neg other.symm] at kept
  exact kept

theorem keeps_of_drop {j : DocumentId}
    (kept : ({ s with payloads := s.payloads.drop j } : Stores Payloads).Keeps id) :
    j ≠ id ∧ s.Keeps id := by
  have other : j ≠ id := by
    intro same
    rw [Keeps, Payloads.get?_drop, if_pos same.symm] at kept
    cases kept
  rw [Keeps, Payloads.get?_drop, if_neg other.symm] at kept
  exact ⟨other, kept⟩

/-- Nothing refuses to delete bytes that are there. -/
theorem ne_of_deletePayload {m : Moment} {j : DocumentId} {e : StorageError} (calm : m.Calm)
    (online : s.Online) (failed : s.deletePayload m j = (.error e, s)) (kept : s.Keeps id) :
    j ≠ id := by
  intro same
  have absent := s.absent_of_deletePayload m calm.grants online.1 failed
  rw [Keeps, ← same, absent] at kept
  cases kept

end Stores

namespace Upload

/-- The upload has kept bytes under this id and goes on. -/
def Holds (id : DocumentId) : Upload → Prop
  | .create identity _ => identity.id = id
  | .inspect j | .discard j _ => j = id
  | .lookup _ _ _ | .inherit _ _ _ | .keep _ _ _ | .settled _ | .dropped => False

/-- What a call of an upload means for the bytes that are there under an id after it. -/
inductive Passes (s s' : Stores Payloads) (u next : Upload) (t : Trace) (id : DocumentId) : Prop
  | holds (own : next.Holds id)
  | pends (own : s'.Pends id)
  /-- The record that was in the way is gone. -/
  | gone (looks : u = .inspect id) (absent : s.records.document? id = none)
      (said : .notice (.winnerUnreadable id (.notFound id.text)) ∈ t)
  | aside (free : ¬ u.Holds id) (kept : s.Keeps id) (stays : s.Pends id → s'.Pends id)

theorem Goes.passes {m : Moment} {s s' : Stores Payloads} {u next : Upload} {t : Trace}
    {id : DocumentId} (goes : Goes m s u next s' t) (calm : m.Calm) (online : s.Online)
    (kept : s'.Keeps id) : Passes s s' u next t id := by
  cases goes with
  | known _ _ | other _ _ _ | judged _ _ _ | unknown _ _ | unread _ _ | uninherited _
  | unkept _ => exact .aside (fun own => own) kept fun pends => pends
  | inherited _ => exact .aside (fun own => own) kept fun pends => pends.add _
  | @kept identity _ _ _ =>
      by_cases same : identity.id = id
      · exact .holds same
      · exact .aside (fun own => own) (Stores.keeps_of_keep same kept) fun pends => pends
  | @created identity tag _ =>
      by_cases same : identity.id = id
      · exact .pends ⟨_, List.mem_cons_self, same, rfl⟩
      · exact .aside same kept fun pends => pends.add _
  | @taken identity _ _ _ _ | @uncreated identity _ _ _ _ =>
      by_cases same : identity.id = id
      · exact .holds same
      · exact .aside same kept fun pends => pends
  | @winnerPending j d got pending =>
      by_cases same : j = id
      · have found := s.getRecord_ok m got
        exact .pends ⟨d, Records.mem_of_document? found, (Records.id_of_document? found).trans same,
          pending⟩
      · exact .aside same kept fun pends => pends
  | @winnerJudged j _ _ _ =>
      by_cases same : j = id
      · exact .holds same
      · exact .aside same kept fun pends => pends
  | @winnerUnread j e failed =>
      by_cases same : j = id
      · subst same
        rw [s.getRecord_calm m calm.2 online.2] at failed
        cases found : s.records.document? j with
        | some d =>
            rw [found] at failed
            cases failed
        | none =>
            rw [found] at failed
            cases failed
            exact .gone rfl found List.mem_cons_self
      · exact .aside same kept fun pends => pends
  | discarded _ =>
      obtain ⟨other, kept⟩ := Stores.keeps_of_drop kept
      exact .aside other kept fun pends => pends
  | undiscarded failed =>
      exact .aside (Stores.ne_of_deletePayload calm online failed kept) kept fun pends => pends

end Upload

/-- The bytes that are there under an id after a call of a scan are about to be released by it, or
the call has not been about them. -/
theorem Scan.Goes.passes {c : ScanSettings} {engine : String} {m : Moment} {s s' : Stores Payloads}
    {j id : DocumentId} {phase next : Scan.Phase} {t : Trace}
    (goes : Scan.Goes c engine m s j phase next s' t) (calm : m.Calm) (online : s.Online)
    (kept : s'.Keeps id) :
    (⟨j, next⟩ : Scan) = ⟨id, .releasing⟩ ∨
      ((⟨j, phase⟩ : Scan) ≠ ⟨id, .releasing⟩ ∧ s.Keeps id ∧ (s.Pends id → s'.Pends id)) := by
  cases goes with
  | opened _ | unopened _ | reopened _ | retried _ | already _ | lost _ _ =>
      exact .inr ⟨nofun, kept, fun pends => pends⟩
  | recorded _ _ =>
      by_cases same : j = id
      · exact .inl (by rw [same])
      · exact .inr ⟨nofun, kept, fun pends => pends.judge same _ _⟩
  | released _ =>
      obtain ⟨other, kept⟩ := Stores.keeps_of_drop kept
      exact .inr ⟨fun same => other (congrArg Scan.id same), kept, fun pends => pends⟩
  | unreleased failed =>
      have other := Stores.ne_of_deletePayload calm online failed kept
      exact .inr ⟨fun same => other (congrArg Scan.id same), kept, fun pends => pends⟩

/-- An upload that is about to look at a record in its way still finds it. -/
def Upload.Meets (s : Stores Payloads) : Upload → Prop
  | .inspect id => (s.records.document? id).isSome = true
  | .lookup _ _ _ | .inherit _ _ _ | .keep _ _ _ | .create _ _ | .discard _ _ | .settled _
  | .dropped => True

namespace State

variable {c : Config} {engine : String} {steps : List (Moment × Action)} {s s' : State Payloads}
  {m : Moment} {a : Action} {t t' : Trace}

theorem meets_frame {old new : Stores Payloads} (lasts : old.records.Lasts new.records) :
    Frame Upload.Meets Upload.Meets (fun _ _ => True) (fun _ _ => True) old new where
  upload u meets := by
    cases u with
    | inspect id =>
        obtain ⟨d, found⟩ := Option.isSome_iff_exists.mp meets
        obtain ⟨e, found, -⟩ := lasts id d found
        rw [Upload.Meets, found]
        rfl
    | lookup _ _ _ | inherit _ _ _ | keep _ _ _ | create _ _ | discard _ _ | settled _
    | dropped => trivial
  scan _ _ := trivial

/-- Without sweeps a record that was in the way of an upload stays there. -/
theorem meets_of_run (calm : ∀ x ∈ steps, x.1.Calm) (unswept : steps.any (·.2.sweeps) = false)
    (ran : (State.idle c engine Stores.empty).run steps = some (s, t)) :
    ∀ u ∈ s.uploads, u.Meets s.stores := by
  refine (run_induction (P := fun steps s _ => (∀ x ∈ steps, x.1.Calm ∧ x.2.sweeps = false) →
    s.Each (fun _ => True) Upload.Meets (fun _ _ => True)) ?_ ?_ ran
    fun x h => ⟨calm x h, Bool.eq_false_iff.mpr (List.any_eq_false.mp unswept x h)⟩).uploads
  · intro _
    exact Each.idle trivial c engine
  · intro steps s t x s' t' _ ih moved right
    have each := ih fun y h => right y (List.mem_append_left _ h)
    obtain ⟨calm, unswept⟩ := right x (List.mem_append_right _ List.mem_cons_self)
    refine each.apply moved ⟨trivial, meets_frame .rfl⟩ (fun _ _ => trivial) ?submit ?upload trivial
      (fun _ _ => trivial) ?scan (fun _ _ _ _ _ _ _ => trivial) ?sweep
    case submit =>
      intro r _
      exact Upload.start_of (P := Upload.Meets s.stores) (fun _ => trivial) fun _ _ _ => trivial
    case upload =>
      intro i u next stores trace _ _ stepped _
      have goes := Upload.goes_of_step stepped
      refine ⟨trivial, ?_, meets_frame goes.lasts⟩
      cases goes with
      | taken failed exists_ => exact s.stores.exists_of_saveRecord x.1 calm.2 failed exists_
      | known _ _ | other _ _ _ | judged _ _ _ | unknown _ _ | unread _ _ | inherited _
      | uninherited _ | kept _ | unkept _ | created _ | uncreated _ _ | winnerPending _ _
      | winnerJudged _ _ | winnerUnread _ | discarded _ | undiscarded _ => trivial
    case scan =>
      intro i scan next stores trace _ _ stepped _
      exact ⟨trivial, trivial, meets_frame (Scan.goes_of_step stepped).2.lasts⟩
    case sweep =>
      intro ttl stores sweeping
      rw [sweeping] at unswept
      cases unswept

/-- What the bytes under an id are there for, or how they have been left behind. -/
inductive Owned (swept : Bool) (t : Trace) (s : State Payloads) (id : DocumentId) : Prop
  | pends (own : s.stores.Pends id)
  | held {u} (under_way : u ∈ s.uploads) (own : u.Holds id)
  | releasing (own : ⟨id, .releasing⟩ ∈ s.scans)
  | left (swept : swept = true) (said : .notice (.winnerUnreadable id (.notFound id.text)) ∈ t)

/-- Owners stay owners as long as they are there. -/
theorem Owned.mono {swept swept' : Bool} {id : DocumentId} (owned : s.Owned swept t id)
    (pends : s.stores.Pends id → s'.stores.Pends id)
    (uploads : ∀ u ∈ s.uploads, u.Holds id → u ∈ s'.uploads)
    (scans : ⟨id, .releasing⟩ ∈ s.scans → ⟨id, .releasing⟩ ∈ s'.scans)
    (later : swept = true → swept' = true) : s'.Owned swept' (t ++ t') id := by
  cases owned with
  | pends own => exact .pends (pends own)
  | held under_way own => exact .held (uploads _ under_way own) own
  | releasing own => exact .releasing (scans own)
  | left swept said => exact .left (later swept) (List.mem_append_left _ said)

/-- In a calm action bytes get an owner, or what owned them before owns them still, or it passes them
on. Here `meets` is what is known of uploads as long as nothing is swept. -/
theorem Owned.apply {swept : Bool} {id : DocumentId} (calm : m.Calm) (online : s.stores.Online)
    (finishing : a.drops = false)
    (meets : swept = false → ∀ u ∈ s.uploads, u.Meets s.stores)
    (owned : s.stores.Keeps id → s.Owned swept t id) (moved : s.apply m a = some (s', t'))
    (kept : s'.stores.Keeps id) : s'.Owned (swept || a.sweeps) (t ++ t') id := by
  have later : swept = true → (swept || a.sweeps) = true := fun swept => by rw [swept]; rfl
  cases a with
  | submit r =>
      obtain ⟨rfl, rfl⟩ := apply_submit moved
      exact (owned kept).mono (fun pends => pends)
        (fun u stored _ => List.mem_append_left _ stored) (fun own => own) later
  | upload i =>
      obtain ⟨u, next, stores, trace, found, stepped, rfl, rfl⟩ := apply_upload moved
      have here : i < s.uploads.length := (List.getElem?_eq_some_iff.mp found).1
      rw [scheduleCreated_stores] at kept
      cases (Upload.goes_of_step stepped).passes calm online kept with
      | holds own =>
          refine .held (u := next) ?_ own
          rw [scheduleCreated_uploads]
          exact List.mem_set here next
      | pends own =>
          refine .pends ?_
          rw [scheduleCreated_stores]
          exact own
      | gone looks absent said =>
          refine .left ?_ (List.mem_append_right _ (List.mem_append_right _ said))
          cases known : swept with
          | true => rfl
          | false =>
              have stands := meets known u (List.mem_of_getElem? found)
              rw [looks, Upload.Meets, absent] at stands
              cases stands
      | aside free before stays =>
          refine (owned before).mono ?_ ?_ ?_ later
          · rw [scheduleCreated_stores]
            exact stays
          · rw [scheduleCreated_uploads]
            intro v stored own
            exact mem_set_of_ne found stored fun same => free (same ▸ own)
          · rw [scheduleCreated_scans]
            exact List.mem_append_left _
  | drop i => cases finishing
  | schedule j =>
      obtain ⟨rfl, rfl⟩ := apply_schedule moved
      exact (owned kept).mono (fun pends => pends) (fun u stored _ => stored)
        (fun own => List.mem_append_left _ own) later
  | enter i =>
      obtain ⟨scan, -, -, -, rfl, rfl⟩ := apply_enter moved
      rw [askPlace_stores] at kept
      refine (owned kept).mono ?_ ?_ (fun own => mem_askPlace own nofun i) later
      · rw [askPlace_stores]
        exact fun pends => pends
      · rw [askPlace_uploads]
        exact fun u stored _ => stored
  | scan i =>
      obtain ⟨scan, next, stores, trace, found, stepped, rfl, rfl⟩ := apply_scan moved
      obtain ⟨same, goes⟩ := Scan.goes_of_step stepped
      have here : i < s.scans.length := (List.getElem?_eq_some_iff.mp found).1
      rw [putScan_stores] at kept
      obtain releasing | ⟨other, before, stays⟩ := goes.passes calm online kept
      · have own : next = ⟨id, .releasing⟩ := by
          rw [← releasing, ← same]
        exact .releasing (own ▸ List.mem_of_getElem? (getElem?_putScan_self here))
      · refine (owned before).mono ?_ ?_ (fun own => ?_) later
        · rw [putScan_stores]
          exact stays
        · rw [putScan_uploads]
          exact fun u stored _ => stored
        · exact mem_putScan_of_ne (s := { s with stores := stores }) found own other.symm nofun
  | answer i answer =>
      obtain ⟨scan, next, found, answered, rfl⟩ := apply_answer moved
      obtain ⟨-, attempt, source, analyzing, -⟩ := Scan.answer_cases answered
      rw [putScan_stores] at kept
      refine (owned kept).mono ?_ ?_ (fun own => ?_) later
      · rw [putScan_stores]
        exact fun pends => pends
      · rw [putScan_uploads]
        exact fun u stored _ => stored
      · refine mem_putScan_of_ne found own (fun same => ?_) nofun
        rw [← same] at analyzing
        cases analyzing
  | sweep ttl =>
      obtain ⟨stores, swept, rfl⟩ := apply_sweep moved
      obtain rfl | ⟨cutoff, rfl⟩ := Retention.sweepQuietly_cases swept
      · exact (owned kept).mono (fun pends => pends) (fun u stored _ => stored) (fun own => own)
          later
      · exact (owned kept).mono (fun pends => pends.purged cutoff) (fun u stored _ => stored)
          (fun own => own) later

theorem owned_of_run (calm : ∀ x ∈ steps, x.1.Calm) (finishing : ∀ x ∈ steps, x.2.drops = false)
    (ran : (State.idle c engine Stores.empty).run steps = some (s, t)) {id : DocumentId}
    (kept : s.stores.Keeps id) : s.Owned (steps.any (·.2.sweeps)) t id := by
  refine run_induction (P := fun steps s t => (∀ x ∈ steps, x.1.Calm ∧ x.2.drops = false) →
    s.stores.Keeps id → s.Owned (steps.any (·.2.sweeps)) t id) ?_ ?_ ran
    (fun x h => ⟨calm x h, finishing x h⟩) kept
  · intro _ kept
    cases kept
  · intro steps s t x s' t' ran ih moved right kept
    have before := fun y h => right y (List.mem_append_left _ h)
    obtain ⟨calm, finishing⟩ := right x (List.mem_append_right _ List.mem_cons_self)
    have meets := fun unswept => meets_of_run (fun y h => (before y h).1) unswept ran
    have owned := Owned.apply calm (online_of_run ran) finishing meets (ih before) moved kept
    simpa only [List.any_append, List.any_cons, List.any_nil, Bool.or_false] using owned

/-- In a service at rest, after a run in which no call failed and no caller went away, bytes are there
for a document that waits for its verdict. The only others are those of an upload that has found the
record in its way swept away. -/
theorem bytes_have_owner (calm : ∀ x ∈ steps, x.1.Calm)
    (finishing : ∀ x ∈ steps, x.2.drops = false)
    (ran : (State.idle c engine Stores.empty).run steps = some (s, t))
    (settled : ∀ u ∈ s.uploads, u.isOver = true)
    (quiet : ∀ scan ∈ s.scans, scan.phase.isActive = false) :
    ∀ id bytes, s.stores.payloads.kept.get? id = some bytes →
      (∃ d, s.stores.records.document? id = some d ∧ d.isPending = true) ∨
        (steps.any (·.2.sweeps) = true ∧
          .notice (.winnerUnreadable id (.notFound id.text)) ∈ t) := by
  intro id bytes found
  have kept : s.stores.Keeps id := by
    rw [Stores.Keeps, found]
    rfl
  cases owned_of_run calm finishing ran kept with
  | pends own =>
      obtain ⟨d, stored, rfl, pending⟩ := own
      exact .inl ⟨d, (originates ran).stores.distinct.document?_of_mem stored, pending⟩
  | @held u under_way own =>
      have ended := settled u under_way
      cases u with
      | create _ _ | inspect _ | discard _ _ => cases ended
      | lookup _ _ _ | inherit _ _ _ | keep _ _ _ | settled _ | dropped => cases own
  | releasing own => cases quiet _ own
  | left swept said => exact .inr ⟨swept, said⟩

/-- Two uploads of one content keep its bytes, and one of them records it. Its scan comes to nothing.
The other upload sees that the document still waits, and leaves the bytes to it. -/
def contest : List (Moment × Action) :=
  calmly 0 [.submit (.ofBytes [7]), .submit (.ofBytes [7]), .upload 0, .upload 1, .upload 0,
    .upload 1, .upload 0, .upload 1, .enter 0, .scan 0,
    .answer 0 (.failed (.configuration "no license")), .upload 1]

theorem contest_bytes_have_owner :
    ∃ p ∈ (State.idle .standard "engine" Stores.empty).run contest,
      ∃ d, p.1.stores.records.document? (Identity.contentId [7] "") = some d ∧
        d.isPending = true := by
  obtain ⟨p, ran, settled, quiet, found⟩ :
      ∃ p ∈ (State.idle .standard "engine" Stores.empty).run contest,
        (∀ u ∈ p.1.uploads, u.isOver = true) ∧
          (∀ scan ∈ p.1.scans, scan.phase.isActive = false) ∧
          p.1.stores.payloads.kept.get? (Identity.contentId [7] "") = some [7] := by
    decide +kernel
  have owner := bytes_have_owner (by decide) (by decide) ran settled quiet _ _ found
  exact ⟨p, ran, owner.resolve_right fun swept => by cases swept.1⟩

/-- The first upload records the content, and its scan is done with it before the second keeps the
bytes again. The second finds the record in its way; a sweep takes the record, with its verdict, away
before the second has looked at it. -/
def forsaken : List (Moment × Action) :=
  calmly 0 [.submit (.ofBytes [7]), .submit (.ofBytes [7]), .upload 0, .upload 1, .upload 0,
      .upload 0, .enter 0, .scan 0, .answer 0 (.verdict .clean), .scan 0, .scan 0, .upload 1,
      .upload 1] ++
    calmly 7200 [.sweep Config.standard.resultTtl, .upload 1]

/-- The bytes of the second upload stay, and there is no record at all. -/
theorem swept_winner_leaves_bytes :
    (∀ x ∈ forsaken, x.1.Calm ∧ x.2.Serves .standard ∧ x.2.drops = false) ∧
      ∃ p ∈ (State.idle .standard "engine" Stores.empty).run forsaken,
        (∀ u ∈ p.1.uploads, u.isOver = true) ∧ (∀ scan ∈ p.1.scans, scan.phase.isOver = true) ∧
          p.1.stores.payloads.kept.get? (Identity.contentId [7] "") = some [7] ∧
          p.1.stores.records.documents = [] := by
  decide +kernel

end State

end Quarantine
