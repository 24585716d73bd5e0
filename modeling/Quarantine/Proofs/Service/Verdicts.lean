import Quarantine.Proofs.Service.Origin

/-!
Every verdict in a record was given by the engine, to bytes that have the hash of the record. A
verdict comes into a record by a scan of its id or from another record of the same content; in both
cases what it rests on is in the past of the run, so nothing that is purged later takes it away.

A scan knows the bytes by their id only. So the uploads of the run must not share ids.
-/

namespace Quarantine

namespace State

/-- What the engine was given, and what it answers now. -/
def answered? (s : State Payloads) : Action → Option (Source × Scan.Answer)
  | .answer i a =>
    match s.scans[i]? with
    | some ⟨_, .analyzing _ source⟩ => some (source, a)
    | _ => none
  | _ => none

/-- What the engine was given in a run and what it answered, in the order of the answers. -/
def analyses (s : State Payloads) : List (Moment × Action) → List (Source × Scan.Answer)
  | [] => []
  | (m, a) :: rest =>
    (s.answered? a).toList ++ match s.apply m a with
      | some (next, _) => next.analyses rest
      | none => []

theorem analyses_concat {s₀ s : State Payloads} {steps : List (Moment × Action)} {t : Trace}
    (ran : s₀.run steps = some (s, t)) (x : Moment × Action) :
    s₀.analyses (steps ++ [x]) = s₀.analyses steps ++ (s.answered? x.2).toList := by
  induction steps generalizing s₀ t with
  | nil =>
      cases ran
      simp only [List.nil_append, analyses]
      split <;> rw [List.append_nil]
  | cons y steps ih =>
      obtain ⟨next, now, later, moved, rest, -⟩ := run_cons_iff.mp ran
      simp only [List.cons_append, analyses, moved, ih rest, List.append_assoc]

end State

/-- The past of a run: what was brought, what the engine answered to what, and the trace. -/
structure Past where
  brought : List (Bytes × String)
  analyses : List (Source × Scan.Answer)
  trace : Trace

namespace Past

structure Before (old new : Past) : Prop where
  brought : ∀ p ∈ old.brought, p ∈ new.brought
  analyses : ∀ p ∈ old.analyses, p ∈ new.analyses
  trace : ∀ e ∈ old.trace, e ∈ new.trace

/-- The engine was called with these bytes and gave this verdict. -/
def Heard (h : Past) (bytes : Bytes) (v : Verdict) : Prop :=
  .call (.analyze (.ofBytes bytes)) ∈ h.trace ∧ (.ofBytes bytes, .verdict v) ∈ h.analyses

/-- The engine was called with bytes of this hash and gave a verdict of this status. -/
def Supports (h : Past) (hash : String) (status : Status) : Prop :=
  ∃ bytes v, h.Heard bytes v ∧ Identity.contentHash bytes = hash ∧ v.status = status

/-- No two different uploads have the same id. -/
def Apart (h : Past) : Prop :=
  ∀ p ∈ h.brought, ∀ q ∈ h.brought, Identity.contentId p.1 p.2 = Identity.contentId q.1 q.2 → p = q

variable {old new : Past}

theorem Heard.mono {bytes : Bytes} {v : Verdict} (heard : old.Heard bytes v)
    (before : old.Before new) : new.Heard bytes v :=
  ⟨before.trace _ heard.1, before.analyses _ heard.2⟩

theorem Supports.mono {hash : String} {status : Status} (supports : old.Supports hash status)
    (before : old.Before new) : new.Supports hash status := by
  obtain ⟨bytes, v, heard, own⟩ := supports
  exact ⟨bytes, v, heard.mono before, own⟩

end Past

/-- The verdicts in the records have support. -/
def Stores.Rests (h : Past) (s : Stores Payloads) : Prop :=
  ∀ d ∈ s.records.documents, d.isPending = false → h.Supports d.hash d.status

/-- A verdict that an upload is about to take over has support. -/
def Upload.Rests (h : Past) : Upload → Prop
  | .inherit _ _ source => h.Supports source.hash source.status
  | .lookup _ _ _ | .keep _ _ _ | .create _ _ | .inspect _ | .discard _ _ | .settled _ | .dropped =>
    True

/-- What a scan has handed to the engine, and what it is about to write down, goes back to an upload
of the id that it scans. -/
def Scan.Rests (h : Past) (scan : Scan) : Prop :=
  match scan.phase with
  | .analyzing _ source => .call (.analyze source) ∈ h.trace ∧
      ∃ p ∈ h.brought, Identity.contentId p.1 p.2 = scan.id ∧ source = .ofBytes p.1
  | .recording _ v => ∃ p ∈ h.brought, Identity.contentId p.1 p.2 = scan.id ∧ h.Heard p.1 v
  | .queued | .opening | .resting _ _ | .releasing | .ended | .crashed => True

section Steps

variable {h : Past} {s s' : Stores Payloads} {m : Moment} {t : Trace}

theorem Upload.Rests.mono {old new : Past} {u : Upload} (rests : u.Rests old)
    (before : old.Before new) : u.Rests new := by
  cases u with
  | inherit _ _ _ => exact Past.Supports.mono rests before
  | lookup _ _ _ | keep _ _ _ | create _ _ | inspect _ | discard _ _ | settled _ | dropped =>
      trivial

theorem Scan.Rests.mono {old new : Past} {scan : Scan} (rests : scan.Rests old)
    (before : old.Before new) : scan.Rests new := by
  obtain ⟨id, phase⟩ := scan
  cases phase with
  | analyzing _ _ =>
      obtain ⟨called, p, b, own⟩ := rests
      exact ⟨before.trace _ called, p, before.brought p b, own⟩
  | recording _ _ =>
      obtain ⟨p, b, own, heard⟩ := rests
      exact ⟨p, before.brought p b, own, heard.mono before⟩
  | queued | opening | resting _ _ | releasing | ended | crashed => trivial

theorem Past.Before.frame {old new : Past} (before : old.Before new) (a b : Stores Payloads) :
    State.Frame (fun _ => Upload.Rests old) (fun _ => Upload.Rests new)
      (fun _ => Scan.Rests old) (fun _ => Scan.Rests new) a b :=
  ⟨fun _ own => own.mono before, fun _ own => own.mono before⟩

theorem Stores.Rests.add {d : Document} (rests : s.Rests h)
    (own : d.isPending = false → h.Supports d.hash d.status) :
    ({ s with records := s.records.add d } : Stores Payloads).Rests h := by
  intro e stored judged
  cases List.mem_cons.mp stored with
  | inl same =>
      subst same
      exact own judged
  | inr stored => exact rests e stored judged

theorem Stores.Rests.purged (rests : s.Rests h) (cutoff : Instant) :
    ({ s with records := s.records.purged cutoff } : Stores Payloads).Rests h :=
  fun d stored => rests d ((s.records.mem_purged).mp stored).1

/-- A call of an upload. A verdict that is taken over is that of the record that was found. -/
theorem Stores.Rests.upload {u next : Upload} (rests : s.Rests h) (own : u.Rests h)
    (goes : Upload.Goes m s u next s' t) : s'.Rests h ∧ next.Rests h := by
  cases goes with
  | known _ _ | other _ _ _ | unknown _ _ | unread _ _ | uninherited _ | unkept _ | taken _ _
  | uncreated _ _ | winnerPending _ _ | winnerJudged _ _ | winnerUnread _ | undiscarded _
  | kept _ | discarded _ => exact ⟨rests, trivial⟩
  | judged found _ judged => exact ⟨rests, rests _ (s.findRecord_ok m found).1 judged⟩
  | inherited _ => exact ⟨rests.add fun _ => own, trivial⟩
  | created _ => exact ⟨rests.add fun judged => (by cases judged), trivial⟩

/-- A call of a scan. The record that a verdict is written into has the content that was analyzed,
for both have the id of the scan. -/
theorem Stores.Rests.scan {c : ScanSettings} {engine : String} {id : DocumentId}
    {phase next : Scan.Phase} (rests : s.Rests h) (whole : m.Whole) (stem : s.Stem h.brought)
    (apart : h.Apart) (own : Scan.Rests h ⟨id, phase⟩)
    (goes : Scan.Goes c engine m s id phase next s' t) (told : ∀ e ∈ t, e ∈ h.trace) :
    s'.Rests h ∧ Scan.Rests h ⟨id, next⟩ := by
  have fetched : ∀ {source}, s.fetchPayload m id = .ok source →
      ∃ p ∈ h.brought, Identity.contentId p.1 p.2 = id ∧ source = .ofBytes p.1 := by
    intro source fetched
    obtain ⟨bytes, found, rfl⟩ := s.fetchPayload_ok m whole fetched
    obtain ⟨tag, b, same⟩ := stem.payload id bytes found
    exact ⟨(bytes, tag), b, same, rfl⟩
  cases goes with
  | opened got | reopened got =>
      exact ⟨rests, told _ List.mem_cons_self, fetched got⟩
  | unopened _ | already _ | lost _ _ | unreleased _ | released _ => exact ⟨rests, trivial⟩
  | retried _ =>
      exact ⟨rests, Scan.retry_phase (P := fun phase => Scan.Rests h ⟨id, phase⟩)
        (fun _ => trivial) trivial⟩
  | @recorded _ verdict _ found _ =>
      refine ⟨fun d stored judged => ?_, trivial⟩
      cases (s.records.mem_judge).mp stored with
      | inl kept =>
          obtain ⟨kept, -⟩ := kept
          exact rests d kept judged
      | inr same =>
          obtain ⟨e, old, same, rfl⟩ := same
          obtain ⟨p, b, scanned, heard⟩ := own
          obtain ⟨content, brought, uploaded, hash⟩ := stem.record e old
          -- The scan and the record go back to uploads of one id, which are the same upload.
          have one : p = (content, e.tag) :=
            apart p b _ brought (scanned.trans (same.symm.trans uploaded))
          refine ⟨p.1, verdict, heard, ?_, rfl⟩
          rw [one]
          exact hash.symm

theorem Scan.Rests.answer {c : ScanSettings} {engine : String} {a : Scan.Answer} {scan next : Scan}
    (rests : scan.Rests h) (answered : scan.answer c engine a = some (next, t))
    (heard : ∀ attempt source, scan.phase = .analyzing attempt source → (source, a) ∈ h.analyses) :
    next.Rests h := by
  obtain ⟨id, phase⟩ := scan
  obtain ⟨nextId, nextPhase⟩ := next
  obtain ⟨same, attempt, source, analyzing, went⟩ := Scan.answer_cases answered
  cases same
  cases analyzing
  obtain ⟨called, p, b, scanned, rfl⟩ := rests
  obtain ⟨v, rfl, recording⟩ | ⟨wait, resting⟩ | finished := went
  · cases recording
    exact ⟨p, b, scanned, called, heard attempt _ rfl⟩
  · cases resting
    trivial
  · cases nextPhase with
    | ended | crashed => trivial
    | queued | opening | resting _ _ | analyzing _ _ | recording _ _ | releasing => cases finished

end Steps

namespace State

variable {s₀ s s' : State Payloads} {steps : List (Moment × Action)} {t t' : Trace}

def past (s₀ : State Payloads) (steps : List (Moment × Action)) (t : Trace) : Past :=
  ⟨brought s₀.config.maxUploadSize steps, s₀.analyses steps, t⟩

theorem past_before (ran : s₀.run steps = some (s, t)) (x : Moment × Action) (t' : Trace) :
    (s₀.past steps t).Before (s₀.past (steps ++ [x]) (t ++ t')) where
  brought _ b := brought_mono x b
  analyses _ b := by
    simp only [past, analyses_concat ran x]
    exact List.mem_append_left _ b
  trace _ b := List.mem_append_left _ b

def Rests (h : Past) (s : State Payloads) : Prop :=
  s.Each (Stores.Rests h) (fun _ => Upload.Rests h) (fun _ => Scan.Rests h)

theorem Rests.step {x : Moment × Action} (each : s.Rests (s₀.past steps t))
    (ran : s₀.run steps = some (s, t)) (whole : x.1.Whole)
    (stem : s.stores.Stem (s₀.past (steps ++ [x]) (t ++ t')).brought)
    (apart : (s₀.past (steps ++ [x]) (t ++ t')).Apart)
    (moved : s.apply x.1 x.2 = some (s', t')) :
    s'.Rests (s₀.past (steps ++ [x]) (t ++ t')) := by
  have before := past_before ran x t'
  have rests : s.stores.Rests _ := fun d stored judged => (each.stores d stored judged).mono before
  refine each.apply moved ⟨rests, before.frame _ _⟩ (fun _ _ => trivial) ?submit ?upload trivial
    (fun _ _ => trivial) ?scan ?answer ?sweep
  case submit =>
    intro r _
    exact Upload.start_of (P := Upload.Rests _) (fun _ => trivial) fun _ _ _ => trivial
  case upload =>
    intro i u next stores trace _ stored stepped _
    obtain ⟨rests, own⟩ :=
      rests.upload ((each.uploads u stored).mono before) (Upload.goes_of_step stepped)
    exact ⟨rests, own, before.frame _ _⟩
  case scan =>
    intro i scan next stores trace _ stored stepped told
    obtain ⟨same, goes⟩ := Scan.goes_of_step stepped
    obtain ⟨rests, own⟩ := rests.scan whole stem apart ((each.scans scan stored).mono before) goes
      fun e h => List.mem_append_right _ (told ▸ List.mem_append_right _ h)
    rw [← same] at own
    exact ⟨rests, own, before.frame _ _⟩
  case answer =>
    intro i answer scan next action found answered
    refine ((each.scans scan (List.mem_of_getElem? found)).mono before).answer answered ?_
    intro attempt source analyzing
    obtain ⟨id, phase⟩ := scan
    cases analyzing
    simp [past, analyses_concat ran x, answered?, action, found]
  case sweep =>
    intro ttl stores _ swept
    refine ⟨?_, before.frame _ _⟩
    cases Retention.sweepQuietly_cases swept with
    | inl same =>
        rw [same]
        exact rests
    | inr purged =>
        obtain ⟨cutoff, rfl⟩ := purged
        exact rests.purged cutoff

variable {c : Config} {engine : String}

/-- In a run whose uploads do not share ids every verdict has support in the past. -/
theorem rests_of_run (whole : ∀ x ∈ steps, x.1.Whole)
    (apart : ((State.idle c engine Stores.empty).past steps t).Apart)
    (ran : (State.idle c engine Stores.empty).run steps = some (s, t)) :
    s.Rests ((State.idle c engine Stores.empty).past steps t) := by
  refine run_induction (P := fun steps s t => (∀ x ∈ steps, x.1.Whole) →
    ((State.idle c engine Stores.empty).past steps t).Apart →
    s.Rests ((State.idle c engine Stores.empty).past steps t)) ?_ ?_ ran whole apart
  · intro _ _
    exact Each.idle (fun d stored => absurd stored List.not_mem_nil) c engine
  · intro steps s t x s' t' ran ih moved whole apart
    have before := past_before ran x t'
    -- Uploads that stay apart in the whole run did so in the part before the last action.
    have rests := ih (fun y h => whole y (List.mem_append_left _ h))
      fun p b q b' => apart p (before.brought p b) q (before.brought q b')
    exact rests.step ran (whole x (List.mem_append_right _ List.mem_cons_self))
      ((originates ran).stores.mono before.brought) apart moved

/-- A verdict in a record was given by the engine, to a stream of bytes that have the hash of the
record. -/
theorem verdict_was_given (whole : ∀ x ∈ steps, x.1.Whole)
    (apart : ∀ p ∈ brought c.maxUploadSize steps, ∀ q ∈ brought c.maxUploadSize steps,
      Identity.contentId p.1 p.2 = Identity.contentId q.1 q.2 → p = q)
    (ran : (State.idle c engine Stores.empty).run steps = some (s, t)) :
    ∀ d ∈ s.stores.records.documents, d.status = .clean ∨ d.status = .infected →
      ∃ source v bytes, .call (.analyze source) ∈ t ∧
        (source, .verdict v) ∈ (State.idle c engine Stores.empty).analyses steps ∧
        v.status = d.status ∧ source.readAll = .ok bytes ∧ Identity.contentHash bytes = d.hash := by
  intro d stored verdict
  have judged : d.isPending = false := by
    cases verdict with
    | inl clean =>
        rw [Document.isPending, clean]
        rfl
    | inr infected =>
        rw [Document.isPending, infected]
        rfl
  obtain ⟨bytes, v, ⟨called, answered⟩, hash, status⟩ :=
    (rests_of_run whole apart ran).stores d stored judged
  exact ⟨.ofBytes bytes, v, bytes, called, answered, status, Source.readAll_ofBytes bytes, hash⟩

/-- A scan gets its verdict after a failed fetch. Another record takes the verdict over, and the
first record is swept away. -/
def legacy : List (Moment × Action) :=
  calmly 0 [.submit (.ofBytes [7]), .upload 0, .upload 0, .upload 0, .enter 0, .scan 0,
      .answer 0 .late] ++
    (⟨default, some (.refused Payloads.offline), none⟩, .scan 0) ::
    calmly 0 [.scan 0, .answer 0 (.verdict .clean), .scan 0, .scan 0] ++
    calmly 7200 [.submit (.under "b" [7]), .upload 1, .upload 1, .sweep Config.standard.resultTtl]

theorem legacy_verdict_was_given :
    ∃ p ∈ (State.idle .standard "engine" Stores.empty).run legacy,
      ∃ d ∈ p.1.stores.records.documents, (d.status = .clean ∨ d.status = .infected) ∧
        ∃ source v bytes, .call (.analyze source) ∈ p.2 ∧
          (source, .verdict v) ∈ (State.idle .standard "engine" Stores.empty).analyses legacy ∧
          v.status = d.status ∧ source.readAll = .ok bytes ∧
          Identity.contentHash bytes = d.hash := by
  obtain ⟨p, ran, d, stored, judged⟩ :
      ∃ p ∈ (State.idle .standard "engine" Stores.empty).run legacy,
        ∃ d ∈ p.1.stores.records.documents, d.status = .clean ∨ d.status = .infected := by
    decide +kernel
  exact ⟨p, ran, d, stored, judged,
    verdict_was_given (by decide) (by decide +kernel) ran d stored judged⟩

end State

end Quarantine
