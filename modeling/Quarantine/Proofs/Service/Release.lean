import Quarantine.Proofs.Scan.Steps
import Quarantine.Proofs.Service.Run

/-!
What a scan does in the course of a run, taken by itself. The other tasks of the service may do
anything between two of its turns, and any call may fail. A scan hears at most one verdict, writes
that verdict down at most once, and releases the bytes only after the records have said that there is
a verdict. Until then each of its turns leaves both stores as it finds them.
-/

namespace Quarantine

/-- One action of a run, with the stores before and after it and with what it adds to the trace. -/
structure Turn where
  moment : Moment
  action : Action
  before : Stores Payloads
  after : Stores Payloads
  trace : Trace

/-- Whether the records have a verdict for certain after the attempt to write one. -/
def Scan.isDurable : Except MetadataError Unit → Bool
  | .ok () | .error (.alreadyAnalyzed _) => true
  | .error _ => false

/-- Nothing has happened to the records and the bytes of all other documents. -/
structure Stores.Aside (id : DocumentId) (old new : Stores Payloads) : Prop where
  record : ∀ j, j ≠ id → new.records.document? j = old.records.document? j
  bytes : ∀ j, j ≠ id → new.payloads.kept.get? j = old.payloads.kept.get? j

namespace Turn

/-- The engine returns this verdict. -/
def Hears (v : Verdict) (turn : Turn) : Prop :=
  ∃ i, turn.action = .answer i (.verdict v)

/-- The scan tries to write a status down. -/
def Writes (status : Status) (id : DocumentId) (turn : Turn) : Prop :=
  .updateRecord id status ∈ turn.trace.calls

/-- The scan tries to write a status down, and learns that there is a verdict now. -/
def Settles (id : DocumentId) (turn : Turn) : Prop :=
  ∃ status, turn.Writes status id ∧
    Scan.isDurable (turn.before.updateRecord turn.moment id status).1 = true

instance (status : Status) (id : DocumentId) (turn : Turn) : Decidable (turn.Writes status id) :=
  inferInstanceAs (Decidable (_ ∈ _))

instance (id : DocumentId) : DecidablePred (Settles id) := fun turn =>
  decidable_of_iff (∃ status ∈ Status.all, turn.Writes status id ∧
      Scan.isDurable (turn.before.updateRecord turn.moment id status).1 = true)
    ⟨fun ⟨status, _, settles⟩ => ⟨status, settles⟩,
      fun ⟨status, settles⟩ => ⟨status, by cases status <;> decide, settles⟩⟩

/-- The scan has not heard a verdict and has not tried to write one down. -/
def Quiet (turn : Turn) : Prop :=
  (∀ v, ¬ turn.Hears v) ∧ ∀ status j, ¬ turn.Writes status j

/-- The scan does not touch the stores, whatever it reads. -/
structure Reads (turn : Turn) : Prop where
  same : turn.after = turn.before
  unwritten : ∀ status j, ¬ turn.Writes status j
  unreleased : ∀ j, .deletePayload j ∉ turn.trace.calls

/-- A turn of a scan that is as it should be after the earlier turns of this scan. -/
structure Fits (id : DocumentId) (earlier : List Turn) (turn : Turn) : Prop where
  analyze : ∀ source, .analyze source ∈ turn.trace.calls → ∀ e ∈ earlier, ∀ v, ¬ e.Hears v
  record : ∀ status j, turn.Writes status j →
    turn.trace.calls = [.updateRecord id status] ∧
      (∀ e ∈ earlier, ∀ status' j', ¬ e.Writes status' j') ∧
        ∃ e ∈ earlier, ∃ v, e.Hears v ∧ v.status = status
  release : ∀ j, .deletePayload j ∈ turn.trace.calls → j = id ∧ ∃ e ∈ earlier, e.Settles id
  change : turn.after = turn.before ∨ turn.Settles id ∨ ∃ e ∈ earlier, e.Settles id
  aside : turn.before.Aside id turn.after

/-- Turns each of which fits the ones before it. -/
def Orderly (id : DocumentId) (turns : List Turn) : Prop :=
  ∀ earlier turn later, turns = earlier ++ turn :: later → turn.Fits id earlier

variable {id : DocumentId} {turns : List Turn} {turn : Turn}

theorem orderly_nil : Orderly id [] := by
  intro earlier turn later split
  cases earlier <;> cases split

theorem Orderly.concat (orderly : Orderly id turns) (fits : turn.Fits id turns) :
    Orderly id (turns ++ [turn]) := by
  intro earlier x later split
  cases List.eq_nil_or_concat later with
  | inl last =>
      subst last
      obtain ⟨rfl, same⟩ := List.append_inj' split rfl
      cases same
      exact fits
  | inr more =>
      obtain ⟨later, y, rfl⟩ := more
      rw [List.concat_eq_append, ← List.cons_append, ← List.append_assoc] at split
      obtain ⟨split, -⟩ := List.append_inj' split rfl
      exact orderly earlier x later split

/-- Until a scan has settled something it has changed nothing. -/
theorem Orderly.unchanged (orderly : Orderly id turns) (unsettled : ∀ e ∈ turns, ¬ e.Settles id) :
    ∀ e ∈ turns, e.after = e.before := by
  intro e taken
  obtain ⟨earlier, later, rfl⟩ := List.append_of_mem taken
  obtain same | settles | ⟨e', sooner, settles⟩ := (orderly earlier e later rfl).change
  · exact same
  · exact absurd settles (unsettled e taken)
  · exact absurd settles (unsettled e' (List.mem_append_left _ sooner))

end Turn

namespace Stores

variable (m : Moment) (s : Stores Payloads)

theorem Aside.rfl {id : DocumentId} {s : Stores Payloads} : s.Aside id s :=
  ⟨fun _ _ => Eq.refl _, fun _ _ => Eq.refl _⟩

theorem aside_updateRecord (id : DocumentId) (status : Status) :
    s.Aside id (s.updateRecord m id status).2 := by
  obtain ⟨e, failed⟩ | ⟨d, -, -, done⟩ := s.updateRecord_cases m id status
  · rw [failed]
    exact .rfl
  · rw [done]
    refine ⟨fun j other => ?_, fun _ _ => Eq.refl _⟩
    rw [Records.document?_judge]
    cases found : s.records.document? j with
    | none => exact Eq.refl _
    | some e =>
        rw [Option.map_some, if_neg fun own => other ((Records.id_of_document? found).symm.trans own)]

theorem aside_deletePayload (id : DocumentId) : s.Aside id (s.deletePayload m id).2 := by
  obtain ⟨e, failed⟩ | done := s.deletePayload_cases m id
  · rw [failed]
    exact .rfl
  · rw [done]
    refine ⟨fun _ _ => Eq.refl _, fun j other => ?_⟩
    rw [Payloads.get?_drop, if_neg other]

theorem updateRecord_error {id : DocumentId} {status : Status} {e : MetadataError}
    (failed : (s.updateRecord m id status).1 = .error e) : (s.updateRecord m id status).2 = s := by
  obtain ⟨e', same⟩ | ⟨d, -, -, done⟩ := s.updateRecord_cases m id status
  · rw [same]
  · rw [done] at failed
    cases failed

end Stores

namespace Turn

variable {id : DocumentId} {earlier : List Turn} {turn : Turn}

theorem Reads.fits (reads : turn.Reads) (quiet : ∀ e ∈ earlier, e.Quiet) : turn.Fits id earlier where
  analyze _ _ e sooner := (quiet e sooner).1
  record status j writes := absurd writes (reads.unwritten status j)
  release j releases := absurd releases (reads.unreleased j)
  change := .inl reads.same
  aside := by
    rw [reads.same]
    exact .rfl

theorem quiet_concat (quiet : ∀ e ∈ earlier, e.Quiet) (own : turn.Quiet) :
    ∀ e ∈ earlier ++ [turn], e.Quiet := by
  intro e taken
  cases List.mem_append.mp taken with
  | inl sooner => exact quiet e sooner
  | inr last =>
      rw [List.mem_singleton.mp last]
      exact own

/-- The turn in which a scan makes a call to a store. -/
def making (c : Call) (i : Nat) (m : Moment) (s s' : Stores Payloads) (t : Trace) : Turn :=
  ⟨m, .scan i, s, s', Trace.ofCall? (some c) ++ t⟩

variable {c : Call} {i : Nat} {m : Moment} {s s' : Stores Payloads} {t : Trace}

theorem calls_making : (making c i m s s' t).trace.calls = c :: t.calls := by
  rw [making, Trace.calls_append]
  rfl

theorem not_hears_making (v : Verdict) : ¬ (making c i m s s' t).Hears v := by
  rintro ⟨j, own⟩
  cases own

/-- A turn that fetches the bytes, and hands them to the engine if it gets them. -/
theorem reads_fetching (rest : t.calls = [] ∨ ∃ source, t.calls = [.analyze source]) :
    (making (.fetchPayload id) i m s s t).Reads := by
  have fetch : ∀ c ∈ (making (.fetchPayload id) i m s s t).trace.calls,
      c = .fetchPayload id ∨ ∃ source, c = .analyze source := by
    intro c made
    rw [calls_making] at made
    cases List.mem_cons.mp made with
    | inl first => exact .inl first
    | inr second =>
        obtain none | ⟨source, one⟩ := rest
        · rw [none] at second
          cases second
        · rw [one] at second
          exact .inr ⟨source, List.mem_singleton.mp second⟩
  refine ⟨rfl, fun status j writes => ?_, fun j releases => ?_⟩
  · obtain fetches | ⟨source, analyzes⟩ := fetch _ writes
    · cases fetches
    · cases analyzes
  · obtain fetches | ⟨source, analyzes⟩ := fetch _ releases
    · cases fetches
    · cases analyzes

theorem eq_of_calls_making (silent : t.calls = []) {c' : Call}
    (made : c' ∈ (making c i m s s' t).trace.calls) : c' = c := by
  rw [calls_making, silent] at made
  exact List.mem_singleton.mp made

/-- A turn that writes down the verdict that has been heard. -/
theorem fits_writing {v : Verdict} (heard : ∃ e ∈ earlier, e.Hears v)
    (unwritten : ∀ e ∈ earlier, ∀ status j, ¬ e.Writes status j) (silent : t.calls = [])
    (stores : s' = (s.updateRecord m id v.status).2)
    (outcome : s' = s ∨ (making (.updateRecord id v.status) i m s s' t).Settles id) :
    (making (.updateRecord id v.status) i m s s' t).Fits id earlier where
  analyze source analyzes := by cases eq_of_calls_making silent analyzes
  record status j writes := by
    cases eq_of_calls_making silent writes
    obtain ⟨e, sooner, hears⟩ := heard
    have alone : (making (.updateRecord id v.status) i m s s' t).trace.calls =
        [.updateRecord id v.status] := by
      rw [calls_making, silent]
    exact ⟨alone, unwritten, e, sooner, v, hears, rfl⟩
  release j releases := by cases eq_of_calls_making silent releases
  change := outcome.imp_right .inl
  aside := by
    rw [stores]
    exact s.aside_updateRecord m id v.status

/-- A turn that releases the bytes after a verdict has been confirmed. -/
theorem fits_releasing (settled : ∃ e ∈ earlier, e.Settles id) (silent : t.calls = [])
    (stores : s' = (s.deletePayload m id).2) :
    (making (.deletePayload id) i m s s' t).Fits id earlier where
  analyze source analyzes := by cases eq_of_calls_making silent analyzes
  record status j writes := by cases eq_of_calls_making silent writes
  release j releases := by
    cases eq_of_calls_making silent releases
    exact ⟨rfl, settled⟩
  change := .inr (.inr settled)
  aside := by
    rw [stores]
    exact s.aside_deletePayload m id

end Turn

namespace Scan

/-- What the earlier turns of a scan must have been for the scan to be where it is. -/
def Phase.Follows (id : DocumentId) (earlier : List Turn) : Phase → Prop
  | .queued | .opening | .resting _ _ | .analyzing _ _ => ∀ e ∈ earlier, e.Quiet
  | .recording _ v => (∃ e ∈ earlier, e.Hears v) ∧ ∀ e ∈ earlier, ∀ status j, ¬ e.Writes status j
  | .releasing => ∃ e ∈ earlier, e.Settles id
  | .ended | .crashed => True

theorem follows_retry {l : Ladder} {id : DocumentId} {attempt : Nat} {error : String}
    {earlier : List Turn} (quiet : ∀ e ∈ earlier, e.Quiet) :
    (retry l id attempt error).1.Follows id earlier :=
  retry_phase (P := fun phase => phase.Follows id earlier) (fun _ => quiet) trivial

variable {c : ScanSettings} {engine : String} {m : Moment} {s s' : Stores Payloads}
  {scan next : Scan} {t : Trace} {earlier : List Turn}

/-- The attempt to write a verdict down is the only call of its turn. Either the records have a verdict
for certain after it, or nothing has changed and the scan is over. -/
theorem recording_cases {id : DocumentId} {attempt : Nat} {v : Verdict}
    (stepped : (⟨id, .recording attempt v⟩ : Scan).step c engine m s = some (next, s', t)) :
    s' = (s.updateRecord m id v.status).2 ∧ t.calls = [] ∧
      ((isDurable (s.updateRecord m id v.status).1 = true ∧ next.phase = .releasing) ∨
        (s' = s ∧ next.phase = .ended)) := by
  cases stepped
  dsimp only
  cases result : (s.updateRecord m id v.status).1 with
  | ok _ => exact ⟨rfl, rfl, .inl ⟨rfl, rfl⟩⟩
  | error e =>
      have same := s.updateRecord_error m result
      cases e with
      | alreadyAnalyzed text => exact ⟨rfl, rfl, .inl ⟨rfl, rfl⟩⟩
      | notFound _ | alreadyExists _ | unavailable _ | query _ => exact ⟨rfl, rfl, .inr ⟨same, rfl⟩⟩

/-- One call of a scan to a store fits what the scan has done before, and so does where it goes on
from there. -/
theorem follows_of_step (i : Nat) (follows : scan.phase.Follows scan.id earlier)
    (stepped : scan.step c engine m s = some (next, s', t)) :
    Turn.Fits scan.id earlier ⟨m, .scan i, s, s', Trace.ofCall? scan.call? ++ t⟩ ∧
      next.phase.Follows scan.id
        (earlier ++ [⟨m, .scan i, s, s', Trace.ofCall? scan.call? ++ t⟩]) := by
  obtain ⟨-, goes⟩ := goes_of_step stepped
  obtain ⟨id, phase⟩ := scan
  obtain ⟨id', phase'⟩ := next
  dsimp only at goes follows ⊢
  cases phase with
  | opening =>
      cases goes with
      | @opened source fetched =>
          have reads : (Turn.making (.fetchPayload id) i m s s [.call (.analyze source)]).Reads :=
            Turn.reads_fetching (.inr ⟨source, rfl⟩)
          exact ⟨reads.fits follows,
            Turn.quiet_concat follows ⟨Turn.not_hears_making, reads.unwritten⟩⟩
      | unopened failed => exact ⟨(Turn.reads_fetching (.inl rfl)).fits follows, trivial⟩
  | resting attempt wait =>
      cases goes with
      | @reopened _ _ source fetched =>
          have reads : (Turn.making (.fetchPayload id) i m s s [.call (.analyze source)]).Reads :=
            Turn.reads_fetching (.inr ⟨source, rfl⟩)
          exact ⟨reads.fits follows,
            Turn.quiet_concat follows ⟨Turn.not_hears_making, reads.unwritten⟩⟩
      | @retried _ _ e failed =>
          have reads : (Turn.making (.fetchPayload id) i m s s (retry c.ladder id attempt
              ("re-reading bytes failed: " ++ e.message)).2).Reads :=
            Turn.reads_fetching (.inl (calls_retry _ _ _ _))
          exact ⟨reads.fits follows,
            follows_retry (Turn.quiet_concat follows ⟨Turn.not_hears_making, reads.unwritten⟩)⟩
  | recording attempt v =>
      obtain ⟨stores, silent, outcome⟩ := recording_cases stepped
      have writes : (Turn.making (.updateRecord id v.status) i m s s' t).Writes v.status id := by
        rw [Turn.Writes, Turn.calls_making]
        exact List.mem_cons_self
      obtain ⟨durable, rfl⟩ | ⟨same, rfl⟩ := outcome
      · have settles : (Turn.making (.updateRecord id v.status) i m s s' t).Settles id :=
          ⟨v.status, writes, durable⟩
        exact ⟨Turn.fits_writing follows.1 follows.2 silent stores (.inr settles),
          _, List.mem_concat_self, settles⟩
      · exact ⟨Turn.fits_writing follows.1 follows.2 silent stores (.inl same), trivial⟩
  | releasing =>
      cases goes with
      | released deleted =>
          exact ⟨Turn.fits_releasing follows rfl (congrArg Prod.snd deleted).symm, trivial⟩
      | @unreleased e failed =>
          exact ⟨Turn.fits_releasing follows (calls_afterReleasing id _)
            (congrArg Prod.snd failed).symm, trivial⟩
  | queued | analyzing _ _ | ended | crashed => cases stepped

theorem follows_of_isOver {phase : Phase} {id : DocumentId} (ended : phase.isOver = true) :
    phase.Follows id earlier := by
  cases phase with
  | ended | crashed => trivial
  | queued | opening | resting _ _ | analyzing _ _ | recording _ _ | releasing => cases ended

theorem follows_of_answer (m : Moment) (s : Stores Payloads) (i : Nat) {answer : Answer}
    (follows : scan.phase.Follows scan.id earlier)
    (answered : scan.answer c engine answer = some (next, t)) :
    Turn.Fits scan.id earlier ⟨m, .answer i answer, s, s, t⟩ ∧
      next.phase.Follows scan.id (earlier ++ [⟨m, .answer i answer, s, s, t⟩]) := by
  have silent := calls_of_answer answered
  have reads : Turn.Reads ⟨m, .answer i answer, s, s, t⟩ := by
    refine ⟨rfl, fun status j writes => ?_, fun j releases => ?_⟩
    · rw [Turn.Writes, silent] at writes
      cases writes
    · rw [silent] at releases
      cases releases
  obtain ⟨-, attempt, source, analyzing, outcome⟩ := answer_cases answered
  rw [analyzing] at follows
  refine ⟨reads.fits follows, ?_⟩
  cases answer with
  | verdict v =>
      have recording : next.phase = .recording attempt v := by
        rw [Scan.answer, analyzing] at answered
        cases answered
        rfl
      rw [recording]
      refine ⟨⟨_, List.mem_concat_self, i, rfl⟩, fun e taken => ?_⟩
      cases List.mem_append.mp taken with
      | inl sooner => exact (follows e sooner).2
      | inr last =>
          rw [List.mem_singleton.mp last]
          exact reads.unwritten
  | failed _ | late | crashed =>
      have quiet := Turn.quiet_concat follows ⟨fun v ⟨_, own⟩ => (by cases own), reads.unwritten⟩
      obtain ⟨v, same, -⟩ | ⟨wait, resting⟩ | ended := outcome
      · cases same
      · rw [resting]
        exact quiet
      · exact follows_of_isOver ended

end Scan

namespace State

variable {s s' : State Payloads} {m : Moment} {a : Action} {t t' : Trace} {i : Nat}

/-- The turn of a scan that an action is, if it is one. -/
def turn (i : Nat) (m : Moment) (a : Action) (s s' : State Payloads) (t : Trace) : List Turn :=
  if a.scan? = some i then [⟨m, a, s.stores, s'.stores, t⟩] else []

/-- The turns of a scan in a run, one after the other. -/
def turns (i : Nat) (s : State Payloads) : List (Moment × Action) → List Turn
  | [] => []
  | (m, a) :: rest =>
    match s.apply m a with
    | some (next, t) => turn i m a s next t ++ next.turns i rest
    | none => []

theorem turns_concat {s₀ : State Payloads} {steps : List (Moment × Action)} {x : Moment × Action}
    (ran : s₀.run steps = some (s, t)) (moved : s.apply x.1 x.2 = some (s', t')) :
    s₀.turns i (steps ++ [x]) = s₀.turns i steps ++ turn i x.1 x.2 s s' t' := by
  induction steps generalizing s₀ t with
  | nil =>
      cases ran
      simp only [List.nil_append, turns, moved, List.append_nil]
  | cons y steps ih =>
      obtain ⟨next, now, later, first, rest, -⟩ := run_cons_iff.mp ran
      simp only [List.cons_append, turns, first, ih rest, List.append_assoc]

/-- What holds of a scan that waits in the queue and has had no turn, and is kept by each of its
turns and when it gets its place, holds of it after every run. A scan that waits in line gets its
place in the turn of another. A scan that has not been asked for yet has had no turn. -/
theorem turns_induction {c : Config} {engine : String} {stores : Stores Payloads}
    {P : Scan → List Turn → Prop} (queued : ∀ id, P ⟨id, .queued⟩ [])
    (ask : ∀ scan turns m s, scan.phase = .queued → P scan turns →
      P scan (turns ++ [⟨m, .enter i, s, s, []⟩]))
    (seat : ∀ scan turns, scan.phase = .queued → P scan turns →
      P { scan with phase := .opening } turns)
    (call : ∀ scan turns m s next s' t, scan.step c.scan engine m s = some (next, s', t) →
      P scan turns → P next (turns ++ [⟨m, .scan i, s, s', Trace.ofCall? scan.call? ++ t⟩]))
    (answer : ∀ scan turns m s a next t, scan.answer c.scan engine a = some (next, t) →
      P scan turns → P next (turns ++ [⟨m, .answer i a, s, s, t⟩]))
    {steps : List (Moment × Action)} (ran : (State.idle c engine stores).run steps = some (s, t)) :
    (s.scans[i]? = none → (State.idle c engine stores).turns i steps = []) ∧
      ∀ scan, s.scans[i]? = some scan → P scan ((State.idle c engine stores).turns i steps) := by
  refine run_induction (P := fun steps s _ =>
    (s.scans[i]? = none → (State.idle c engine stores).turns i steps = []) ∧
      ∀ scan, s.scans[i]? = some scan → P scan ((State.idle c engine stores).turns i steps))
    ⟨fun _ => rfl, fun _ found => by cases found⟩ ?_ ran
  rintro steps s t ⟨m, a⟩ s' t' ran ⟨absent, kept⟩ moved
  obtain ⟨config, engine⟩ := run_config ran
  rw [turns_concat ran moved]
  cases found : s.scans[i]? with
  | none =>
      obtain ⟨other, waits⟩ := scan_of_apply_free found moved
      rw [absent found, turn, if_neg other]
      refine ⟨fun _ => rfl, fun scan there => ?_⟩
      obtain ⟨id, phase⟩ := scan
      cases waits _ there
      exact queued id
  | some scan =>
      obtain ⟨next, found', advances⟩ := advances_of_apply found moved
      have kept := kept scan found
      have missing : s'.scans[i]? ≠ none := by simp [found']
      refine ⟨fun none => absurd none missing, fun scan' there => ?_⟩
      cases found'.symm.trans there
      cases advances with
      | idle other =>
          rw [turn, if_neg other, List.append_nil]
          exact kept
      | seated other queued =>
          rw [turn, if_neg other, List.append_nil]
          exact seat scan _ queued kept
      | entered queued _ told asked =>
          rw [turn, if_pos (show (Action.enter i).scan? = some i from rfl), told, asked,
            askPlace_stores]
          exact seat scan _ queued (ask scan _ m s.stores queued kept)
      | waits queued _ told asked =>
          rw [turn, if_pos (show (Action.enter i).scan? = some i from rfl), told, asked,
            askPlace_stores]
          exact ask scan _ m s.stores queued kept
      | called stepped told _ =>
          rw [turn, if_pos (show (Action.scan i).scan? = some i from rfl), told]
          rw [config, engine] at stepped
          exact call scan _ m s.stores _ _ _ stepped kept
      | @answered answer' _ answered put =>
          rw [turn, if_pos (show (Action.answer i answer').scan? = some i from rfl), put,
            putScan_stores]
          rw [config, engine] at answered
          exact answer scan _ m s.stores _ _ _ answered kept

/-- The turns of a scan so far fit each other, and the scan is where they lead. A scan that has not
been asked for yet has had no turn. -/
structure Conduct (i : Nat) (s : State Payloads) (turns : List Turn) : Prop where
  absent : s.scans[i]? = none → turns = []
  orderly : ∀ scan, s.scans[i]? = some scan → Turn.Orderly scan.id turns
  follows : ∀ scan, s.scans[i]? = some scan → scan.phase.Follows scan.id turns

theorem conduct_of_run {c : Config} {engine : String} {stores : Stores Payloads}
    {steps : List (Moment × Action)} (i : Nat)
    (ran : (State.idle c engine stores).run steps = some (s, t)) :
    s.Conduct i ((State.idle c engine stores).turns i steps) := by
  have kept := turns_induction (i := i) (P := fun scan turns =>
    Turn.Orderly scan.id turns ∧ scan.phase.Follows scan.id turns) ?queued ?ask ?seat ?call ?answer ran
  case queued =>
    intro id
    exact ⟨Turn.orderly_nil, fun e taken => absurd taken List.not_mem_nil⟩
  case ask =>
    rintro scan turns m s queued ⟨orderly, follows⟩
    rw [queued] at follows
    have reads : Turn.Reads ⟨m, .enter i, s, s, []⟩ :=
      ⟨rfl, fun _ _ writes => absurd writes List.not_mem_nil,
        fun _ releases => absurd releases List.not_mem_nil⟩
    rw [queued]
    exact ⟨orderly.concat (reads.fits follows),
      Turn.quiet_concat follows ⟨fun v ⟨_, own⟩ => (by cases own), reads.unwritten⟩⟩
  case seat =>
    rintro scan turns queued ⟨orderly, follows⟩
    rw [queued] at follows
    exact ⟨orderly, follows⟩
  case call =>
    rintro scan turns m s next s' t stepped ⟨orderly, follows⟩
    obtain ⟨fits, leads⟩ := Scan.follows_of_step i follows stepped
    rw [(Scan.goes_of_step stepped).1]
    exact ⟨orderly.concat fits, leads⟩
  case answer =>
    rintro scan turns m s a next t answered ⟨orderly, follows⟩
    obtain ⟨fits, leads⟩ := Scan.follows_of_answer m s i follows answered
    rw [(Scan.answer_cases answered).1]
    exact ⟨orderly.concat fits, leads⟩
  exact ⟨kept.1, fun scan found => (kept.2 scan found).1, fun scan found => (kept.2 scan found).2⟩

/-- Every turn of a scan fits the turns that the scan has had before. As long as the records have not
confirmed a verdict to the scan, its turns leave both stores as they find them. -/
theorem bytes_released_after_verdict {c : Config} {engine : String} {stores : Stores Payloads}
    {steps : List (Moment × Action)} {scan : Scan}
    (ran : (State.idle c engine stores).run steps = some (s, t)) (found : s.scans[i]? = some scan) :
    (∀ earlier turn later,
        (State.idle c engine stores).turns i steps = earlier ++ turn :: later →
        turn.Fits scan.id earlier) ∧
      ((∀ turn ∈ (State.idle c engine stores).turns i steps, ¬ turn.Settles scan.id) →
        ∀ turn ∈ (State.idle c engine stores).turns i steps, turn.after = turn.before) := by
  have orderly := (conduct_of_run i ran).orderly scan found
  exact ⟨orderly, orderly.unchanged⟩

/-- A scan rests twice, is refused the bytes once and has its verdict lost. Another scan of the same
document then writes its own verdict down and releases the bytes. -/
def relay : List (Moment × Action) :=
  calmly 0 [.submit (.ofBytes [7]), .upload 0, .upload 0, .upload 0,
      .schedule (Identity.contentId [7] ""), .enter 0, .scan 0, .answer 0 .late] ++
    (⟨default, some (.refused Payloads.offline), none⟩, .scan 0) ::
    calmly 0 [.scan 0, .answer 0 (.verdict .clean)] ++
    (⟨default, none, some Records.offline⟩, .scan 0) ::
    calmly 0 [.enter 1, .scan 1, .answer 1 (.verdict .clean), .scan 1, .scan 1]

theorem relay_bytes_released_after_verdict :
    (∀ turn ∈ (State.idle .standard "engine" Stores.empty).turns 0 relay,
        turn.after = turn.before) ∧
      ∃ earlier turn, (State.idle .standard "engine" Stores.empty).turns 1 relay =
          earlier ++ [turn] ∧
        .deletePayload (Identity.contentId [7] "") ∈ turn.trace.calls ∧
        ∃ e ∈ earlier, e.Settles (Identity.contentId [7] "") := by
  obtain ⟨p, ran, first, second⟩ :
      ∃ p ∈ (State.idle .standard "engine" Stores.empty).run relay,
        p.1.scans[0]? = some ⟨Identity.contentId [7] "", .ended⟩ ∧
          p.1.scans[1]? = some ⟨Identity.contentId [7] "", .ended⟩ := by decide +kernel
  have unsettled : ∀ turn ∈ (State.idle .standard "engine" Stores.empty).turns 0 relay,
      ¬ turn.Settles (Identity.contentId [7] "") := by decide +kernel
  have deletes : ((State.idle .standard "engine" Stores.empty).turns 1 relay).getLast?.map
      (·.trace.calls) = some [.deletePayload (Identity.contentId [7] "")] := by decide +kernel
  obtain ⟨turn, last, calls⟩ := Option.map_eq_some_iff.mp deletes
  obtain ⟨earlier, split⟩ := List.getLast?_eq_some_iff.mp last
  have releases : .deletePayload (Identity.contentId [7] "") ∈ turn.trace.calls := by
    rw [calls]
    exact List.mem_cons_self
  refine ⟨(bytes_released_after_verdict ran first).2 unsettled, earlier, turn, split, releases, ?_⟩
  exact (((bytes_released_after_verdict ran second).1 earlier turn [] split).release _ releases).2

end State

end Quarantine
