import Quarantine.Proofs.Service.Race
import Quarantine.Proofs.Service.Release

/-!
The audit trail accounts for the records of a run, whatever fails and whatever goes on side by side.
Its entries tell how many records were made and which scans they asked for, which statuses are on
record as long as nothing is swept away, and how many records there are in any case. A scan that got
the bytes of its document ends with one entry on what has become of it, or with none if there was a
verdict already.
-/

namespace Quarantine

namespace Turn

/-- The scan gets a stream of the bytes. -/
def Obtains (id : DocumentId) (turn : Turn) : Prop :=
  .fetchPayload id ∈ turn.trace.calls ∧
    ∃ source, turn.before.fetchPayload turn.moment id = .ok source

instance (id : DocumentId) : DecidablePred (Obtains id) := fun turn =>
  decidable_of_iff (.fetchPayload id ∈ turn.trace.calls ∧
      (turn.before.fetchPayload turn.moment id).isOk = true)
    (and_congr_right fun _ => by
      cases turn.before.fetchPayload turn.moment id <;> simp [Except.isOk, Except.toBool])

/-- The scan tries to write a status down, and learns that another verdict was there before. -/
def Forestalled (id : DocumentId) (turn : Turn) : Prop :=
  ∃ status, turn.Writes status id ∧
    ∃ text, (turn.before.updateRecord turn.moment id status).1 = .error (.alreadyAnalyzed text)

/-- What some turns of a scan have told of what has become of it. -/
def conclusions (turns : List Turn) : List DocumentId :=
  turns.flatMap (·.trace.concluded)

/-- In some turns of a scan nothing has become of it. -/
structure Undecided (id : DocumentId) (turns : List Turn) : Prop where
  untold : conclusions turns = []
  free : ∀ e ∈ turns, ¬ e.Forestalled id

/-- In some turns of a scan it was told once what has become of it, or there was a verdict already
and it was not told. -/
def Decided (id : DocumentId) (turns : List Turn) : Prop :=
  (conclusions turns = [id] ∧ ∀ e ∈ turns, ¬ e.Forestalled id) ∨
    (conclusions turns = [] ∧ ∃ e ∈ turns, e.Forestalled id)

variable {id : DocumentId} {turns more : List Turn} {turn : Turn}

theorem conclusions_append : conclusions (turns ++ more) = conclusions turns ++ conclusions more :=
  List.flatMap_append

theorem undecided_nil : Undecided id [] :=
  ⟨rfl, fun _ taken => absurd taken List.not_mem_nil⟩

theorem Undecided.append (first : Undecided id turns) (second : Undecided id more) :
    Undecided id (turns ++ more) where
  untold := by rw [conclusions_append, first.untold, second.untold, List.append_nil]
  free := List.forall_mem_append.mpr ⟨first.free, second.free⟩

theorem Undecided.append_decided (first : Undecided id turns) (second : Decided id more) :
    Decided id (turns ++ more) := by
  rw [Decided, conclusions_append, first.untold, List.nil_append]
  obtain ⟨told, free⟩ | ⟨untold, e, taken, forestalled⟩ := second
  · exact .inl ⟨told, List.forall_mem_append.mpr ⟨first.free, free⟩⟩
  · exact .inr ⟨untold, e, List.mem_append_right _ taken, forestalled⟩

theorem Decided.append (first : Decided id turns) (second : Undecided id more) :
    Decided id (turns ++ more) := by
  rw [Decided, conclusions_append, second.untold, List.append_nil]
  obtain ⟨told, free⟩ | ⟨untold, e, taken, forestalled⟩ := first
  · exact .inl ⟨told, List.forall_mem_append.mpr ⟨free, second.free⟩⟩
  · exact .inr ⟨untold, e, List.mem_append_left _ taken, forestalled⟩

theorem not_forestalled (unwritten : ∀ status j, ¬ turn.Writes status j) : ¬ turn.Forestalled id :=
  fun ⟨status, writes, _⟩ => unwritten status id writes

theorem undecided_singleton (untold : turn.trace.concluded = []) (free : ¬ turn.Forestalled id) :
    Undecided id [turn] :=
  ⟨by simpa [conclusions] using untold, List.forall_mem_singleton.mpr free⟩

theorem decided_of_told (told : turn.trace.concluded = [id]) (free : ¬ turn.Forestalled id) :
    Decided id [turn] :=
  .inl ⟨by simpa [conclusions] using told, List.forall_mem_singleton.mpr free⟩

theorem decided_of_forestalled (untold : turn.trace.concluded = [])
    (forestalled : turn.Forestalled id) : Decided id [turn] :=
  .inr ⟨by simpa [conclusions] using untold, turn, List.mem_singleton_self turn, forestalled⟩

variable {c : Call} {i : Nat} {m : Moment} {s s' : Stores Payloads} {t : Trace}

theorem concluded_making : (making c i m s s' t).trace.concluded = t.concluded := by
  rw [making, Trace.concluded, State.audits_ofCall?, Trace.concluded]

/-- A turn that writes a status down learns what the records answer. -/
theorem forestalled_writing {status : Status} (silent : t.calls = []) :
    (making (.updateRecord id status) i m s s' t).Forestalled id ↔
      ∃ text, (s.updateRecord m id status).1 = .error (.alreadyAnalyzed text) := by
  constructor
  · rintro ⟨status', writes, refused⟩
    cases eq_of_calls_making silent writes
    exact refused
  · intro refused
    refine ⟨status, ?_, refused⟩
    rw [Writes, calls_making]
    exact List.mem_cons_self

end Turn

namespace Scan

/-- What it is that a scan in a phase has told of what has become of it. -/
def Phase.Tells (id : DocumentId) (turns : List Turn) : Phase → Prop
  | .queued | .opening => Turn.Undecided id turns ∧ ∀ e ∈ turns, ¬ e.Obtains id
  | .resting _ _ | .analyzing _ _ | .recording _ _ | .crashed => Turn.Undecided id turns
  | .releasing => Turn.Decided id turns
  | .ended => Turn.Decided id turns ∨ ∀ e ∈ turns, ¬ e.Obtains id

variable {c : ScanSettings} {engine : String} {m : Moment} {s s' : Stores Payloads}
  {scan next : Scan} {t : Trace} {turns : List Turn} {id : DocumentId}

/-- A failed attempt is told of just if there is no other one. -/
theorem tells_retry {turn : Turn} {l : Ladder} {attempt : Nat} {error : String}
    (undecided : Turn.Undecided id turns) (free : ¬ turn.Forestalled id)
    (told : turn.trace.audits = Trace.audits (retry l id attempt error).2) :
    (retry l id attempt error).1.Tells id (turns ++ [turn]) := by
  obtain ⟨⟨wait, resting⟩, silent⟩ | ⟨ended, abandoned⟩ := retry_cases l id attempt error
  · rw [resting]
    refine undecided.append (Turn.undecided_singleton ?_ free)
    rw [Trace.concluded, told, silent]
    rfl
  · rw [ended]
    refine .inl (undecided.append_decided (Turn.decided_of_told ?_ free))
    rw [Trace.concluded, told, abandoned]
    rfl

/-- The attempt to write a verdict down is told of, unless the records have one already. -/
theorem afterRecording_cases (engine : String) (id : DocumentId) (attempt : Nat) (v : Verdict)
    (result : Except MetadataError Unit) :
    ((∃ text, result = .error (.alreadyAnalyzed text)) ∧
        (afterRecording engine id attempt v result).1 = .releasing ∧
        Trace.concluded (afterRecording engine id attempt v result).2 = []) ∨
      ((¬ ∃ text, result = .error (.alreadyAnalyzed text)) ∧
        ((afterRecording engine id attempt v result).1 = .releasing ∨
          (afterRecording engine id attempt v result).1 = .ended) ∧
        Trace.concluded (afterRecording engine id attempt v result).2 = [id]) := by
  cases result with
  | ok _ => exact .inr ⟨nofun, .inl rfl, rfl⟩
  | error e =>
      cases e with
      | alreadyAnalyzed text => exact .inl ⟨⟨text, rfl⟩, rfl, rfl⟩
      | notFound _ | alreadyExists _ | unavailable _ | query _ => exact .inr ⟨nofun, .inr rfl, rfl⟩

theorem tells_recording (i : Nat) {attempt : Nat} {v : Verdict}
    (undecided : Turn.Undecided id turns)
    (stepped : (⟨id, .recording attempt v⟩ : Scan).step c engine m s = some (next, s', t)) :
    next.phase.Tells id (turns ++ [Turn.making (.updateRecord id v.status) i m s s' t]) := by
  obtain ⟨-, silent, -⟩ := recording_cases stepped
  have learns : (Turn.making (.updateRecord id v.status) i m s s' t).Forestalled id ↔
      ∃ text, (s.updateRecord m id v.status).1 = .error (.alreadyAnalyzed text) :=
    Turn.forestalled_writing silent
  cases stepped
  obtain ⟨already, releasing, untold⟩ | ⟨first, goes, told⟩ :=
    afterRecording_cases engine id attempt v (s.updateRecord m id v.status).1
  · rw [releasing]
    exact undecided.append_decided
      (Turn.decided_of_forestalled (Turn.concluded_making.trans untold) (learns.mpr already))
  · have decided := undecided.append_decided
      (Turn.decided_of_told (Turn.concluded_making.trans told) (mt learns.mp first))
    obtain releasing | ended := goes
    · rw [releasing]
      exact decided
    · rw [ended]
      exact .inl decided

theorem tells_of_step (i : Nat) (tells : scan.phase.Tells scan.id turns)
    (stepped : scan.step c engine m s = some (next, s', t)) :
    next.phase.Tells scan.id (turns ++ [⟨m, .scan i, s, s', Trace.ofCall? scan.call? ++ t⟩]) := by
  obtain ⟨-, goes⟩ := goes_of_step stepped
  obtain ⟨id, phase⟩ := scan
  obtain ⟨id', phase'⟩ := next
  dsimp only at goes tells ⊢
  -- A turn in which the scan only reads and tells nothing leaves it where it was.
  have reads : ∀ {t : Trace}, (t.calls = [] ∨ ∃ source, t.calls = [.analyze source]) →
      ¬ (Turn.making (.fetchPayload id) i m s s t).Forestalled id :=
    fun rest => Turn.not_forestalled (Turn.reads_fetching rest).unwritten
  cases phase with
  | opening =>
      obtain ⟨undecided, unread⟩ := tells
      cases goes with
      | @opened source fetched =>
          exact undecided.append
            (Turn.undecided_singleton Turn.concluded_making (reads (.inr ⟨source, rfl⟩)))
      | @unopened e failed =>
          refine .inr (List.forall_mem_append.mpr ⟨unread, List.forall_mem_singleton.mpr ?_⟩)
          rintro ⟨-, source, fetched⟩
          cases failed.symm.trans fetched
  | resting attempt wait =>
      cases goes with
      | @reopened _ _ source fetched =>
          exact tells.append
            (Turn.undecided_singleton Turn.concluded_making (reads (.inr ⟨source, rfl⟩)))
      | @retried _ _ e failed =>
          exact tells_retry tells (reads (.inl (calls_retry _ _ _ _))) (State.audits_ofCall? _ _)
  | recording attempt v => exact tells_recording i tells stepped
  | releasing =>
      have still : ∀ {s' : Stores Payloads} {t : Trace}, t.calls = [] → t.concluded = [] →
          Turn.Undecided id [Turn.making (.deletePayload id) i m s s' t] := by
        intro s' t silent untold
        refine Turn.undecided_singleton (Turn.concluded_making.trans untold) ?_
        exact Turn.not_forestalled fun status j writes => by
          cases Turn.eq_of_calls_making silent writes
      cases goes with
      | released deleted => exact .inl (Turn.Decided.append tells (still rfl rfl))
      | @unreleased e failed =>
          refine .inl (Turn.Decided.append tells (still (calls_afterReleasing id _) ?_))
          rw [Trace.concluded, audits_afterReleasing_error]
          rfl
  | queued | analyzing _ _ | ended | crashed => cases stepped

theorem tells_of_answer (m : Moment) (s : Stores Payloads) (i : Nat) {answer : Answer}
    (tells : scan.phase.Tells scan.id turns)
    (answered : scan.answer c engine answer = some (next, t)) :
    next.phase.Tells scan.id (turns ++ [⟨m, .answer i answer, s, s, t⟩]) := by
  obtain ⟨-, attempt, source, analyzing, outcome⟩ := answer_cases answered
  rw [analyzing] at tells
  have free : ¬ Turn.Forestalled scan.id ⟨m, .answer i answer, s, s, t⟩ := by
    refine Turn.not_forestalled fun status j writes => ?_
    rw [Turn.Writes, calls_of_answer answered] at writes
    cases writes
  obtain ⟨silent, unended⟩ | ⟨ended, attempts, error, told⟩ := answer_told answered
  · have undecided : Turn.Undecided scan.id (turns ++ [⟨m, .answer i answer, s, s, t⟩]) :=
      Turn.Undecided.append tells
        (Turn.undecided_singleton (by rw [Trace.concluded, silent]; rfl) free)
    obtain ⟨v, -, recording⟩ | ⟨wait, resting⟩ | finished := outcome
    · rw [recording]
      exact undecided
    · rw [resting]
      exact undecided
    · cases phase : next.phase with
      | crashed => exact undecided
      | ended => exact absurd phase unended
      | queued | opening | resting _ _ | analyzing _ _ | recording _ _ | releasing =>
          rw [phase] at finished
          cases finished
  · rw [ended]
    exact .inl (Turn.Undecided.append_decided tells
      (Turn.decided_of_told (by rw [Trace.concluded, told]; rfl) free))

end Scan

namespace State

variable {c : Config} {engine : String} {steps : List (Moment × Action)} {s : State Payloads}
  {t : Trace}

/-- Where a scan is says what its turns have told. -/
theorem tells_of_run {stores : Stores Payloads} {i : Nat} {scan : Scan}
    (ran : (State.idle c engine stores).run steps = some (s, t)) (found : s.scans[i]? = some scan) :
    scan.phase.Tells scan.id ((State.idle c engine stores).turns i steps) := by
  refine (turns_induction (i := i) (P := fun scan turns => scan.phase.Tells scan.id turns)
    ?queued ?ask ?seat ?call ?answer ran).2 scan found
  case queued =>
    intro id
    exact ⟨Turn.undecided_nil, fun e taken => absurd taken List.not_mem_nil⟩
  case ask =>
    intro scan turns m s queued tells
    rw [queued] at tells ⊢
    obtain ⟨undecided, unread⟩ := tells
    refine ⟨undecided.append (Turn.undecided_singleton rfl ?_), ?_⟩
    · exact Turn.not_forestalled fun _ _ writes => absurd writes List.not_mem_nil
    · refine List.forall_mem_append.mpr ⟨unread, List.forall_mem_singleton.mpr ?_⟩
      exact fun obtains => absurd obtains.1 List.not_mem_nil
  case seat =>
    intro scan turns queued tells
    rw [queued] at tells
    exact tells
  case call =>
    intro scan turns m s next s' t stepped tells
    rw [(Scan.goes_of_step stepped).1]
    exact Scan.tells_of_step i tells stepped
  case answer =>
    intro scan turns m s a next t answered tells
    rw [(Scan.answer_cases answered).1]
    exact Scan.tells_of_answer m s i tells answered

/-- As many new records are told of under an id as uploads have come to one, and each has a scan
asked for. -/
theorem creations_of_run {id : DocumentId}
    (ran : (State.idle c engine Stores.empty).run steps = some (s, t)) :
    t.created id = s.creations id ∧
      s.scheduled id = s.creations id + steps.countP fun x => x.2 = .schedule id := by
  refine run_induction (P := fun steps s t => t.created id = s.creations id ∧
    s.scheduled id = s.creations id + steps.countP fun x => x.2 = .schedule id) ⟨rfl, rfl⟩ ?_ ran
  rintro steps s t x s' t' ran ⟨told, asked⟩ moved
  obtain ⟨scans, made⟩ : s'.scheduled id = _ ∧ s'.creations id = _ :=
    counts_of_apply (plain_of_run ran) moved
  rw [Trace.created_append, List.countP_append, List.countP_singleton]
  simp only [decide_eq_true_eq]
  omega

theorem statuses_of_run (unswept : steps.any (·.2.sweeps) = false)
    (ran : (State.idle c engine Stores.empty).run steps = some (s, t)) :
    t.statuses = s.stores.records.statuses := by
  refine run_induction (P := fun steps s t => steps.any (·.2.sweeps) = false →
    t.statuses = s.stores.records.statuses) (fun _ => rfl) ?_ ran unswept
  intro steps s t x s' t' _ ih moved unswept
  rw [List.any_append, Bool.or_eq_false_iff] at unswept
  have books := books_of_apply moved
  rw [(by simpa using unswept.2 : x.2.sweeps = false)] at books
  rw [Trace.statuses_append, ih unswept.1, books.post]

theorem length_of_run (ran : (State.idle c engine Stores.empty).run steps = some (s, t)) :
    s.stores.records.documents.length + t.removed =
      t.tells .documentCreated + t.tells .verdictPropagated := by
  refine run_induction (P := fun _ s t => s.stores.records.documents.length + t.removed =
    t.tells .documentCreated + t.tells .verdictPropagated) rfl ?_ ran
  intro steps s t x s' t' _ balanced moved
  have books := (books_of_apply moved).length
  simp only [Trace.removed_append, Trace.tells_append]
  omega

/-- The audit trail of a run tells of as many new records under an id as uploads have come to one,
and these have as many scans asked for, besides those that are asked for directly. Entry by entry it
tells the status of every record, as long as none is swept away, and the number of records in any
case. A scan that is over and got the bytes once has told one thing that has become of it, or
nothing if there was a verdict already; one that the engine took with it has told nothing. -/
theorem trail_accounts_for_records
    (ran : (State.idle c engine Stores.empty).run steps = some (s, t)) :
    (∀ id, t.created id = s.creations id ∧
        s.scheduled id = s.creations id + steps.countP fun x => x.2 = .schedule id) ∧
      (steps.any (·.2.sweeps) = false → t.statuses = s.stores.records.statuses) ∧
      s.stores.records.documents.length + t.removed =
        t.tells .documentCreated + t.tells .verdictPropagated ∧
      ∀ i scan, s.scans[i]? = some scan →
        (scan.phase = .ended →
          (∃ e ∈ (State.idle c engine Stores.empty).turns i steps, e.Obtains scan.id) →
          Turn.Decided scan.id ((State.idle c engine Stores.empty).turns i steps)) ∧
        (scan.phase = .crashed →
          Turn.Undecided scan.id ((State.idle c engine Stores.empty).turns i steps)) := by
  refine ⟨fun id => creations_of_run ran, fun unswept => statuses_of_run unswept ran,
    length_of_run ran, fun i scan found => ?_⟩
  have tells := tells_of_run ran found
  refine ⟨fun ended obtained => ?_, fun crashed => ?_⟩
  · rw [ended] at tells
    obtain ⟨e, taken, obtains⟩ := obtained
    exact tells.resolve_right fun unread => unread e taken obtains
  · rw [crashed] at tells
    exact tells

/-- A document is scanned twice at once, and only one of the two verdicts is kept. Its content comes
again under another tag, and takes the verdict over. -/
def twice : List (Moment × Action) :=
  calmly 0 [.submit (.ofBytes [7]), .upload 0, .upload 0, .upload 0,
    .schedule (Identity.contentId [7] ""), .enter 0, .enter 1, .scan 0, .scan 1,
    .answer 0 (.verdict .clean), .answer 1 (.verdict (.infected "x")), .scan 0, .scan 1, .scan 0,
    .scan 1, .submit (.under "b" [7]), .upload 1, .upload 1]

/-- Both records are then swept away. -/
def twiceAndSwept : List (Moment × Action) :=
  twice ++ calmly 7200 [.sweep Config.standard.resultTtl]

theorem trail_of_twice_accounts :
    (∃ p ∈ (State.idle .standard "engine" Stores.empty).run twice,
        p.2.created (Identity.contentId [7] "") = 1 ∧
          p.1.scheduled (Identity.contentId [7] "") = 2 ∧
          p.2.statuses (Identity.contentId [7] "b") = some .clean ∧
          Turn.conclusions ((State.idle .standard "engine" Stores.empty).turns 0 twice) =
            [Identity.contentId [7] ""] ∧
          ∃ e ∈ (State.idle .standard "engine" Stores.empty).turns 1 twice,
            e.Forestalled (Identity.contentId [7] "")) ∧
      ∃ p ∈ (State.idle .standard "engine" Stores.empty).run twiceAndSwept,
        p.2.removed = 2 ∧ p.1.stores.records.documents = [] := by
  obtain ⟨p, ran, made, kept, first, second⟩ :
      ∃ p ∈ (State.idle .standard "engine" Stores.empty).run twice,
        p.1.creations (Identity.contentId [7] "") = 1 ∧
          p.1.stores.records.statuses (Identity.contentId [7] "b") = some .clean ∧
          p.1.scans[0]? = some ⟨Identity.contentId [7] "", .ended⟩ ∧
          p.1.scans[1]? = some ⟨Identity.contentId [7] "", .ended⟩ := by decide +kernel
  obtain ⟨q, ran', told, gone⟩ :
      ∃ p ∈ (State.idle .standard "engine" Stores.empty).run twiceAndSwept,
        p.2.tells .documentCreated + p.2.tells .verdictPropagated = 2 ∧
          p.1.stores.records.documents = [] := by decide +kernel
  obtain ⟨counts, statuses, -, decided⟩ := trail_accounts_for_records ran
  obtain ⟨-, -, balanced, -⟩ := trail_accounts_for_records ran'
  obtain ⟨created, scheduled⟩ := counts (Identity.contentId [7] "")
  have asked : twice.countP (fun x => x.2 = .schedule (Identity.contentId [7] "")) = 1 := by
    decide +kernel
  have one := (decided 0 _ first).1 rfl (by decide +kernel)
  have two := (decided 1 _ second).1 rfl (by decide +kernel)
  have loud : Turn.conclusions
      ((State.idle .standard "engine" Stores.empty).turns 0 twice) ≠ [] := by decide +kernel
  have quiet : Turn.conclusions
      ((State.idle .standard "engine" Stores.empty).turns 1 twice) = [] := by decide +kernel
  refine ⟨⟨p, ran, by omega, by omega, ?_, ?_, ?_⟩, q, ran', ?_, gone⟩
  · rw [statuses (by decide), kept]
  · exact (one.resolve_right fun silent => loud silent.1).1
  · exact (two.resolve_left fun telling => by rw [quiet] at telling; cases telling.1).2
  · rw [gone] at balanced
    simpa [told] using balanced

end State

end Quarantine
