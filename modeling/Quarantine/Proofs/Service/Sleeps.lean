import Quarantine.Proofs.Scan.Attempts
import Quarantine.Proofs.Scan.Ladder
import Quarantine.Proofs.Service.Run

/-!
What a scan sleeps in the course of a run. As long as its attempts fail in such a way that another
one may follow, it has slept the first waits of its ladder, whatever the other tasks do in between
and whichever of its attempts fail before the engine gets the bytes. So when no attempt is left it
has slept as long as the ladder says in all.
-/

namespace Quarantine

namespace Scan

/-- Whether another attempt may follow after this answer. -/
def Answer.isRetryable : Answer → Bool
  | .failed e => e.isRecoverable
  | .late => true
  | .verdict _ | .crashed => false

namespace Phase

/-- The sleep with which a phase begins. -/
def sleep? : Phase → Option Duration
  | .resting _ wait => some wait
  | .queued | .opening | .analyzing _ _ | .recording _ _ | .releasing | .ended | .crashed => none

/-- What a scan has slept when it has come to a phase, if its attempts so far have failed in such a
way that another one may follow. A scan that could not open its bytes has ended without an attempt,
so without an answer. -/
def Slept (l : Ladder) (answers : List Answer) (sleeps : List Duration) : Phase → Prop
  | .queued | .opening => answers = [] ∧ sleeps = []
  | .resting number _ | .analyzing number _ =>
    0 < number ∧ sleeps = l.steps.dropLast.take (number - 1)
  | .ended => answers ≠ [] → sleeps = l.steps.dropLast
  | .recording _ _ | .releasing | .crashed => False

end Phase

variable {σ : Type} [PayloadStore σ] {c : ScanSettings} {engine : String} {m : Moment}
  {s s' : Stores σ} {scan next : Scan} {t : Trace} {answers : List Answer} {sleeps : List Duration}

/-- After an attempt that failed there is the next wait of the ladder, or there is none left. -/
theorem slept_retry {l : Ladder} {number : Nat} (numbered : 0 < number)
    (slept : sleeps = l.steps.dropLast.take (number - 1)) (id : DocumentId) (error : String)
    (answers : List Answer) :
    (retry l id number error).1.Slept l answers
      (sleeps ++ (retry l id number error).1.sleep?.toList) := by
  obtain ⟨failed, rfl⟩ : ∃ failed, number = failed + 1 := Nat.exists_eq_add_one.mpr numbered
  have after :
      l.steps.dropLast.take (failed + 1) = sleeps ++ (l.delayBefore (failed + 2)).toList := by
    rw [List.take_add_one, l.delayBefore_add_two, slept]
    rfl
  cases left : l.delayBefore (failed + 2) with
  | some wait =>
      rw [left] at after
      simp only [retry, left]
      exact ⟨Nat.succ_pos _, after.symm⟩
  | none =>
      have no_more : l.steps.dropLast.length ≤ failed := by
        rwa [l.delayBefore_add_two, List.getElem?_eq_none_iff] at left
      rw [left, List.take_of_length_le (Nat.le_succ_of_le no_more)] at after
      simp only [retry, left]
      exact fun _ => after.symm

theorem slept_of_step (slept : scan.phase.Slept c.ladder answers sleeps)
    (stepped : scan.step c engine m s = some (next, s', t)) :
    next.phase.Slept c.ladder answers (sleeps ++ next.phase.sleep?.toList) := by
  obtain ⟨id, phase⟩ := scan
  cases phase with
  | opening =>
      obtain ⟨unanswered, rfl⟩ := slept
      cases stepped
      dsimp only
      cases s.fetchPayload m id with
      | ok source => exact ⟨Nat.one_pos, rfl⟩
      | error e => exact fun answered => absurd unanswered answered
  | resting number wait =>
      obtain ⟨numbered, slept⟩ := slept
      cases stepped
      dsimp only
      cases s.fetchPayload m id with
      | ok source => exact ⟨numbered, (List.append_nil _).trans slept⟩
      | error e => exact slept_retry numbered slept _ _ _
  | recording _ _ | releasing => exact slept.elim
  | queued | analyzing _ _ | ended | crashed => cases stepped

theorem slept_of_answer {a : Answer} (retryable : a.isRetryable = true)
    (slept : scan.phase.Slept c.ladder answers sleeps)
    (answered : scan.answer c engine a = some (next, t)) :
    next.phase.Slept c.ladder (answers ++ [a]) (sleeps ++ next.phase.sleep?.toList) := by
  obtain ⟨id, phase⟩ := scan
  cases phase with
  | analyzing number source =>
      obtain ⟨numbered, slept⟩ := slept
      cases answered
      cases a with
      | failed e =>
          simp only [afterAnswer, if_pos (show e.isRecoverable = true from retryable)]
          exact slept_retry numbered slept _ _ _
      | late => exact slept_retry numbered slept _ _ _
      | verdict _ | crashed => cases retryable
  | queued | opening | resting _ _ | recording _ _ | releasing | ended | crashed => cases answered

/-- A scan whose attempts all fail in such a way that another one may follow makes as many as the
ladder allows. -/
theorem sleeps_climb {id : DocumentId} {x : Attempt σ} {xs : List (Attempt σ)}
    (opened : ∃ source, x.fetched id = .ok source)
    (enough : c.ladder.attempts ≤ (x :: xs).length)
    (undecided : ∀ y ∈ x :: xs, (y.upshot c engine id).decides = false) :
    (climb c engine (x :: xs) ⟨id, .opening⟩).sleeps = c.ladder.steps.dropLast := by
  obtain ⟨earlier, last, later, split, -, at_last, -, climbed⟩ :=
    climbs_climb c engine (.inl ⟨rfl, rfl, opened⟩) rfl (Nat.le_max_right _ 1)
      (by rwa [Nat.zero_add])
  have exhausted : 0 + earlier.length + 1 = c.ladder.attempts := by
    refine at_last.resolve_left ?_
    rw [undecided last (split ▸ List.mem_append_right _ List.mem_cons_self)]
    exact Bool.false_ne_true
  have slept : earlier.length = c.ladder.steps.length - 1 := by
    rw [Ladder.attempts] at exhausted
    omega
  rw [climbed, List.nil_append, List.drop_zero, slept, List.dropLast_eq_take]

end Scan

/-- The answer that an action brings to a scan. -/
def Action.answer? (i : Nat) : Action → Option Scan.Answer
  | .answer j a => if j = i then some a else none
  | .submit _ | .upload _ | .drop _ | .schedule _ | .enter _ | .scan _ | .sweep _ => none

theorem Action.answer?_of_other {i : Nat} {a : Action} (other : a.scan? ≠ some i) :
    a.answer? i = none := by
  cases a with
  | answer j _ => exact if_neg fun same => other (congrArg some same)
  | submit _ | upload _ | drop _ | schedule _ | enter _ | scan _ | sweep _ => rfl

namespace State

variable {σ : Type}

/-- The answers that a scan gets in a run, in order. -/
def answers (i : Nat) (steps : List (Moment × Action)) : List Scan.Answer :=
  steps.filterMap (·.2.answer? i)

/-- The phase of a scan. One that was not asked for yet is as good as queued. -/
def phase (i : Nat) (s : State σ) : Scan.Phase :=
  ((s.scans[i]?).map (·.phase)).getD .queued

/-- The sleep that a scan asks for by this action, which led to this state. No action of a scan
leaves it at the same rest. -/
def sleep? (i : Nat) (a : Action) (s : State σ) : Option Duration :=
  if a.scan? = some i then (s.phase i).sleep? else none

variable [PayloadStore σ]

/-- The sleeps that a scan asks for in a run, in order. -/
def sleeps (i : Nat) (s : State σ) : List (Moment × Action) → List Duration
  | [] => []
  | (m, a) :: rest =>
    match s.apply m a with
    | some (next, _) => (next.sleep? i a).toList ++ next.sleeps i rest
    | none => []

variable {s s' s₀ : State σ} {t t' : Trace} {steps : List (Moment × Action)} {i : Nat}

theorem sleeps_concat {x : Moment × Action} (ran : s₀.run steps = some (s, t))
    (moved : s.apply x.1 x.2 = some (s', t')) :
    s₀.sleeps i (steps ++ [x]) = s₀.sleeps i steps ++ (s'.sleep? i x.2).toList := by
  induction steps generalizing s₀ t with
  | nil =>
      cases ran
      simp only [List.nil_append, sleeps, moved, List.append_nil]
  | cons y steps ih =>
      obtain ⟨next, now, later, first, rest, -⟩ := run_cons_iff.mp ran
      simp only [List.cons_append, sleeps, first, ih rest, List.append_assoc]

section Step

variable {m : Moment} {a : Action} {heard : List Scan.Answer} {slept : List Duration}

omit [PayloadStore σ] in
theorem phase_eq {scan : Scan} (found : s.scans[i]? = some scan) : s.phase i = scan.phase := by
  rw [phase, found]
  rfl

omit [PayloadStore σ] in
theorem sleep?_eq (own : a.scan? = some i) : s.sleep? i a = (s.phase i).sleep? :=
  if_pos own

omit [PayloadStore σ] in
/-- An action that is not the scan's own brings it no answer and lets it ask for no sleep. -/
theorem slept_of_other {l : Ladder} (slept_so_far : (s'.phase i).Slept l heard slept)
    (other : a.scan? ≠ some i) :
    (s'.phase i).Slept l (heard ++ (a.answer? i).toList) (slept ++ (s'.sleep? i a).toList) := by
  rw [Action.answer?_of_other other, sleep?, if_neg other]
  simpa only [Option.toList_none, List.append_nil] using slept_so_far

/-- One action, with the answer that it brings to the scan and the sleep that the scan asks for. -/
theorem slept_of_apply (before : (s.phase i).Slept s.config.scan.ladder heard slept)
    (moved : s.apply m a = some (s', t))
    (retryable : ∀ answer ∈ a.answer? i, answer.isRetryable = true) :
    (s'.phase i).Slept s.config.scan.ladder (heard ++ (a.answer? i).toList)
      (slept ++ (s'.sleep? i a).toList) := by
  cases found : s.scans[i]? with
  | none =>
      obtain ⟨other, queued⟩ := scan_of_apply_free found moved
      have same : s'.phase i = s.phase i := by
        rw [phase, phase, found]
        cases found' : s'.scans[i]? with
        | none => rfl
        | some scan => exact queued scan found'
      exact slept_of_other (same ▸ before) other
  | some scan =>
      obtain ⟨next, found', advances⟩ := advances_of_apply found moved
      rw [phase_eq found] at before
      cases advances with
      | idle other => exact slept_of_other (phase_eq found' ▸ before) other
      | seated other queued =>
          rw [queued] at before
          exact slept_of_other (phase_eq found' ▸ before) other
      | entered queued _ _ _ =>
          rw [queued] at before
          rw [sleep?_eq rfl, phase_eq found']
          exact ⟨(List.append_nil _).trans before.1, (List.append_nil _).trans before.2⟩
      | waits queued _ _ _ =>
          rw [queued] at before
          rw [sleep?_eq rfl, phase_eq found', queued]
          exact ⟨(List.append_nil _).trans before.1, (List.append_nil _).trans before.2⟩
      | called stepped _ _ =>
          have silent : (Action.scan i).answer? i = none := rfl
          rw [sleep?_eq rfl, phase_eq found', silent, Option.toList_none, List.append_nil]
          exact Scan.slept_of_step before stepped
      | @answered answer _ answered _ =>
          have brought : (Action.answer i answer).answer? i = some answer := if_pos rfl
          rw [sleep?_eq rfl, phase_eq found', brought]
          exact Scan.slept_of_answer (retryable answer brought) before answered

end Step

theorem slept_of_run {c : Config} {engine : String} {stores : Stores σ}
    (ran : (State.idle c engine stores).run steps = some (s, t))
    (retryable : ∀ a ∈ answers i steps, a.isRetryable = true) :
    (s.phase i).Slept c.scan.ladder (answers i steps)
      ((State.idle c engine stores).sleeps i steps) := by
  refine run_induction (P := fun steps s _ =>
    (∀ a ∈ answers i steps, a.isRetryable = true) →
      (s.phase i).Slept c.scan.ladder (answers i steps)
        ((State.idle c engine stores).sleeps i steps)) ?start ?step ran retryable
  case start => exact fun _ => ⟨rfl, rfl⟩
  case step =>
    intro steps s t x s' t' ran ih moved retryable
    have one : answers i (steps ++ [x]) = answers i steps ++ (x.2.answer? i).toList := by
      rw [answers, List.filterMap_append, answers]
      cases brought : x.2.answer? i <;> simp [brought]
    have config : s.config.scan.ladder = c.scan.ladder :=
      congrArg (·.scan.ladder) (run_config ran).1
    rw [one, List.forall_mem_append] at retryable
    rw [← config] at ih
    rw [one, sleeps_concat ran moved, ← config]
    exact slept_of_apply (ih retryable.1) moved fun answer brought =>
      retryable.2 answer (Option.mem_toList.mpr brought)

end State

namespace Ladder

/-- The waits before the attempts, by their numbers from one on, are all of the ladder but the last.
The total wait is their exact sum, unless this is longer than any duration. It is what a scan has
slept when it is over and each of its attempts has failed in such a way that another one might have
followed: in any run of a service, whatever goes on beside the scan, and also if its attempts are
made one after the other, where there may be more of them than the ladder allows. -/
theorem total_wait_slept (σ : Type) [PayloadStore σ] (l : Ladder) :
    (∀ n, (List.range' 1 n).filterMap l.delayBefore = l.steps.dropLast.take (n - 1)) ∧
    (l.totalWait? =
      if Duration.total l.steps.dropLast ≤ Duration.max.nanos then
        some ⟨Duration.total l.steps.dropLast⟩
      else none) ∧
    ∀ wait, l.totalWait? = some wait →
      (∀ (c : Config) (engine : String) (stores : Stores σ) (steps : List (Moment × Action))
          (s : State σ) (t : Trace) (i : Nat), c.scan.ladder = l →
        (State.idle c engine stores).run steps = some (s, t) →
        s.phase i = .ended → State.answers i steps ≠ [] →
        (∀ a ∈ State.answers i steps, a.isRetryable = true) →
        Duration.total ((State.idle c engine stores).sleeps i steps) = wait.nanos) ∧
      ∀ (c : ScanSettings) (engine : String) (id : DocumentId) (x : Scan.Attempt σ)
          (xs : List (Scan.Attempt σ)), c.ladder = l →
        (∃ source, x.fetched id = .ok source) → l.attempts ≤ (x :: xs).length →
        (∀ y ∈ x :: xs, (y.upshot c engine id).decides = false) →
        Duration.total (Scan.climb c engine (x :: xs) ⟨id, .opening⟩).sleeps = wait.nanos := by
  refine ⟨l.filterMap_delayBefore, l.totalWait?_eq, fun wait waits => ⟨?run, ?attempts⟩⟩
  case run =>
    rintro c engine stores steps s t i rfl ran ended answered retryable
    have slept := State.slept_of_run (i := i) ran retryable
    rw [ended] at slept
    rw [slept answered]
    exact nanos_of_totalWait? _ waits
  case attempts =>
    rintro c engine id x xs rfl opened enough undecided
    rw [Scan.sleeps_climb opened enough undecided]
    exact nanos_of_totalWait? _ waits

/-- The nanoseconds of the first two waits make up more than a second. -/
def uneven : Ladder :=
  ⟨[⟨1600000000⟩, ⟨2700000000⟩, .ofSeconds 9]⟩

def unevenConfig : Config :=
  { Config.standard with scan := ScanSettings.standard.withLadder uneven }

/-- The scan of an upload. Its second attempt does not get the bytes, and while it rests another
scan comes and goes. -/
def restless : List (Moment × Action) :=
  State.calmly 0 [.submit (.ofBytes [7]), .upload 0, .upload 0, .upload 0, .enter 0, .scan 0,
      .schedule ⟨"b"⟩, .answer 0 .late] ++
    [(⟨default, some (.refused (.unavailable "gone")), none⟩, .scan 0)] ++
    State.calmly 5 [.enter 1, .scan 0, .scan 1, .answer 0 (.failed (.connection "engine" "cut"))]

theorem uneven_total_wait_slept :
    let late : Scan.Attempt Payloads :=
      ⟨⟨default, some (.breaking ⟨"cut"⟩), none⟩, .empty, 30001, .ok .clean⟩
    let lost : Scan.Attempt Payloads :=
      ⟨⟨default, some (.refused (.unavailable "gone")), none⟩, .empty, 0, .ok .clean⟩
    let climbed := Scan.climb unevenConfig.scan "engine" [late, lost, late] ⟨⟨"a"⟩, .opening⟩
    let started := State.idle unevenConfig "engine" (Stores.empty : Stores Payloads)
    uneven.totalWait? = some ⟨4300000000⟩ ∧
      (∃ p ∈ started.run restless, p.1.phase 0 = .ended ∧
        Duration.total (started.sleeps 0 restless) = 4300000000) ∧
      Duration.total climbed.sleeps = 4300000000 := by
  intro late lost climbed started
  have waits : uneven.totalWait? = some ⟨4300000000⟩ := by decide
  obtain ⟨p, ran, ended⟩ : ∃ p ∈ started.run restless, p.1.phase 0 = .ended := by decide +kernel
  obtain ⟨in_run, in_attempts⟩ := (total_wait_slept Payloads uneven).2.2 _ waits
  exact ⟨waits, ⟨p, ran, ended, in_run _ _ _ _ p.1 p.2 0 rfl ran ended (by decide) (by decide)⟩,
    in_attempts _ _ _ late [lost, late] rfl ⟨_, rfl⟩ (by decide) (by decide)⟩

end Ladder

end Quarantine
