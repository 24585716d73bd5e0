import Quarantine.Proofs.Scan.Steps
import Quarantine.Proofs.Time.Duration
import Quarantine.Scan.Attempt
import Quarantine.Simulation.Clock

/-!
How often a scan tries, and how long it rests in between. Whatever its attempts come to, one follows
the other until one of them decides or the ladder allows no more, and the rests between them are the
first waits of the ladder. The clock of a rehearsal lets the scan wait for these rests, and for the
engine as long as the deadline allows.
-/

namespace Quarantine

namespace Ladder

/-- After all attempts but the last there is a wait, the next of the ladder. -/
theorem delayBefore_cases (l : Ladder) {failed : Nat} (allowed : failed < l.attempts) :
    failed + 1 = l.attempts ∨
      failed + 1 < l.attempts ∧ ∃ wait, l.delayBefore (failed + 2) = some wait ∧
        l.steps.drop failed = wait :: l.steps.drop (failed + 1) := by
  by_cases last : failed + 1 = l.attempts
  · exact .inl last
  · have more : failed + 1 < l.attempts := by omega
    have within : failed < l.steps.length := by
      rw [attempts] at more
      omega
    refine .inr ⟨more, l.steps[failed], ?_, List.drop_eq_getElem_cons within⟩
    rw [delayBefore, if_neg (by omega), Nat.add_sub_cancel, List.getElem?_eq_getElem within]

end Ladder

namespace Scan

/-- What an attempt comes to. -/
inductive Upshot
  | verdict (v : Verdict)
  | fatal (error : String)
  | retryable (error : String)
  deriving DecidableEq, Repr

/-- Whether there is no other attempt after it. -/
def Upshot.decides : Upshot → Bool
  | .verdict _ | .fatal _ => true
  | .retryable _ => false

variable {σ : Type} [PayloadStore σ]

namespace Attempt

/-- Only a verdict and an error of the configuration, if they come in time, are not tried again. -/
def upshot (c : ScanSettings) (engine : String) (id : DocumentId) (x : Attempt σ) : Upshot :=
  match x.fetched id with
  | .error e => .retryable ("re-reading bytes failed: " ++ e.message)
  | .ok _ =>
    if c.attemptTimeout.wait < x.latency then
      .retryable (ScanError.timeout engine c.attemptTimeout).message
    else
      match x.result with
      | .ok v => .verdict v
      | .error (.configuration message) => .fatal (ScanError.configuration message).message
      | .error e => .retryable e.message

/-- The calls of an attempt. The engine is not called without the bytes. -/
def calls (id : DocumentId) (x : Attempt σ) : Trace :=
  match x.fetched id with
  | .ok source => [.call (.fetchPayload id), .call (.analyze source)]
  | .error _ => [.call (.fetchPayload id)]

end Attempt

/-- What follows from the upshot of an attempt. -/
def conclude (l : Ladder) (id : DocumentId) (number : Nat) : Upshot → Phase × Trace
  | .verdict v => (.recording number v, [])
  | .fatal error => (.ended, [.audit (.scanAbandoned id number error)])
  | .retryable error => retry l id number error

variable {c : ScanSettings} {engine : String} {id : DocumentId}

theorem afterAnswer_answer {x : Attempt σ} {source : Source} (fetched : x.fetched id = .ok source)
    (number : Nat) :
    afterAnswer c engine id number (x.answer c) =
      conclude c.ladder id number (x.upshot c engine id) := by
  rw [Attempt.upshot, fetched, Attempt.answer, Answer.within]
  dsimp only
  by_cases late : c.attemptTimeout.wait < x.latency
  · rw [if_neg (Nat.not_le.mpr late), if_pos late]
    rfl
  · rw [if_pos (Nat.not_lt.mp late), if_neg late]
    cases x.result with
    | ok v => rfl
    | error e => cases e <;> rfl

/-- A scan that is about to make an attempt after some failed ones. The first needs the bytes. -/
def About (id : DocumentId) (failed : Nat) (x : Attempt σ) (s : Scan) : Prop :=
  (failed = 0 ∧ s = ⟨id, .opening⟩ ∧ ∃ source, x.fetched id = .ok source) ∨
    ∃ wait, s = ⟨id, .resting (failed + 1) wait⟩

variable (c engine) in
theorem attempt_eq {s : Scan} {x : Attempt σ} {failed : Nat} (about : s.About id failed x) :
    ∃ slept, s.rest? = some slept ∧ s.attempt c engine x =
      some ⟨1, slept, x.calls id ++ (conclude c.ladder id (failed + 1) (x.upshot c engine id)).2,
        ⟨id, (conclude c.ladder id (failed + 1) (x.upshot c engine id)).1⟩⟩ := by
  obtain ⟨rfl, rfl, source, fetched⟩ | ⟨wait, rfl⟩ := about
  · have read : Stores.fetchPayload x.moment id x.stores = .ok source := fetched
    refine ⟨[], rfl, ?_⟩
    simp only [attempt, rest?, step, read, afterOpening, answer, afterAnswer_answer fetched,
      Attempt.calls, fetched, bind, Option.bind]
    rfl
  · refine ⟨[wait], rfl, ?_⟩
    cases fetched : x.fetched id with
    | ok source =>
        have read : Stores.fetchPayload x.moment id x.stores = .ok source := fetched
        simp only [attempt, rest?, step, read, afterRest, answer, afterAnswer_answer fetched,
          Attempt.calls, fetched, bind, Option.bind]
        rfl
    | error e =>
        have read : Stores.fetchPayload x.moment id x.stores = .error e := fetched
        have unanswered : answer c engine (x.answer c) ⟨id, (retry c.ladder id (failed + 1)
            ("re-reading bytes failed: " ++ e.message)).1⟩ = none :=
          retry_phase (P := fun phase => answer c engine (x.answer c) ⟨id, phase⟩ = none)
            (fun _ => rfl) rfl
        simp only [attempt, rest?, step, read, afterRest, unanswered, Attempt.calls,
          Attempt.upshot, conclude, fetched, bind, Option.bind]
        rfl

/-- The notice of an attempt after which there may be another one. -/
def Upshot.notices (l : Ladder) (id : DocumentId) (number : Nat) : Upshot → Trace
  | .retryable error => [.notice (.attemptFailed id number l.attempts error)]
  | .verdict _ | .fatal _ => []

/-- Where a scan is after its last attempt, and what it says. -/
def Upshot.close (id : DocumentId) (number : Nat) : Upshot → Phase × Trace
  | .verdict v => (.recording number v, [])
  | .fatal error | .retryable error => (.ended, [.audit (.scanAbandoned id number error)])

theorem conclude_last {l : Ladder} {number : Nat} {u : Upshot}
    (last : u.decides = true ∨ l.delayBefore (number + 1) = none) :
    conclude l id number u =
      ((u.close id number).1, u.notices l id number ++ (u.close id number).2) := by
  cases u with
  | verdict v => rfl
  | fatal error => rfl
  | retryable error =>
      have none_left := last.resolve_left nofun
      simp only [conclude, retry, none_left]
      rfl

theorem conclude_more {l : Ladder} {number : Nat} {u : Upshot} {wait : Duration}
    (undecided : u.decides = false) (left : l.delayBefore (number + 1) = some wait) :
    conclude l id number u = (.resting (number + 1) wait, u.notices l id number) := by
  cases u with
  | verdict v => cases undecided
  | fatal error => cases undecided
  | retryable error =>
      simp only [conclude, retry, left]
      rfl

/-- What attempts add to the trace, the first of which has this number. -/
def reports (c : ScanSettings) (engine : String) (id : DocumentId) (number : Nat) :
    List (Attempt σ) → Trace
  | [] => []
  | x :: xs =>
    x.calls id ++ (x.upshot c engine id).notices c.ladder id number ++
      reports c engine id (number + 1) xs

/-- The course of a scan that makes some of these attempts after those that have failed: all up to
the first that decides, or to the last that the ladder allows. -/
def Climbs (c : ScanSettings) (engine : String) (id : DocumentId) (failed : Nat)
    (slept : List Duration) (xs : List (Attempt σ)) (course : Course) : Prop :=
  ∃ earlier last later, xs = earlier ++ last :: later ∧
    (∀ x ∈ earlier, (x.upshot c engine id).decides = false) ∧
    ((last.upshot c engine id).decides = true ∨
      failed + earlier.length + 1 = c.ladder.attempts) ∧
    failed + earlier.length + 1 ≤ c.ladder.attempts ∧
    course =
      ⟨earlier.length + 1, slept ++ (c.ladder.steps.drop failed).take earlier.length,
        reports c engine id (failed + 1) (earlier ++ [last]) ++
          ((last.upshot c engine id).close id (failed + earlier.length + 1)).2,
        ⟨id, ((last.upshot c engine id).close id (failed + earlier.length + 1)).1⟩⟩

theorem climb_awake {s : Scan} (awake : s.rest? = none) (xs : List (Attempt σ)) :
    s.climb c engine xs = ⟨0, [], [], s⟩ := by
  cases xs with
  | nil => rfl
  | cons x xs =>
      have none_made : s.attempt c engine x = none := by
        rw [attempt, awake]
        rfl
      rw [climb, none_made]

theorem rest?_close (id : DocumentId) (number : Nat) (u : Upshot) :
    rest? ⟨id, (u.close id number).1⟩ = none := by
  cases u <;> rfl

section Climb

variable {x : Attempt σ} {s : Scan} {failed : Nat} {slept : List Duration}
  (about : s.About id failed x) (rested : s.rest? = some slept)
include about rested

theorem climbs_last (allowed : failed < c.ladder.attempts)
    (last : (x.upshot c engine id).decides = true ∨ failed + 1 = c.ladder.attempts)
    (xs : List (Attempt σ)) :
    Climbs c engine id failed slept (x :: xs) (s.climb c engine (x :: xs)) := by
  have none_follows : (x.upshot c engine id).decides = true ∨
      c.ladder.delayBefore (failed + 2) = none :=
    last.imp_right fun reached => if_pos (.inr (by omega))
  obtain ⟨slept', rested', made⟩ := attempt_eq c engine about
  cases rested.symm.trans rested'
  have stopped : climb c engine xs ⟨id, ((x.upshot c engine id).close id (failed + 1)).1⟩ =
      ⟨0, [], [], ⟨id, ((x.upshot c engine id).close id (failed + 1)).1⟩⟩ :=
    climb_awake (rest?_close _ _ _) xs
  refine ⟨[], x, xs, rfl, fun _ member => (nomatch member), last, allowed, ?_⟩
  rw [climb, made, conclude_last none_follows]
  simp only [Course.andThen, stopped, reports, List.append_nil, List.append_assoc, Nat.add_zero,
    List.nil_append, List.length_nil, List.take_zero, Nat.zero_add]

theorem climbs_more (undecided : (x.upshot c engine id).decides = false) {wait : Duration}
    (left : c.ladder.delayBefore (failed + 2) = some wait)
    (steps : c.ladder.steps.drop failed = wait :: c.ladder.steps.drop (failed + 1))
    {xs : List (Attempt σ)} (climbs : Climbs c engine id (failed + 1) [wait] xs
      (climb c engine xs ⟨id, .resting (failed + 2) wait⟩)) :
    Climbs c engine id failed slept (x :: xs) (s.climb c engine (x :: xs)) := by
  obtain ⟨slept', rested', made⟩ := attempt_eq c engine about
  cases rested.symm.trans rested'
  obtain ⟨earlier, last, later, split, before, at_last, within, climbed⟩ := climbs
  have number : failed + 1 + earlier.length = failed + (x :: earlier).length := by
    rw [List.length_cons]
    omega
  rw [number] at at_last within climbed
  refine ⟨x :: earlier, last, later, by rw [split]; rfl, ?_, at_last, within, ?_⟩
  · exact List.forall_mem_cons.mpr ⟨undecided, before⟩
  · rw [climb, made, conclude_more undecided left]
    simp only [climbed, Course.andThen, steps, reports, List.cons_append, List.length_cons,
      List.take_succ_cons, List.append_assoc, List.nil_append, Nat.add_comm 1]

end Climb

variable (c engine) in
theorem climbs_climb {x : Attempt σ} {xs : List (Attempt σ)} {s : Scan} {failed : Nat}
    {slept : List Duration} (about : s.About id failed x) (rested : s.rest? = some slept)
    (allowed : failed < c.ladder.attempts)
    (enough : c.ladder.attempts ≤ failed + (x :: xs).length) :
    Climbs c engine id failed slept (x :: xs) (s.climb c engine (x :: xs)) := by
  -- On the attempts that are left; one that fails adds to those that have failed.
  induction xs generalizing x s failed slept with
  | nil => exact climbs_last about rested allowed (.inr (Nat.le_antisymm allowed enough)) []
  | cons y ys ih =>
      cases decided : (x.upshot c engine id).decides with
      | true => exact climbs_last about rested allowed (.inl decided) _
      | false =>
          obtain reached | ⟨more, wait, left, steps⟩ := c.ladder.delayBefore_cases allowed
          · exact climbs_last about rested allowed (.inr reached) _
          · have enough_left : c.ladder.attempts ≤ failed + 1 + (y :: ys).length := by
              simp only [List.length_cons] at enough ⊢
              omega
            exact climbs_more about rested decided left steps
              (ih (.inr ⟨wait, rfl⟩) rfl more enough_left)

end Scan

namespace Simulation

theorem Device.latency_start_le (source : Source) (d : Device) :
    (d.start source).1 ≤ Duration.longestWait := by
  unfold start
  dsimp only
  split
  · split
    · exact Nat.zero_le _
    · exact Nat.min_le_right _ _
  · split
    · exact Nat.zero_le _
    · dsimp only
      split
      · exact Nat.min_le_right _ _
      · exact Nat.zero_le _

namespace Rehearsal

variable {σ : Type} [PayloadStore σ]

/-- What a scan does first when it has waited. -/
def woken (i : Nat) (wake : Wake) (w : Rehearsal σ) : Rehearsal σ :=
  match wake with
  | .rested => w.act (.scan i)
  | .answered job => w.finish i job
  | .expired job => w.expire i job

/-- Lets a scan wait. What needs no time is not waited for. -/
def pause (ticks i : Nat) (wake : Wake) (fuel : Nat) (w : Rehearsal σ) : Rehearsal σ :=
  if ticks = 0 then runScan i fuel (w.woken i wake) else w.wait (w.clock + ticks) i wake

variable {w : Rehearsal σ} {i : Nat} {id : DocumentId}

theorem runScan_opening (found : w.state.scans[i]? = some ⟨id, .opening⟩) (fuel : Nat) :
    w.runScan i (fuel + 1) = (w.act (.scan i)).runScan i fuel := by
  rw [runScan, found]

theorem runScan_resting {number : Nat} {rest : Duration}
    (found : w.state.scans[i]? = some ⟨id, .resting number rest⟩) (fuel : Nat) :
    w.runScan i (fuel + 1) = w.pause rest.wait i .rested fuel := by
  rw [runScan, found]
  rfl

theorem runScan_analyzing {number latency : Nat} {source : Source} {job : Job} {device : Device}
    (found : w.state.scans[i]? = some ⟨id, .analyzing number source⟩)
    (started : w.device.start source = (latency, job, device)) (fuel : Nat) :
    w.runScan i (fuel + 1) =
      ({ w with device := device } : Rehearsal σ).pause (min latency w.deadline) i
        (if latency ≤ w.deadline then .answered job else .expired job) fuel := by
  rw [runScan, found]
  simp only [started, pause]
  change (if latency = 0 then _ else if latency ≤ w.deadline then _ else
    if w.deadline = 0 then _ else _) = _
  by_cases intime : latency ≤ w.deadline
  · rw [if_pos intime, if_pos intime, Nat.min_eq_left intime]
    rfl
  · have some_time : latency ≠ 0 := fun none => intime (none ▸ Nat.zero_le _)
    rw [if_neg some_time, if_neg intime, if_neg intime,
      Nat.min_eq_right (Nat.le_of_not_le intime)]
    rfl

theorem woken_analyzed (deadline latency : Nat) (job : Job) :
    ∃ left, w.woken i (if latency ≤ deadline then .answered job else .expired job) =
      ({ w with device := left } : Rehearsal σ).act
        (.answer i (.within deadline latency (w.device.finish job).1)) := by
  unfold Scan.Answer.within
  split
  · exact ⟨(w.device.finish job).2, rfl⟩
  · exact ⟨w.device.cancel job, rfl⟩

/-- What the clock does with a scan. Its first bytes are read at once, and it rests for the time that
it is to rest. The engine has it for as long as it needs, but not longer than the deadline, and the
scan then hears what the engine has come to if that was in time. -/
structure Times (w : Rehearsal σ) (i : Nat) (id : DocumentId) : Prop where
  opens : w.state.scans[i]? = some ⟨id, .opening⟩ →
    ∀ fuel, w.runScan i (fuel + 1) = (w.act (.scan i)).runScan i fuel
  rests : ∀ number rest, w.state.scans[i]? = some ⟨id, .resting number rest⟩ →
    ∀ fuel, w.runScan i (fuel + 1) = w.pause rest.wait i .rested fuel
  analyzes : ∀ number source, w.state.scans[i]? = some ⟨id, .analyzing number source⟩ →
    ∀ latency job device, w.device.start source = (latency, job, device) →
      latency ≤ Duration.longestWait ∧
      ∃ wake,
        (∀ fuel, w.runScan i (fuel + 1) = ({ w with device := device } : Rehearsal σ).pause
          (min latency w.deadline) i wake fuel) ∧
        ∀ later : Rehearsal σ, ∃ left, later.woken i wake =
          ({ later with device := left } : Rehearsal σ).act
            (.answer i (.within w.deadline latency (later.device.finish job).1))
  wakes : ∀ due wake, w.fire ⟨due, i, wake⟩ = (w.woken i wake).goOn i

theorem times (w : Rehearsal σ) (i : Nat) (id : DocumentId) : w.Times i id where
  opens found fuel := runScan_opening found fuel
  rests _ _ found fuel := runScan_resting found fuel
  analyzes _ source found latency job device started := by
    have measured := w.device.latency_start_le source
    rw [started] at measured
    exact ⟨measured, _, runScan_analyzing found started, fun _ => woken_analyzed _ _ _⟩
  wakes _ _ := rfl

end Rehearsal

end Simulation

namespace Scan

variable {σ : Type} [PayloadStore σ]

/-- The attempts of a scan that can read its bytes at first. They go on to the first that decides,
or to the last that the ladder allows, with the first waits of the ladder between them; the number
of the last stands in what is said of the verdict or of the end. On the clock a scan waits as long
as its rests and its analyses say, and what comes later than the deadline is late. -/
theorem attempts_follow_ladder (c : ScanSettings) (engine : String) (id : DocumentId)
    (x : Attempt σ) (xs : List (Attempt σ)) (opened : ∃ source, x.fetched id = .ok source)
    (enough : max 1 c.ladder.steps.length ≤ (x :: xs).length) :
    (∃ earlier last later, x :: xs = earlier ++ last :: later ∧
      let k := earlier.length + 1
      k ≤ max 1 c.ladder.steps.length ∧
      (∀ y ∈ earlier, (y.upshot c engine id).decides = false) ∧
      ((last.upshot c engine id).decides = true ∨ k = max 1 c.ladder.steps.length) ∧
      climb c engine (x :: xs) ⟨id, .opening⟩ =
        ⟨k, c.ladder.steps.take (k - 1),
          reports c engine id 1 (earlier ++ [last]) ++ ((last.upshot c engine id).close id k).2,
          ⟨id, ((last.upshot c engine id).close id k).1⟩⟩) ∧
    (∀ number v m (stores : Stores σ), (stores.updateRecord m id v.status).1 = .ok () →
      step c engine m stores ⟨id, .recording number v⟩ =
        some (⟨id, .releasing⟩, (stores.updateRecord m id v.status).2,
          [.audit (.verdictRecorded id v engine number)])) ∧
    (∀ (w : Simulation.Rehearsal σ) i, w.Times i id) ∧
    ∀ deadline latency, latency ≤ Duration.longestWait →
      (latency ≤ (Duration.ofMillis deadline).wait ↔ latency ≤ deadline) := by
  refine ⟨?_, ?_, fun w i => w.times i id, fun _ _ => Duration.le_wait_ofMillis⟩
  · have attempts : c.ladder.attempts = max 1 c.ladder.steps.length := Nat.max_comm _ _
    rw [← attempts] at enough ⊢
    obtain ⟨earlier, last, later, split, before, at_last, within, climbed⟩ :=
      climbs_climb c engine (.inl ⟨rfl, rfl, opened⟩) rfl
        (Nat.le_max_right _ 1) (by rwa [Nat.zero_add])
    simp only [Nat.zero_add] at at_last within climbed
    exact ⟨earlier, last, later, split, within, before, at_last, climbed⟩
  · intro number v m stores recorded
    simp only [step, recorded]
    rfl

/-- A result that comes a millisecond late, bytes that cannot be read again, and a verdict at the
very deadline. Of the three waits of the ladder the last is left. -/
theorem three_attempts_follow_ladder :
    let c : ScanSettings := ⟨1, ⟨[1, 2, 3].map Duration.ofSeconds⟩, .ofMillis 30⟩
    let readable : Moment := ⟨default, some (.breaking ⟨"cut"⟩), none⟩
    let unreadable : Moment := ⟨default, some (.refused (.unavailable "gone")), none⟩
    let late : Attempt Payloads := ⟨readable, .empty, 31, .ok .clean⟩
    let lost : Attempt Payloads := ⟨unreadable, .empty, 0, .ok .clean⟩
    let prompt : Attempt Payloads := ⟨readable, .empty, 30, .ok .clean⟩
    let course := climb c "engine" [late, lost, prompt] ⟨⟨"a"⟩, .opening⟩
    course.attempts = 3 ∧ course.sleeps = [.ofSeconds 1, .ofSeconds 2] ∧
      course.scan.phase = .recording 3 .clean := by
  intro c readable unreadable late lost prompt course
  obtain ⟨⟨earlier, last, later, split, -, -, -, climbed⟩, -⟩ :=
    attempts_follow_ladder c "engine" ⟨"a"⟩ late [lost, prompt] ⟨_, rfl⟩ (by decide)
  have three : course.attempts = 3 := by decide
  have two_failed : earlier.length = 2 :=
    Nat.succ.inj ((congrArg Course.attempts climbed).symm.trans three)
  refine ⟨three, (congrArg Course.sleeps climbed).trans ?_, by decide⟩
  rw [two_failed]
  rfl

end Scan

end Quarantine
