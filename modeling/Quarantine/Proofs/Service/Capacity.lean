import Mathlib.Data.List.Nodup
import Quarantine.Proofs.Scan.Steps
import Quarantine.Proofs.Service.Run

/-!
Places for scans. A scan asks for a place, waits in line if none is free, keeps its place while it
rests between attempts, and gives it back when it is over, whichever way it has ended. A place that
is given back while others wait goes to the first of them, so that it is taken again before that scan
makes its first call. So the places that are free and the scans that have one always make up the
capacity. Neither the stores nor the engine have a part in this, so the payloads may be kept in any
store.
-/

namespace Quarantine

def Call.isAnalysis : Call → Bool
  | .analyze _ => true
  | .savePayload _ _ | .fetchPayload _ | .deletePayload _ | .pingPayloads | .saveRecord _
  | .getRecord _ | .findRecord _ | .updateRecord _ _ | .purgeRecords _ | .pingRecords
  | .pingEngine => false

namespace Trace

/-- How often the engine was given something to analyze. -/
def analyses (t : Trace) : Nat :=
  t.calls.countP Call.isAnalysis

@[simp] theorem analyses_nil : analyses [] = 0 :=
  rfl

@[simp] theorem analyses_append (t later : Trace) :
    analyses (t ++ later) = t.analyses + later.analyses := by
  rw [analyses, calls_append, List.countP_append]
  rfl

@[simp] theorem analyses_call (c : Call) (t : Trace) :
    analyses (.call c :: t) = c.isAnalysis.toNat + t.analyses := by
  cases analysis : c.isAnalysis <;> simp [analyses, calls, analysis, Nat.add_comm]

@[simp] theorem analyses_event (e : Event) (t : Trace) :
    analyses (.event e :: t) = t.analyses :=
  rfl

end Trace

namespace Action

def enters : Action → Bool
  | .enter _ => true
  | .submit _ | .upload _ | .drop _ | .schedule _ | .scan _ | .answer _ _ | .sweep _ => false

/-- Whether the engine gives an answer, or is not waited for any longer. -/
def answers : Action → Bool
  | .answer _ _ => true
  | .submit _ | .upload _ | .drop _ | .schedule _ | .enter _ | .scan _ | .sweep _ => false

end Action

namespace Scan

/-- Whether the scan has a place and has not made use of it. -/
def Phase.isOpening : Phase → Bool
  | .opening => true
  | .queued | .resting _ _ | .analyzing _ _ | .recording _ _ | .releasing | .ended | .crashed => false

/-- Whether the scan has begun to read and is not over. -/
def Phase.isReading : Phase → Bool
  | .resting _ _ | .analyzing _ _ | .recording _ _ | .releasing => true
  | .queued | .opening | .ended | .crashed => false

/-- Whether the engine has the bytes. -/
def Phase.isAnalyzing : Phase → Bool
  | .analyzing _ _ => true
  | .queued | .opening | .resting _ _ | .recording _ _ | .releasing | .ended | .crashed => false

theorem Phase.isOver_of_isActive {phase : Phase} (active : phase.isActive = true) :
    phase.isOver = false := by
  cases phase with
  | opening | resting _ _ | analyzing _ _ | recording _ _ | releasing => rfl
  | queued | ended | crashed => cases active

/-- A move of a scan that has begun, with the calls to the engine that it makes and the answers that
it gets. The scan never goes back to the queue: it still has its place, or it is over. -/
structure Steady (scan next : Scan) (calls answers : Nat) : Prop where
  same : next.id = scan.id
  begun : scan.phase.isActive = true
  place : next.phase.isOver = !next.phase.isActive
  account : calls + scan.phase.isAnalyzing.toNat = next.phase.isAnalyzing.toNat + answers

theorem retry_steady (l : Ladder) (id : DocumentId) (attempt : Nat) (error : String) :
    (retry l id attempt error).1.isOver = !(retry l id attempt error).1.isActive ∧
      (retry l id attempt error).1.isAnalyzing = false ∧
      Trace.analyses (retry l id attempt error).2 = 0 := by
  rw [Trace.analyses, calls_retry]
  refine retry_phase (P := fun phase => phase.isOver = (!phase.isActive) ∧
    phase.isAnalyzing = false ∧ ([] : List Call).countP Call.isAnalysis = 0) ?_ ?_
  · exact fun _ => ⟨rfl, rfl, rfl⟩
  · exact ⟨rfl, rfl, rfl⟩

section Moves

variable {σ : Type} [PayloadStore σ] {c : ScanSettings} {engine : String} {m : Moment}
  {s s' : Stores σ} {scan next : Scan} {t : Trace}

/-- The engine is called just by the call that fetches the bytes for it. -/
theorem steady_of_step (stepped : scan.step c engine m s = some (next, s', t)) :
    Steady scan next (Trace.analyses (Trace.ofCall? scan.call? ++ t)) 0 := by
  obtain ⟨id, phase⟩ := scan
  cases phase with
  | opening =>
      cases stepped
      dsimp only
      cases s.fetchPayload m id with
      | ok source => exact ⟨rfl, rfl, rfl, rfl⟩
      | error e => exact ⟨rfl, rfl, rfl, rfl⟩
  | resting attempt wait =>
      cases stepped
      dsimp only
      cases s.fetchPayload m id with
      | ok source => exact ⟨rfl, rfl, rfl, rfl⟩
      | error e =>
          obtain ⟨place, idle, silent⟩ :=
            retry_steady c.ladder id attempt ("re-reading bytes failed: " ++ e.message)
          refine ⟨rfl, rfl, place, ?_⟩
          simp only [afterRest, call?, Trace.analyses_append, idle, silent]
          rfl
  | recording attempt verdict =>
      cases stepped
      dsimp only
      cases (s.updateRecord m id verdict.status).1 with
      | ok _ => exact ⟨rfl, rfl, rfl, rfl⟩
      | error e => cases e <;> exact ⟨rfl, rfl, rfl, rfl⟩
  | releasing =>
      cases stepped
      refine ⟨rfl, rfl, rfl, ?_⟩
      have silent : Trace.analyses (afterReleasing id (s.deletePayload m id).1) = 0 := by
        rw [Trace.analyses, calls_afterReleasing]
        rfl
      simp only [Trace.analyses_append, silent]
      rfl
  | queued | analyzing _ _ | ended | crashed => cases stepped

theorem steady_of_answer {a : Answer} (answered : scan.answer c engine a = some (next, t)) :
    Steady scan next t.analyses 1 := by
  obtain ⟨id, phase⟩ := scan
  cases phase with
  | analyzing attempt source =>
      cases answered
      dsimp only
      have again : ∀ error, Steady ⟨id, .analyzing attempt source⟩
          ⟨id, (retry c.ladder id attempt error).1⟩
          (Trace.analyses (retry c.ladder id attempt error).2) 1 := by
        intro error
        obtain ⟨place, idle, silent⟩ := retry_steady c.ladder id attempt error
        refine ⟨rfl, rfl, place, ?_⟩
        simp only [idle, silent]
        rfl
      cases a with
      | verdict v => exact ⟨rfl, rfl, rfl, rfl⟩
      | failed e =>
          dsimp only [afterAnswer]
          split
          · exact again e.message
          · exact ⟨rfl, rfl, rfl, rfl⟩
      | late => exact again _
      | crashed => exact ⟨rfl, rfl, rfl, rfl⟩
  | queued | opening | resting _ _ | recording _ _ | releasing | ended | crashed => cases answered

end Moves

end Scan

section Others

variable {σ : Type} {m : Moment} {s s' : Stores σ} {t : Trace}

theorem Retention.analyses_of_sweepQuietly {ttl : Span} (swept : sweepQuietly m ttl s = some (s', t)) :
    t.analyses = 0 := by
  obtain ⟨cutoff, -, rfl⟩ := eq_of_sweepQuietly swept
  cases (s.purgeRecords m cutoff).1 <;> rfl

theorem Upload.analyses_of_step [PayloadStore σ] {u next : Upload}
    (stepped : u.step m s = some (next, s', t)) :
    Trace.analyses (Trace.ofCall? (u.call? m.now) ++ t) = 0 := by
  cases u with
  | lookup identity content tag =>
      cases stepped
      rfl
  | inherit identity tag source =>
      cases stepped
      cases (s.saveRecord m (.inheriting identity.id tag source m.now)).1 <;> rfl
  | keep identity content tag =>
      simp only [step] at stepped
      split at stepped <;>
        · cases stepped
          rfl
  | create identity tag =>
      cases stepped
      cases (s.saveRecord m (.fresh identity.id identity.hash tag m.now)).1 with
      | ok _ => rfl
      | error e =>
          simp only [Trace.analyses_append, afterCreate]
          split <;> rfl
  | inspect id =>
      cases stepped
      cases s.getRecord m id <;> rfl
  | discard id result =>
      cases stepped
      simp only [Trace.analyses_append, afterDiscard]
      split
      · rfl
      · split <;> rfl
  | settled result | dropped => cases stepped

end Others

namespace State

variable {σ : Type}

/-- How many scans have a place. -/
def running (s : State σ) : Nat :=
  s.scans.countP (·.phase.isActive)

/-- How many scans have a place and have not made their first call. -/
def opening (s : State σ) : Nat :=
  s.scans.countP (·.phase.isOpening)

/-- How many scans have begun to read and are not over. -/
def reading (s : State σ) : Nat :=
  s.scans.countP (·.phase.isReading)

def finished (s : State σ) : Nat :=
  s.scans.countP (·.phase.isOver)

/-- How many scans the engine is at work for. -/
def analyzing (s : State σ) : Nat :=
  s.scans.countP (·.phase.isAnalyzing)

/-- The line for places: each scan in it waits, and is in it once. Nobody waits while a place is
free. -/
structure InLine (s : State σ) : Prop where
  once : s.line.Nodup
  queued : ∀ i ∈ s.line, ∃ id, s.scans[i]? = some ⟨id, .queued⟩
  full : s.line ≠ [] → s.free = 0

/-- What has become of the places and of the calls to the engine, after so many scans have asked for
a place and so many answers have come. Places that a scan has just given up may be in hand. -/
structure Accounts (s : State σ) (inHand asked answers calls : Nat) : Prop where
  line : s.InLine
  places : s.running + s.free + inHand = s.capacity
  asked : asked = s.running + s.finished + s.line.length
  engine : calls = s.analyzing + answers

variable {s s' : State σ} {asked answers calls : Nat}

theorem Accounts.idle (c : Config) (engine : String) (stores : Stores σ) :
    (State.idle c engine stores).Accounts 0 0 0 0 :=
  ⟨⟨.nil, nofun, nofun⟩, Nat.zero_add _, rfl, rfl⟩

/-- What happens to the stores and to the uploads is no matter here. -/
theorem Accounts.rest (accounts : s.Accounts 0 asked answers calls) (stores : Stores σ)
    (uploads : List Upload) :
    ({ s with stores := stores, uploads := uploads } : State σ).Accounts 0 asked answers calls :=
  ⟨⟨accounts.line.once, accounts.line.queued, accounts.line.full⟩, accounts.places, accounts.asked,
    accounts.engine⟩

/-- The line stays as it is while those in it wait. -/
theorem InLine.mono (line : s.InLine) (same : s'.line = s.line) (free : s'.free = s.free)
    (queued : ∀ (i : Nat) (id : DocumentId), s.scans[i]? = some ⟨id, .queued⟩ →
      s'.scans[i]? = some ⟨id, .queued⟩) : s'.InLine where
  once := by
    rw [same]
    exact line.once
  queued i waits := by
    obtain ⟨id, found⟩ := line.queued i (same ▸ waits)
    exact ⟨id, queued i id found⟩
  full some_waits := by
    rw [free]
    exact line.full (same ▸ some_waits)

/-- Scans that are asked for wait until they ask for a place. -/
theorem Accounts.queue (accounts : s.Accounts 0 asked answers calls) (config : s'.config = s.config)
    (free : s'.free = s.free) (same : s'.line = s.line) {new : List DocumentId}
    (scans : s'.scans = s.scans ++ new.map fun id => ⟨id, .queued⟩) :
    s'.Accounts 0 asked answers calls := by
  have waiting : ∀ p : Scan.Phase → Bool, p .queued = false →
      s'.scans.countP (fun scan => p scan.phase) = s.scans.countP fun scan => p scan.phase := by
    intro p none
    simp [scans, List.countP_append, List.countP_map, Function.comp_def, none]
  have running : s'.running = s.running := waiting Scan.Phase.isActive rfl
  have finished : s'.finished = s.finished := waiting Scan.Phase.isOver rfl
  have analyzing : s'.analyzing = s.analyzing := waiting Scan.Phase.isAnalyzing rfl
  obtain ⟨line, places, total, engine⟩ := accounts
  refine ⟨line.mono same free fun i id found => ?_, ?_, ?_, ?_⟩
  · rw [scans, List.getElem?_append_left (List.getElem?_eq_some_iff.mp found).1]
    exact found
  · rw [running, free, capacity, config]
    exact places
  · rw [running, finished, same]
    exact total
  · rw [analyzing]
    exact engine

/-- A scan that gets a place counts as one that has a place, and no longer as one that waits. -/
theorem countP_seat {i : Nat} {id : DocumentId} (waits : s.scans[i]? = some ⟨id, .queued⟩)
    (p : Scan.Phase → Bool) :
    (s.seat i).scans.countP (fun scan => p scan.phase) + (p .queued).toNat =
      s.scans.countP (fun scan => p scan.phase) + (p .opening).toNat := by
  have moved : (s.seat i).scans = s.scans.set i ⟨id, .opening⟩ := by
    rw [seat, List.modify_eq_set_getElem?, waits]
    rfl
  rw [moved]
  exact countP_set_add (p := fun scan => p scan.phase) waits

/-- A place that is in hand goes to a scan that has asked for one and does not wait in line. -/
theorem Accounts.seat (accounts : s.Accounts 1 asked answers calls) {i : Nat} {id : DocumentId}
    (waits : s.scans[i]? = some ⟨id, .queued⟩) (out : i ∉ s.line) :
    (s.seat i).Accounts 0 (asked + 1) answers calls := by
  have running : (s.seat i).running + 0 = s.running + 1 := countP_seat waits Scan.Phase.isActive
  have finished : (s.seat i).finished + 0 = s.finished + 0 := countP_seat waits Scan.Phase.isOver
  have analyzing : (s.seat i).analyzing + 0 = s.analyzing + 0 :=
    countP_seat waits Scan.Phase.isAnalyzing
  have free : (s.seat i).free = s.free := rfl
  have length : (s.seat i).line.length = s.line.length := rfl
  have capacity : (s.seat i).capacity = s.capacity := rfl
  obtain ⟨line, places, total, engine⟩ := accounts
  refine ⟨⟨line.once, fun j waits => ?_, line.full⟩, by omega, by omega, by omega⟩
  obtain ⟨id, found⟩ := line.queued j waits
  have other : i ≠ j := fun same => out (same ▸ waits)
  exact ⟨id, by rw [getElem?_seat, found, Option.map_some, if_neg other]⟩

theorem Accounts.askPlace (accounts : s.Accounts 0 asked answers calls) {i : Nat} {id : DocumentId}
    (waits : s.scans[i]? = some ⟨id, .queued⟩) (out : i ∉ s.line) :
    (s.askPlace i).Accounts 0 (asked + 1) answers calls := by
  obtain ⟨line, places, total, engine⟩ := accounts
  unfold State.askPlace
  split
  · next place =>
      have taken : ({ s with free := s.free - 1 } : State σ).Accounts 1 asked answers calls := by
        refine ⟨⟨line.once, line.queued, fun some_waits => ?_⟩, ?_, total, engine⟩
        · have := line.full some_waits
          omega
        · change s.running + (s.free - 1) + 1 = s.capacity
          omega
      exact taken.seat waits out
  · next full =>
      refine ⟨⟨?_, fun j waits' => ?_, fun _ => Nat.eq_zero_of_not_pos full⟩, places, ?_, engine⟩
      · exact List.nodup_append.mpr ⟨line.once, List.nodup_singleton i, by
          rintro j waits' k listed rfl
          exact out (List.mem_singleton.mp listed ▸ waits')⟩
      · cases List.mem_append.mp waits' with
        | inl before => exact line.queued j before
        | inr last =>
            rw [List.mem_singleton.mp last]
            exact ⟨id, waits⟩
      · change asked + 1 = s.running + s.finished + (s.line ++ [i]).length
        rw [List.length_append, List.length_singleton]
        omega

/-- A place in hand is taken by the first in line, or is free again. -/
theorem Accounts.returnPlace (accounts : s.Accounts 1 asked answers calls) :
    s.returnPlace.Accounts 0 asked answers calls := by
  obtain ⟨line, places, total, engine⟩ := accounts
  unfold State.returnPlace
  split
  · next nobody =>
      refine ⟨⟨line.once, line.queued, fun some_waits => absurd nobody some_waits⟩, ?_, total, engine⟩
      change s.running + (s.free + 1) + 0 = s.capacity
      omega
  · next first rest listed =>
      rw [listed, List.length_cons] at total
      have once := line.once
      rw [listed] at once
      obtain ⟨id, waits⟩ := line.queued first (listed ▸ List.mem_cons_self)
      have called : ({ s with line := rest } : State σ).Accounts 1
          (s.running + s.finished + rest.length) answers calls := by
        refine ⟨⟨once.of_cons, fun j later => ?_, fun _ => ?_⟩, places, rfl, engine⟩
        · exact line.queued j (listed ▸ List.mem_cons_of_mem first later)
        · exact line.full (by rw [listed]; exact List.cons_ne_nil first rest)
      rw [show asked = s.running + s.finished + rest.length + 1 by omega]
      exact called.seat waits (List.nodup_cons.mp once).1

/-- A scan that has begun goes on. If it is over then, it gives its place back. -/
theorem Accounts.putScan (accounts : s.Accounts 0 asked answers calls) {i : Nat} {scan next : Scan}
    {made heard : Nat} (found : s.scans[i]? = some scan) (steady : scan.Steady next made heard) :
    (s.putScan i next).Accounts 0 asked (answers + heard) (calls + made) := by
  obtain ⟨-, begun, ended, account⟩ := steady
  have count := fun p : Scan.Phase → Bool => countP_set_add (p := fun scan => p scan.phase)
    (a := next) found
  have active := count Scan.Phase.isActive
  have finished := count Scan.Phase.isOver
  have analyzing := count Scan.Phase.isAnalyzing
  rw [begun] at active
  rw [Scan.Phase.isOver_of_isActive begun] at finished
  obtain ⟨line, places, total, engine⟩ := accounts
  have put : ({ s with scans := s.scans.set i next } : State σ).Accounts next.phase.isOver.toNat
      asked (answers + heard) (calls + made) := by
    simp only [running, State.finished, State.analyzing, capacity] at places total engine
    refine ⟨line.mono rfl rfl fun j id waits => ?_, ?_, ?_, ?_⟩
    · have other : i ≠ j := by
        rintro rfl
        cases found.symm.trans waits
        cases begun
      exact (List.getElem?_set_ne other).trans waits
    · simp only [running, capacity, ended]
      cases still : next.phase.isActive <;> simp [still] at active ⊢ <;> omega
    · simp only [running, State.finished, ended] at finished ⊢
      cases still : next.phase.isActive <;> simp [still] at active finished ⊢ <;> omega
    · simp only [State.analyzing]
      omega
  unfold State.putScan
  split
  · next leaves =>
      rw [leaves] at put
      exact put.returnPlace
  · next goes_on =>
      rw [Bool.eq_false_iff.mpr goes_on] at put
      exact put

variable [PayloadStore σ] {m : Moment} {a : Action} {t : Trace}

/-- An action keeps the accounts. -/
theorem Accounts.apply (accounts : s.Accounts 0 asked answers calls)
    (moved : s.apply m a = some (s', t)) :
    s'.Accounts 0 (asked + a.enters.toNat) (answers + a.answers.toNat) (calls + t.analyses) := by
  cases a with
  | submit r =>
      obtain ⟨rfl, rfl⟩ := apply_submit moved
      exact accounts.rest s.stores _
  | upload i =>
      have config := (apply_config moved).1
      obtain ⟨u, next, stores, trace, -, stepped, rfl, rfl⟩ := apply_upload moved
      rw [Upload.analyses_of_step stepped]
      rw [scheduleCreated_eq] at config ⊢
      exact accounts.queue config rfl rfl rfl
  | drop i =>
      obtain ⟨-, rfl, rfl⟩ := apply_drop moved
      exact accounts.rest s.stores _
  | schedule id =>
      obtain ⟨rfl, rfl⟩ := apply_schedule moved
      have scans : (s.schedule id).scans = s.scans ++ [id].map fun id => ⟨id, .queued⟩ := rfl
      exact accounts.queue rfl rfl rfl scans
  | enter i =>
      obtain ⟨⟨id, phase⟩, found, queued, out, rfl, rfl⟩ := apply_enter moved
      cases queued
      exact accounts.askPlace found out
  | scan i =>
      obtain ⟨scan, next, stores, trace, found, stepped, rfl, rfl⟩ := apply_scan moved
      exact (accounts.rest stores s.uploads).putScan found (Scan.steady_of_step stepped)
  | answer i answer =>
      obtain ⟨scan, next, found, answered, rfl⟩ := apply_answer moved
      exact accounts.putScan found (Scan.steady_of_answer answered)
  | sweep ttl =>
      obtain ⟨stores, swept, rfl⟩ := apply_sweep moved
      rw [Retention.analyses_of_sweepQuietly swept]
      exact accounts.rest stores s.uploads

variable {c : Config} {engine : String} {stores : Stores σ} {steps : List (Moment × Action)}

theorem accounts_of_run (ran : (State.idle c engine stores).run steps = some (s, t)) :
    s.Accounts 0 (steps.countP (·.2.enters)) (steps.countP (·.2.answers)) t.analyses := by
  refine run_induction (P := fun steps s t =>
    s.Accounts 0 (steps.countP (·.2.enters)) (steps.countP (·.2.answers)) t.analyses)
    (Accounts.idle c engine stores) ?_ ran
  intro steps s t x s' t' _ accounts moved
  have next := accounts.apply moved
  have one : ∀ p : Action → Bool, (steps ++ [x]).countP (fun x => p x.2) =
      steps.countP (fun x => p x.2) + (p x.2).toNat := by
    intro p
    rw [List.countP_append]
    cases passes : p x.2 <;> simp [passes]
  rw [one, one, Trace.analyses_append]
  exact next

end State

end Quarantine
