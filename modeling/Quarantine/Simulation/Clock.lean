import Quarantine.Simulation.Rehearsal

/-!
How a rehearsal goes on. Whatever can go on does so, in the order in which it came to wait; then the
clock moves to the time of the first wait that ends.
-/

namespace Quarantine.Simulation.Rehearsal

variable {σ : Type} [PayloadStore σ]

def wait (due scan : Nat) (wake : Wake) (w : Rehearsal σ) : Rehearsal σ :=
  { w with timers := w.timers ++ [⟨due, scan, wake⟩] }

def finish (i : Nat) (job : Job) (w : Rehearsal σ) : Rehearsal σ :=
  let (answer, device) := w.device.finish job
  ({ w with device := device } : Rehearsal σ).act (.answer i answer)

def expire (i : Nat) (job : Job) (w : Rehearsal σ) : Rehearsal σ :=
  ({ w with device := w.device.cancel job } : Rehearsal σ).act (.answer i .late)

def deadline (w : Rehearsal σ) : Nat :=
  w.state.config.scan.attemptTimeout.wait

/-- Lets a scan go on until it has to wait. The number bounds its steps. -/
def runScan (i : Nat) : Nat → Rehearsal σ → Rehearsal σ
  | 0, w => w
  | fuel + 1, w =>
    match w.state.scans[i]? with
    | none => w
    | some scan =>
      match scan.phase with
      | .queued | .ended | .crashed => w
      | .opening | .recording _ _ | .releasing => runScan i fuel (w.act (.scan i))
      | .resting _ rest =>
        if rest.wait = 0 then runScan i fuel (w.act (.scan i))
        else w.wait (w.clock + rest.wait) i .rested
      | .analyzing _ source =>
        let (latency, job, device) := w.device.start source
        let w := { w with device := device }
        if latency = 0 then runScan i fuel (w.finish i job)
        else if latency ≤ w.deadline then w.wait (w.clock + latency) i (.answered job)
        else if w.deadline = 0 then runScan i fuel (w.expire i job)
        else w.wait (w.clock + w.deadline) i (.expired job)

/-- More than the number of steps that a scan can still make. -/
def rank (i : Nat) (w : Rehearsal σ) : Nat :=
  match w.state.scans[i]? with
  | some scan => scan.rank w.state.config.scan.ladder
  | none => 0

def goOn (i : Nat) (w : Rehearsal σ) : Rehearsal σ :=
  runScan i (w.rank i + 1) w

/-- The first scan that has its place and has not begun. -/
def seated? (w : Rehearsal σ) : Option Nat :=
  w.state.scans.findIdx? fun scan => scan.phase = .opening

/-- The first scan that has not asked for a place. -/
def unasked? (w : Rehearsal σ) : Option Nat :=
  (List.range w.state.scans.length).find? fun i =>
    (w.state.scans[i]?.map Scan.phase) = some .queued && i ∉ w.state.line

/-- Lets every scan ask for a place, the first come first, and those begin that have one. The number
bounds the steps. -/
def fillPlaces : Nat → Rehearsal σ → Rehearsal σ
  | 0, w => w
  | fuel + 1, w =>
    match w.seated? with
    | some i => fillPlaces fuel (w.goOn i)
    | none =>
      match w.unasked? with
      | some i => fillPlaces fuel (w.act (.enter i))
      | none => w

def pump (w : Rehearsal σ) : Rehearsal σ :=
  fillPlaces (2 * w.state.scans.length) w

def firstTimer (w : Rehearsal σ) : Option Timer :=
  w.timers.foldl (fun first t =>
    match first with
    | some f => if t.due < f.due then some t else some f
    | none => some t) none

inductive Next
  | timer (t : Timer)
  | sweep (s : Sweeper)

def Next.due : Next → Nat
  | .timer t => t.due
  | .sweep s => s.due

def next? (w : Rehearsal σ) : Option Next :=
  match w.firstTimer, w.sweeper with
  | some t, some s => some (if s.due < t.due then .sweep s else .timer t)
  | some t, none => some (.timer t)
  | none, some s => some (.sweep s)
  | none, none => none

def fire (t : Timer) (w : Rehearsal σ) : Rehearsal σ :=
  let woken := match t.wake with
    | .rested => w.act (.scan t.scan)
    | .answered job => w.finish t.scan job
    | .expired job => w.expire t.scan job
  woken.goOn t.scan

/-- Sweeps in the background. Sweeping ends if there is no cutoff. -/
def sweepNow (s : Sweeper) (w : Rehearsal σ) : Rehearsal σ :=
  match w.act? (.sweep s.ttl) with
  | some swept => { swept with sweeper := some { s with due := s.due + s.period } }
  | none => { w with sweeper := none }

def happen (n : Next) (w : Rehearsal σ) : Rehearsal σ :=
  let moved := { w with clock := n.due }
  match n with
  | .timer t => (({ moved with timers := w.timers.erase t } : Rehearsal σ).fire t).pump
  | .sweep s => moved.sweepNow s

/-- Lets time pass until a goal is reached or nothing is left to happen before `target`. The number
bounds what can happen. -/
def passUntil (goal : Rehearsal σ → Bool) (target : Nat) : Nat → Rehearsal σ → Rehearsal σ
  | 0, w => w
  | fuel + 1, w =>
    if goal w then w
    else
      match w.next? with
      | none => w
      | some n => if n.due < target then passUntil goal target fuel (w.happen n) else w

/-- More than the number of waits of scans that can still come to their end. -/
def waits (w : Rehearsal σ) : Nat :=
  w.state.scans.foldl (fun n scan => n + scan.rank w.state.config.scan.ladder) 1

def sweeps (target : Nat) (w : Rehearsal σ) : Nat :=
  match w.sweeper with
  | some s => (target - s.due) / max s.period 1 + 2
  | none => 0

def catchUp (w : Rehearsal σ) : Rehearsal σ :=
  passUntil (fun _ => false) (w.clock + 1) (w.waits + w.sweeps (w.clock + 1)) w

/-- Lets everything happen that happens within some time, which is a wait like any other. What
happens at its very end is left for later. -/
def advance (time : Duration) (w : Rehearsal σ) : Rehearsal σ :=
  let pumped := w.catchUp.pump
  let target := w.clock + time.wait
  { passUntil (fun _ => false) target (pumped.waits + pumped.sweeps target) pumped with
    clock := target }

/-- More than the time that the scans under way can take, one after another. -/
def horizon (w : Rehearsal σ) : Nat :=
  w.clock + (w.state.scans.filter fun scan => !scan.phase.isOver).length *
    (w.state.config.scan.ladder.delays.foldl (fun n d => n + d.wait) 0 +
      w.state.config.scan.ladder.attempts * (w.deadline + 1))

def isOver (i : Nat) (w : Rehearsal σ) : Bool :=
  match w.state.scans[i]? with
  | some scan => scan.phase.isOver
  | none => true

def await (i : Nat) (w : Rehearsal σ) : Rehearsal σ :=
  let pumped := w.catchUp.pump
  passUntil (isOver i) pumped.horizon (pumped.waits + pumped.sweeps pumped.horizon) pumped

end Quarantine.Simulation.Rehearsal
