import Quarantine.Service.Build
import Quarantine.Simulation.Device
import Quarantine.Simulation.Fault

/-!
A rehearsal: a service with its engine, a clock for everything that waits, and another clock for the
times that are written into records. The first stands still while anything can go on. The second
moves on with every reading.
-/

namespace Quarantine.Simulation

inductive Wake
  | rested
  | answered (job : Job)
  | expired (job : Job)
  deriving DecidableEq, Repr

structure Timer where
  due : Nat
  scan : Nat
  wake : Wake
  deriving DecidableEq, Repr

/-- The sweeping in the background. The first sweep comes when its time has come, each later one no
longer after the one before than a timer waits. -/
structure Sweeper where
  ttl : Span
  period : Nat
  due : Nat
  deriving DecidableEq, Repr

inductive Stage
  | unbuilt
  | running
  /-- The service is gone, but its scans go on. -/
  | dropped
  deriving DecidableEq, Repr

structure Rehearsal (σ : Type) where
  state : State σ
  stage : Stage
  device : Device
  faults : List Fault
  /-- Milliseconds since the beginning. -/
  clock : Nat
  /-- The next reading of the time that is written into records. -/
  wall : Instant
  timers : List Timer
  sweeper : Option Sweeper
  /-- What came about, the last first. -/
  back : List Entry

namespace Rehearsal

variable {σ : Type}

def start (c : Config) (stores : Stores σ) (device : Device) (wall : Instant) : Rehearsal σ :=
  ⟨.idle c device.name stores, .unbuilt, device, [], 0, wall, [], none, []⟩

def trace (w : Rehearsal σ) : Trace :=
  w.back.reverse

def forget (w : Rehearsal σ) : Rehearsal σ :=
  { w with back := [] }

def say (t : Trace) (w : Rehearsal σ) : Rehearsal σ :=
  { w with back := t.reverse ++ w.back }

def read (w : Rehearsal σ) : Instant × Rehearsal σ :=
  (w.wall, { w with wall := w.wall.next })

def moment (methods : List Method) (w : Rehearsal σ) : Moment × Rehearsal σ :=
  let (m, faults) := Fault.moment w.wall methods w.faults
  (m, { w with wall := w.wall.next, faults := faults })

def method? (w : Rehearsal σ) : Action → Option Method
  | .upload i => do Method.ofCall? (← (← w.state.uploads[i]?).call? w.wall)
  | .scan i => do Method.ofCall? (← (← w.state.scans[i]?).call?)
  | .sweep _ => some .purgeRecords
  | .submit _ | .drop _ | .schedule _ | .enter _ | .answer _ _ => none

def withStores (stores : Stores σ) (w : Rehearsal σ) : Rehearsal σ :=
  { w with state := { w.state with stores := stores } }

def withPayloads (payloads : σ) (w : Rehearsal σ) : Rehearsal σ :=
  w.withStores { w.state.stores with payloads := payloads }

def withRecords (records : Records) (w : Rehearsal σ) : Rehearsal σ :=
  w.withStores { w.state.stores with records := records }

def withMock (mock : Mock) (w : Rehearsal σ) : Rehearsal σ :=
  { w with device := { w.device with mock := mock } }

variable [PayloadStore σ]

def act? (a : Action) (w : Rehearsal σ) : Option (Rehearsal σ) :=
  let (m, w) := w.moment (w.method? a).toList
  (w.state.apply m a).map fun (state, trace) => ({ w with state := state } : Rehearsal σ).say trace

/-- The rehearsal after an action. It stays as it is if the action is not possible. -/
def act (a : Action) (w : Rehearsal σ) : Rehearsal σ :=
  (w.act? a).getD w

end Rehearsal

end Quarantine.Simulation
