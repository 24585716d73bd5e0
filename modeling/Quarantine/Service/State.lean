import Quarantine.Scan.Task
import Quarantine.Service.Config
import Quarantine.Service.Retention
import Quarantine.Upload.Task

/-!
The state of a service, and the steps that change it. Uploads, scans and sweeps go on side by side;
each action lets one of them make one call. Which action comes next, and what its call meets, is not
decided here.
-/

namespace Quarantine

/-- What goes on next. -/
inductive Action
  | submit (r : Request)
  /-- An upload makes its next call. -/
  | upload (i : Nat)
  /-- The caller of an upload goes away. -/
  | drop (i : Nat)
  | schedule (id : DocumentId)
  /-- A scan asks for a place, and waits in line if none is free. -/
  | enter (i : Nat)
  /-- A scan makes its next call to a store. -/
  | scan (i : Nat)
  | answer (i : Nat) (a : Scan.Answer)
  /-- Records are swept in the background. -/
  | sweep (ttl : Span)
  deriving DecidableEq, Repr

structure State (σ : Type) where
  config : Config
  engine : String
  stores : Stores σ
  /-- How many places for scans are free. -/
  free : Nat
  /-- The scans that have asked for a place and wait for it, first come, first served. -/
  line : List Nat
  /-- All scans that were ever asked for, in order. -/
  scans : List Scan
  /-- All uploads that ever arrived, in order. -/
  uploads : List Upload

namespace State

variable {σ : Type}

def idle (c : Config) (engine : String) (stores : Stores σ) : State σ :=
  ⟨c, engine, stores, c.scan.places, [], [], []⟩

def capacity (s : State σ) : Nat :=
  s.config.scan.places

def active (s : State σ) : Nat :=
  s.capacity - s.free

def schedule (id : DocumentId) (s : State σ) : State σ :=
  { s with scans := s.scans ++ [⟨id, .queued⟩] }

def scheduleCreated (u : Upload) (s : State σ) : State σ :=
  match u.created? with
  | some id => s.schedule id
  | none => s

/-- A scan gets a place. -/
def seat (i : Nat) (s : State σ) : State σ :=
  { s with scans := s.scans.modify i Scan.enter }

/-- A scan asks for a place. If none is free, it goes to the end of the line. -/
def askPlace (i : Nat) (s : State σ) : State σ :=
  if 0 < s.free then { s with free := s.free - 1 }.seat i else { s with line := s.line ++ [i] }

/-- A place is given back. While scans wait in line it never becomes free, but goes to the first of
them at once, before that scan has made a step of its own. -/
def returnPlace (s : State σ) : State σ :=
  match s.line with
  | [] => { s with free := s.free + 1 }
  | next :: rest => { s with line := rest }.seat next

/-- Writes down how far a scan has gone. If it is over, it gives its place back. -/
def putScan (i : Nat) (scan : Scan) (s : State σ) : State σ :=
  let put := { s with scans := s.scans.set i scan }
  if scan.phase.isOver then put.returnPlace else put

variable [PayloadStore σ]

/-- The state after an action, with what it adds to the trace, if the action is possible. -/
def apply (m : Moment) (s : State σ) : Action → Option (State σ × Trace)
  | .submit r => some ({ s with uploads := s.uploads ++ [.start s.config.maxUploadSize r] }, [])
  | .upload i => do
    let upload ← s.uploads[i]?
    let (next, stores, trace) ← upload.step m s.stores
    let moved := { s with stores := stores, uploads := s.uploads.set i next }
    return (moved.scheduleCreated next, Trace.ofCall? (upload.call? m.now) ++ trace)
  | .drop i => do
    let upload ← s.uploads[i]?
    if upload.isOver then none else return ({ s with uploads := s.uploads.set i .dropped }, [])
  | .schedule id => some (s.schedule id, [])
  | .enter i => do
    let scan ← s.scans[i]?
    if scan.phase = .queued ∧ i ∉ s.line then return (s.askPlace i, []) else none
  | .scan i => do
    let scan ← s.scans[i]?
    let (next, stores, trace) ← scan.step s.config.scan s.engine m s.stores
    return ({ s with stores := stores }.putScan i next, Trace.ofCall? scan.call? ++ trace)
  | .answer i a => do
    let scan ← s.scans[i]?
    let (next, trace) ← scan.answer s.config.scan s.engine a
    return (s.putScan i next, trace)
  | .sweep ttl => do
    let (stores, trace) ← Retention.sweepQuietly m ttl s.stores
    return ({ s with stores := stores }, trace)

/-- A run: the state after some actions, each at its own moment, and the trace of all of them. -/
def run (s : State σ) : List (Moment × Action) → Option (State σ × Trace)
  | [] => some (s, [])
  | (m, a) :: rest => do
    let (next, trace) ← s.apply m a
    let (last, later) ← next.run rest
    return (last, trace ++ later)

end State

end Quarantine
