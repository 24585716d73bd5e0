import Quarantine.Engine.Mock

/-!
Analyses side by side on one mock engine. What an analysis does without a wait is one step of it: it
starts, it looks whether the engine is online, it comes to the point at which it may be made to fail,
it ends with a judgement. It can be cancelled while it waits or reads. Which step comes next, and
when the engine is switched, is not decided here.
-/

namespace Quarantine

/-- What makes an analysis fail. -/
inductive Mock.Cause
  /-- All analyses are to fail. -/
  | always
  /-- It is one of the next ones, of which a number is to fail. -/
  | next
  deriving DecidableEq, Repr

inductive Mock.Switch
  | online (on : Bool)
  | failing (on : Bool)
  | failNext (n : Nat)
  deriving DecidableEq, Repr

namespace Mock

def switch (s : Switch) (m : Mock) : Mock :=
  match s with
  | .online on => { m with online := on }
  | .failing on => { m with failAlways := on }
  | .failNext n => { m with failNext := n }

/-- What an analysis fails of that is to fail. -/
def cause (m : Mock) : Cause :=
  if m.failAlways then .always else .next

end Mock

namespace Analysis

inductive Phase
  | started
  /-- The engine was online, and the latency passes. -/
  | waiting
  /-- It has not been made to fail. -/
  | reading
  | refused (e : ScanError)
  | failed (cause : Mock.Cause) (e : ScanError)
  | judged (result : Except ScanError Verdict)
  | cancelledWaiting
  | cancelledReading
  deriving Repr

namespace Phase

def isRunning : Phase → Bool
  | .started | .waiting | .reading => true
  | .refused _ | .failed _ _ | .judged _ | .cancelledWaiting | .cancelledReading => false

def isFinished : Phase → Bool
  | .refused _ | .failed _ _ | .judged _ => true
  | .started | .waiting | .reading | .cancelledWaiting | .cancelledReading => false

def isCancelled : Phase → Bool
  | .cancelledWaiting | .cancelledReading => true
  | .started | .waiting | .reading | .refused _ | .failed _ _ | .judged _ => false

def result? : Phase → Option (Except ScanError Verdict)
  | .refused e | .failed _ e => some (.error e)
  | .judged result => some result
  | .started | .waiting | .reading | .cancelledWaiting | .cancelledReading => none

end Phase

inductive Act
  | look
  /-- The latency has passed. -/
  | check
  | read
  | cancel
  deriving DecidableEq, Repr

end Analysis

structure Analysis where
  source : Source
  phase : Analysis.Phase
  deriving Repr

namespace Analysis

/-- The phase and the engine after the next part of an analysis. An analysis that comes to the point
at which it may be made to fail leaves a mark of what it failed of, if it did. -/
def act (m : Mock) (a : Analysis) : Act → Option (Phase × Mock × List (Option Mock.Cause))
  | .look =>
    match a.phase with
    | .started =>
      match m.refusal with
      | some e => some (.refused e, m.leave, [])
      | none => some (.waiting, m, [])
    | _ => none
  | .check =>
    match a.phase with
    | .waiting =>
      match m.takeFailure with
      | (true, after) =>
        some (.failed m.cause (.connection m.name "simulated failure"), after.leave, [some m.cause])
      | (false, after) => some (.reading, after, [none])
    | _ => none
  | .read =>
    match a.phase with
    | .reading => some (.judged (Mock.inspect a.source), m.leave, [])
    | _ => none
  | .cancel =>
    match a.phase with
    | .waiting => some (.cancelledWaiting, m.leave, [])
    | .reading => some (.cancelledReading, m.leave, [])
    | _ => none

end Analysis

structure Workload where
  mock : Mock
  /-- All analyses that were ever started, in order. -/
  analyses : List Analysis
  /-- Which analyses have come to the point at which they may be made to fail, in order, and what
  each of them failed of, if it did. -/
  checks : List (Nat × Option Mock.Cause)
  deriving Repr

namespace Workload

inductive Move
  | start (source : Source)
  | act (i : Nat) (act : Analysis.Act)
  | switch (s : Mock.Switch)
  deriving DecidableEq, Repr

/-- No analysis has been started yet, and the first ones of a number are to fail. -/
def idle (name : String) (latency : Option Duration) (failures : Nat) : Workload :=
  ⟨{ Mock.standard with name := name, latency := latency, failNext := failures }, [], []⟩

def step (w : Workload) : Move → Option Workload
  | .start source =>
    some { w with mock := w.mock.start, analyses := w.analyses ++ [⟨source, .started⟩] }
  | .act i act => do
    let a ← w.analyses[i]?
    let (phase, mock, marks) ← a.act w.mock act
    return ⟨mock, w.analyses.set i { a with phase := phase }, w.checks ++ marks.map (i, ·)⟩
  | .switch s => some { w with mock := w.mock.switch s }

def run (w : Workload) (moves : List Move) : Option Workload :=
  moves.foldlM step w

/-- How many analyses have started and neither finished nor been cancelled. -/
def running (w : Workload) : Nat :=
  w.analyses.countP (·.phase.isRunning)

def finished (w : Workload) : Nat :=
  w.analyses.countP (·.phase.isFinished)

def cancelled (w : Workload) : Nat :=
  w.analyses.countP (·.phase.isCancelled)

end Workload

end Quarantine
