import Quarantine.Scan.Task

/-!
A scan attempt by attempt. An attempt reads the bytes and hands them to the engine. This is what a
scan does when it is known beforehand what each of its attempts meets.
-/

namespace Quarantine.Scan

/-- What an attempt meets: the moment and the stores at which the bytes are read, and what the
engine comes to with them after how many milliseconds. -/
structure Attempt (σ : Type) where
  moment : Moment
  stores : Stores σ
  latency : Nat
  result : Except ScanError Verdict

/-- What a scan has done in the course of some attempts. -/
structure Course where
  attempts : Nat
  sleeps : List Duration
  trace : Trace
  scan : Scan
  deriving DecidableEq, Repr

def Course.andThen (first later : Course) : Course :=
  ⟨first.attempts + later.attempts, first.sleeps ++ later.sleeps, first.trace ++ later.trace,
    later.scan⟩

/-- What a scan sleeps before it reads its bytes, if that is what it does next. -/
def rest? (s : Scan) : Option (List Duration) :=
  match s.phase with
  | .opening => some []
  | .resting _ wait => some [wait]
  | .queued | .analyzing _ _ | .recording _ _ | .releasing | .ended | .crashed => none

variable {σ : Type} [PayloadStore σ]

namespace Attempt

def fetched (id : DocumentId) (x : Attempt σ) : Except StorageError Source :=
  x.stores.fetchPayload x.moment id

/-- What the result of the engine counts as. -/
def answer (c : ScanSettings) (x : Attempt σ) : Answer :=
  .within c.attemptTimeout.wait x.latency (.ofResult x.result)

end Attempt

/-- Lets a scan make an attempt, if that is what it does next. -/
def attempt (c : ScanSettings) (engine : String) (x : Attempt σ) (s : Scan) : Option Course := do
  let slept ← s.rest?
  let (opened, _, reading) ← s.step c engine x.moment x.stores
  let reading := Trace.ofCall? s.call? ++ reading
  match opened.answer c engine (x.answer c) with
  | some (next, answered) => return ⟨1, slept, reading ++ answered, next⟩
  | none => return ⟨1, slept, reading, opened⟩

/-- Lets a scan make one attempt after another, as long as it reads its bytes again. -/
def climb (c : ScanSettings) (engine : String) : List (Attempt σ) → Scan → Course
  | [], s => ⟨0, [], [], s⟩
  | x :: xs, s =>
    match s.attempt c engine x with
    | some first => first.andThen (climb c engine xs first.scan)
    | none => ⟨0, [], [], s⟩

end Quarantine.Scan
