import Quarantine.Error
import Quarantine.Log.Trace
import Quarantine.Scan.Settings
import Quarantine.Store.Faulty

/-!
Scans under way. A scan waits for a place, which it keeps until it is over. It fetches the bytes of
its document and hands them to the engine; after a failure it rests and fetches them again, as often
as the ladder allows. A verdict is written down first, and only then are the bytes released.
-/

namespace Quarantine.Scan

inductive Answer
  | verdict (v : Verdict)
  | failed (e : ScanError)
  /-- The engine took longer than an attempt may take. -/
  | late
  /-- The engine broke down and took the scan with it. -/
  | crashed
  deriving DecidableEq, Repr

namespace Answer

def ofResult : Except ScanError Verdict → Answer
  | .ok v => .verdict v
  | .error e => .failed e

/-- The answer of an engine that needs some time under a deadline. An answer that comes at the very
deadline still counts. -/
def within (deadline latency : Nat) (a : Answer) : Answer :=
  if latency ≤ deadline then a else .late

end Answer

inductive Phase
  | queued
  | opening
  /-- Waits before an attempt, then fetches the bytes for it. -/
  | resting (attempt : Nat) (wait : Duration)
  /-- The engine has the bytes. -/
  | analyzing (attempt : Nat) (source : Source)
  | recording (attempt : Nat) (verdict : Verdict)
  | releasing
  | ended
  | crashed
  deriving DecidableEq, Repr

namespace Phase

/-- Whether the scan has a place. -/
def isActive : Phase → Bool
  | .queued | .ended | .crashed => false
  | .opening | .resting _ _ | .analyzing _ _ | .recording _ _ | .releasing => true

def isOver : Phase → Bool
  | .ended | .crashed => true
  | _ => false

end Phase

end Quarantine.Scan

namespace Quarantine

structure Scan where
  id : DocumentId
  phase : Scan.Phase
  deriving DecidableEq, Repr

namespace Scan

/-- A scan that has waited in the queue has a place now, and can fetch the bytes. -/
def enter (s : Scan) : Scan :=
  if s.phase = .queued then { s with phase := .opening } else s

def call? (s : Scan) : Option Call :=
  match s.phase with
  | .opening | .resting _ _ => some (.fetchPayload s.id)
  | .recording _ verdict => some (.updateRecord s.id verdict.status)
  | .releasing => some (.deletePayload s.id)
  | .queued | .analyzing _ _ | .ended | .crashed => none

/-- More than the number of steps that a scan can still make under a ladder. -/
def rank (l : Ladder) (s : Scan) : Nat :=
  match s.phase with
  | .queued => 2 * l.attempts + 4
  | .opening => 2 * l.attempts + 3
  | .resting attempt _ => 2 * (l.attempts - attempt) + 4
  | .analyzing attempt _ => 2 * (l.attempts - attempt) + 3
  | .recording _ _ => 2
  | .releasing => 1
  | .ended | .crashed => 0

/-- What follows from a failed attempt: a rest and another attempt, or the end. -/
def retry (l : Ladder) (id : DocumentId) (attempt : Nat) (error : String) : Phase × Trace :=
  let failed := Entry.notice (.attemptFailed id attempt l.attempts error)
  match l.delayBefore (attempt + 1) with
  | some wait => (.resting (attempt + 1) wait, [failed])
  | none => (.ended, [failed, .audit (.scanAbandoned id attempt error)])

def afterOpening (id : DocumentId) : Except StorageError Source → Phase × Trace
  | .ok source => (.analyzing 1 source, [.call (.analyze source)])
  | .error e => (.ended, [.notice (.scanUnreadable id e)])

def afterRest (l : Ladder) (id : DocumentId) (attempt : Nat) :
    Except StorageError Source → Phase × Trace
  | .ok source => (.analyzing attempt source, [.call (.analyze source)])
  | .error e => retry l id attempt ("re-reading bytes failed: " ++ e.message)

def afterAnswer (c : ScanSettings) (engine : String) (id : DocumentId) (attempt : Nat) :
    Answer → Phase × Trace
  | .verdict v => (.recording attempt v, [])
  | .failed e =>
    if e.isRecoverable then retry c.ladder id attempt e.message
    else (.ended, [.audit (.scanAbandoned id attempt e.message)])
  | .late => retry c.ladder id attempt (ScanError.timeout engine c.attemptTimeout).message
  | .crashed => (.crashed, [])

def afterRecording (engine : String) (id : DocumentId) (attempt : Nat) (v : Verdict) :
    Except MetadataError Unit → Phase × Trace
  | .ok () => (.releasing, [.audit (.verdictRecorded id v engine attempt)])
  | .error (.alreadyAnalyzed _) => (.releasing, [.notice (.verdictKept id)])
  | .error e => (.ended, [.audit (.verdictLost id v e)])

def afterReleasing (id : DocumentId) : Except StorageError Unit → Trace
  | .ok () => [.audit (.bytesReleased id)]
  | .error e => if e.isNotFound then [] else [.notice (.bytesKept id e)]

def answer (c : ScanSettings) (engine : String) (a : Answer) (s : Scan) : Option (Scan × Trace) :=
  match s.phase with
  | .analyzing attempt _ =>
    let next := afterAnswer c engine s.id attempt a
    some ({ s with phase := next.1 }, next.2)
  | _ => none

variable {σ : Type} [PayloadStore σ]

/-- Makes the next call to a store. The trace does not hold the call itself. -/
def step (c : ScanSettings) (engine : String) (m : Moment) (stores : Stores σ) (s : Scan) :
    Option (Scan × Stores σ × Trace) :=
  match s.phase with
  | .opening =>
    let next := afterOpening s.id (stores.fetchPayload m s.id)
    some ({ s with phase := next.1 }, stores, next.2)
  | .resting attempt _ =>
    let next := afterRest c.ladder s.id attempt (stores.fetchPayload m s.id)
    some ({ s with phase := next.1 }, stores, next.2)
  | .recording attempt verdict =>
    let updated := stores.updateRecord m s.id verdict.status
    let next := afterRecording engine s.id attempt verdict updated.1
    some ({ s with phase := next.1 }, updated.2, next.2)
  | .releasing =>
    let deleted := stores.deletePayload m s.id
    some ({ s with phase := .ended }, deleted.2, afterReleasing s.id deleted.1)
  | .queued | .analyzing _ _ | .ended | .crashed => none

end Scan

end Quarantine
