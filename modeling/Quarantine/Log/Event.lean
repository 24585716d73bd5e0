import Quarantine.Error
import Quarantine.Log.Audit

/-!
What is written to the log: the audit trail and notices for operators.
-/

namespace Quarantine

inductive Notice
  /-- Another upload of the same content and tag was faster. -/
  | concurrentUpload (id : DocumentId)
  | winnerUnreadable (id : DocumentId) (error : MetadataError)
  | orphanKept (id : DocumentId) (error : StorageError)
  /-- The bytes of a document could not be fetched, so that its scan never began. -/
  | scanUnreadable (id : DocumentId) (error : StorageError)
  | attemptFailed (id : DocumentId) (attempt attempts : Nat) (error : String)
  | verdictKept (id : DocumentId)
  | bytesKept (id : DocumentId) (error : StorageError)
  | pingFailed (error : ServiceError)
  | sweeperDisabled
  | sweeperStarted (seconds : Nat)
  | sweepFailed (error : MetadataError)
  | ready (version engine : String) (places maxUploadSize : Nat) (sweeping : Bool)
  deriving DecidableEq, Repr

namespace Notice

def level : Notice → Level
  | .concurrentUpload _ | .verdictKept _ | .sweeperDisabled | .sweeperStarted _
  | .ready _ _ _ _ _ => .info
  | .winnerUnreadable _ _ | .orphanKept _ _ | .attemptFailed _ _ _ _ | .bytesKept _ _ => .warn
  | .scanUnreadable _ _ | .pingFailed _ | .sweepFailed _ => .error

def message : Notice → String
  | .concurrentUpload _ => "Concurrent upload created this document first"
  | .winnerUnreadable _ _ => "Cannot inspect winning upload"
  | .orphanKept _ _ => "Failed to drop orphan bytes"
  | .scanUnreadable _ _ => "Cannot read pending bytes; scan not started"
  | .attemptFailed _ _ _ _ => "Scan attempt failed"
  | .verdictKept _ => "Document already has a verdict; keeping it"
  | .bytesKept _ _ => "Failed to delete bytes after verdict"
  | .pingFailed _ => "Service ping failed"
  | .sweeperDisabled => "Retention sweeper disabled"
  | .sweeperStarted _ => "Retention sweeper started"
  | .sweepFailed _ => "Retention sweep failed"
  | .ready _ _ _ _ _ => "Document service ready"

def fields : Notice → List (String × Json)
  | .concurrentUpload id | .verdictKept id => [("document_id", .text id.text)]
  | .winnerUnreadable id error =>
    [("document_id", .text id.text), ("error", .text error.message)]
  | .orphanKept id error | .scanUnreadable id error | .bytesKept id error =>
    [("document_id", .text id.text), ("error", .text error.message)]
  | .attemptFailed id attempt attempts error =>
    [("document_id", .text id.text), ("attempt", .nat attempt), ("max_attempts", .nat attempts),
      ("error", .text error)]
  | .pingFailed error => [("error", .text error.message)]
  | .sweeperDisabled => []
  | .sweeperStarted seconds => [("period_secs", .nat seconds)]
  | .sweepFailed error => [("error", .text error.message)]
  | .ready version engine places maxUploadSize sweeping =>
    [("version", .text version), ("engine", .text engine), ("scan_capacity", .nat places),
      ("max_upload_size", .nat maxUploadSize), ("auto_purge", .bool sweeping)]

end Notice

inductive Event
  | audit (a : Audit)
  | notice (n : Notice)
  deriving DecidableEq, Repr

namespace Event

def level : Event → Level
  | .audit a => a.level
  | .notice n => n.level

def message : Event → String
  | .audit a => a.message
  | .notice n => n.message

def isAudit : Event → Bool
  | .audit _ => true
  | .notice _ => false

/-- What the line says beside its message. The lines of the audit trail name their kind. -/
def fields : Event → List (String × Json)
  | .audit a => ("event_type", a.kind.toJson) :: a.fields
  | .notice n => n.fields

def toJson (e : Event) : Json :=
  .object
    ([("log", .text e.level.name), ("message", .text e.message)] ++
      (if e.isAudit then [("audit", .bool true)] else []) ++ e.fields)

end Event

end Quarantine
