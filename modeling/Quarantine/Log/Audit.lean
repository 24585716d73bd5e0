import Quarantine.Document.Basic
import Quarantine.Error
import Quarantine.Text.Quoted

/-!
The audit trail: one entry for every change of a record, for the release of its bytes, and for every
scan that came to nothing.
-/

namespace Quarantine

inductive Level
  | info
  | warn
  | error
  deriving DecidableEq, Repr, Inhabited

namespace Level

def name : Level → String
  | .info => "INFO"
  | .warn => "WARN"
  | .error => "ERROR"

end Level

namespace Audit

inductive Kind
  | documentCreated
  | verdictPropagated
  | verdictRecorded
  | bytesReleased
  | scanAbandoned
  | verdictLost
  | purgeCompleted
  deriving DecidableEq, Repr, Inhabited

namespace Kind

def name : Kind → String
  | .documentCreated => "document_created"
  | .verdictPropagated => "verdict_propagated"
  | .verdictRecorded => "verdict_recorded"
  | .bytesReleased => "bytes_released"
  | .scanAbandoned => "scan_abandoned"
  | .verdictLost => "verdict_lost"
  | .purgeCompleted => "purge_completed"

def all : List Kind :=
  [.documentCreated, .verdictPropagated, .verdictRecorded, .bytesReleased, .scanAbandoned,
    .verdictLost, .purgeCompleted]

def toJson (k : Kind) : Json :=
  .text k.name

def reader : Json.Reader Kind :=
  Json.Reader.oneOf (all.map fun k => (k.name, k))

end Kind

end Audit

inductive Audit
  /-- A new pending record was stored, whose content has `size` bytes. -/
  | documentCreated (d : Document) (size : Nat)
  /-- A record was stored with the verdict of another one of the same content. -/
  | verdictPropagated (d : Document) (source : DocumentId)
  | verdictRecorded (id : DocumentId) (verdict : Verdict) (engine : String) (attempt : Nat)
  | bytesReleased (id : DocumentId)
  /-- A scan gave up, after so many attempts, because of its last error. -/
  | scanAbandoned (id : DocumentId) (attempts : Nat) (error : String)
  /-- A scan has a verdict that could not be written down. -/
  | verdictLost (id : DocumentId) (verdict : Verdict) (error : MetadataError)
  | purgeCompleted (removed : Nat) (cutoff : Instant)
  deriving DecidableEq, Repr

namespace Audit

def kind : Audit → Kind
  | .documentCreated _ _ => .documentCreated
  | .verdictPropagated _ _ => .verdictPropagated
  | .verdictRecorded _ _ _ _ => .verdictRecorded
  | .bytesReleased _ => .bytesReleased
  | .scanAbandoned _ _ _ => .scanAbandoned
  | .verdictLost _ _ _ => .verdictLost
  | .purgeCompleted _ _ => .purgeCompleted

def level (a : Audit) : Level :=
  match a.kind with
  | .scanAbandoned | .verdictLost => .error
  | _ => .info

def message (a : Audit) : String :=
  match a.kind with
  | .documentCreated => "Document created"
  | .verdictPropagated => "Verdict propagated from identical content"
  | .verdictRecorded => "Verdict recorded"
  | .bytesReleased => "Payload bytes released"
  | .scanAbandoned => "Scan abandoned; document stays pending"
  | .verdictLost => "Verdict could not be recorded; document stays pending"
  | .purgeCompleted => "Expired documents purged"

def fields : Audit → List (String × Json)
  | .documentCreated d size =>
    [("document_id", .text d.id.text), ("hash", .text d.hash), ("tag", .text d.tag),
      ("size", .nat size)]
  | .verdictPropagated d source =>
    [("document_id", .text d.id.text), ("source_id", .text source.text), ("hash", .text d.hash),
      ("status", .text d.status.name)]
  | .verdictRecorded id verdict engine attempt =>
    [("document_id", .text id.text), ("status", .text verdict.status.name),
      ("threat", .text (Text.quotedOption verdict.threat)), ("engine", .text engine),
      ("attempt", .nat attempt)]
  | .bytesReleased id => [("document_id", .text id.text)]
  | .scanAbandoned id attempts error =>
    [("document_id", .text id.text), ("attempts", .nat attempts), ("error", .text error)]
  | .verdictLost id verdict error =>
    [("document_id", .text id.text), ("status", .text verdict.status.name),
      ("error", .text error.message)]
  | .purgeCompleted removed cutoff =>
    [("removed", .nat removed), ("cutoff", .text (Timestamp.writeOffset .fewest cutoff))]

end Audit

end Quarantine
