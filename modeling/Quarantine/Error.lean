import Quarantine.Source.Basic
import Quarantine.Text.Quoted
import Quarantine.Time.Duration

/-!
What can go wrong: while records are kept and looked up, while bytes are stored, fetched or dropped,
while an engine judges a content, and what callers of the service are told when a request fails.
-/

namespace Quarantine

inductive MetadataError
  | notFound (key : String)
  | alreadyExists (id : String)
  | alreadyAnalyzed (id : String)
  | unavailable (reason : String)
  | query (reason : String)
  deriving DecidableEq, Repr, Inhabited

namespace MetadataError

def kind : MetadataError → String
  | .notFound _ => "NotFound"
  | .alreadyExists _ => "AlreadyExists"
  | .alreadyAnalyzed _ => "AlreadyAnalyzed"
  | .unavailable _ => "Unavailable"
  | .query _ => "Query"

def isNotFound : MetadataError → Bool
  | .notFound _ => true
  | _ => false

def isAlreadyExists : MetadataError → Bool
  | .alreadyExists _ => true
  | _ => false

def message : MetadataError → String
  | .notFound key => "document not found: " ++ key
  | .alreadyExists id => "document already exists: " ++ id
  | .alreadyAnalyzed id => "document " ++ id ++ " already has a verdict"
  | .unavailable reason => "metadata store is unavailable: " ++ reason
  | .query reason => "metadata query failed: " ++ reason

end MetadataError

inductive StorageError
  | notFound (id : String)
  | invalidId (id : String)
  | saveFailed (id reason : String)
  | unavailable (reason : String)
  | io (e : IoError)
  deriving DecidableEq, Repr, Inhabited

namespace StorageError

def kind : StorageError → String
  | .notFound _ => "NotFound"
  | .invalidId _ => "InvalidId"
  | .saveFailed _ _ => "SaveFailed"
  | .unavailable _ => "Unavailable"
  | .io _ => "Io"

def isNotFound : StorageError → Bool
  | .notFound _ => true
  | _ => false

def message : StorageError → String
  | .notFound id => "no binary data stored for id " ++ id
  | .invalidId id => "invalid document id: " ++ Text.quoted id
  | .saveFailed id reason => "failed to save binary data for id " ++ id ++ ": " ++ reason
  | .unavailable reason => "binary store is unavailable: " ++ reason
  | .io e => "I/O error: " ++ e.text

end StorageError

inductive ScanError
  | unavailable (engine reason : String)
  | timeout (engine : String) (elapsed : Duration)
  | connection (engine message : String)
  /-- The engine answered, but not with a verdict. -/
  | ambiguous (engine details : String)
  | io (e : IoError)
  | configuration (message : String)
  deriving DecidableEq, Repr, Inhabited

namespace ScanError

def kind : ScanError → String
  | .unavailable _ _ => "EngineUnavailable"
  | .timeout _ _ => "Timeout"
  | .connection _ _ => "ConnectionFailed"
  | .ambiguous _ _ => "AmbiguousResponse"
  | .io _ => "Io"
  | .configuration _ => "Configuration"

/-- Whether another attempt may succeed. -/
def isRecoverable : ScanError → Bool
  | .configuration _ => false
  | _ => true

def engine : ScanError → Option String
  | .unavailable engine _ | .timeout engine _ | .connection engine _ | .ambiguous engine _ =>
    some engine
  | .io _ | .configuration _ => none

def message : ScanError → String
  | .unavailable engine reason => "engine '" ++ engine ++ "' is unavailable: " ++ reason
  | .timeout engine elapsed =>
    "scan timed out after " ++ elapsed.text ++ " on engine '" ++ engine ++ "'"
  | .connection engine message => "connection to engine '" ++ engine ++ "' failed: " ++ message
  | .ambiguous engine details => "ambiguous response from engine '" ++ engine ++ "': " ++ details
  | .io e => "I/O error: " ++ e.text
  | .configuration message => "configuration error: " ++ message

end ScanError

inductive ServiceError
  | invalidId (id : String)
  | emptyPayload
  | payloadTooLarge (size max : Nat)
  | notFound (id : String)
  /-- Some capabilities do not answer; each is named with its error. -/
  | unhealthy (failures : List String)
  /-- The caller's own source broke. -/
  | transport (e : IoError)
  | storage (e : StorageError)
  | metadata (e : MetadataError)
  | configuration (message : String)
  deriving DecidableEq, Repr, Inhabited

namespace ServiceError

def kind : ServiceError → String
  | .invalidId _ => "InvalidId"
  | .emptyPayload => "EmptyPayload"
  | .payloadTooLarge _ _ => "PayloadTooLarge"
  | .notFound _ => "NotFound"
  | .unhealthy _ => "Unhealthy"
  | .transport _ => "Transport"
  | .storage _ => "Storage"
  | .metadata _ => "Metadata"
  | .configuration _ => "Configuration"

/-- Whether the request itself is at fault. -/
def isValidation : ServiceError → Bool
  | .invalidId _ | .emptyPayload | .payloadTooLarge _ _ => true
  | _ => false

def message : ServiceError → String
  | .invalidId id => "invalid document id: " ++ Text.quoted id
  | .emptyPayload => "the uploaded payload is empty"
  | .payloadTooLarge size max =>
    "payload size " ++ toString size ++ " bytes exceeds maximum " ++ toString max ++ " bytes"
  | .notFound id => "document not found: " ++ id
  | .unhealthy failures => "service unhealthy: " ++ "; ".intercalate failures
  | .transport e => "upload transfer failed: " ++ e.text
  | .storage e => e.message
  | .metadata e => e.message
  | .configuration message => "configuration error: " ++ message

end ServiceError

end Quarantine
