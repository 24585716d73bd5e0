import Quarantine.Document.View
import Quarantine.Service.Health
import Quarantine.Service.State

/-!
What callers ask a service beside their uploads: documents, a sign of life, its health.
-/

namespace Quarantine

variable {σ : Type}

/-- What the two stores and the engine say to a ping, one line for each that does not answer. -/
def Stores.ping [PayloadStore σ] (m : Moment) (engine : String) (answer : Except ScanError Unit)
    (s : Stores σ) : Except ServiceError Unit × Trace :=
  let failures :=
    (match s.pingPayloads m with
      | .ok () => []
      | .error e => ["binary store: " ++ e.message]) ++
    (match s.pingRecords m with
      | .ok () => []
      | .error e => ["metadata store: " ++ e.message]) ++
    match answer with
      | .ok () => []
      | .error e => ["scan engine '" ++ engine ++ "': " ++ e.message]
  (if failures.isEmpty then .ok () else .error (.unhealthy failures),
    [.call .pingPayloads, .call .pingRecords, .call .pingEngine])

namespace State

/-- The document with an id. A text that is no id is not looked up. -/
def document (m : Moment) (id : String) (s : State σ) : Except ServiceError Document × Trace :=
  if DocumentId.isValidText id then
    (match s.stores.getRecord m ⟨id⟩ with
      | .ok d => .ok d
      | .error (.notFound _) => .error (.notFound id)
      | .error e => .error (.metadata e), [.call (.getRecord ⟨id⟩)])
  else (.error (.invalidId id), [])

def view (m : Moment) (id : String) (s : State σ) : Except ServiceError View × Trace :=
  let found := s.document m id
  (found.1.map View.ofDocument, found.2)

variable [PayloadStore σ]

def ping (m : Moment) (answer : Except ScanError Unit) (s : State σ) :
    Except ServiceError Unit × Trace :=
  let pinged := s.stores.ping m s.engine answer
  match pinged.1 with
  | .ok () => pinged
  | .error e => (.error e, pinged.2 ++ [.notice (.pingFailed e)])

def health (m : Moment) (answer : Except ScanError Unit) (s : State σ) : HealthReport × Trace :=
  let pinged := s.ping m answer
  let failures := match pinged.1 with
    | .ok () => []
    | .error (.unhealthy failures) => failures
    | .error e => [e.message]
  (⟨s.config.version, s.config.information, failures.isEmpty, failures⟩, pinged.2)

end State

end Quarantine
