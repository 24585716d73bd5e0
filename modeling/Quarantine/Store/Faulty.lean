import Quarantine.Store.Payloads
import Quarantine.Store.Records

/-!
The two stores of a service, at moments at which a call may fail for reasons of its own. A call that
is made to fail has no effect.
-/

namespace Quarantine

inductive StorageFault
  | refused (e : StorageError)
  /-- Bytes can be fetched, but their first read fails. All other calls go well. -/
  | breaking (e : IoError)
  deriving DecidableEq, Repr

/-- What a step meets: the time, and the faults of the calls that it makes. -/
structure Moment where
  now : Instant
  storage : Option StorageFault
  metadata : Option MetadataError
  deriving DecidableEq, Repr

namespace Moment

/-- A moment at which nothing goes wrong. -/
def calm (now : Instant) : Moment :=
  ⟨now, none, none⟩

end Moment

structure Stores (σ : Type) where
  payloads : σ
  records : Records
  deriving DecidableEq, Repr

namespace Stores

variable {σ : Type} [PayloadStore σ]

def savePayload (m : Moment) (id : DocumentId) (source : Source) (size : Nat) (s : Stores σ) :
    Except StorageError Unit × Stores σ :=
  match m.storage with
  | some (.refused e) => (.error e, s)
  | _ =>
    let (result, payloads) := PayloadStore.save id source size s.payloads
    (result, { s with payloads := payloads })

def fetchPayload (m : Moment) (id : DocumentId) (s : Stores σ) : Except StorageError Source :=
  match m.storage with
  | some (.refused e) => .error e
  | some (.breaking e) => .ok (.broken e)
  | none => PayloadStore.fetch id s.payloads

def deletePayload (m : Moment) (id : DocumentId) (s : Stores σ) :
    Except StorageError Unit × Stores σ :=
  match m.storage with
  | some (.refused e) => (.error e, s)
  | _ =>
    let (result, payloads) := PayloadStore.delete id s.payloads
    (result, { s with payloads := payloads })

def pingPayloads (m : Moment) (s : Stores σ) : Except StorageError Unit :=
  match m.storage with
  | some (.refused e) => .error e
  | _ => PayloadStore.ping s.payloads

omit [PayloadStore σ]

def saveRecord (m : Moment) (d : Document) (s : Stores σ) : Except MetadataError Unit × Stores σ :=
  match m.metadata with
  | some e => (.error e, s)
  | none =>
    let (result, records) := s.records.save d
    (result, { s with records := records })

def getRecord (m : Moment) (id : DocumentId) (s : Stores σ) : Except MetadataError Document :=
  match m.metadata with
  | some e => .error e
  | none => s.records.get id

def findRecord (m : Moment) (hash : String) (s : Stores σ) : Except MetadataError Document :=
  match m.metadata with
  | some e => .error e
  | none => s.records.getByHash hash

def updateRecord (m : Moment) (id : DocumentId) (status : Status) (s : Stores σ) :
    Except MetadataError Unit × Stores σ :=
  match m.metadata with
  | some e => (.error e, s)
  | none =>
    let (result, records) := s.records.update id status m.now
    (result, { s with records := records })

def purgeRecords (m : Moment) (cutoff : Instant) (s : Stores σ) :
    Except MetadataError Nat × Stores σ :=
  match m.metadata with
  | some e => (.error e, s)
  | none =>
    let (result, records) := s.records.purge cutoff
    (result, { s with records := records })

def pingRecords (m : Moment) (s : Stores σ) : Except MetadataError Unit :=
  match m.metadata with
  | some e => .error e
  | none => s.records.ping

end Stores

end Quarantine
