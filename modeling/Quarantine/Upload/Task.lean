import Quarantine.Document.Tag
import Quarantine.Log.Trace
import Quarantine.Store.Faulty
import Quarantine.Upload.Request

/-!
Uploads under way. An upload first takes in its content; after that each step makes one call to a
store. A content that is known is not kept again: under the same tag it is the known document, under
another one it takes over the verdict if there is one. Any other content is kept, then recorded as
pending. If another upload has recorded it in the meantime, its record stands, and the bytes go if
it has a verdict already.
-/

namespace Quarantine

/-- An upload under way, by the call that it makes next. -/
inductive Upload
  /-- Looks for a record of the same content. -/
  | lookup (identity : Identity) (content : Bytes) (tag : String)
  /-- Records the content with the verdict of a known record. -/
  | inherit (identity : Identity) (tag : String) (source : Document)
  | keep (identity : Identity) (content : Bytes) (tag : String)
  /-- Records the content as pending. -/
  | create (identity : Identity) (tag : String)
  /-- Looks at the record that another upload has made. -/
  | inspect (id : DocumentId)
  /-- Drops bytes that no record needs. -/
  | discard (id : DocumentId) (result : Except ServiceError Outcome)
  | settled (result : Except ServiceError Outcome)
  | dropped

namespace Upload

structure Spooled where
  content : Bytes
  identity : Identity
  deriving DecidableEq, Repr

/-- Takes in the content of a request, at most as many bytes as it announces, and computes its
identity on the way. -/
def spool (r : Request) (tag : String) : Except IoError Spooled :=
  let drained := (r.source.limit r.declared).drain 8192
  match drained.failure with
  | some e => .error e
  | none =>
    .ok ⟨drained.chunks.flatten,
      (drained.chunks.foldl Identity.Hasher.absorb .empty).finish tag⟩

/-- Checks that a request announces no more than `most` bytes, and takes in its content. -/
def start (most : Nat) (r : Request) : Upload :=
  if r.declared = 0 then .settled (.error .emptyPayload)
  else if most < r.declared then .settled (.error (.payloadTooLarge r.declared most))
  else
    let tag := Tag.sanitize r.effectiveTag
    match spool r tag with
    | .error e => .settled (.error (.transport e))
    | .ok spooled =>
      if spooled.identity.size = 0 then .settled (.error .emptyPayload)
      else .lookup spooled.identity spooled.content tag

def call? (now : Instant) : Upload → Option Call
  | .lookup identity _ _ => some (.findRecord identity.hash)
  | .inherit identity tag source => some (.saveRecord (.inheriting identity.id tag source now))
  | .keep identity _ _ => some (.savePayload identity.id identity.size)
  | .create identity tag => some (.saveRecord (.fresh identity.id identity.hash tag now))
  | .inspect id => some (.getRecord id)
  | .discard id _ => some (.deletePayload id)
  | .settled _ | .dropped => none

def result? : Upload → Option (Except ServiceError Outcome)
  | .settled result => some result
  | _ => none

def isOver : Upload → Bool
  | .settled _ | .dropped => true
  | _ => false

/-- The pending record that an upload has made, which has to be scanned. -/
def created? : Upload → Option DocumentId
  | .settled (.ok (.created id)) => some id
  | _ => none

/-- How many more calls an upload can make. -/
def rank : Upload → Nat
  | .lookup _ _ _ => 5
  | .keep _ _ _ => 4
  | .create _ _ => 3
  | .inspect _ => 2
  | .inherit _ _ _ | .discard _ _ => 1
  | .settled _ | .dropped => 0

def afterLookup (identity : Identity) (content : Bytes) (tag : String) :
    Except MetadataError Document → Upload
  | .error e =>
    if e.isNotFound then .keep identity content tag else .settled (.error (.metadata e))
  | .ok d =>
    if d.tag = tag then .settled (.ok (.alreadyExists d.id))
    else if d.isPending then .keep identity content tag
    else .inherit identity tag d

def afterInherit (d : Document) (source : DocumentId) :
    Except MetadataError Unit → Upload × Trace
  | .ok () =>
    (.settled (.ok (.alreadyExists d.id)), [.audit (.verdictPropagated d source)])
  | .error e =>
    (.settled (if e.isAlreadyExists then .ok (.alreadyExists d.id) else .error (.metadata e)), [])

def afterCreate (d : Document) (size : Nat) : Except MetadataError Unit → Upload × Trace
  | .ok () => (.settled (.ok (.created d.id)), [.audit (.documentCreated d size)])
  | .error e =>
    if e.isAlreadyExists then (.inspect d.id, [.notice (.concurrentUpload d.id)])
    else (.discard d.id (.error (.metadata e)), [])

/-- What follows from the look at the record of another upload. One that cannot be read counts as
pending. -/
def afterInspect (id : DocumentId) : Except MetadataError Document → Upload × Trace
  | .ok d =>
    (if d.isPending then .settled (.ok (.alreadyExists id))
      else .discard id (.ok (.alreadyExists id)), [])
  | .error e => (.settled (.ok (.alreadyExists id)), [.notice (.winnerUnreadable id e)])

def afterDiscard (id : DocumentId) : Except StorageError Unit → Trace
  | .ok () => []
  | .error e => if e.isNotFound then [] else [.notice (.orphanKept id e)]

variable {σ : Type} [PayloadStore σ]

/-- Makes the next call. The trace does not hold the call itself. -/
def step (m : Moment) (s : Stores σ) : Upload → Option (Upload × Stores σ × Trace)
  | .lookup identity content tag =>
    some (afterLookup identity content tag (s.findRecord m identity.hash), s, [])
  | .inherit identity tag source =>
    let d := Document.inheriting identity.id tag source m.now
    let saved := s.saveRecord m d
    let next := afterInherit d source.id saved.1
    some (next.1, saved.2, next.2)
  | .keep identity content tag =>
    let saved := s.savePayload m identity.id (.ofBytes content) identity.size
    match saved.1 with
    | .ok () => some (.create identity tag, saved.2, [])
    | .error e => some (.settled (.error (.storage e)), saved.2, [])
  | .create identity tag =>
    let d := Document.fresh identity.id identity.hash tag m.now
    let saved := s.saveRecord m d
    let next := afterCreate d identity.size saved.1
    some (next.1, saved.2, next.2)
  | .inspect id =>
    let next := afterInspect id (s.getRecord m id)
    some (next.1, s, next.2)
  | .discard id result =>
    let deleted := s.deletePayload m id
    some (.settled result, deleted.2, afterDiscard id deleted.1)
  | .settled _ | .dropped => none

end Upload

end Quarantine
