import Quarantine.Document.Basic
import Quarantine.Error

/-!
The store of records. A record is found by its id or by the hash of its content; its status is
written once; purging removes the records that have a verdict and are old enough.
-/

namespace Quarantine

/-- Records in memory, at most one under each id, and whether they can be reached. -/
structure Records where
  documents : List Document
  online : Bool
  deriving DecidableEq, Repr

namespace Records

def empty : Records :=
  ⟨[], true⟩

instance : Inhabited Records :=
  ⟨empty⟩

def offline : MetadataError :=
  .unavailable "in-memory metadata store is offline"

def document? (id : DocumentId) (r : Records) : Option Document :=
  r.documents.find? fun d => d.id = id

/-- Whether record `d` tells less than record `e` of the same content: a verdict counts more than
its lack, then the later one counts more. -/
def outranked (d e : Document) : Bool :=
  if d.isPending = e.isPending then d.createdAt.before e.createdAt
  else d.isPending && !e.isPending

/-- The record that tells most among some. Of two that tell as much it is the later in the list. -/
def best : List Document → Option Document
  | [] => none
  | d :: rest =>
    match best rest with
    | none => some d
    | some e => if outranked e d then some d else some e

def informative? (hash : String) (r : Records) : Option Document :=
  best (r.documents.filter fun d => d.hash = hash)

def save (d : Document) (r : Records) : Except MetadataError Unit × Records :=
  if r.online then
    if (r.document? d.id).isSome then (.error (.alreadyExists d.id.text), r)
    else (.ok (), { r with documents := d :: r.documents })
  else (.error offline, r)

def get (id : DocumentId) (r : Records) : Except MetadataError Document :=
  if r.online then
    match r.document? id with
    | some d => .ok d
    | none => .error (.notFound id.text)
  else .error offline

def getByHash (hash : String) (r : Records) : Except MetadataError Document :=
  if r.online then
    match r.informative? hash with
    | some d => .ok d
    | none => .error (.notFound hash)
  else .error offline

def update (id : DocumentId) (status : Status) (time : Instant) (r : Records) :
    Except MetadataError Unit × Records :=
  if r.online then
    match r.document? id with
    | none => (.error (.notFound id.text), r)
    | some d =>
      if d.isPending then
        (.ok (), { r with documents := r.documents.map fun e =>
          if e.id = id then { e with status := status, analyzedAt := some time } else e })
      else (.error (.alreadyAnalyzed id.text), r)
  else (.error offline, r)

def delete (id : DocumentId) (r : Records) : Except MetadataError Unit × Records :=
  if r.online then
    if (r.document? id).isSome then
      (.ok (), { r with documents := r.documents.filter fun d => d.id ≠ id })
    else (.error (.notFound id.text), r)
  else (.error offline, r)

/-- Removes the records with a verdict that were created before the cutoff, and tells how many. -/
def purge (cutoff : Instant) (r : Records) : Except MetadataError Nat × Records :=
  if r.online then
    (.ok (r.documents.countP fun d => d.isPurgeable cutoff),
      { r with documents := r.documents.filter fun d => !d.isPurgeable cutoff })
  else (.error offline, r)

def ping (r : Records) : Except MetadataError Unit :=
  if r.online then .ok () else .error offline

end Records

end Quarantine
