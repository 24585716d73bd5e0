import Quarantine.Document.Identity
import Quarantine.Document.Verdict
import Quarantine.Time.Timestamp

/-!
Documents: the records of uploads and of what became of them.
-/

namespace Quarantine

/-- The record of an upload. -/
structure Document where
  id : DocumentId
  hash : String
  tag : String
  status : Status
  analyzedAt : Option Instant
  createdAt : Instant
  deriving DecidableEq, Repr, Inhabited

namespace Document

/-- The record of a content that no engine has judged yet. -/
def fresh (id : DocumentId) (hash tag : String) (now : Instant) : Document :=
  ⟨id, hash, tag, .pending, none, now⟩

/-- A new record that takes over the hash and the verdict of another. -/
def inheriting (id : DocumentId) (tag : String) (source : Document) (now : Instant) : Document :=
  ⟨id, source.hash, tag, source.status, source.analyzedAt, now⟩

def isPending (d : Document) : Bool :=
  d.status.isPending

/-- Whether the record is old enough to be removed: it has a verdict, and it was created before the
cutoff. -/
def isPurgeable (d : Document) (cutoff : Instant) : Bool :=
  !d.isPending && d.createdAt.before cutoff

end Document

namespace Instant

def toJson (t : Instant) : Json :=
  .text (Timestamp.write .fewest t)

def reader : Json.Reader Instant := do
  Json.Reader.required (Timestamp.read (← Json.Reader.text))

end Instant

namespace Document

def toJson (d : Document) : Json :=
  .object
    [("id", .text d.id.text), ("hash", .text d.hash), ("tag", .text d.tag),
      ("status", d.status.toJson),
      ("analyzed_at", match d.analyzedAt with
        | some t => t.toJson
        | none => .null),
      ("created_at", d.createdAt.toJson)]

structure Partial where
  id : Option String := none
  hash : Option String := none
  tag : Option String := none
  status : Option Status := none
  analyzedAt : Option (Option Instant) := none
  createdAt : Option Instant := none

def fields : List (Json.Reader.Field Partial) :=
  [⟨"id", (·.id.isSome), fun p => return { p with id := some (← Json.Reader.text) }⟩,
    ⟨"hash", (·.hash.isSome), fun p => return { p with hash := some (← Json.Reader.text) }⟩,
    ⟨"tag", (·.tag.isSome), fun p => return { p with tag := some (← Json.Reader.text) }⟩,
    ⟨"status", (·.status.isSome), fun p => return { p with status := some (← Status.reader) }⟩,
    ⟨"analyzed_at", (·.analyzedAt.isSome),
      fun p => return { p with analyzedAt := some (← Json.Reader.option Instant.reader) }⟩,
    ⟨"created_at", (·.createdAt.isSome),
      fun p => return { p with createdAt := some (← Instant.reader) }⟩]

/-- Only the time of the verdict may be missing. -/
def reader : Json.Reader Document := do
  let p ← Json.Reader.record fields {}
  return ⟨⟨← Json.Reader.required p.id⟩, ← Json.Reader.required p.hash,
    ← Json.Reader.required p.tag, ← Json.Reader.required p.status, p.analyzedAt.getD none,
    ← Json.Reader.required p.createdAt⟩

end Document

end Quarantine
