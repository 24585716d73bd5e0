import Quarantine.Document.Basic

/-!
Documents as callers see them: every field is a text, and times are given in whole seconds.
-/

namespace Quarantine

structure View where
  id : String
  hash : String
  hashAlgorithm : String
  tag : String
  status : String
  analyzedAt : Option String
  createdAt : String
  deriving DecidableEq, Repr, Inhabited

namespace View

/-- The time of the verdict is shown once there is a verdict. -/
def ofDocument (d : Document) : View :=
  ⟨d.id.text, d.hash, Identity.hashAlgorithm, d.tag, d.status.name,
    if d.isPending then none else d.analyzedAt.map (Timestamp.write .seconds),
    Timestamp.write .seconds d.createdAt⟩

def toJson (v : View) : Json :=
  .object
    ([("id", .text v.id), ("hash", .text v.hash), ("hash_algo", .text v.hashAlgorithm),
        ("tag", .text v.tag), ("analyse_status", .text v.status)] ++
      (match v.analyzedAt with
        | some t => [("analyzed_at", .text t)]
        | none => []) ++
      [("created_at", .text v.createdAt)])

structure Partial where
  id : Option String := none
  hash : Option String := none
  hashAlgorithm : Option String := none
  tag : Option String := none
  status : Option String := none
  analyzedAt : Option (Option String) := none
  createdAt : Option String := none

def fields : List (Json.Reader.Field Partial) :=
  [⟨"id", (·.id.isSome), fun p => return { p with id := some (← Json.Reader.text) }⟩,
    ⟨"hash", (·.hash.isSome), fun p => return { p with hash := some (← Json.Reader.text) }⟩,
    ⟨"hash_algo", (·.hashAlgorithm.isSome),
      fun p => return { p with hashAlgorithm := some (← Json.Reader.text) }⟩,
    ⟨"tag", (·.tag.isSome), fun p => return { p with tag := some (← Json.Reader.text) }⟩,
    ⟨"analyse_status", (·.status.isSome),
      fun p => return { p with status := some (← Json.Reader.text) }⟩,
    ⟨"analyzed_at", (·.analyzedAt.isSome),
      fun p => return { p with analyzedAt := some (← Json.Reader.option Json.Reader.text) }⟩,
    ⟨"created_at", (·.createdAt.isSome),
      fun p => return { p with createdAt := some (← Json.Reader.text) }⟩]

def reader : Json.Reader View := do
  let p ← Json.Reader.record fields {}
  return ⟨← Json.Reader.required p.id, ← Json.Reader.required p.hash,
    ← Json.Reader.required p.hashAlgorithm, ← Json.Reader.required p.tag,
    ← Json.Reader.required p.status, p.analyzedAt.getD none, ← Json.Reader.required p.createdAt⟩

end View

end Quarantine
