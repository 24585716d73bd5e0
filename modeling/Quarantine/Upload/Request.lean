import Quarantine.Document.Identity
import Quarantine.Source.Basic
import Quarantine.Text.Classes
import Quarantine.Text.Quoted

/-!
Uploads as callers hand them in, and what they come to.
-/

namespace Quarantine

structure Request where
  source : Source
  /-- How many bytes the caller announces. No more are taken. -/
  declared : Nat
  tag : Option String
  filename : Option String
  deriving DecidableEq, Repr, Inhabited

namespace Request

def ofBytes (bytes : Bytes) : Request :=
  ⟨.ofBytes bytes, bytes.length, none, none⟩

/-- The tag without white space around it or, if nothing is left of it, the file name as it is. -/
def effectiveTag (r : Request) : String :=
  match r.tag.map fun tag => Text.trim tag.toList with
  | some (c :: cs) => String.ofList (c :: cs)
  | _ => r.filename.getD ""

def text (r : Request) : String :=
  "UploadRequest \x7b declared_size: " ++ toString r.declared ++ ", tag: " ++
    Text.quotedOption r.tag ++ ", filename: " ++ Text.quotedOption r.filename ++ ", .. \x7d"

end Request

inductive Outcome
  /-- A new record, whose content is going to be scanned. -/
  | created (id : DocumentId)
  /-- A record that was known, or one that took over a known verdict. -/
  | alreadyExists (id : DocumentId)
  deriving DecidableEq, Repr, Inhabited

namespace Outcome

def id : Outcome → DocumentId
  | .created id | .alreadyExists id => id

def isCreated : Outcome → Bool
  | .created _ => true
  | .alreadyExists _ => false

def text : Outcome → String
  | .created id => "Created(DocumentId(" ++ Text.quoted id.text ++ "))"
  | .alreadyExists id => "AlreadyExists(DocumentId(" ++ Text.quoted id.text ++ "))"

end Outcome

end Quarantine
