import Quarantine.Digest.Md5
import Quarantine.Digest.Sha256
import Quarantine.Text.Utf8
import Quarantine.Text.Written

/-!
Identities. The hash of a document depends on its content alone and finds identical content; its id
depends on the content followed by the tag. Both digests are taken in one pass over the content. A
valid id writes a digest of 16 bytes, so it has no character that means anything in a path.
-/

namespace Quarantine

/-- The name of a document, and of its bytes while it is pending. -/
structure DocumentId where
  text : String
  deriving DecidableEq, Repr, Inhabited

namespace DocumentId

/-- Whether a text writes a digest of 16 bytes. -/
def isValidText (s : String) : Bool :=
  match Text.Base64Url.decode s.toList with
  | some bytes => bytes.length = 16
  | none => false

def isValid (id : DocumentId) : Bool :=
  isValidText id.text

end DocumentId

/-- What a content and a tag amount to. -/
structure Identity where
  hash : String
  id : DocumentId
  size : Nat
  deriving DecidableEq, Repr, Inhabited

namespace Identity

def hashAlgorithm : String := "SHA-256"

/-- Whether a text writes a digest of 32 bytes in hexadecimal of either case. -/
def isValidHash (s : String) : Bool :=
  s.toList.length = 64 && s.toList.all fun c => (Text.hexValue c).isSome

def contentHash (content : Bytes) : String :=
  Text.hex (Digest.sha256.digest content)

def contentId (content : Bytes) (tag : String) : DocumentId :=
  ⟨String.ofList (Text.Base64Url.encode (Digest.md5.digest (content ++ Text.utf8 tag)))⟩

/-- The identity of a content under a tag, which is taken as it is. -/
def derive (content : Bytes) (tag : String) : Identity :=
  ⟨contentHash content, contentId content tag, content.length⟩

/-- Both digests of a content that is still arriving. -/
structure Hasher where
  content : Digest.Progress Digest.Sha256.State
  tagged : Digest.Progress Digest.Md5.State
  counted : Nat

namespace Hasher

def empty : Hasher :=
  ⟨.empty Digest.sha256, .empty Digest.md5, 0⟩

def absorb (h : Hasher) (chunk : Bytes) : Hasher :=
  ⟨h.content.absorb Digest.sha256 chunk, h.tagged.absorb Digest.md5 chunk,
    h.counted + chunk.length⟩

/-- Takes in pieces one after another, and tells how many bytes were taken in after each. -/
def absorbAll : List Bytes → Hasher → List Nat × Hasher
  | [], h => ([], h)
  | chunk :: rest, h =>
    let next := h.absorb chunk
    let later := next.absorbAll rest
    (next.counted :: later.1, later.2)

/-- The identity of the bytes taken in. The tag goes into the id only. -/
def finish (h : Hasher) (tag : String) : Identity :=
  ⟨Text.hex (h.content.finish Digest.sha256),
    ⟨String.ofList (Text.Base64Url.encode
      ((h.tagged.absorb Digest.md5 (Text.utf8 tag)).finish Digest.md5))⟩,
    h.counted⟩

end Hasher

end Identity

end Quarantine
