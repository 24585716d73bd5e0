import Quarantine.Document.Identity
import Quarantine.Proofs.Digest.Progress
import Quarantine.Proofs.Text.Written

/-!
The identity that is computed while a content arrives is that of the whole content. Equal hashes and
equal ids come from equal digests; the digests themselves may still collide. What is written of a
digest passes the checks for hashes and for ids. Valid ids are the written forms of digests of 16
bytes. Each digest has one of its own, and nothing else is valid: no text that is padded, shorter or
longer, has a foreign character, or leaves bits over that are not zero.
-/

namespace Quarantine.DocumentId

theorem isValidText_iff (s : String) :
    isValidText s = true ↔
      ∃ digest : Bytes, digest.length = 16 ∧ s = String.ofList (Text.Base64Url.encode digest) := by
  constructor
  · intro valid
    unfold isValidText at valid
    split at valid
    · next digest read =>
        refine ⟨digest, of_decide_eq_true valid, ?_⟩
        rw [Text.Base64Url.encode_decode read, String.ofList_toList]
    · cases valid
  · rintro ⟨digest, size, rfl⟩
    simp only [isValidText, String.toList_ofList, Text.Base64Url.decode_encode, size, decide_true]

-- The last of 22 symbols stands for the last two bits of a digest, and the other four are zero.
example : isValidText "ITSzxj1mqz1gwFZ4iendeQ" = true ∧
    isValidText "ITSzxj1mqz1gwFZ4iendeR" = false := by
  decide

theorem digest_unique {s : String} {a b : Bytes}
    (writes_a : s = String.ofList (Text.Base64Url.encode a))
    (writes_b : s = String.ofList (Text.Base64Url.encode b)) : a = b :=
  Text.Base64Url.encode_injective (String.ofList_injective (writes_a.symm.trans writes_b))

section Valid

variable {id : DocumentId} (valid : id.isValid = true)
include valid

theorem exists_symbol_of_isValid {c : Char} (written : c ∈ id.text.toList) :
    ∃ n < 64, c = Text.Base64Url.symbol n := by
  obtain ⟨digest, -, text⟩ := (isValidText_iff id.text).mp valid
  rw [text, String.toList_ofList] at written
  exact Text.Base64Url.exists_symbol_of_mem_encode written

theorem length_of_isValid : id.text.toList.length = 22 := by
  obtain ⟨digest, size, text⟩ := (isValidText_iff id.text).mp valid
  rw [text, String.toList_ofList, Text.Base64Url.length_encode, size]

end Valid

end Quarantine.DocumentId

namespace Quarantine.Identity

namespace Hasher

/-- What has been taken in is exactly this content. -/
def Holds (h : Hasher) (content : Bytes) : Prop :=
  h.content.Holds Digest.sha256 content ∧ h.tagged.Holds Digest.md5 content ∧
    h.counted = content.length

theorem holds_empty : empty.Holds [] :=
  ⟨Digest.Progress.holds_empty, Digest.Progress.holds_empty, rfl⟩

theorem Holds.absorb {h : Hasher} {content : Bytes} (taken : h.Holds content) (chunk : Bytes) :
    (h.absorb chunk).Holds (content ++ chunk) := by
  obtain ⟨hash, id, counted⟩ := taken
  refine ⟨hash.absorb chunk, id.absorb chunk, ?_⟩
  rw [List.length_append, ← counted]
  rfl

theorem Holds.foldl {h : Hasher} {content : Bytes} (taken : h.Holds content)
    (chunks : List Bytes) : (chunks.foldl Hasher.absorb h).Holds (content ++ chunks.flatten) := by
  induction chunks generalizing h content with
  | nil => simpa using taken
  | cons chunk chunks ih => simpa [List.append_assoc] using ih (taken.absorb chunk)

/-- The tag joins the content in the id only. -/
theorem Holds.finish {h : Hasher} {content : Bytes} (taken : h.Holds content) (tag : String) :
    h.finish tag = derive content tag := by
  obtain ⟨hash, id, counted⟩ := taken
  simp only [Hasher.finish, derive, contentHash, contentId, hash.finish,
    (id.absorb (Text.utf8 tag)).finish, counted]

end Hasher

theorem finish_foldl_absorb (chunks : List Bytes) (tag : String) :
    (chunks.foldl Hasher.absorb .empty).finish tag = derive chunks.flatten tag :=
  (Hasher.holds_empty.foldl chunks).finish tag

theorem digest_eq_of_contentHash_eq {a b : Bytes} (same : contentHash a = contentHash b) :
    Digest.sha256.digest a = Digest.sha256.digest b :=
  Text.hex_injective same

theorem digest_eq_of_contentId_eq {a b : Bytes} {s t : String}
    (same : contentId a s = contentId b t) :
    Digest.md5.digest (a ++ Text.utf8 s) = Digest.md5.digest (b ++ Text.utf8 t) := by
  have texts := congrArg DocumentId.text same
  exact Text.Base64Url.encode_injective (String.ofList_injective texts)

theorem length_sha256 (message : Bytes) : (Digest.sha256.digest message).length = 32 :=
  rfl

theorem length_md5 (message : Bytes) : (Digest.md5.digest message).length = 16 :=
  rfl

theorem isValidHash_contentHash (content : Bytes) : isValidHash (contentHash content) = true := by
  simp only [isValidHash, contentHash, Text.hex, String.toList_ofList, Text.length_hexChars,
    length_sha256, Bool.and_eq_true, List.all_eq_true]
  exact ⟨rfl, Text.hexValue_of_mem_hexChars⟩

theorem isValid_contentId (content : Bytes) (tag : String) : (contentId content tag).isValid = true := by
  simp only [DocumentId.isValid, DocumentId.isValidText, contentId, String.toList_ofList,
    Text.Base64Url.decode_encode, length_md5, decide_true]

end Quarantine.Identity
