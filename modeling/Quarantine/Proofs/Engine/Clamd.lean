import Quarantine.Engine.Clamd.Session
import Quarantine.Proofs.Source.Drain

/-!
What a scanning daemon hears of a content. However the source splits it into reads, the frames carry
its bytes in order, none of them empty, so that the only length of zero is the one that marks the
end; and a source that breaks leaves the end unmarked. Connections that fail a write are not
covered: a client's connection takes what is sent.
-/

namespace Quarantine.Clamd

theorem lengthValue_lengthBytes {n : Nat} (small : n < 256 * 256 * 256 * 256) :
    lengthValue (UInt8.ofNat (n / 256 / 256 / 256)) (UInt8.ofNat (n / 256 / 256))
      (UInt8.ofNat (n / 256)) (UInt8.ofNat n) = n := by
  simp only [lengthValue, UInt8.toNat_ofNat']
  omega

namespace Heard

theorem framesOf_end (rest : Bytes) : framesOf (lengthBytes 0 ++ rest) = ([], true) := by
  simp [lengthBytes, framesOf, lengthValue]

theorem framesOf_frame {chunk : Bytes} (some_bytes : 0 < chunk.length)
    (small : chunk.length < 256 * 256 * 256 * 256) (rest : Bytes) :
    framesOf (frame chunk ++ rest) = (chunk :: (framesOf rest).1, (framesOf rest).2) := by
  rw [frame, lengthBytes, List.append_assoc, List.cons_append, List.cons_append, List.cons_append,
    List.cons_append, List.nil_append, framesOf, lengthValue_lengthBytes small,
    if_neg (Nat.ne_of_gt some_bytes)]
  simp

theorem framesOf_frames (chunks : List Bytes)
    (sizes : ∀ chunk ∈ chunks, 0 < chunk.length ∧ chunk.length ≤ frameSize) (rest : Bytes) :
    framesOf (chunks.flatMap frame ++ rest) =
      (chunks ++ (framesOf rest).1, (framesOf rest).2) := by
  induction chunks with
  | nil => rfl
  | cons chunk chunks ih =>
      obtain ⟨some_bytes, fits⟩ := sizes chunk List.mem_cons_self
      have small : chunk.length < 256 * 256 * 256 * 256 :=
        Nat.lt_of_le_of_lt fits (by decide)
      rw [List.flatMap_cons, List.append_assoc, framesOf_frame some_bytes small,
        ih fun chunk member => sizes chunk (List.mem_cons_of_mem _ member)]
      rfl

theorem ofBytes_streamCommand (rest : Bytes) :
    ofBytes (streamCommand ++ rest) =
      ⟨some streamCommand, (framesOf rest).1, (framesOf rest).2⟩ := by
  have word : streamCommand = [122, 73, 78, 83, 84, 82, 69, 65, 77, 0] := by decide
  simp [word, ofBytes]

/-- Frames of a proper size are told apart, and told from the end. -/
theorem ofBytes_frames (chunks : List Bytes)
    (sizes : ∀ chunk ∈ chunks, 0 < chunk.length ∧ chunk.length ≤ frameSize) :
    ofBytes (streamCommand ++ chunks.flatMap frame ++ lengthBytes 0) =
        ⟨some streamCommand, chunks, true⟩ ∧
      ofBytes (streamCommand ++ chunks.flatMap frame) = ⟨some streamCommand, chunks, false⟩ := by
  constructor
  · rw [List.append_assoc, ofBytes_streamCommand, framesOf_frames chunks sizes,
      ← List.append_nil (lengthBytes 0), framesOf_end, List.append_nil]
  · rw [ofBytes_streamCommand, ← List.append_nil (chunks.flatMap frame),
      framesOf_frames chunks sizes, framesOf, List.append_nil]
    · intro a b c d rest more
      cases more

end Heard

theorem send_flowing (source : Source) (flowing : Limited.Flowing ⟨source, none⟩) :
    ∃ chunks : List Bytes,
      (∀ chunk ∈ chunks, 0 < chunk.length ∧ chunk.length ≤ frameSize) ∧
      chunks.flatten = source.bytes ∧
      send source = match source.failure with
        | some e => ⟨streamCommand ++ chunks.flatMap frame, some e⟩
        | none => ⟨streamCommand ++ chunks.flatMap frame ++ lengthBytes 0, none⟩ := by
  have pos : 0 < frameSize := by decide
  obtain ⟨-, -, sizes⟩ := Limited.drain_parts pos ⟨source, none⟩
  obtain ⟨taken, failed⟩ := Limited.drain_flowing pos ⟨source, none⟩ flowing
  refine ⟨(source.drain frameSize).chunks, sizes, taken, ?_⟩
  have failed : (source.drain frameSize).failure = source.failure := failed
  cases broken : source.failure <;> simp only [send, failed, broken]

/-- What is sent of a content is the command, frames of 1 to 2048 bytes that make up the content,
and one length of zero, which the daemon decodes to just these frames; only then is a reply read. Of
a source that breaks it is the command and whole frames with the bytes up to there, which the daemon
cannot take for a whole content, and whatever the daemon would reply, the result is the failure. -/
theorem analyze_frames (c : Client) (peer : Peer) (connection source : Source)
    (reached : connect c peer = .ok connection) (flowing : Limited.Flowing ⟨source, none⟩) :
    ∃ chunks : List Bytes,
      (∀ chunk ∈ chunks, 1 ≤ chunk.length ∧ chunk.length ≤ 2048) ∧
      chunks.flatten = source.bytes ∧
      match source.failure with
      | none =>
        (analyze c peer source).sent =
            some (streamCommand ++ chunks.flatMap frame ++ lengthBytes 0) ∧
          Heard.ofBytes (streamCommand ++ chunks.flatMap frame ++ lengthBytes 0) =
            ⟨some streamCommand, chunks, true⟩ ∧
          (analyze c peer source).result = readReply connection >>= interpret
      | some e =>
        (analyze c peer source).sent = some (streamCommand ++ chunks.flatMap frame) ∧
          Heard.ofBytes (streamCommand ++ chunks.flatMap frame) =
            ⟨some streamCommand, chunks, false⟩ ∧
          (analyze c peer source).result = .error (.io e) := by
  obtain ⟨chunks, sizes, whole, sent⟩ := send_flowing source flowing
  obtain ⟨ended, open_end⟩ := Heard.ofBytes_frames chunks sizes
  refine ⟨chunks, sizes, whole, ?_⟩
  cases failed : source.failure with
  | none =>
      rw [failed] at sent
      exact ⟨by simp [analyze, reached, sent], ended, by simp [analyze, reached, sent]⟩
  | some e =>
      rw [failed] at sent
      exact ⟨by simp [analyze, reached, sent], open_end, by simp [analyze, reached, sent]⟩

/-- A content that fills a frame and goes on, and one whose source breaks after its second read. -/
theorem analyze_frames_of_split :
    (∃ chunks : List Bytes, chunks.flatten = List.replicate 2049 65 ∧
      (analyze .standard (.listening (.ofBytes (Text.utf8 "stream: OK\x00")))
        ⟨List.replicate 2049 65, [2048], none⟩).sent =
        some (streamCommand ++ chunks.flatMap frame ++ lengthBytes 0)) ∧
    (analyze .standard (.listening (.ofBytes (Text.utf8 "stream: OK\x00")))
        ⟨[1, 2, 3], [1, 2], some ⟨"reset"⟩⟩).result = .error (.io ⟨"reset"⟩) := by
  constructor
  · obtain ⟨chunks, -, whole, sent, -⟩ := analyze_frames .standard
      (.listening (.ofBytes (Text.utf8 "stream: OK\x00"))) _ ⟨List.replicate 2049 65, [2048], none⟩
      rfl (by decide +kernel)
    exact ⟨chunks, whole, sent⟩
  · obtain ⟨chunks, -, -, -, -, failed⟩ := analyze_frames .standard
      (.listening (.ofBytes (Text.utf8 "stream: OK\x00"))) _ ⟨[1, 2, 3], [1, 2], some ⟨"reset"⟩⟩
      rfl (by decide)
    exact failed

end Quarantine.Clamd
