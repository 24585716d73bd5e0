import Quarantine.Source.Basic
import Quarantine.Text.Utf8

/-!
How a content is sent to a scanning daemon: after the command in frames, each with its length in
four bytes, and a length of zero at the end. `Heard.ofBytes` is what the daemon makes of it.
-/

namespace Quarantine.Clamd

def streamCommand : Bytes :=
  Text.utf8 "zINSTREAM\x00"

def pingCommand : Bytes :=
  Text.utf8 "zPING\x00"

/-- The most content bytes in a frame. -/
def frameSize : Nat := 2048

/-- A number below 2^32 in four bytes, the highest first. -/
def lengthBytes (n : Nat) : Bytes :=
  [UInt8.ofNat (n / 256 / 256 / 256), UInt8.ofNat (n / 256 / 256), UInt8.ofNat (n / 256),
    UInt8.ofNat n]

def lengthValue (a b c d : UInt8) : Nat :=
  ((a.toNat * 256 + b.toNat) * 256 + c.toNat) * 256 + d.toNat

def frame (chunk : Bytes) : Bytes :=
  lengthBytes chunk.length ++ chunk

/-- What is sent, and the failure of the source that cut it short. -/
structure Sent where
  bytes : Bytes
  failure : Option IoError
  deriving DecidableEq, Repr

/-- Sends what a source gives, a frame for each read. The end is marked only if the source has come
to its own. -/
def send (source : Source) : Sent :=
  let drained := source.drain frameSize
  let frames := streamCommand ++ drained.chunks.flatMap frame
  match drained.failure with
  | some e => ⟨frames, some e⟩
  | none => ⟨frames ++ lengthBytes 0, none⟩

/-- What a daemon has heard of a client. -/
structure Heard where
  /-- The command with its closing zero byte, if all of it came. -/
  command : Option Bytes
  frames : List Bytes
  terminated : Bool
  deriving DecidableEq, Repr

namespace Heard

/-- The frames of some bytes up to the marked end, and whether there was one. -/
def framesOf : Bytes → List Bytes × Bool
  | a :: b :: c :: d :: rest =>
    if lengthValue a b c d = 0 then ([], true)
    else if (rest.take (lengthValue a b c d)).length < lengthValue a b c d then ([], false)
    else
      let later := framesOf (rest.drop (lengthValue a b c d))
      (rest.take (lengthValue a b c d) :: later.1, later.2)
  | _ => ([], false)
termination_by bytes => bytes.length
decreasing_by simp only [List.length_drop, List.length_cons]; omega

def ofBytes (bytes : Bytes) : Heard :=
  let word := bytes.takeWhile (· ≠ 0)
  match bytes.drop word.length with
  | [] => ⟨none, [], false⟩
  | zero :: rest =>
    let frames := framesOf rest
    ⟨some (word ++ [zero]), frames.1, frames.2⟩

def payload (h : Heard) : Bytes :=
  h.frames.flatten

end Heard

end Quarantine.Clamd
