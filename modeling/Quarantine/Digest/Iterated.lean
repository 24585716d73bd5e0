import Quarantine.Text.Written

/-!
Hashes that work through a message in blocks of 64 bytes. The message is closed by a byte 0x80,
zeros and its length in bits, and the blocks are compressed into a state one after another.

`Iterated.digest` takes the whole message; `Progress` takes it piece by piece.
-/

namespace Quarantine.Digest

/-- What distinguishes one block hash from another. -/
structure Iterated (State : Type) where
  start : State
  compress : State → Bytes → State
  /-- A length in bits as eight bytes. -/
  lengthField : Nat → Bytes
  output : State → Bytes

namespace Iterated

variable {State : Type}

/-- What closes a message of `length` bytes, so that the whole fills its last block. -/
def padding (h : Iterated State) (length : Nat) : Bytes :=
  0x80 :: List.replicate ((119 - length % 64) % 64) 0 ++ h.lengthField (8 * length)

def blocks (message : Bytes) : List Bytes :=
  if _whole : (message.take 64).length = 64 then
    message.take 64 :: blocks (message.drop 64)
  else []
termination_by message.length
decreasing_by simp only [List.length_take, List.length_drop] at *; omega

def digest (h : Iterated State) (message : Bytes) : Bytes :=
  h.output ((blocks (message ++ h.padding message.length)).foldl h.compress h.start)

/-- Compresses the whole blocks of `data` into a state and returns what is left over. -/
def feed (h : Iterated State) (state : State) (data : Bytes) : State × Bytes :=
  if _whole : (data.take 64).length = 64 then
    h.feed (h.compress state (data.take 64)) (data.drop 64)
  else (state, data)
termination_by data.length
decreasing_by simp only [List.length_take, List.length_drop] at *; omega

end Iterated

/-- A message that is still being taken in: the state after its whole blocks, the bytes of the
block that has begun, and the number of all bytes so far. -/
structure Progress (State : Type) where
  state : State
  pending : Bytes
  length : Nat

namespace Progress

variable {State : Type}

def empty (h : Iterated State) : Progress State :=
  ⟨h.start, [], 0⟩

def absorb (h : Iterated State) (p : Progress State) (data : Bytes) : Progress State :=
  let fed := h.feed p.state (p.pending ++ data)
  ⟨fed.1, fed.2, p.length + data.length⟩

def finish (h : Iterated State) (p : Progress State) : Bytes :=
  h.output (h.feed p.state (p.pending ++ h.padding p.length)).1

end Progress

end Quarantine.Digest
