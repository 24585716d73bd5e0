import Quarantine.Text.Written

/-!
Sources of bytes. A source hands out its bytes in reads of its own pace and then either ends or
breaks; nothing that it has handed out comes again.
-/

namespace Quarantine

/-- A failed input or output, known by its text. -/
structure IoError where
  text : String
  deriving DecidableEq, Repr, Inhabited

structure Source where
  bytes : Bytes
  /-- The most that each of the next reads gives; later reads give as much as they are asked for. -/
  pacing : List Nat
  /-- What the reads after the last byte fail with, if they fail. -/
  failure : Option IoError
  deriving DecidableEq, Repr, Inhabited

namespace Source

/-- A source that gives as much as it is asked for and ends normally. -/
def ofBytes (bytes : Bytes) : Source :=
  ⟨bytes, [], none⟩

def broken (e : IoError) : Source :=
  ⟨[], [], some e⟩

def allowance (s : Source) (n : Nat) : Nat :=
  match s.pacing with
  | [] => n
  | most :: _ => min n most

/-- One read of at most `n` bytes. No bytes mean the end, unless none were asked for. A source whose
bytes are spent fails even a read that asks for none, if it is a broken one. -/
def read (s : Source) (n : Nat) : Except IoError (Bytes × Source) :=
  if s.bytes.isEmpty then
    match s.failure with
    | some e => .error e
    | none => .ok ([], s)
  else if s.allowance n = 0 then .ok ([], s)
  else
    .ok (s.bytes.take (s.allowance n),
      { s with bytes := s.bytes.drop (s.allowance n), pacing := s.pacing.tail })

theorem read_ok_lt {s rest : Source} {n : Nat} {got : Bytes} (h : s.read n = .ok (got, rest))
    (more : got ≠ []) : rest.bytes.length < s.bytes.length := by
  unfold read at h
  split at h
  · split at h
    · simp at h
    · simp only [Except.ok.injEq, Prod.mk.injEq] at h
      exact absurd h.1.symm more
  · split at h
    · simp only [Except.ok.injEq, Prod.mk.injEq] at h
      exact absurd h.1.symm more
    · rename_i some_left some_given
      simp only [Except.ok.injEq, Prod.mk.injEq] at h
      have pos : 0 < s.bytes.length := by
        cases hb : s.bytes with
        | nil => simp [hb] at some_left
        | cons b bs => simp
      rw [← h.2]
      simp only [List.length_drop]
      omega

end Source

structure Limited where
  source : Source
  left : Option Nat
  deriving DecidableEq, Repr, Inhabited

namespace Limited

/-- One read of at most `n` bytes. A limit that is used up counts as the end, and the source is then
not asked any more. -/
def read (l : Limited) (n : Nat) : Except IoError (Bytes × Limited) :=
  match l.left with
  | some 0 => .ok ([], l)
  | some left =>
    match l.source.read (min n left) with
    | .error e => .error e
    | .ok (got, rest) => .ok (got, ⟨rest, some (left - got.length)⟩)
  | none =>
    match l.source.read n with
    | .error e => .error e
    | .ok (got, rest) => .ok (got, ⟨rest, none⟩)

theorem read_ok_lt {l rest : Limited} {n : Nat} {got : Bytes} (h : l.read n = .ok (got, rest))
    (more : got ≠ []) : rest.source.bytes.length < l.source.bytes.length := by
  unfold read at h
  split at h
  · simp only [Except.ok.injEq, Prod.mk.injEq] at h
    exact absurd h.1.symm more
  · split at h
    · simp at h
    · rename_i he
      simp only [Except.ok.injEq, Prod.mk.injEq] at h
      rw [← h.2]
      exact Source.read_ok_lt he (h.1 ▸ more)
  · split at h
    · simp at h
    · rename_i he
      simp only [Except.ok.injEq, Prod.mk.injEq] at h
      rw [← h.2]
      exact Source.read_ok_lt he (h.1 ▸ more)

structure Drained where
  chunks : List Bytes
  rest : Limited
  failure : Option IoError

/-- Reads with a buffer of `size` bytes until a read gives nothing or fails. -/
def drainFrom (size : Nat) (l : Limited) (chunks : List Bytes) : Drained :=
  match _given : l.read size with
  | .error e => ⟨chunks.reverse, l, some e⟩
  | .ok (got, rest) =>
    if _end : got = [] then ⟨chunks.reverse, rest, none⟩
    else drainFrom size rest (got :: chunks)
termination_by l.source.bytes.length
decreasing_by exact read_ok_lt _given _end

def drain (size : Nat) (l : Limited) : Drained :=
  drainFrom size l []

/-- All bytes that may be taken, or the failure that kept the reading from its end. -/
def readAll (l : Limited) : Except IoError Bytes :=
  let drained := l.drain 8192
  match drained.failure with
  | some e => .error e
  | none => .ok drained.chunks.flatten

end Limited

namespace Source

def limit (s : Source) (n : Nat) : Limited :=
  ⟨s, some n⟩

def drain (size : Nat) (s : Source) : Limited.Drained :=
  Limited.drain size ⟨s, none⟩

/-- What reads of given sizes give, one after another. A read that fails changes nothing. -/
def reads : List Nat → Source → List (Except IoError Bytes)
  | [], _ => []
  | n :: sizes, s =>
    match s.read n with
    | .ok (got, rest) => .ok got :: rest.reads sizes
    | .error e => .error e :: s.reads sizes

def readAll (s : Source) : Except IoError Bytes :=
  Limited.readAll ⟨s, none⟩

end Source

end Quarantine
