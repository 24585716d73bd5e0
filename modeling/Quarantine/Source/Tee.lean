import Quarantine.Document.Identity
import Quarantine.Source.Basic

/-!
A source whose bytes are hashed while they pass to their reader.
-/

namespace Quarantine

structure Tee where
  source : Limited
  hasher : Identity.Hasher

namespace Tee

def ofLimited (l : Limited) : Tee :=
  ⟨l, .empty⟩

def counted (t : Tee) : Nat :=
  t.hasher.counted

/-- One read of at most `n` bytes. A read that fails adds nothing to the digests. -/
def read (t : Tee) (n : Nat) : Except IoError (Bytes × Tee) :=
  match t.source.read n with
  | .error e => .error e
  | .ok (got, rest) => .ok (got, ⟨rest, t.hasher.absorb got⟩)

/-- What reads of given sizes give, one after another, each with the number of bytes that have
passed by then. A read that fails changes nothing. -/
def reads : List Nat → Tee → List (Except IoError (Bytes × Nat)) × Tee
  | [], t => ([], t)
  | n :: sizes, t =>
    match t.read n with
    | .ok (got, rest) =>
      let later := rest.reads sizes
      (.ok (got, rest.counted) :: later.1, later.2)
    | .error e =>
      let later := t.reads sizes
      (.error e :: later.1, later.2)

def finish (t : Tee) (tag : String) : Identity :=
  t.hasher.finish tag

end Tee

end Quarantine
