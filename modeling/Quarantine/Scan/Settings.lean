import Quarantine.Scan.Ladder

/-!
How scans are run.
-/

namespace Quarantine

structure ScanSettings where
  /-- The most scans at a time. Less than one counts as one. -/
  capacity : Nat
  ladder : Ladder
  attemptTimeout : Duration
  deriving DecidableEq, Repr, Inhabited

namespace ScanSettings

def standard : ScanSettings :=
  ⟨128, .standard, .ofSeconds 30⟩

def places (s : ScanSettings) : Nat :=
  max s.capacity 1

def withCapacity (s : ScanSettings) (n : Nat) : ScanSettings :=
  { s with capacity := max n 1 }

def withLadder (s : ScanSettings) (l : Ladder) : ScanSettings :=
  { s with ladder := l }

def withAttemptTimeout (s : ScanSettings) (d : Duration) : ScanSettings :=
  { s with attemptTimeout := d }

/-- The timeout is written in whole milliseconds, of which 64 bits are kept. -/
def toJson (s : ScanSettings) : Json :=
  .object
    [("capacity", .nat s.capacity), ("ladder", s.ladder.toJson),
      ("attempt_timeout", .nat (s.attemptTimeout.millis % 18446744073709551616))]

structure Partial where
  capacity : Option Nat := none
  ladder : Option Ladder := none
  attemptTimeout : Option Duration := none

def fields : List (Json.Reader.Field Partial) :=
  [⟨"capacity", (·.capacity.isSome),
      fun p => return { p with capacity := some (← Json.Reader.nat64) }⟩,
    ⟨"ladder", (·.ladder.isSome), fun p => return { p with ladder := some (← Ladder.reader) }⟩,
    ⟨"attempt_timeout", (·.attemptTimeout.isSome),
      fun p => return { p with attemptTimeout := some (.ofMillis (← Json.Reader.nat64)) }⟩]

/-- Settings that are missing are the standard ones. -/
def reader : Json.Reader ScanSettings := do
  let p ← Json.Reader.record fields {}
  return ⟨p.capacity.getD standard.capacity, p.ladder.getD standard.ladder,
    p.attemptTimeout.getD standard.attemptTimeout⟩

end ScanSettings

end Quarantine
