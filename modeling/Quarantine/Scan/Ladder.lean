import Quarantine.Json.Reader
import Quarantine.Time.Duration

/-!
Retry ladders. A ladder of waits allows as many attempts as it has waits, and at least one; the wait
between one attempt and the next is the one whose place is that of the former, so the last is never
waited for.
-/

namespace Quarantine

structure Ladder where
  steps : List Duration
  deriving DecidableEq, Repr, Inhabited

namespace Ladder

/-- Six attempts within a little more than a minute and a half. -/
def standard : Ladder :=
  ⟨[5, 10, 15, 25, 40, 65].map Duration.ofSeconds⟩

def single : Ladder :=
  ⟨[.zero]⟩

def attempts (l : Ladder) : Nat :=
  max l.steps.length 1

/-- The wait before an attempt. Attempts are counted from one. -/
def delayBefore (l : Ladder) (attempt : Nat) : Option Duration :=
  if attempt < 2 ∨ l.attempts < attempt then none else l.steps[attempt - 2]?

def delays (l : Ladder) : List Duration :=
  (List.range (l.attempts - 1)).filterMap fun i => l.delayBefore (i + 2)

def totalWait? (l : Ladder) : Option Duration :=
  Duration.sum? l.delays

def toJson (l : Ladder) : Json :=
  .object [("steps", .list (l.steps.map fun d => .nat d.seconds))]

def fields : List (Json.Reader.Field (Option (List Duration))) :=
  [⟨"steps", (·.isSome), fun _ => do
    return some ((← Json.Reader.list Json.Reader.nat64).map Duration.ofSeconds)⟩]

def reader : Json.Reader Ladder := do
  return ⟨← Json.Reader.required (← Json.Reader.record fields none)⟩

end Ladder

end Quarantine
