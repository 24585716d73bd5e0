import Quarantine.Json.Reader

/-!
The health of a service and of what it depends on.
-/

namespace Quarantine

structure HealthReport where
  version : String
  information : String
  healthy : Bool
  /-- One line for each capability that does not answer. -/
  failures : List String
  deriving DecidableEq, Repr, Inhabited

namespace HealthReport

def toJson (r : HealthReport) : Json :=
  .object
    [("version", .text r.version), ("information", .text r.information),
      ("healthy", .bool r.healthy), ("failures", .list (r.failures.map .text))]

structure Partial where
  version : Option String := none
  information : Option String := none
  healthy : Option Bool := none
  failures : Option (List String) := none

def fields : List (Json.Reader.Field Partial) :=
  [⟨"version", (·.version.isSome),
      fun p => return { p with version := some (← Json.Reader.text) }⟩,
    ⟨"information", (·.information.isSome),
      fun p => return { p with information := some (← Json.Reader.text) }⟩,
    ⟨"healthy", (·.healthy.isSome),
      fun p => return { p with healthy := some (← Json.Reader.bool) }⟩,
    ⟨"failures", (·.failures.isSome),
      fun p => return { p with failures := some (← Json.Reader.list Json.Reader.text) }⟩]

/-- Missing failures count as none. -/
def reader : Json.Reader HealthReport := do
  let p ← Json.Reader.record fields {}
  return ⟨← Json.Reader.required p.version, ← Json.Reader.required p.information,
    ← Json.Reader.required p.healthy, p.failures.getD []⟩

end HealthReport

end Quarantine
