import Quarantine.Service.Query

/-!
How a service comes into being: everything that it needs has to be there and to answer.
-/

namespace Quarantine

/-- What a service is made of. Anything may be missing. -/
structure Parts (σ : Type) where
  payloads : Option σ
  records : Option Records
  /-- The name of the engine, and what it says to a ping. -/
  engine : Option (String × Except ScanError Unit)

inductive Built (σ : Type)
  | ready (s : State σ)
  | refused (e : ServiceError)
  /-- More places were asked for than can be counted. -/
  | crashed

namespace Service

/-- The most places for scans that can be counted. -/
def maxPlaces : Nat := 2305843009213693951

/-- How often records are swept. They are not if they are kept for ever. -/
def sweepPeriod? (c : Config) : Option Duration :=
  c.resultTtl.toDuration?

def announcement (c : Config) (engine : String) : Trace :=
  [.notice (match sweepPeriod? c with
      | some period => .sweeperStarted period.seconds
      | none => .sweeperDisabled),
    .notice (.ready c.version engine c.scan.places c.maxUploadSize (sweepPeriod? c).isSome)]

variable {σ : Type} [PayloadStore σ]

def assemble (m : Moment) (c : Config) (engine : String) (answer : Except ScanError Unit)
    (stores : Stores σ) : Built σ × Trace :=
  let pinged := stores.ping m engine answer
  match pinged.1 with
  | .error e => (.refused e, pinged.2)
  | .ok () =>
    if maxPlaces < c.scan.places then (.crashed, pinged.2)
    else (.ready (.idle c engine stores), pinged.2 ++ announcement c engine)

/-- Builds a service. The first part that is missing is the one that is told. -/
def build (m : Moment) (c : Config) (parts : Parts σ) : Built σ × Trace :=
  match parts with
  | ⟨none, _, _⟩ => (.refused (.configuration "a binary store is required"), [])
  | ⟨some _, none, _⟩ => (.refused (.configuration "a metadata store is required"), [])
  | ⟨some _, some _, none⟩ => (.refused (.configuration "a scan engine is required"), [])
  | ⟨some payloads, some records, some (engine, answer)⟩ =>
    assemble m c engine answer ⟨payloads, records⟩

end Service

end Quarantine
