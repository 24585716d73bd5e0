import Quarantine.Simulation.Clock

/-!
What can be done in a rehearsal: build the service, use it, and let time pass.
-/

namespace Quarantine.Simulation.Rehearsal

variable {σ : Type} [PayloadStore σ]

def isRunning (w : Rehearsal σ) : Bool :=
  w.stage = .running

structure Given where
  payloads : Bool
  records : Bool
  engine : Bool
  deriving DecidableEq, Repr

inductive BuildResult
  | ready
  | refused (e : ServiceError)
  | crashed
  deriving DecidableEq, Repr

def build (given : Given) (w : Rehearsal σ) : BuildResult × Rehearsal σ :=
  let (m, w) := w.moment [.pingPayloads, .pingRecords]
  let parts : Parts σ :=
    ⟨if given.payloads then some w.state.stores.payloads else none,
      if given.records then some w.state.stores.records else none,
      if given.engine then some (w.device.name, w.device.ping) else none⟩
  let c := w.state.config
  match Service.build m c parts with
  | (.ready state, trace) =>
    let sweeper := (Service.sweepPeriod? c).map fun period =>
      ⟨c.resultTtl, period.wait, w.clock + period.ticks⟩
    let running := { w with state := state, stage := .running, sweeper := sweeper }
    (.ready, running.say trace)
  | (.refused e, trace) => (.refused e, w.say trace)
  | (.crashed, trace) => (.crashed, w.say trace)

/-- Lets an upload go on to its end. The number bounds its calls. -/
def runUpload (i : Nat) : Nat → Rehearsal σ → Rehearsal σ
  | 0, w => w
  | fuel + 1, w => runUpload i fuel (w.act (.upload i))

/-- Uploads a content. What is due by now happens while the content is taken in. -/
def upload (r : Request) (w : Rehearsal σ) : Option (Except ServiceError Outcome) × Rehearsal σ :=
  let i := w.state.uploads.length
  let arrived := w.act (.submit r)
  let fuel := match arrived.state.uploads[i]? with
    | some upload => upload.rank
    | none => 0
  let settled := if fuel = 0 then arrived else arrived.catchUp.runUpload i fuel
  ((settled.state.uploads[i]?).bind Upload.result?, settled)

def document (id : String) (w : Rehearsal σ) : Except ServiceError Document × Rehearsal σ :=
  let methods := if DocumentId.isValidText id then [Method.getRecord] else []
  let (m, w) := w.moment methods
  let (result, trace) := w.state.document m id
  (result, w.say trace)

def ping (w : Rehearsal σ) : Except ServiceError Unit × Rehearsal σ :=
  let (m, w) := w.moment [.pingPayloads, .pingRecords]
  let (result, trace) := w.state.ping m w.device.ping
  (result, w.say trace)

def health (w : Rehearsal σ) : HealthReport × Rehearsal σ :=
  let (m, w) := w.moment [.pingPayloads, .pingRecords]
  let (report, trace) := w.state.health m w.device.ping
  (report, w.say trace)

def schedule (id : DocumentId) (w : Rehearsal σ) : Nat × Rehearsal σ :=
  (w.state.scans.length, w.act (.schedule id))

def hasCrashed (i : Nat) (w : Rehearsal σ) : Bool :=
  (w.state.scans[i]?).any fun scan => scan.phase = .crashed

/-- The caller of the service goes away. Scans go on, sweeping ends. -/
def drop (w : Rehearsal σ) : Rehearsal σ :=
  { w with stage := .dropped, sweeper := none }

/-- Sweeps once. There is no result if there is no cutoff. -/
def sweep (ttl : Span) (w : Rehearsal σ) : Option (Except MetadataError Nat) × Rehearsal σ :=
  match Retention.cutoff? w.wall ttl with
  | none => (none, w)
  | some cutoff =>
    let (m, w) := w.moment [.purgeRecords]
    let (result, stores, trace) := Retention.sweepAt m cutoff w.state.stores
    (some result, (w.withStores stores).say trace)

end Quarantine.Simulation.Rehearsal
