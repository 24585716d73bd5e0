import Quarantine.Log.Trace
import Quarantine.Store.Faulty

/-!
Plans of what goes wrong: faults that are set on the methods of the stores. The oldest fault of a
method that is not used up decides about a call.
-/

namespace Quarantine.Simulation

inductive Method
  | savePayload
  | fetchPayload
  | deletePayload
  | pingPayloads
  | saveRecord
  | getRecord
  | findRecord
  | updateRecord
  | deleteRecord
  | purgeRecords
  | pingRecords
  deriving DecidableEq, Repr

namespace Method

def name : Method → String
  | .savePayload => "binary.save"
  | .fetchPayload => "binary.get"
  | .deletePayload => "binary.delete"
  | .pingPayloads => "binary.ping"
  | .saveRecord => "metadata.save"
  | .getRecord => "metadata.get"
  | .findRecord => "metadata.get_by_hash"
  | .updateRecord => "metadata.update_status"
  | .deleteRecord => "metadata.delete"
  | .purgeRecords => "metadata.purge"
  | .pingRecords => "metadata.ping"

def all : List Method :=
  [.savePayload, .fetchPayload, .deletePayload, .pingPayloads, .saveRecord, .getRecord,
    .findRecord, .updateRecord, .deleteRecord, .purgeRecords, .pingRecords]

def ofName? (s : String) : Option Method :=
  all.find? fun method => method.name = s

def ofCall? : Call → Option Method
  | .savePayload _ _ => some .savePayload
  | .fetchPayload _ => some .fetchPayload
  | .deletePayload _ => some .deletePayload
  | .pingPayloads => some .pingPayloads
  | .saveRecord _ => some .saveRecord
  | .getRecord _ => some .getRecord
  | .findRecord _ => some .findRecord
  | .updateRecord _ _ => some .updateRecord
  | .purgeRecords _ => some .purgeRecords
  | .pingRecords => some .pingRecords
  | .analyze _ | .pingEngine => none

end Method

inductive Effect
  | storage (f : StorageFault)
  | metadata (e : MetadataError)
  deriving DecidableEq, Repr

structure Fault where
  method : Method
  effect : Effect
  /-- How many calls are still let through. -/
  skip : Nat
  /-- How many calls still fail after that, if not all. -/
  times : Option Nat
  deriving DecidableEq, Repr

namespace Fault

def concerns (method : Method) (f : Fault) : Bool :=
  f.method = method && f.times ≠ some 0

/-- What becomes of a call of a method, and the faults after it. -/
def take (method : Method) : List Fault → Option Effect × List Fault
  | [] => (none, [])
  | f :: rest =>
    if f.concerns method then
      if f.skip = 0 then (some f.effect, { f with times := f.times.map (· - 1) } :: rest)
      else (none, { f with skip := f.skip - 1 } :: rest)
    else
      let later := take method rest
      (later.1, f :: later.2)

def moment (now : Instant) (methods : List Method) (faults : List Fault) : Moment × List Fault :=
  methods.foldl (fun (m, faults) method =>
    match take method faults with
    | (some (.storage f), faults) => ({ m with storage := some f }, faults)
    | (some (.metadata e), faults) => ({ m with metadata := some e }, faults)
    | (none, faults) => (m, faults)) (.calm now, faults)

end Fault

end Quarantine.Simulation
