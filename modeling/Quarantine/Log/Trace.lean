import Quarantine.Log.Event
import Quarantine.Source.Basic

/-!
Traces: the calls that a service makes, in order, with the lines that it writes to the log.
-/

namespace Quarantine

inductive Call
  | savePayload (id : DocumentId) (size : Nat)
  | fetchPayload (id : DocumentId)
  | deletePayload (id : DocumentId)
  | pingPayloads
  | saveRecord (d : Document)
  | getRecord (id : DocumentId)
  | findRecord (hash : String)
  | updateRecord (id : DocumentId) (status : Status)
  | purgeRecords (cutoff : Instant)
  | pingRecords
  | analyze (source : Source)
  | pingEngine
  deriving DecidableEq, Repr

namespace Call

/-- The capability that is called, and what it is asked for. -/
def name : Call → String
  | .savePayload _ _ => "binary.save"
  | .fetchPayload _ => "binary.get"
  | .deletePayload _ => "binary.delete"
  | .pingPayloads => "binary.ping"
  | .saveRecord _ => "metadata.save"
  | .getRecord _ => "metadata.get"
  | .findRecord _ => "metadata.get_by_hash"
  | .updateRecord _ _ => "metadata.update_status"
  | .purgeRecords _ => "metadata.purge"
  | .pingRecords => "metadata.ping"
  | .analyze _ => "engine.analyze"
  | .pingEngine => "engine.ping"

def argument : Call → Json
  | .savePayload id size => .list [.text id.text, .nat size]
  | .saveRecord d => .list [.text d.id.text, .text d.tag, d.status.toJson]
  | .updateRecord id status => .list [.text id.text, status.toJson]
  | .fetchPayload id | .deletePayload id | .getRecord id => .text id.text
  | .findRecord hash => .text hash
  | .pingPayloads | .pingRecords | .pingEngine | .purgeRecords _ | .analyze _ => .null

end Call

inductive Entry
  | call (c : Call)
  | event (e : Event)
  deriving DecidableEq, Repr

namespace Entry

def audit (a : Audit) : Entry :=
  .event (.audit a)

def notice (n : Notice) : Entry :=
  .event (.notice n)

end Entry

/-- Entries in the order in which they came about. -/
abbrev Trace := List Entry

namespace Trace

def ofCall? (c : Option Call) : Trace :=
  c.toList.map .call

def audits (t : Trace) : List Audit :=
  t.filterMap fun
    | .event (.audit a) => some a
    | _ => none

def calls (t : Trace) : List Call :=
  t.filterMap fun
    | .call c => some c
    | _ => none

@[simp] theorem audits_append (t later : Trace) : audits (t ++ later) = t.audits ++ later.audits :=
  List.filterMap_append

@[simp] theorem calls_append (t later : Trace) : calls (t ++ later) = t.calls ++ later.calls :=
  List.filterMap_append

end Trace

end Quarantine
