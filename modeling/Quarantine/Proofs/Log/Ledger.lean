import Quarantine.Log.Trace

/-!
What the audit trail tells of the records. An entry tells of a new record, of a status that was
written, of records that were removed, or of nothing that the records show. From the entries so far
the statuses of all records can be told.
-/

namespace Quarantine

namespace Audit

/-- A new record under an id is told of, which waits for its verdict. -/
def creates (id : DocumentId) : Audit → Bool
  | .documentCreated d _ => d.id = id
  | .verdictPropagated _ _ | .verdictRecorded _ _ _ _ | .bytesReleased _ | .scanAbandoned _ _ _
  | .verdictLost _ _ _ | .purgeCompleted _ _ => false

/-- How many records are told to have been removed. -/
def removed : Audit → Nat
  | .purgeCompleted n _ => n
  | .documentCreated _ _ | .verdictPropagated _ _ | .verdictRecorded _ _ _ _ | .bytesReleased _
  | .scanAbandoned _ _ _ | .verdictLost _ _ _ => 0

/-- The document of which it is told what has become of its scan. -/
def concluded? : Audit → Option DocumentId
  | .verdictRecorded id _ _ _ | .scanAbandoned id _ _ | .verdictLost id _ _ => some id
  | .documentCreated _ _ | .verdictPropagated _ _ | .bytesReleased _ | .purgeCompleted _ _ => none

/-- Nothing is told that the records show. -/
def isAside : Audit → Bool
  | .bytesReleased _ | .scanAbandoned _ _ _ | .verdictLost _ _ _ => true
  | .documentCreated _ _ | .verdictPropagated _ _ | .verdictRecorded _ _ _ _
  | .purgeCompleted _ _ => false

/-- The statuses that are known after an entry. -/
def post (known : DocumentId → Option Status) : Audit → DocumentId → Option Status
  | .documentCreated d _ => fun j => if j = d.id then some .pending else known j
  | .verdictPropagated d _ => fun j => if j = d.id then some d.status else known j
  | .verdictRecorded id v _ _ => fun j => if j = id then some v.status else known j
  | .bytesReleased _ | .scanAbandoned _ _ _ | .verdictLost _ _ _ | .purgeCompleted _ _ => known

end Audit

namespace Trace

/-- How many entries of a kind there are in the audit trail. -/
def tells (kind : Audit.Kind) (t : Trace) : Nat :=
  t.audits.countP (·.kind = kind)

/-- How many records the audit trail tells to have been removed. -/
def removed (t : Trace) : Nat :=
  t.audits.foldr (fun a n => a.removed + n) 0

/-- How often the audit trail tells of a new record under an id, which waits for its verdict. -/
def created (id : DocumentId) (t : Trace) : Nat :=
  t.audits.countP (·.creates id)

/-- The documents of which the audit trail tells what has become of a scan, in order. -/
def concluded (t : Trace) : List DocumentId :=
  t.audits.filterMap (·.concluded?)

/-- The statuses of the records that the audit trail tells, entry by entry. -/
def statuses (t : Trace) : DocumentId → Option Status :=
  t.audits.foldl Audit.post fun _ => none

@[simp] theorem audits_nil : audits [] = [] :=
  rfl

@[simp] theorem audits_cons_audit (a : Audit) (t : Trace) :
    audits (.audit a :: t) = a :: t.audits :=
  rfl

variable (t later : Trace)

@[simp] theorem tells_append (kind : Audit.Kind) :
    tells kind (t ++ later) = t.tells kind + later.tells kind := by
  simp [tells]

@[simp] theorem removed_append : removed (t ++ later) = t.removed + later.removed := by
  simp only [removed, audits_append, List.foldr_append]
  induction t.audits with
  | nil => simp
  | cons a told ih => simp [ih, Nat.add_assoc]

@[simp] theorem created_append (id : DocumentId) :
    created id (t ++ later) = t.created id + later.created id := by
  simp [created]

theorem statuses_append : statuses (t ++ later) = later.audits.foldl Audit.post t.statuses := by
  simp [statuses]

end Trace

end Quarantine
