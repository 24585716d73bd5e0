import Quarantine.Proofs.Source.Drain
import Quarantine.Proofs.Store.Records
import Quarantine.Store.Faulty

/-!
What a call to a store of a service does at a moment at which it may fail. A call that fails leaves
the stores as they are; one that goes well makes the change that it is named after.
-/

namespace Quarantine

namespace Payloads

def keep (id : DocumentId) (bytes : Bytes) (p : Payloads) : Payloads :=
  { p with kept := p.kept.insert id bytes, saves := p.saves + 1 }

def drop (id : DocumentId) (p : Payloads) : Payloads :=
  { p with kept := p.kept.erase id }

theorem get?_keep (id j : DocumentId) (bytes : Bytes) (p : Payloads) :
    (p.keep id bytes).kept.get? j = if j = id then some bytes else p.kept.get? j := by
  by_cases same : j = id
  · rw [if_pos same, same]
    exact Table.get?_insert_self _ _ _
  · rw [if_neg same]
    exact Table.get?_insert_ne same _ _

theorem get?_drop (id j : DocumentId) (p : Payloads) :
    (p.drop id).kept.get? j = if j = id then none else p.kept.get? j := by
  by_cases same : j = id
  · rw [if_pos same, same]
    exact Table.get?_erase_self _ _
  · rw [if_neg same]
    exact Table.get?_erase_ne same _

end Payloads

namespace Moment

/-- No call fails, and no stream that is handed out breaks. -/
def Calm (m : Moment) : Prop :=
  m.storage = none ∧ m.metadata = none

/-- A call that fails does so as a whole: no stream that is handed out breaks later. -/
def Whole (m : Moment) : Prop :=
  ∀ e, m.storage ≠ some (.breaking e)

/-- A call to the payloads is not refused. -/
def Grants (m : Moment) : Prop :=
  ∀ e, m.storage ≠ some (.refused e)

instance : DecidablePred Calm :=
  fun _ => inferInstanceAs (Decidable (_ ∧ _))

instance : DecidablePred Whole
  | ⟨_, some (.breaking e), _⟩ => .isFalse fun whole => whole e rfl
  | ⟨_, some (.refused _), _⟩ | ⟨_, none, _⟩ => .isTrue fun _ breaking => by cases breaking

theorem Calm.grants {m : Moment} (calm : m.Calm) : m.Grants :=
  fun e refused => by rw [calm.1] at refused; cases refused

end Moment

namespace Stores

def empty : Stores Payloads :=
  ⟨.empty, .empty⟩

/-- Both stores can be reached. -/
def Online (s : Stores Payloads) : Prop :=
  s.payloads.online = true ∧ s.records.online = true

section Records

variable {σ : Type} [PayloadStore σ] (m : Moment) (s : Stores σ) (id : DocumentId)

theorem records_savePayload (source : Source) (n : Nat) :
    (s.savePayload m id source n).2.records = s.records := by
  unfold savePayload
  split <;> rfl

theorem records_deletePayload : (s.deletePayload m id).2.records = s.records := by
  unfold deletePayload
  split <;> rfl

end Records

variable (m : Moment) (s : Stores Payloads)

theorem savePayload_cases (id : DocumentId) (bytes : Bytes) (n : Nat) :
    (∃ e, s.savePayload m id (.ofBytes bytes) n = (.error e, s)) ∨
      s.savePayload m id (.ofBytes bytes) n =
        (.ok (), { s with payloads := s.payloads.keep id (bytes.take n) }) := by
  unfold savePayload
  split
  · next e _ => exact .inl ⟨e, rfl⟩
  · by_cases on : s.payloads.online = true
    · exact .inr (by
        simp only [PayloadStore.save, Payloads.save, on, if_true, Source.readAll_limit_ofBytes,
          Payloads.keep])
    · exact .inl ⟨Payloads.offline, by simp [PayloadStore.save, Payloads.save, on]⟩

theorem savePayload_calm (calm : m.Calm) (on : s.payloads.online = true) (id : DocumentId)
    (bytes : Bytes) (n : Nat) :
    s.savePayload m id (.ofBytes bytes) n =
      (.ok (), { s with payloads := s.payloads.keep id (bytes.take n) }) := by
  simp only [savePayload, calm.1, PayloadStore.save, Payloads.save, on, if_true,
    Source.readAll_limit_ofBytes, Payloads.keep]

theorem online_of_savePayload {id : DocumentId} {source : Source} {n : Nat} {s' : Stores Payloads}
    (saved : s.savePayload m id source n = (.ok (), s')) : s.payloads.online = true := by
  refine Classical.byContradiction fun off => ?_
  unfold savePayload at saved
  split at saved
  · cases saved
  · simp [PayloadStore.save, Payloads.save, off] at saved

theorem fetchPayload_ok (whole : m.Whole) {id : DocumentId} {source : Source}
    (fetched : s.fetchPayload m id = .ok source) :
    ∃ bytes, s.payloads.kept.get? id = some bytes ∧ source = .ofBytes bytes := by
  unfold fetchPayload at fetched
  split at fetched
  · cases fetched
  · next e breaking => exact absurd breaking (whole e)
  · simp only [PayloadStore.fetch, Payloads.fetch] at fetched
    split at fetched
    · split at fetched
      · next bytes found => cases fetched; exact ⟨bytes, found, rfl⟩
      · cases fetched
    · cases fetched

theorem fetchPayload_calm (calm : m.storage = none) (on : s.payloads.online = true)
    (id : DocumentId) :
    s.fetchPayload m id = match s.payloads.kept.get? id with
      | some bytes => .ok (.ofBytes bytes)
      | none => .error (.notFound id.text) := by
  cases found : s.payloads.kept.get? id <;>
    simp [fetchPayload, calm, PayloadStore.fetch, Payloads.fetch, on, found]

theorem deletePayload_cases (id : DocumentId) :
    (∃ e, s.deletePayload m id = (.error e, s)) ∨
      s.deletePayload m id = (.ok (), { s with payloads := s.payloads.drop id }) := by
  unfold deletePayload
  split
  · next e _ => exact .inl ⟨e, rfl⟩
  · by_cases on : s.payloads.online = true
    · by_cases found : s.payloads.kept.contains id = true
      · exact .inr (by simp [PayloadStore.delete, Payloads.delete, on, found, Payloads.drop])
      · exact .inl ⟨.notFound id.text, by
          simp [PayloadStore.delete, Payloads.delete, on, found]⟩
    · exact .inl ⟨Payloads.offline, by simp [PayloadStore.delete, Payloads.delete, on]⟩

theorem deletePayload_granted (granted : m.Grants) (on : s.payloads.online = true)
    {id : DocumentId} {bytes : Bytes} (found : s.payloads.kept.get? id = some bytes) :
    s.deletePayload m id = (.ok (), { s with payloads := s.payloads.drop id }) := by
  unfold deletePayload
  split
  · next e refused => exact absurd refused (granted e)
  · simp [PayloadStore.delete, Payloads.delete, on, Table.contains, found, Payloads.drop]

/-- A store that takes calls refuses to delete bytes only if there are none. -/
theorem absent_of_deletePayload (granted : m.Grants) (on : s.payloads.online = true)
    {id : DocumentId} {e : StorageError} {s' : Stores Payloads}
    (refused : s.deletePayload m id = (.error e, s')) : s.payloads.kept.get? id = none := by
  cases found : s.payloads.kept.get? id with
  | none => rfl
  | some bytes =>
      rw [s.deletePayload_granted m granted on found] at refused
      cases refused

theorem saveRecord_cases (d : Document) :
    (∃ e, s.saveRecord m d = (.error e, s)) ∨
      (s.records.document? d.id = none ∧
        s.saveRecord m d = (.ok (), { s with records := s.records.add d })) := by
  unfold saveRecord
  cases m.metadata with
  | some e => exact .inl ⟨e, rfl⟩
  | none =>
      cases s.records.save_cases d with
      | inl failed =>
          obtain ⟨e, failed⟩ := failed
          exact .inl ⟨e, by simp [failed]⟩
      | inr saved =>
          obtain ⟨free, saved⟩ := saved
          exact .inr ⟨free, by simp [saved]⟩

theorem saveRecord_calm (calm : m.metadata = none) (on : s.records.online = true) (d : Document) :
    s.saveRecord m d = if (s.records.document? d.id).isSome
      then (.error (.alreadyExists d.id.text), s)
      else (.ok (), { s with records := s.records.add d }) := by
  simp only [saveRecord, calm, s.records.save_eq on]
  split <;> rfl

/-- A calm store refuses a record only for the sake of one under the same id. -/
theorem alreadyExists_of_saveRecord (calm : m.metadata = none) (on : s.records.online = true)
    {d : Document} {e : MetadataError} {s' : Stores Payloads}
    (refused : s.saveRecord m d = (.error e, s')) : e.isAlreadyExists = true := by
  rw [s.saveRecord_calm m calm on] at refused
  split at refused <;> cases refused
  rfl

/-- A calm store says of a record that it exists only if there is one under the same id. -/
theorem exists_of_saveRecord (calm : m.metadata = none) {d : Document} {e : MetadataError}
    {s' : Stores Payloads} (refused : s.saveRecord m d = (.error e, s'))
    (taken : e.isAlreadyExists = true) : (s.records.document? d.id).isSome := by
  simp only [saveRecord, calm, Prod.mk.injEq, Records.save] at refused
  split at refused
  · split at refused
    · assumption
    · cases refused.1
  · cases refused.1
    cases taken

theorem updateRecord_cases (id : DocumentId) (status : Status) :
    (∃ e, s.updateRecord m id status = (.error e, s)) ∨
      (∃ d, s.records.document? id = some d ∧ d.isPending = true ∧
        s.updateRecord m id status =
          (.ok (), { s with records := s.records.judge id status m.now })) := by
  unfold updateRecord
  cases m.metadata with
  | some e => exact .inl ⟨e, rfl⟩
  | none =>
      cases s.records.update_cases id status m.now with
      | inl failed =>
          obtain ⟨e, failed, -⟩ := failed
          exact .inl ⟨e, by simp [failed]⟩
      | inr done =>
          obtain ⟨d, found, pending, done⟩ := done
          exact .inr ⟨d, found, pending, by simp [done]⟩

/-- A calm store does not write the status of a record only if there is a verdict already. -/
theorem alreadyAnalyzed_of_updateRecord (calm : m.metadata = none) (on : s.records.online = true)
    {id : DocumentId} {d : Document} (found : s.records.document? id = some d) {status : Status}
    {e : MetadataError} {s' : Stores Payloads}
    (refused : s.updateRecord m id status = (.error e, s')) : e = .alreadyAnalyzed id.text := by
  simp only [updateRecord, calm, Records.update, on, found, if_true, Prod.mk.injEq] at refused
  split at refused <;> cases refused.1
  rfl

/-- A calm store says of a record that it has a verdict only if that is so. -/
theorem judged_of_updateRecord (calm : m.metadata = none) {id : DocumentId} {status : Status}
    {text : String} {s' : Stores Payloads}
    (refused : s.updateRecord m id status = (.error (.alreadyAnalyzed text), s')) :
    ∃ d, s.records.document? id = some d ∧ d.isPending = false := by
  simp only [updateRecord, calm] at refused
  cases s.records.update_cases id status m.now with
  | inl judged =>
      obtain ⟨e, failed, judged⟩ := judged
      rw [failed] at refused
      cases refused
      exact judged text rfl
  | inr done =>
      obtain ⟨d, -, -, done⟩ := done
      rw [done] at refused
      cases refused

theorem purgeRecords_cases (cutoff : Instant) :
    (∃ e, s.purgeRecords m cutoff = (.error e, s)) ∨
      s.purgeRecords m cutoff =
        (.ok (s.records.documents.countP fun d => d.isPurgeable cutoff),
          { s with records := s.records.purged cutoff }) := by
  unfold purgeRecords
  cases m.metadata with
  | some e => exact .inl ⟨e, rfl⟩
  | none =>
      cases s.records.purge_cases cutoff with
      | inl failed =>
          obtain ⟨e, failed⟩ := failed
          exact .inl ⟨e, by simp [failed]⟩
      | inr done => exact .inr (by simp [done])

theorem informative?_of_findRecord {hash : String} {d : Document}
    (found : s.findRecord m hash = .ok d) : s.records.informative? hash = some d := by
  unfold findRecord at found
  split at found
  · cases found
  · exact s.records.getByHash_ok found

theorem findRecord_ok {hash : String} {d : Document} (found : s.findRecord m hash = .ok d) :
    d ∈ s.records.documents ∧ d.hash = hash :=
  Records.informative?_mem (s.informative?_of_findRecord m found)

theorem findRecord_calm (calm : m.metadata = none) (on : s.records.online = true) (hash : String) :
    s.findRecord m hash = match s.records.informative? hash with
      | some d => .ok d
      | none => .error (.notFound hash) := by
  cases shown : s.records.informative? hash <;>
    simp [findRecord, calm, Records.getByHash, on, shown]

theorem getRecord_calm (calm : m.metadata = none) (on : s.records.online = true)
    (id : DocumentId) :
    s.getRecord m id = match s.records.document? id with
      | some d => .ok d
      | none => .error (.notFound id.text) := by
  cases found : s.records.document? id <;> simp [getRecord, calm, Records.get, on, found]

theorem getRecord_ok {id : DocumentId} {d : Document} (got : s.getRecord m id = .ok d) :
    s.records.document? id = some d := by
  unfold getRecord at got
  split at got
  · cases got
  · exact s.records.get_ok got

end Stores

end Quarantine
