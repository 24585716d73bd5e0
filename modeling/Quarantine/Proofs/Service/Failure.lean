import Mathlib.Control.Monad.Basic
import Quarantine.Proofs.Service.Alone

/-!
What an upload that fails leaves behind, if nothing else goes on meanwhile. Records and scans are as
they were. Bytes that it has kept it takes away again, and with them those that were under the same
id before. So the bytes are as they were if and only if it took none away or there were none.
-/

namespace Quarantine

namespace Upload

/-- What a failed upload leaves behind. Either nothing was kept, or what was kept is taken away by
the last call. -/
inductive Leaves (s : Stores Payloads) (calls : List Moment) (t : Trace) : Stores Payloads → Prop
  | unchanged (silent : ∀ id, .call (.deletePayload id) ∉ t) : Leaves s calls t s
  | undone {id bytes last} (on : s.payloads.online = true) (final : calls.getLast? = some last)
      (told : ∀ j, .call (.deletePayload j) ∈ t ↔ j = id) :
      Leaves s calls t
        (Stores.deletePayload last id { s with payloads := s.payloads.keep id bytes }).2

variable {s s' : Stores Payloads} {calls : List Moment} {t : Trace} {e : ServiceError}

section Ends

/-- An upload that has found a record in its way does not fail. -/
theorem not_ends_inspect {id : DocumentId} : ¬ Ends s (.inspect id) calls (.error e) s' t := by
  intro ends
  cases ends with
  | call goes ends =>
      cases goes with
      | winnerPending _ _ | winnerUnread _ => cases (ends_settled ends).2.1
      | winnerJudged _ _ =>
          obtain ⟨-, -, result, -⟩ := ends_discard ends
          cases result

theorem ends_create {identity : Identity} {tag : String}
    (ends : Ends s (.create identity tag) calls (.error e) s' t) :
    ∃ first last, calls = [first, last] ∧ s' = (s.deletePayload last identity.id).2 ∧
      ∀ j, .call (.deletePayload j) ∈ t ↔ j = identity.id := by
  cases ends with
  | @call m _ _ _ _ _ _ _ _ _ goes ends =>
      cases goes with
      | created _ => cases (ends_settled ends).2.1
      | taken _ _ => exact absurd ends not_ends_inspect
      | uncreated _ _ =>
          obtain ⟨last, rfl, -, rfl, told⟩ := ends_discard ends
          exact ⟨m, last, rfl, rfl, fun j => by simpa [call?, Trace.ofCall?] using told j⟩

end Ends

theorem Leaves.cons {rest : List Moment} {later : Trace} (leaves : Leaves s rest later s')
    (m : Moment) (silent : ∀ id, .call (.deletePayload id) ∉ t) :
    Leaves s (m :: rest) (t ++ later) s' := by
  cases leaves with
  | unchanged quiet =>
      refine .unchanged fun id told => ?_
      cases List.mem_append.mp told with
      | inl told => exact silent id told
      | inr told => exact quiet id told
  | undone on final told =>
      refine .undone on (by rw [List.getLast?_cons, final]; rfl) fun j => ?_
      rw [List.mem_append, told j]
      exact ⟨fun h => h.resolve_left (silent j), .inr⟩

theorem leaves_of_keep {identity : Identity} {content : Bytes} {tag : String}
    (ends : Ends s (.keep identity content tag) calls (.error e) s' t) : Leaves s calls t s' := by
  cases ends with
  | call goes ends =>
      cases goes with
      | kept saved =>
          obtain ⟨first, last, rfl, rfl, told⟩ := ends_create ends
          refine .undone (s.online_of_savePayload _ saved) rfl fun j => ?_
          simpa [call?, Trace.ofCall?] using told j
      | unkept _ =>
          obtain ⟨rfl, -, rfl, rfl⟩ := ends_settled ends
          exact .unchanged fun id => by simp [call?, Trace.ofCall?]

theorem leaves_of_inherit {identity : Identity} {tag : String} {source : Document}
    (ends : Ends s (.inherit identity tag source) calls (.error e) s' t) : Leaves s calls t s' := by
  cases ends with
  | call goes ends =>
      cases goes with
      | inherited _ => cases (ends_settled ends).2.1
      | uninherited _ =>
          obtain ⟨rfl, -, rfl, rfl⟩ := ends_settled ends
          exact .unchanged fun id => by simp [call?, Trace.ofCall?]

theorem leaves_of_lookup {identity : Identity} {content : Bytes} {tag : String}
    (ends : Ends s (.lookup identity content tag) calls (.error e) s' t) :
    Leaves s calls t s' := by
  cases ends with
  | @call m _ _ _ _ _ _ _ _ _ goes ends =>
      have silent : ∀ id, Entry.call (.deletePayload id) ∉
          Trace.ofCall? (call? m.now (.lookup identity content tag)) ++ [] :=
        fun id => by simp [call?, Trace.ofCall?]
      cases goes with
      | known _ _ => cases (ends_settled ends).2.1
      | other _ _ _ | unknown _ _ => exact (leaves_of_keep ends).cons m silent
      | judged _ _ _ => exact (leaves_of_inherit ends).cons m silent
      | unread _ _ =>
          obtain ⟨rfl, -, rfl, rfl⟩ := ends_settled ends
          exact .unchanged fun id => by simp [call?, Trace.ofCall?]

theorem leaves_of_start {most : Nat} {r : Request}
    (ends : Ends s (start most r) calls (.error e) s' t) : Leaves s calls t s' := by
  revert ends
  refine start_of (P := fun u => Ends s u calls (.error e) s' t → Leaves s calls t s') ?_ ?_
  · intro _ ends
    obtain ⟨rfl, -, rfl, rfl⟩ := ends_settled ends
    exact .unchanged fun _ => List.not_mem_nil
  · intro content tag _ ends
    exact leaves_of_lookup ends

namespace Leaves

theorem records (leaves : Leaves s calls t s') : s'.records = s.records := by
  cases leaves with
  | unchanged _ => rfl
  | undone _ _ _ => exact Stores.records_deletePayload _ _ _

theorem kept_iff (leaves : Leaves s calls t s')
    (granted : ∀ id, .call (.deletePayload id) ∈ t → ∀ last ∈ calls.getLast?, last.Grants) :
    (∀ id, s'.payloads.kept.get? id = s.payloads.kept.get? id) ↔
      ∀ id, .call (.deletePayload id) ∈ t → s.payloads.kept.get? id = none := by
  cases leaves with
  | unchanged silent => exact ⟨fun _ id told => absurd told (silent id), fun _ _ => rfl⟩
  | @undone id bytes last on final told =>
      have held : (s.payloads.keep id bytes).kept.get? id = some bytes := by
        rw [Payloads.get?_keep, if_pos rfl]
      have deleted := Stores.deletePayload_granted last
        ({ s with payloads := s.payloads.keep id bytes } : Stores Payloads)
        (granted id ((told id).mpr rfl) last final) on held
      -- Under all other ids nothing has happened.
      have left : ∀ j, ((s.payloads.keep id bytes).drop id).kept.get? j =
          if j = id then none else s.payloads.kept.get? j := by
        intro j
        rw [Payloads.get?_drop, Payloads.get?_keep]
        split <;> rfl
      rw [deleted]
      simp only [left, told]
      constructor
      · rintro same j rfl
        exact ((same j).symm.trans (if_pos rfl))
      · intro free j
        split
        · next own => rw [free j own]
        · rfl

end Leaves

end Upload

namespace State

variable {s s' : State Payloads} {calls : List Moment} {t : Trace} {e : ServiceError}

theorem ends_of_run {i : Nat} {u : Upload} (found : s.uploads[i]? = some u)
    (ran : s.run (calls.map fun m => (m, .upload i)) = some (s', t))
    (failed : (s'.uploads[i]?).bind Upload.result? = some (.error e)) :
    Upload.Ends s.stores u calls (.error e) s'.stores t ∧ s'.scans = s.scans := by
  obtain ⟨ends, scans⟩ := ends_of_settled found ran (bind_result?_eq_some.mp failed)
  refine ⟨ends, ?_⟩
  -- A scan is asked for by a call that goes well, which is the last.
  rw [scans]
  simp [Upload.created?]

/-- A failed upload leaves records and scans as they were, and the bytes too if and only if it took
none away or took them away where there were none. -/
theorem failed_upload_keeps_iff {m : Moment} {r : Request}
    (ran : s.run (uninterrupted s.uploads.length m r calls) = some (s', t))
    (failed : (s'.uploads[s.uploads.length]?).bind Upload.result? = some (.error e)) :
    s'.stores.records = s.stores.records ∧ s'.scans = s.scans ∧
      ((∀ id, .call (.deletePayload id) ∈ t → ∀ last ∈ calls.getLast?, last.Grants) →
        ((∀ id, s'.stores.payloads.kept.get? id = s.stores.payloads.kept.get? id) ↔
          ∀ id, .call (.deletePayload id) ∈ t → s.stores.payloads.kept.get? id = none)) := by
  obtain ⟨next, now, later, moved, rest, rfl⟩ := run_cons_iff.mp ran
  obtain ⟨rfl, rfl⟩ := apply_submit moved
  obtain ⟨ends, scans⟩ := ends_of_run List.getElem?_concat_length rest failed
  have leaves := Upload.leaves_of_start ends
  exact ⟨leaves.records, scans, leaves.kept_iff⟩

/-- One content waits under two tags. -/
def twoTags : List (Moment × Action) :=
  calmly 0 [.submit (.under "a" [7]), .upload 0, .upload 0, .upload 0] ++
    calmly 1 [.submit (.under "b" [7]), .upload 1, .upload 1, .upload 1]

/-- The first of the two uploads comes again, and its record cannot be written. -/
def unwritten : List (Moment × Action) :=
  uninterrupted 2 (.calm default) (.under "a" [7])
    [.calm default, .calm default, ⟨default, none, some (.query "disk full")⟩, .calm default]

theorem unwritten_keeps_iff :
    ∃ p ∈ (State.idle .standard "engine" Stores.empty).run twoTags, ∃ q ∈ p.1.run unwritten,
      (∃ e, (q.1.uploads[2]?).bind Upload.result? = some (.error e)) ∧
      q.1.stores.records = p.1.stores.records ∧ q.1.scans = p.1.scans ∧
      ((∀ id, q.1.stores.payloads.kept.get? id = p.1.stores.payloads.kept.get? id) ↔
        ∀ id, .call (.deletePayload id) ∈ q.2 → p.1.stores.payloads.kept.get? id = none) := by
  obtain ⟨p, ran, arrived, q, failing, failed⟩ :
      ∃ p ∈ (State.idle .standard "engine" Stores.empty).run twoTags, p.1.uploads.length = 2 ∧
        ∃ q ∈ p.1.run unwritten, (q.1.uploads[2]?).bind Upload.result? =
          some (.error (.metadata (.query "disk full"))) := by decide +kernel
  rw [unwritten, ← arrived] at failing
  rw [← arrived] at failed
  obtain ⟨records, scans, kept⟩ := failed_upload_keeps_iff failing failed
  rw [arrived] at failing failed
  refine ⟨p, ran, q, failing, ⟨_, failed⟩, records, scans, kept ?_⟩
  rintro id - last ⟨⟩
  exact Moment.Calm.grants (by decide)

/-- A failed upload can take the bytes of a document that waits for its verdict. -/
theorem failed_upload_takes_pending_bytes :
    ∃ p ∈ (State.idle .standard "engine" Stores.empty).run twoTags, ∃ q ∈ p.1.run unwritten,
      (q.1.uploads[2]?).bind Upload.result? = some (.error (.metadata (.query "disk full"))) ∧
      ∃ d ∈ q.1.stores.records.documents, d.status = .pending ∧
        p.1.stores.payloads.kept.get? d.id = some [7] ∧
        q.1.stores.payloads.kept.get? d.id = none := by
  decide +kernel

end State

end Quarantine
