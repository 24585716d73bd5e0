import Quarantine.Proofs.Service.Run
import Quarantine.Proofs.Store.Calls
import Quarantine.Proofs.Store.History

/-!
What a run does to the records. Every action makes at most one call to the store of records, and only
a sweep makes one that takes records away. So a record that is not swept away stays that of its
upload, and it gets its verdict at most once. The payloads may be kept in any store.
-/

namespace Quarantine

def Action.sweeps : Action → Bool
  | .sweep _ => true
  | _ => false

/-- No call to the records, or one. Calls that take records away are for those who may. -/
inductive Records.Moves (removing : Bool) (r : Records) : Records → Prop
  | still : Moves removing r r
  | called (op : Operation) (allowed : op.removes = true → removing = true) :
      Moves removing r (op.perform r).2

namespace Records.Moves

variable {removing : Bool} {r r' : Records}

theorem distinct (moves : r.Moves removing r') (distinct : r.Distinct) : r'.Distinct := by
  cases moves with
  | still => exact distinct
  | called op _ => exact distinct.perform op

theorem continues (moves : r.Moves removing r') (distinct : r.Distinct) {id : DocumentId}
    {d : Document} (found : r.document? id = some d)
    (spared : removing = true → r.keeps id r' = true) :
    ∃ e, r'.document? id = some e ∧ d.Continues e := by
  cases moves with
  | still => exact ⟨d, found, .rfl⟩
  | called op allowed => exact distinct.continues found fun removes => spared (allowed removes)

end Records.Moves

section Tasks

variable {σ : Type} {m : Moment} {s s' : Stores σ} {t : Trace}

theorem Stores.moves_saveRecord (d : Document) :
    s.records.Moves false (s.saveRecord m d).2.records := by
  unfold saveRecord
  cases m.metadata with
  | some e => exact .still
  | none => exact .called (.save d) fun removes => by cases removes

theorem Stores.moves_updateRecord (id : DocumentId) (status : Status) :
    s.records.Moves false (s.updateRecord m id status).2.records := by
  unfold updateRecord
  cases m.metadata with
  | some e => exact .still
  | none => exact .called (.update id status m.now) fun removes => by cases removes

theorem Retention.moves_of_sweep {ttl : Span} (swept : sweepQuietly m ttl s = some (s', t)) :
    s.records.Moves true s'.records := by
  obtain ⟨cutoff, rfl, -⟩ := eq_of_sweepQuietly swept
  rw [Stores.purgeRecords]
  cases m.metadata with
  | some e => exact .still
  | none => exact .called (.purge cutoff) fun _ => rfl

variable [PayloadStore σ]

theorem Upload.moves_of_step {u next : Upload} (stepped : u.step m s = some (next, s', t)) :
    s.records.Moves false s'.records := by
  cases u with
  | lookup identity content tag | inspect id =>
      cases stepped
      exact .still
  | inherit identity tag source | create identity tag =>
      cases stepped
      exact Stores.moves_saveRecord _
  | keep identity content tag =>
      simp only [step] at stepped
      split at stepped <;>
        · cases stepped
          rw [Stores.records_savePayload]
          exact .still
  | discard id result =>
      cases stepped
      rw [Stores.records_deletePayload]
      exact .still
  | settled result | dropped => cases stepped

theorem Scan.moves_of_step {c : ScanSettings} {engine : String} {scan next : Scan}
    (stepped : scan.step c engine m s = some (next, s', t)) :
    s.records.Moves false s'.records := by
  obtain ⟨id, phase⟩ := scan
  cases phase with
  | opening | resting attempt wait =>
      cases stepped
      exact .still
  | recording attempt verdict =>
      cases stepped
      exact Stores.moves_updateRecord _ _
  | releasing =>
      cases stepped
      rw [Stores.records_deletePayload]
      exact .still
  | queued | analyzing attempt source | ended | crashed => cases stepped

end Tasks

namespace State

variable {σ : Type} [PayloadStore σ] {s s' : State σ} {m : Moment} {a : Action} {t : Trace}

theorem moves_of_apply (moved : s.apply m a = some (s', t)) :
    s.stores.records.Moves a.sweeps s'.stores.records := by
  cases a with
  | submit r =>
      obtain ⟨rfl, -⟩ := apply_submit moved
      exact .still
  | upload i =>
      obtain ⟨u, next, stores, trace, -, stepped, rfl, -⟩ := apply_upload moved
      rw [scheduleCreated_stores]
      exact Upload.moves_of_step stepped
  | drop i =>
      obtain ⟨-, rfl, -⟩ := apply_drop moved
      exact .still
  | schedule id =>
      obtain ⟨rfl, -⟩ := apply_schedule moved
      exact .still
  | enter i =>
      obtain ⟨scan, -, -, -, rfl, -⟩ := apply_enter moved
      rw [askPlace_stores]
      exact .still
  | scan i =>
      obtain ⟨scan, next, stores, trace, -, stepped, rfl, -⟩ := apply_scan moved
      rw [putScan_stores]
      exact Scan.moves_of_step stepped
  | answer i answer =>
      obtain ⟨scan, next, -, -, rfl⟩ := apply_answer moved
      rw [putScan_stores]
      exact .still
  | sweep ttl =>
      obtain ⟨stores, swept, rfl⟩ := apply_sweep moved
      exact Retention.moves_of_sweep swept

theorem distinct_of_run {s₀ : State σ} {steps : List (Moment × Action)}
    (distinct : s₀.stores.records.Distinct) (ran : s₀.run steps = some (s, t)) :
    s.stores.records.Distinct := by
  refine run_induction (P := fun _ s _ => s.stores.records.Distinct) distinct ?_ ran
  intro steps s t x s' t' _ distinct moved
  exact (moves_of_apply moved).distinct distinct

/-- No sweep of a run takes away the record under an id. -/
def spares (id : DocumentId) (s : State σ) : List (Moment × Action) → Bool
  | [] => true
  | (m, a) :: rest =>
    match s.apply m a with
    | some (next, _) =>
      (!a.sweeps || s.stores.records.keeps id next.stores.records) && next.spares id rest
    | none => true

theorem spares_of_unswept {id : DocumentId} {steps : List (Moment × Action)}
    (unswept : steps.any (·.2.sweeps) = false) : s.spares id steps = true := by
  induction steps generalizing s with
  | nil => rfl
  | cons x steps ih =>
      obtain ⟨m, a⟩ := x
      rw [List.any_cons, Bool.or_eq_false_iff] at unswept
      rw [spares]
      cases s.apply m a with
      | none => rfl
      | some next => simp [unswept.1, ih unswept.2]

theorem spares_concat {s₀ : State σ} {id : DocumentId} {steps : List (Moment × Action)}
    (ran : s₀.run steps = some (s, t)) (x : Moment × Action) :
    s₀.spares id (steps ++ [x]) = (s₀.spares id steps && s.spares id [x]) := by
  induction steps generalizing s₀ t with
  | nil =>
      cases ran
      rfl
  | cons y steps ih =>
      obtain ⟨next, now, later, moved, rest, -⟩ := run_cons_iff.mp ran
      simp only [List.cons_append, spares, moved, ih rest, Bool.and_assoc]

theorem spares_cons {id : DocumentId} {rest : List (Moment × Action)}
    (moved : s.apply m a = some (s', t)) :
    s.spares id ((m, a) :: rest) = true ↔
      (a.sweeps = true → s.stores.records.keeps id s'.stores.records = true) ∧
        s'.spares id rest = true := by
  rw [spares, moved, Bool.and_eq_true]
  cases a.sweeps <;> simp

/-- A record stays under its id, unless a sweep takes it away. -/
theorem keeps_of_apply {id : DocumentId} (distinct : s.stores.records.Distinct)
    (moved : s.apply m a = some (s', t)) (spared : s.spares id [(m, a)] = true) :
    s.stores.records.keeps id s'.stores.records = true := by
  refine Records.keeps_iff.mpr fun stands => ?_
  obtain ⟨d, found⟩ := Option.isSome_iff_exists.mp stands
  obtain ⟨e, found, -⟩ :=
    (moves_of_apply moved).continues distinct found ((spares_cons moved).mp spared).1
  rw [found]
  rfl

/-- How often the record under an id gets a verdict in a run. -/
def verdicts (id : DocumentId) (s : State σ) : List (Moment × Action) → Nat
  | [] => 0
  | (m, a) :: rest =>
    match s.apply m a with
    | some (next, _) =>
      (if (s.stores.records.document? id).any (·.isPending) ∧
          (next.stores.records.document? id).any (!·.isPending) then 1 else 0) +
        next.verdicts id rest
    | none => 0

theorem verdicts_eq_zero {id : DocumentId} {d : Document} {rest : List (Moment × Action)}
    (distinct : s.stores.records.Distinct) (spared : s.spares id rest = true)
    (found : s.stores.records.document? id = some d) (judged : d.isPending = false) :
    s.verdicts id rest = 0 := by
  induction rest generalizing s d with
  | nil => rfl
  | cons x rest ih =>
      obtain ⟨m, a⟩ := x
      rw [verdicts]
      cases moved : s.apply m a with
      | none => rfl
      | some next =>
          obtain ⟨next, t⟩ := next
          obtain ⟨kept, spared⟩ := (spares_cons moved).mp spared
          have moves := moves_of_apply moved
          obtain ⟨e, found', continues⟩ := moves.continues distinct found kept
          simp [found, judged, ih (moves.distinct distinct) spared found' (continues.isPending judged)]

/-- As long as it is not swept away, a record gets a verdict at most once. -/
theorem verdicts_le_one {id : DocumentId} {rest : List (Moment × Action)}
    (distinct : s.stores.records.Distinct) (spared : s.spares id rest = true) :
    s.verdicts id rest ≤ 1 := by
  induction rest generalizing s with
  | nil => exact Nat.zero_le 1
  | cons x rest ih =>
      obtain ⟨m, a⟩ := x
      rw [verdicts]
      cases moved : s.apply m a with
      | none => exact Nat.zero_le 1
      | some next =>
          obtain ⟨next, t⟩ := next
          obtain ⟨-, spared⟩ := (spares_cons moved).mp spared
          have distinct := (moves_of_apply moved).distinct distinct
          dsimp only
          split
          · next given =>
              -- The verdict is there now, so none follows.
              obtain ⟨e, found, judged⟩ := (Option.any_eq_true ..).mp given.2
              have none := verdicts_eq_zero distinct spared found (by simpa using judged)
              omega
          · have := ih distinct spared
            omega

/-- From the call that saves a record to the one that takes it away, nothing in it changes but the
verdict that it still lacks. In a run of a service it gets that at most once. -/
theorem verdict_is_final (c : Config) (engine : String) (payloads : σ)
    (before : List Records.Operation) (id : DocumentId) :
    (∀ d during, (Records.empty.after before).document? id = some d →
        (Records.empty.after before).spares id during = true →
        ∃ e, ((Records.empty.after before).after during).document? id = some e ∧ d.Continues e) ∧
      (∀ status time j, j ≠ id →
        ((Records.empty.after before).update id status time).2.document? j =
          (Records.empty.after before).document? j) ∧
      (∀ op e, (Records.Operation.perform (Records.empty.after before) op).1 = .error e →
        (Records.Operation.perform (Records.empty.after before) op).2 =
          Records.empty.after before) ∧
      ∀ steps s t life, (State.idle c engine ⟨payloads, .empty⟩).run steps = some (s, t) →
        s.spares id life = true → s.verdicts id life ≤ 1 := by
  have distinct : (Records.empty.after before).Distinct := Records.distinct_empty.after before
  refine ⟨?kept, ?others, ?failed, ?once⟩
  case kept =>
    intro d during found spared
    exact distinct.continues_after found spared
  case others =>
    intro status time j other
    exact Records.document?_update other status time
  case failed =>
    intro op e failed
    exact Records.Operation.perform_error failed
  case once =>
    intro steps s t life ran spared
    exact verdicts_le_one (distinct_of_run Records.distinct_empty ran) spared

/-- A record is saved, and so is another. -/
def saved : List Records.Operation :=
  [.save (.fresh ⟨"a"⟩ "hash" "tag" default), .save (.fresh ⟨"b"⟩ "hash" "other" default)]

/-- A record gets a verdict, and all that is tried later comes to nothing. -/
def tried : List Records.Operation :=
  [.update ⟨"a"⟩ .clean default, .update ⟨"a"⟩ .infected default,
    .save (.fresh ⟨"a"⟩ "elsewhere" "tag" default), .switch false, .delete ⟨"a"⟩, .switch true,
    .purge default, .delete ⟨"b"⟩]

/-- Two scans of one document have its bytes, and each of them gets a verdict of its own. -/
def rivals : List (Moment × Action) :=
  calmly 0 [.schedule (Identity.contentId [7] ""), .enter 0, .enter 1, .scan 0, .scan 1,
    .answer 0 (.verdict .clean), .answer 1 (.verdict (.infected "x")), .scan 0, .scan 1]

theorem rivals_verdict_is_final :
    (∃ e, ((Records.empty.after saved).after tried).document? ⟨"a"⟩ = some e ∧
        Document.Continues ⟨⟨"a"⟩, "hash", "tag", .pending, none, default⟩ e) ∧
      ∃ p ∈ (State.idle .standard "engine" (⟨.empty, .empty⟩ : Stores Payloads)).run
          (calmly 0 [.submit (.ofBytes [7]), .upload 0, .upload 0, .upload 0]),
        p.1.spares (Identity.contentId [7] "") rivals = true ∧
          0 < p.1.verdicts (Identity.contentId [7] "") rivals ∧
          p.1.verdicts (Identity.contentId [7] "") rivals ≤ 1 := by
  obtain ⟨p, ran, spared, judged⟩ :
      ∃ p ∈ (State.idle .standard "engine" (⟨.empty, .empty⟩ : Stores Payloads)).run
          (calmly 0 [.submit (.ofBytes [7]), .upload 0, .upload 0, .upload 0]),
        p.1.spares (Identity.contentId [7] "") rivals = true ∧
          0 < p.1.verdicts (Identity.contentId [7] "") rivals := by decide +kernel
  obtain ⟨kept, -⟩ := verdict_is_final Config.standard "engine" Payloads.empty saved ⟨"a"⟩
  obtain ⟨-, -, -, once⟩ := verdict_is_final Config.standard "engine" Payloads.empty saved
    (Identity.contentId [7] "")
  exact ⟨kept _ tried rfl (by decide +kernel), p, ran, spared, judged,
    once _ p.1 p.2 rivals ran spared⟩

end State

end Quarantine
