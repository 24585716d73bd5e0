import Quarantine.Proofs.Log.Ledger
import Quarantine.Proofs.Service.Finality
import Quarantine.Proofs.Upload.Steps
import Quarantine.Proofs.Scan.Steps

/-!
The audit trail next to the records. Every action makes at most one entry, and it changes the
records just if the entry tells of the change. What can be told of the records from the trail is
carried along a run by these cases alone.
-/

namespace Quarantine

def Action.uploads : Action → Bool
  | .upload _ => true
  | _ => false

/-- What an action adds to the audit trail, next to what it does to the records. Records are added
and taken away only by those who may. -/
inductive Records.Books (adding removing : Bool) (r : Records) : List Audit → Records → Prop
  | silent : Books adding removing r [] r
  | aside {a} (aside : a.isAside = true) : Books adding removing r [a] r
  | created {d size} (allowed : adding = true) (free : r.document? d.id = none)
      (pending : d.status = .pending) :
      Books adding removing r [.documentCreated d size] (r.add d)
  | propagated {d source} (allowed : adding = true) (free : r.document? d.id = none) :
      Books adding removing r [.verdictPropagated d source] (r.add d)
  | recorded {id d v engine attempt time} (found : r.document? id = some d) :
      Books adding removing r [.verdictRecorded id v engine attempt] (r.judge id v.status time)
  | purged {cutoff} (allowed : removing = true) :
      Books adding removing r
        [.purgeCompleted (r.documents.countP fun d => d.isPurgeable cutoff) cutoff]
        (r.purged cutoff)

namespace Audit

variable {a : Audit} (aside : a.isAside = true)
include aside

theorem post_of_isAside (known : DocumentId → Option Status) : a.post known = known := by
  cases a with
  | bytesReleased _ | scanAbandoned _ _ _ | verdictLost _ _ _ => rfl
  | documentCreated _ _ | verdictPropagated _ _ | verdictRecorded _ _ _ _ | purgeCompleted _ _ =>
      cases aside

theorem creates_of_isAside (id : DocumentId) : a.creates id = false := by
  cases a with
  | bytesReleased _ | scanAbandoned _ _ _ | verdictLost _ _ _ => rfl
  | documentCreated _ _ | verdictPropagated _ _ | verdictRecorded _ _ _ _ | purgeCompleted _ _ =>
      cases aside

end Audit

namespace Records

variable {adding removing : Bool} {r r' : Records} {t : Trace}

/-- The status of the record under an id, if there is one. -/
def statuses (r : Records) (id : DocumentId) : Option Status :=
  (r.document? id).map (·.status)

theorem statuses_add (d : Document) :
    (r.add d).statuses = fun id => if id = d.id then some d.status else r.statuses id := by
  funext id
  rw [statuses, document?_add]
  by_cases same : d.id = id
  · rw [if_pos same, if_pos same.symm, Option.map_some]
  · rw [if_neg same, if_neg (Ne.symm same), statuses]

theorem statuses_judge {id : DocumentId} {d : Document} (found : r.document? id = some d)
    (status : Status) (time : Instant) :
    (r.judge id status time).statuses = fun j => if j = id then some status else r.statuses j := by
  funext j
  rw [statuses, document?_judge, Option.map_map]
  by_cases same : j = id
  · subst same
    simp [found, id_of_document? found]
  · rw [if_neg same, statuses]
    refine Option.map_congr fun e there => ?_
    rw [Function.comp_apply, if_neg fun own => same ((id_of_document? there).symm.trans own)]

theorem Books.post (books : r.Books adding false t.audits r') :
    t.audits.foldl Audit.post r.statuses = r'.statuses := by
  generalize t.audits = told at books
  cases books with
  | silent => rfl
  | aside aside => exact Audit.post_of_isAside aside _
  | created _ _ pending => simp only [List.foldl, Audit.post, statuses_add, pending]
  | propagated _ _ => simp only [List.foldl, Audit.post, statuses_add]
  | recorded found => simp only [List.foldl, Audit.post, statuses_judge found]
  | purged allowed => cases allowed

theorem Books.length (books : r.Books adding removing t.audits r') :
    r'.documents.length + t.removed =
      r.documents.length + t.tells .documentCreated + t.tells .verdictPropagated := by
  simp only [Trace.removed, Trace.tells]
  generalize t.audits = told at books
  cases books with
  | silent => rfl
  | @aside a aside => cases a <;> first | rfl | cases aside
  | created _ _ _ => simp [add, Audit.removed, Audit.kind]
  | propagated _ _ => simp [add, Audit.removed, Audit.kind]
  | recorded found => simp [judge, Audit.removed, Audit.kind]
  | @purged cutoff _ => simpa [Audit.removed, Audit.kind] using r.length_purged cutoff

/-- What is told to have been created was not there before, and it is now. -/
theorem Books.created_cases (books : r.Books adding removing t.audits r') (id : DocumentId) :
    t.created id = 0 ∨
      (t.created id = 1 ∧ r.document? id = none ∧ (r'.document? id).isSome) := by
  simp only [Trace.created]
  generalize t.audits = told at books
  cases books with
  | silent | propagated _ _ | recorded _ | purged _ => exact .inl rfl
  | aside aside => exact .inl (by simp [Audit.creates_of_isAside aside])
  | @created d size _ free pending =>
      by_cases own : d.id = id
      · refine .inr ⟨by simp [Audit.creates, own], own ▸ free, ?_⟩
        rw [document?_add, if_pos own]
        rfl
      · exact .inl (by simp [Audit.creates, own])

theorem Books.created_eq_zero (books : r.Books false removing t.audits r') (id : DocumentId) :
    t.created id = 0 := by
  simp only [Trace.created]
  generalize t.audits = told at books
  cases books with
  | silent | recorded _ | purged _ => rfl
  | aside aside => simp [Audit.creates_of_isAside aside]
  | created allowed _ _ | propagated allowed _ => cases allowed

end Records

namespace Upload

theorem audits_afterDiscard (id : DocumentId) (deleted : Except StorageError Unit) :
    (afterDiscard id deleted).audits = [] := by
  unfold afterDiscard
  split
  · rfl
  · split <;> rfl

theorem Goes.books {m : Moment} {s s' : Stores Payloads} {u next : Upload} {t : Trace}
    (goes : Goes m s u next s' t) : s.records.Books true false t.audits s'.records := by
  cases goes with
  | inherited free => exact .propagated rfl free
  | created free => exact .created rfl free rfl
  | undiscarded _ =>
      rw [audits_afterDiscard]
      exact .silent
  | known _ _ | other _ _ _ | judged _ _ _ | unknown _ _ | unread _ _ | uninherited _ | kept _
  | unkept _ | taken _ _ | uncreated _ _ | winnerPending _ _ | winnerJudged _ _ | winnerUnread _
  | discarded _ => exact .silent

end Upload

namespace Scan

/-- After a failed attempt either there is another one, or it is told that the scan gave up. -/
theorem retry_cases (l : Ladder) (id : DocumentId) (attempt : Nat) (error : String) :
    ((∃ wait, (retry l id attempt error).1 = .resting (attempt + 1) wait) ∧
        Trace.audits (retry l id attempt error).2 = []) ∨
      ((retry l id attempt error).1 = .ended ∧
        Trace.audits (retry l id attempt error).2 = [.scanAbandoned id attempt error]) := by
  unfold retry
  dsimp only
  split
  · next wait _ => exact .inl ⟨⟨wait, rfl⟩, rfl⟩
  · exact .inr ⟨rfl, rfl⟩

theorem audits_afterReleasing_error (id : DocumentId) (e : StorageError) :
    (afterReleasing id (.error e)).audits = [] := by
  dsimp only [afterReleasing]
  split <;> rfl

variable {c : ScanSettings} {engine : String}

theorem Goes.books {m : Moment} {s s' : Stores Payloads} {id : DocumentId} {phase next : Phase}
    {t : Trace} (goes : Goes c engine m s id phase next s' t) :
    s.records.Books false false t.audits s'.records := by
  cases goes with
  | recorded found pending => exact .recorded found
  | lost _ _ | released _ => exact .aside rfl
  | @retried attempt _ e _ =>
      obtain ⟨-, told⟩ | ⟨-, told⟩ :=
        retry_cases c.ladder id attempt ("re-reading bytes failed: " ++ e.message)
      · rw [told]
        exact .silent
      · rw [told]
        exact .aside rfl
  | unreleased _ =>
      rw [audits_afterReleasing_error]
      exact .silent
  | opened _ | unopened _ | reopened _ | already _ => exact .silent

/-- An answer after which a scan is over without a verdict is told of, unless the scan broke down
with the engine. -/
theorem answer_told {a : Answer} {scan next : Scan} {t : Trace}
    (answered : scan.answer c engine a = some (next, t)) :
    (t.audits = [] ∧ next.phase ≠ .ended) ∨
      (next.phase = .ended ∧
        ∃ attempts error, t.audits = [.scanAbandoned scan.id attempts error]) := by
  obtain ⟨id, phase⟩ := scan
  cases phase with
  | analyzing attempt source =>
      cases answered
      have again : ∀ error,
          (Trace.audits (retry c.ladder id attempt error).2 = [] ∧
              (retry c.ladder id attempt error).1 ≠ .ended) ∨
            ((retry c.ladder id attempt error).1 = .ended ∧ ∃ attempts error',
              Trace.audits (retry c.ladder id attempt error).2 =
                [.scanAbandoned id attempts error']) := by
        intro error
        obtain ⟨⟨wait, resting⟩, told⟩ | ⟨ended, told⟩ := retry_cases c.ladder id attempt error
        · exact .inl ⟨told, resting ▸ nofun⟩
        · exact .inr ⟨ended, attempt, error, told⟩
      cases a with
      | verdict v => exact .inl ⟨rfl, nofun⟩
      | failed e =>
          dsimp only [afterAnswer]
          split
          · exact again e.message
          · exact .inr ⟨rfl, attempt, e.message, rfl⟩
      | late => exact again _
      | crashed => exact .inl ⟨rfl, nofun⟩
  | queued | opening | resting _ _ | recording _ _ | releasing | ended | crashed => cases answered

end Scan

theorem Retention.books_of_sweep {m : Moment} {ttl : Span} {s s' : Stores Payloads} {t : Trace}
    (swept : sweepQuietly m ttl s = some (s', t)) :
    s.records.Books false true t.audits s'.records := by
  obtain ⟨cutoff, rfl, rfl⟩ := eq_of_sweepQuietly swept
  obtain ⟨e, failed⟩ | purged := s.purgeRecords_cases m cutoff
  · rw [failed]
    exact .silent
  · rw [purged]
    exact .purged rfl

namespace State

variable {s s' : State Payloads} {m : Moment} {a : Action} {t : Trace}

@[simp] theorem audits_ofCall? (c : Option Call) (t : Trace) :
    Trace.audits (Trace.ofCall? c ++ t) = t.audits := by
  cases c <;> rfl

theorem books_of_apply (moved : s.apply m a = some (s', t)) :
    s.stores.records.Books a.uploads a.sweeps t.audits s'.stores.records := by
  cases a with
  | submit r =>
      obtain ⟨rfl, rfl⟩ := apply_submit moved
      exact .silent
  | upload i =>
      obtain ⟨u, next, stores, trace, -, stepped, rfl, rfl⟩ := apply_upload moved
      rw [scheduleCreated_stores, audits_ofCall?]
      exact (Upload.goes_of_step stepped).books
  | drop i =>
      obtain ⟨-, rfl, rfl⟩ := apply_drop moved
      exact .silent
  | schedule id =>
      obtain ⟨rfl, rfl⟩ := apply_schedule moved
      exact .silent
  | enter i =>
      obtain ⟨scan, -, -, -, rfl, rfl⟩ := apply_enter moved
      rw [askPlace_stores]
      exact .silent
  | scan i =>
      obtain ⟨scan, next, stores, trace, -, stepped, rfl, rfl⟩ := apply_scan moved
      rw [putScan_stores, audits_ofCall?]
      exact (Scan.goes_of_step stepped).2.books
  | answer i answer =>
      obtain ⟨scan, next, -, answered, rfl⟩ := apply_answer moved
      rw [putScan_stores]
      obtain ⟨told, -⟩ | ⟨-, attempts, error, told⟩ := Scan.answer_told answered
      · rw [told]
        exact .silent
      · rw [told]
        exact .aside rfl
  | sweep ttl =>
      obtain ⟨stores, swept, rfl⟩ := apply_sweep moved
      exact Retention.books_of_sweep swept

end State

end Quarantine
