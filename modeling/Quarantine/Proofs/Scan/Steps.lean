import Quarantine.Proofs.Store.Calls
import Quarantine.Scan.Task

/-!
What a scan can do, said once: what each of its calls to a store, and what an answer of the engine,
can come to. Only two calls change a store, the writing of the verdict and the release of the bytes.
-/

namespace Quarantine.Scan

theorem retry_phase {P : Phase → Prop} {l : Ladder} {id : DocumentId} {attempt : Nat}
    {error : String}
    (resting : ∀ wait, P (.resting (attempt + 1) wait)) (ended : P .ended) :
    P (retry l id attempt error).1 := by
  unfold retry
  dsimp only
  split
  · exact resting _
  · exact ended

theorem calls_retry (l : Ladder) (id : DocumentId) (attempt : Nat) (error : String) :
    Trace.calls (retry l id attempt error).2 = [] := by
  unfold retry
  dsimp only
  split <;> rfl

theorem calls_afterReleasing (id : DocumentId) (deleted : Except StorageError Unit) :
    (afterReleasing id deleted).calls = [] := by
  unfold afterReleasing
  split
  · rfl
  · split <;> rfl

/-- What a call of a scan to a store can come to. -/
inductive Goes (c : ScanSettings) (engine : String) (m : Moment) (s : Stores Payloads)
    (id : DocumentId) : Phase → Phase → Stores Payloads → Trace → Prop
  | opened {source} (fetched : s.fetchPayload m id = .ok source) :
      Goes c engine m s id .opening (.analyzing 1 source) s [.call (.analyze source)]
  | unopened {e} (failed : s.fetchPayload m id = .error e) :
      Goes c engine m s id .opening .ended s [.notice (.scanUnreadable id e)]
  | reopened {attempt wait source} (fetched : s.fetchPayload m id = .ok source) :
      Goes c engine m s id (.resting attempt wait) (.analyzing attempt source) s
        [.call (.analyze source)]
  | retried {attempt wait e} (failed : s.fetchPayload m id = .error e) :
      Goes c engine m s id (.resting attempt wait)
        (retry c.ladder id attempt ("re-reading bytes failed: " ++ e.message)).1 s
        (retry c.ladder id attempt ("re-reading bytes failed: " ++ e.message)).2
  | recorded {attempt verdict d} (found : s.records.document? id = some d)
      (pending : d.isPending = true) :
      Goes c engine m s id (.recording attempt verdict) .releasing
        { s with records := s.records.judge id verdict.status m.now }
        [.audit (.verdictRecorded id verdict engine attempt)]
  | already {attempt verdict text}
      (refused : s.updateRecord m id verdict.status = (.error (.alreadyAnalyzed text), s)) :
      Goes c engine m s id (.recording attempt verdict) .releasing s [.notice (.verdictKept id)]
  | lost {attempt verdict e} (failed : s.updateRecord m id verdict.status = (.error e, s))
      (other : ∀ text, e ≠ .alreadyAnalyzed text) :
      Goes c engine m s id (.recording attempt verdict) .ended s
        [.audit (.verdictLost id verdict e)]
  | released (deleted : s.deletePayload m id =
        (.ok (), { s with payloads := s.payloads.drop id })) :
      Goes c engine m s id .releasing .ended { s with payloads := s.payloads.drop id }
        [.audit (.bytesReleased id)]
  | unreleased {e} (failed : s.deletePayload m id = (.error e, s)) :
      Goes c engine m s id .releasing .ended s (afterReleasing id (.error e))

theorem goes_of_step {c : ScanSettings} {engine : String} {m : Moment} {s s' : Stores Payloads}
    {scan next : Scan} {t : Trace} (stepped : scan.step c engine m s = some (next, s', t)) :
    next.id = scan.id ∧ Goes c engine m s scan.id scan.phase next.phase s' t := by
  obtain ⟨id, phase⟩ := scan
  cases phase with
  | queued => cases stepped
  | opening =>
      cases fetched : s.fetchPayload m id with
      | error e =>
          simp only [step, fetched, afterOpening] at stepped
          cases stepped
          exact ⟨rfl, .unopened fetched⟩
      | ok source =>
          simp only [step, fetched, afterOpening] at stepped
          cases stepped
          exact ⟨rfl, .opened fetched⟩
  | resting attempt wait =>
      cases fetched : s.fetchPayload m id with
      | error e =>
          simp only [step, fetched, afterRest] at stepped
          cases stepped
          exact ⟨rfl, .retried fetched⟩
      | ok source =>
          simp only [step, fetched, afterRest] at stepped
          cases stepped
          exact ⟨rfl, .reopened fetched⟩
  | analyzing attempt source => cases stepped
  | recording attempt verdict =>
      cases s.updateRecord_cases m id verdict.status with
      | inl failed =>
          obtain ⟨e, failed⟩ := failed
          cases e with
          | alreadyAnalyzed text =>
              simp only [step, failed, afterRecording] at stepped
              cases stepped
              exact ⟨rfl, .already failed⟩
          | notFound _ | alreadyExists _ | unavailable _ | query _ =>
              simp only [step, failed, afterRecording] at stepped
              cases stepped
              exact ⟨rfl, .lost failed nofun⟩
      | inr done =>
          obtain ⟨d, found, pending, done⟩ := done
          simp only [step, done, afterRecording] at stepped
          cases stepped
          exact ⟨rfl, .recorded found pending⟩
  | releasing =>
      cases s.deletePayload_cases m id with
      | inl failed =>
          obtain ⟨e, failed⟩ := failed
          simp only [step, failed] at stepped
          cases stepped
          exact ⟨rfl, .unreleased failed⟩
      | inr deleted =>
          simp only [step, deleted, afterReleasing] at stepped
          cases stepped
          exact ⟨rfl, .released deleted⟩
  | ended => cases stepped
  | crashed => cases stepped

theorem Goes.online {c : ScanSettings} {engine : String} {m : Moment} {s s' : Stores Payloads}
    {id : DocumentId} {phase next : Phase} {t : Trace}
    (goes : Goes c engine m s id phase next s' t) (online : s.Online) : s'.Online := by
  cases goes <;> exact online

theorem Goes.lasts {c : ScanSettings} {engine : String} {m : Moment} {s s' : Stores Payloads}
    {id : DocumentId} {phase next : Phase} {t : Trace}
    (goes : Goes c engine m s id phase next s' t) : s.records.Lasts s'.records := by
  cases goes with
  | recorded found pending => exact .judge found pending _ _
  | opened _ | unopened _ | reopened _ | retried _ | already _ | lost _ _ | released _
  | unreleased _ => exact .rfl

/-- What an answer of the engine can come to. Only a verdict leads on to the records. -/
theorem answer_cases {c : ScanSettings} {engine : String} {a : Answer} {scan next : Scan}
    {t : Trace} (answered : scan.answer c engine a = some (next, t)) :
    next.id = scan.id ∧ ∃ attempt source, scan.phase = .analyzing attempt source ∧
      ((∃ v, a = .verdict v ∧ next.phase = .recording attempt v) ∨
        (∃ wait, next.phase = .resting (attempt + 1) wait) ∨ next.phase.isOver = true) := by
  obtain ⟨id, phase⟩ := scan
  cases phase with
  | analyzing attempt source =>
      cases answered
      refine ⟨rfl, attempt, source, rfl, ?_⟩
      have again : ∀ error, (∃ wait, (retry c.ladder id attempt error).1 =
          .resting (attempt + 1) wait) ∨ (retry c.ladder id attempt error).1.isOver = true :=
        fun error => retry_phase
          (P := fun phase => (∃ wait, phase = .resting (attempt + 1) wait) ∨ phase.isOver = true)
          (fun wait => .inl ⟨wait, rfl⟩) (.inr rfl)
      cases a with
      | verdict v => exact .inl ⟨v, rfl, rfl⟩
      | failed e =>
          refine .inr ?_
          dsimp only [afterAnswer]
          split
          · exact again e.message
          · exact .inr rfl
      | late => exact .inr (again _)
      | crashed => exact .inr (.inr rfl)
  | queued | opening | resting _ _ | recording _ _ | releasing | ended | crashed => cases answered

/-- An answer leads to no call. -/
theorem calls_of_answer {c : ScanSettings} {engine : String} {a : Answer} {scan next : Scan}
    {t : Trace} (answered : scan.answer c engine a = some (next, t)) : t.calls = [] := by
  obtain ⟨id, phase⟩ := scan
  cases phase with
  | analyzing attempt source =>
      cases answered
      dsimp only
      cases a with
      | failed e =>
          dsimp only [afterAnswer]
          split
          · exact calls_retry _ _ _ _
          · rfl
      | late => exact calls_retry _ _ _ _
      | verdict v | crashed => rfl
  | queued | opening | resting _ _ | recording _ _ | releasing | ended | crashed => cases answered

end Quarantine.Scan
