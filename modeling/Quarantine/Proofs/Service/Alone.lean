import Quarantine.Proofs.Service.Run
import Quarantine.Proofs.Upload.Steps

/-!
An upload that is left alone: it makes its calls one after the other, each at its own moment, and
nothing else goes on meanwhile. Whatever its calls meet, it comes to its end, after five of them at
the latest.
-/

namespace Quarantine

namespace Upload

/-- An upload makes its calls, each at its own moment, and comes to its end. -/
inductive Ends : Stores Payloads → Upload → List Moment → Except ServiceError Outcome →
    Stores Payloads → Trace → Prop
  | settled {s result} : Ends s (.settled result) [] result s []
  | call {m s u next s' t calls result s'' later} (goes : Goes m s u next s' t)
      (ends : Ends s' next calls result s'' later) :
      Ends s u (m :: calls) result s'' (Trace.ofCall? (u.call? m.now) ++ t ++ later)

section Ends

variable {s s' : Stores Payloads} {calls : List Moment} {t : Trace}

theorem ends_settled {result result' : Except ServiceError Outcome}
    (ends : Ends s (.settled result) calls result' s' t) :
    calls = [] ∧ result' = result ∧ s' = s ∧ t = [] := by
  cases ends with
  | settled => exact ⟨rfl, rfl, rfl, rfl⟩
  | call goes _ => cases goes

theorem ends_discard {id : DocumentId} {result result' : Except ServiceError Outcome}
    (ends : Ends s (.discard id result) calls result' s' t) :
    ∃ last, calls = [last] ∧ result' = result ∧ s' = (s.deletePayload last id).2 ∧
      ∀ j, .call (.deletePayload j) ∈ t ↔ j = id := by
  cases ends with
  | @call m _ _ _ _ _ _ _ _ _ goes ends =>
      refine ⟨m, ?_⟩
      cases goes with
      | discarded deleted =>
          obtain ⟨rfl, rfl, rfl, rfl⟩ := ends_settled ends
          refine ⟨rfl, rfl, by rw [deleted], ?_⟩
          simp [call?, Trace.ofCall?]
      | @undiscarded _ _ e failed =>
          obtain ⟨rfl, rfl, rfl, rfl⟩ := ends_settled ends
          refine ⟨rfl, rfl, by rw [failed], ?_⟩
          simp only [call?, Trace.ofCall?, afterDiscard]
          split <;> simp [Entry.notice]

end Ends

section Progress

variable {σ : Type} [PayloadStore σ] {m : Moment} {s s' : Stores σ} {u next : Upload} {t : Trace}

theorem result?_eq_some {result : Except ServiceError Outcome} :
    u.result? = some result ↔ u = .settled result := by
  cases u <;> simp [result?]

theorem exists_step (unfinished : u.isOver = false) (m : Moment) (s : Stores σ) :
    ∃ next s' t, u.step m s = some (next, s', t) := by
  cases u with
  | lookup _ _ _ | inherit _ _ _ | create _ _ | inspect _ | discard _ _ => exact ⟨_, _, _, rfl⟩
  | keep identity content tag =>
      simp only [step]
      split <;> exact ⟨_, _, _, rfl⟩
  | settled _ | dropped => cases unfinished

/-- Every call brings an upload nearer to its end, and only its caller drops it. -/
theorem nearer_of_step (stepped : u.step m s = some (next, s', t)) :
    next.rank < u.rank ∧ next ≠ .dropped := by
  cases u with
  | lookup identity content tag =>
      cases stepped
      unfold afterLookup
      repeat' split
      all_goals simp [rank]
  | inherit identity tag source =>
      cases stepped
      unfold afterInherit
      split <;> simp [rank]
  | keep identity content tag =>
      simp only [step] at stepped
      split at stepped <;> cases stepped <;> simp [rank]
  | create identity tag =>
      cases stepped
      unfold afterCreate
      repeat' split
      all_goals simp [rank]
  | inspect id =>
      cases stepped
      unfold afterInspect
      repeat' split
      all_goals simp [rank]
  | discard id result =>
      cases stepped
      simp [rank]
  | settled _ | dropped => cases stepped

theorem unfinished_of_step (stepped : u.step m s = some (next, s', t)) : u.isOver = false := by
  cases u with
  | lookup _ _ _ | inherit _ _ _ | keep _ _ _ | create _ _ | inspect _ | discard _ _ => rfl
  | settled _ | dropped => cases stepped

theorem settled_of_isOver (live : u ≠ .dropped) (finished : u.isOver = true) :
    ∃ result, u = .settled result := by
  cases u with
  | settled result => exact ⟨result, rfl⟩
  | dropped => exact absurd rfl live
  | lookup _ _ _ | inherit _ _ _ | keep _ _ _ | create _ _ | inspect _ | discard _ _ => cases finished

end Progress

end Upload

namespace State

section Progress

variable {σ : Type} [PayloadStore σ] {s : State σ}

omit [PayloadStore σ] in
theorem bind_result?_eq_some {i : Nat} {result : Except ServiceError Outcome} :
    (s.uploads[i]?).bind Upload.result? = some result ↔ s.uploads[i]? = some (.settled result) := by
  rw [Option.bind_eq_some_iff]
  constructor
  · rintro ⟨u, found, settled⟩
    rw [found, Upload.result?_eq_some.mp settled]
  · intro found
    exact ⟨_, found, rfl⟩

/-- An upload that is not over can make its next call, and is nearer to its end then. -/
theorem upload_goes_on {i : Nat} {u : Upload} (found : s.uploads[i]? = some u)
    (unfinished : u.isOver = false) (m : Moment) :
    ∃ next s' t, s.apply m (.upload i) = some (s', t) ∧ s'.uploads[i]? = some next ∧
      next.rank < u.rank ∧ next ≠ .dropped := by
  obtain ⟨next, stores, trace, stepped⟩ := Upload.exists_step unfinished m s.stores
  obtain ⟨s', moved, -, placed⟩ := apply_upload_of_step found stepped
  exact ⟨next, s', _, moved, placed, Upload.nearer_of_step stepped⟩

/-- An upload that has no more calls left than there are moments comes to its end. -/
theorem settles {i : Nat} {u : Upload} (found : s.uploads[i]? = some u) (live : u ≠ .dropped)
    {calls : List Moment} (enough : u.rank ≤ calls.length) :
    ∃ used, used <+: calls ∧ ∃ s' t result,
      s.run (used.map fun m => (m, .upload i)) = some (s', t) ∧
        s'.uploads[i]? = some (.settled result) := by
  induction calls generalizing s u with
  | nil =>
      cases finished : u.isOver with
      | true =>
          obtain ⟨result, rfl⟩ := Upload.settled_of_isOver live finished
          exact ⟨[], List.prefix_rfl, s, [], result, rfl, found⟩
      | false =>
          obtain ⟨next, s', t, -, -, nearer, -⟩ := upload_goes_on found finished (.calm default)
          exact absurd (Nat.lt_of_lt_of_le nearer enough) (Nat.not_lt_zero _)
  | cons m calls ih =>
      cases finished : u.isOver with
      | true =>
          obtain ⟨result, rfl⟩ := Upload.settled_of_isOver live finished
          exact ⟨[], List.nil_prefix, s, [], result, rfl, found⟩
      | false =>
          obtain ⟨next, s₁, now, moved, placed, nearer, live⟩ := upload_goes_on found finished m
          obtain ⟨used, first, s', later, result, ran, settled⟩ :=
            ih placed live (Nat.le_of_lt_succ (Nat.lt_of_lt_of_le nearer enough))
          refine ⟨m :: used, List.cons_prefix_cons.mpr ⟨rfl, first⟩, s', now ++ later, result, ?_,
            settled⟩
          exact run_cons_iff.mpr ⟨s₁, now, later, moved, ran, rfl⟩

end Progress

variable {s s' : State Payloads} {t : Trace}

/-- A request that is admitted begins with the look-up of what it carries. -/
theorem lookup_of_submit {c : Config} {engine : String} {stores : Stores Payloads} {m : Moment}
    {steps : List (Moment × Action)} {r : Request} {content : Bytes} {tag : String} {t' : Trace}
    (ran : (State.idle c engine stores).run steps = some (s, t))
    (carries : r.Carries c.maxUploadSize content tag)
    (moved : s.apply m (.submit r) = some (s', t')) :
    s'.uploads[s.uploads.length]? = some (.lookup (.derive content tag) content tag) := by
  obtain ⟨rfl, -⟩ := apply_submit moved
  rw [List.getElem?_concat_length, (run_config ran).1]
  exact congrArg some (Upload.start_eq_lookup carries)

/-- What an upload that is left alone comes to is told by its calls. It asks for a scan if and only
if it ends with a new record. -/
theorem ends_of_settled {i : Nat} {u : Upload} {calls : List Moment}
    {result : Except ServiceError Outcome} (found : s.uploads[i]? = some u)
    (ran : s.run (calls.map fun m => (m, .upload i)) = some (s', t))
    (settled : s'.uploads[i]? = some (.settled result)) :
    Upload.Ends s.stores u calls result s'.stores t ∧
      s'.scans = s.scans ++ if u.isOver then []
        else (Upload.settled result).created?.toList.map fun id => ⟨id, .queued⟩ := by
  induction calls generalizing s u t with
  | nil =>
      cases ran
      cases found.symm.trans settled
      exact ⟨.settled, by simp [Upload.isOver]⟩
  | cons m calls ih =>
      obtain ⟨next, now, later, moved, rest, rfl⟩ := run_cons_iff.mp ran
      obtain ⟨v, after, stores, trace, found', stepped, rfl, rfl⟩ := apply_upload moved
      cases found.symm.trans found'
      have goes := Upload.goes_of_step stepped
      have here : i < s.uploads.length := (List.getElem?_eq_some_iff.mp found).1
      obtain ⟨ends, scans⟩ := ih (u := after) (by simp [here]) rest
      rw [scheduleCreated_stores] at ends
      refine ⟨.call goes ends, ?_⟩
      rw [scans, scheduleCreated_scans, Upload.unfinished_of_step stepped]
      cases finished : after.isOver with
      | true =>
          -- This was the last call, and what it came to is what the upload came to.
          obtain ⟨result', rfl⟩ := Upload.settled_of_isOver (Upload.nearer_of_step stepped).2 finished
          obtain ⟨-, rfl, -⟩ := Upload.ends_settled ends
          simp
      | false =>
          have silent : after.created? = none := by cases after <;> first | rfl | cases finished
          simp [silent]

end State

end Quarantine
