import Quarantine.Proofs.Service.Books
import Quarantine.Proofs.Service.Reupload

/-!
Uploads of the same content under the same tag that run against each other. Any number of them can
have found nothing to take over when the first of them makes the record; it is the store of records
that lets only one do so. That one alone asks for a scan.
-/

namespace Quarantine

namespace Upload

/-- If an upload still has bytes to drop, it has not made a record. -/
def Plain : Upload → Prop
  | .discard _ result => ∀ o, result = .ok o → o.isCreated = false
  | .lookup _ _ _ | .inherit _ _ _ | .keep _ _ _ | .create _ _ | .inspect _ | .settled _
  | .dropped => True

variable {m : Moment} {s s' : Stores Payloads} {u next : Upload} {t : Trace}

theorem Goes.plain (goes : Goes m s u next s' t) : next.Plain := by
  cases goes with
  | uncreated _ _ | winnerJudged _ _ =>
      rintro _ ⟨⟩ <;> rfl
  | known _ _ | other _ _ _ | judged _ _ _ | unknown _ _ | unread _ _ | inherited _ | uninherited _
  | kept _ | unkept _ | created _ | taken _ _ | winnerPending _ _ | winnerUnread _ | discarded _
  | undiscarded _ => trivial

/-- An upload comes to a new record just by the call of which a new record is told. -/
theorem Goes.created_eq {id : DocumentId} (goes : Goes m s u next s' t) (plain : u.Plain) :
    t.created id = if next.created? = some id then 1 else 0 := by
  cases goes with
  | created free => simp [Trace.created, Audit.creates, Document.fresh, created?]
  | @uninherited _ _ _ e _ => cases e.isAlreadyExists <;> simp [created?, Trace.created]
  | @discarded _ result _ | @undiscarded _ result _ _ =>
      rw [Trace.created]
      cases result with
      | error e => simp [created?, audits_afterDiscard]
      | ok o =>
          have known := plain o rfl
          cases o with
          | created id => cases known
          | alreadyExists id => simp [created?, audits_afterDiscard]
  | known _ _ | other _ _ _ | judged _ _ _ | unknown _ _ | unread _ _ | inherited _ | kept _
  | unkept _ | taken _ _ | uncreated _ _ | winnerPending _ _ | winnerJudged _ _
  | winnerUnread _ => rfl

theorem Goes.created?_eq_none (goes : Goes m s u next s' t) : u.created? = none := by
  cases goes <;> rfl

end Upload

namespace State

/-- How many uploads have come to a new record under an id. -/
def creations {σ : Type} (id : DocumentId) (s : State σ) : Nat :=
  s.uploads.countP fun u => u.created? = some id

/-- How many scans of an id were ever scheduled, those that are over included. -/
def scheduled {σ : Type} (id : DocumentId) (s : State σ) : Nat :=
  s.scans.countP fun scan => scan.id = id

variable {c : Config} {engine : String} {steps : List (Moment × Action)} {m : Moment} {a : Action}
  {s s' : State Payloads} {t : Trace} {id : DocumentId}

/-- An action has a scan of an id asked for just if it tells of a new record under it, unless it
asks for the scan itself. -/
theorem counts_of_apply (plain : ∀ u ∈ s.uploads, u.Plain) (moved : s.apply m a = some (s', t)) :
    s'.scheduled id = s.scheduled id + t.created id + (if a = .schedule id then 1 else 0) ∧
      s'.creations id = s.creations id + t.created id := by
  -- The scans are of the same documents as before.
  have still : s'.scans.map (·.id) = s.scans.map (·.id) → s'.scheduled id = s.scheduled id := by
    intro same
    have count := congrArg (List.countP (· = id)) same
    rw [List.countP_map, List.countP_map] at count
    exact count
  have books := books_of_apply moved
  cases a with
  | submit r =>
      rw [books.created_eq_zero]
      obtain ⟨rfl, -⟩ := apply_submit moved
      have none : (Upload.start s.config.maxUploadSize r).created? = none :=
        Upload.start_of (P := fun u => u.created? = none) (fun _ => rfl) fun _ _ _ => rfl
      exact ⟨rfl, by simp [creations, List.countP_append, none]⟩
  | upload i =>
      obtain ⟨u, next, stores, trace, found, stepped, rfl, rfl⟩ := apply_upload moved
      have goes := Upload.goes_of_step stepped
      have count := countP_set_add (p := fun u : Upload => u.created? = some id) (a := next) found
      have told : Trace.created id (Trace.ofCall? (u.call? m.now) ++ trace) =
          if next.created? = some id then 1 else 0 := by
        rw [Trace.created, audits_ofCall?]
        exact goes.created_eq (plain u (List.mem_of_getElem? found))
      rw [goes.created?_eq_none] at count
      simp only [scheduled, creations, scheduleCreated_scans, scheduleCreated_uploads, told,
        List.countP_append]
      by_cases made : next.created? = some id
      · exact ⟨by simp [made], by simpa [made] using count⟩
      · refine ⟨?_, by simpa [made] using count⟩
        cases other : next.created? with
        | none => simp
        | some j =>
            have apart : j ≠ id := fun same => made (by rw [other, same])
            simp [apart]
  | drop i =>
      rw [books.created_eq_zero]
      obtain ⟨⟨u, found, unfinished⟩, rfl, -⟩ := apply_drop moved
      have count := countP_set_add (p := fun u : Upload => u.created? = some id) (a := .dropped) found
      have none : u.created? = none := by cases u <;> first | rfl | cases unfinished
      rw [none] at count
      exact ⟨rfl, Nat.add_right_cancel count⟩
  | schedule j =>
      rw [books.created_eq_zero]
      obtain ⟨rfl, -⟩ := apply_schedule moved
      refine ⟨?_, rfl⟩
      by_cases own : j = id <;> simp [scheduled, schedule, List.countP_append, own]
  | enter i =>
      rw [books.created_eq_zero]
      obtain ⟨scan, -, -, -, rfl, -⟩ := apply_enter moved
      exact ⟨still (map_id_askPlace i s), by rw [creations, askPlace_uploads]; rfl⟩
  | scan i =>
      rw [books.created_eq_zero]
      obtain ⟨scan, next, stores, trace, found, stepped, rfl, -⟩ := apply_scan moved
      have same := (Scan.goes_of_step stepped).1
      exact ⟨still (map_id_putScan (s := { s with stores := stores }) found same),
        by rw [creations, putScan_uploads]; rfl⟩
  | answer i answer =>
      rw [books.created_eq_zero]
      obtain ⟨scan, next, found, answered, rfl⟩ := apply_answer moved
      exact ⟨still (map_id_putScan found (Scan.answer_cases answered).1),
        by rw [creations, putScan_uploads]; rfl⟩
  | sweep ttl =>
      rw [books.created_eq_zero]
      obtain ⟨stores, -, rfl⟩ := apply_sweep moved
      exact ⟨rfl, rfl⟩

theorem plain_of_run (ran : (State.idle c engine Stores.empty).run steps = some (s, t)) :
    ∀ u ∈ s.uploads, u.Plain := by
  have frame : ∀ old new : Stores Payloads, Frame (fun _ => Upload.Plain) (fun _ => Upload.Plain)
      (fun _ _ => True) (fun _ _ => True) old new :=
    fun _ _ => ⟨fun _ plain => plain, fun _ _ => trivial⟩
  refine (run_induction (P := fun _ s _ =>
    s.Each (fun _ => True) (fun _ => Upload.Plain) (fun _ _ => True)) ?_ ?_ ran).uploads
  · exact Each.idle trivial c engine
  · intro steps s t x s' t' _ each moved
    refine each.apply moved ⟨trivial, frame _ _⟩ (fun _ _ => trivial) ?submit ?upload trivial
      (fun _ _ => trivial) ?scan (fun _ _ _ _ _ _ _ => trivial) ?sweep
    case submit =>
      intro r _
      exact Upload.start_of (P := Upload.Plain) (fun _ => trivial) fun _ _ _ => trivial
    case upload =>
      intro i u next stores trace _ _ stepped _
      exact ⟨trivial, (Upload.goes_of_step stepped).plain, frame _ _⟩
    case scan =>
      intro i scan next stores trace _ _ _ _
      exact ⟨trivial, trivial, frame _ _⟩
    case sweep =>
      intro ttl stores _ _
      exact ⟨trivial, frame _ _⟩

/-- As many scans of an id were asked for as records were made under it. That is one at most, for it
is still there when the next could be made. -/
theorem counts_of_run (unswept : steps.any (·.2.sweeps) = false)
    (unbidden : ∀ x ∈ steps, x.2 ≠ .schedule id)
    (ran : (State.idle c engine Stores.empty).run steps = some (s, t)) :
    s.scheduled id = s.creations id ∧ (s.creations id = 0 ∨
      s.creations id = 1 ∧ (s.stores.records.document? id).isSome) := by
  refine run_induction (P := fun steps s _ => steps.any (·.2.sweeps) = false →
    (∀ x ∈ steps, x.2 ≠ .schedule id) → s.scheduled id = s.creations id ∧ (s.creations id = 0 ∨
      s.creations id = 1 ∧ (s.stores.records.document? id).isSome)) ?_ ?_ ran unswept unbidden
  · intro _ _
    exact ⟨rfl, .inl rfl⟩
  · intro steps s t x s' t' ran ih moved unswept unbidden
    rw [List.any_append, Bool.or_eq_false_iff] at unswept
    obtain ⟨even, once⟩ := ih unswept.1 fun y h => unbidden y (List.mem_append_left _ h)
    have stays : s.stores.records.keeps id s'.stores.records = true :=
      keeps_of_apply (originates ran).stores.distinct moved (spares_of_unswept unswept.2)
    have unbidden := unbidden x (List.mem_append_right _ List.mem_cons_self)
    obtain ⟨scans, made⟩ := counts_of_apply (plain_of_run ran) moved
    rw [if_neg unbidden, Nat.add_zero] at scans
    refine ⟨by omega, ?_⟩
    obtain none | ⟨one, free, stands⟩ := (books_of_apply moved).created_cases id
    · rw [made, none]
      exact once.imp_right fun one => ⟨one.1, Records.keeps_iff.mp stays one.2⟩
    · have first : s.creations id = 0 := once.resolve_right fun one => by
        rw [free] at one
        cases one.2
      exact .inr ⟨by omega, stands⟩

/-- Of all uploads of a content under a tag that have come to their end, one at most has made the
record under their id, and all have come to that record. The one that has made it has it scanned, and
no other does. -/
theorem race_has_one_winner {content : Bytes} {tag : String}
    (calm : ∀ x ∈ steps, x.1.Calm) (unswept : steps.any (·.2.sweeps) = false)
    (contents : ∀ p ∈ brought c.maxUploadSize steps, ∀ q ∈ brought c.maxUploadSize steps,
      Digest.sha256.digest p.1 = Digest.sha256.digest q.1 → p.1 = q.1)
    (unbidden : ∀ x ∈ steps, x.2 ≠ .schedule (Identity.contentId content tag))
    (ran : (State.idle c engine Stores.empty).run steps = some (s, t)) :
    (∀ (i : Nat) (r : Request) (result : Except ServiceError Outcome),
        (requests steps)[i]? = some r → r.Carries c.maxUploadSize content tag →
        s.uploads[i]? = some (.settled result) →
        ∃ outcome, result = .ok outcome ∧ outcome.id = Identity.contentId content tag ∧
          (s.stores.records.document? outcome.id).isSome) ∧
      s.creations (Identity.contentId content tag) ≤ 1 ∧
      s.stores.records.documents.countP (fun d => d.id = Identity.contentId content tag) ≤ 1 ∧
      s.scheduled (Identity.contentId content tag) =
        s.creations (Identity.contentId content tag) := by
  obtain ⟨even, once⟩ := counts_of_run unswept unbidden ran
  refine ⟨?_, by omega, (originates ran).stores.distinct.countP_le_one _, even⟩
  intro i r result asked carries done
  have own := brought_of_request carries asked
  obtain ⟨u, found, seeks, smooth⟩ := seeks_of_request calm
    (fun p b => contents p b (content, tag) own) (fun _ : false = false => unswept) carries asked ran
  cases found.symm.trans done
  cases result with
  | error e => cases smooth
  | ok outcome =>
      obtain ⟨own, stands⟩ := seeks outcome rfl
      exact ⟨outcome, rfl, own, stands rfl⟩

/-- Two uploads of one content find it under another tag, the one before it has its verdict and the
other after that. The first makes a record that waits for a scan while the second is about to make
one that takes the verdict over. -/
def mixed : List (Moment × Action) :=
  calmly 0 [.submit (.under "b" [7]), .upload 0, .upload 0, .upload 0, .submit (.ofBytes [7]),
    .submit (.ofBytes [7]), .upload 1, .enter 0, .scan 0, .answer 0 (.verdict .clean), .scan 0,
    .scan 0, .upload 2, .upload 1, .upload 1, .upload 2]

theorem mixed_race_has_one_winner :
    ∃ p ∈ (State.idle .standard "engine" Stores.empty).run mixed,
      p.1.creations (Identity.contentId [7] "") = 1 ∧
        p.1.scheduled (Identity.contentId [7] "") = 1 ∧
        ∃ outcome, (p.1.uploads[2]?).bind Upload.result? = some (.ok outcome) ∧
          outcome.id = Identity.contentId [7] "" := by
  obtain ⟨p, ran, made, done⟩ :
      ∃ p ∈ (State.idle .standard "engine" Stores.empty).run mixed,
        0 < p.1.creations (Identity.contentId [7] "") ∧
          ((p.1.uploads[2]?).bind Upload.result?).isSome = true := by decide +kernel
  have carries : (Request.ofBytes [7]).Carries Config.standard.maxUploadSize [7] "" :=
    ⟨by decide, by decide, by decide +kernel, by decide, by decide⟩
  have unbidden : ∀ x ∈ mixed, x.2 ≠ .schedule (Identity.contentId [7] "") := by decide +kernel
  obtain ⟨meets, once, -, even⟩ :=
    race_has_one_winner (by decide) (by decide) (by decide +kernel) unbidden ran
  obtain ⟨result, done⟩ := Option.isSome_iff_exists.mp done
  obtain ⟨outcome, rfl, own, -⟩ :=
    meets 2 (.ofBytes [7]) result rfl carries (bind_result?_eq_some.mp done)
  exact ⟨p, ran, by omega, by omega, outcome, done, own⟩

end State

end Quarantine
