import Quarantine.Proofs.Service.Alone
import Quarantine.Proofs.Service.Resolution

/-!
What comes of the same content under the same tag when it is uploaded once more. Meanwhile the record
may have got its verdict or not, and the look-up may show another one of the content in its place.
The later upload may take any way; as long as the record is there, all of them lead to it, and none
changes anything.
-/

namespace Quarantine

namespace Upload

/-- An upload that has not had its last word with the records yet. -/
def isSeeking : Upload → Bool
  | .lookup _ _ _ | .inherit _ _ _ | .keep _ _ _ | .create _ _ => true
  | .inspect _ | .discard _ _ | .settled _ | .dropped => false

/-- As long as it has met no record, it does not matter to an upload which of them are there. -/
theorem Seeks.of_isSeeking {content : Bytes} {tag : String} {swept swept' : Bool} {r r' : Records}
    {u : Upload} (seeks : u.Seeks content tag swept r) (seeking : u.isSeeking = true) :
    u.Seeks content tag swept' r' := by
  cases u with
  | lookup _ _ _ | inherit _ _ _ | keep _ _ _ | create _ _ => exact seeks
  | inspect _ | discard _ _ | settled _ | dropped => cases seeking

/-- An upload that has not made the record under an id, and will not do so if there is one. -/
def Joins (id : DocumentId) : Upload → Prop
  | .lookup identity _ _ | .inherit identity _ _ | .keep identity _ _ | .create identity _ =>
    identity.id = id
  | .discard _ result | .settled result => ∀ o, result = .ok o → o.isCreated = false
  | .inspect _ | .dropped => True

section Joins

variable {id : DocumentId} {s s' : Stores Payloads} {u next : Upload} {t : Trace}

/-- Next to a record that is there, no call leads to a new one. -/
theorem Goes.joins {m : Moment} (goes : Goes m s u next s' t)
    (stands : (s.records.document? id).isSome) (joins : u.Joins id) :
    next.Joins id ∧ s'.records = s.records := by
  cases goes with
  | other _ _ _ | judged _ _ _ | unknown _ _ | kept _ => exact ⟨joins, rfl⟩
  | known _ _ | winnerPending _ _ | winnerJudged _ _ | winnerUnread _ =>
      refine ⟨?_, rfl⟩
      rintro _ ⟨⟩
      rfl
  | unread _ _ | unkept _ | uncreated _ _ =>
      refine ⟨?_, rfl⟩
      rintro _ ⟨⟩
  | inherited free | created free =>
      rw [joins] at free
      rw [free] at stands
      cases stands
  | @uninherited _ _ _ e _ =>
      refine ⟨?_, rfl⟩
      intro o ok
      cases taken : e.isAlreadyExists with
      | true =>
          rw [taken, if_pos rfl] at ok
          cases ok
          rfl
      | false =>
          rw [taken] at ok
          cases ok
  | taken _ _ => exact ⟨trivial, rfl⟩
  | discarded _ | undiscarded _ => exact ⟨joins, rfl⟩

theorem Joins.created? (joins : u.Joins id) : u.created? = none := by
  cases u with
  | settled result =>
      cases result with
      | error e => rfl
      | ok o =>
          have known := joins o rfl
          cases o with
          | created id => cases known
          | alreadyExists id => rfl
  | lookup _ _ _ | inherit _ _ _ | keep _ _ _ | create _ _ | inspect _ | discard _ _ | dropped => rfl

theorem Ends.joins {calls : List Moment} {result : Except ServiceError Outcome}
    (ends : Ends s u calls result s' t) (stands : (s.records.document? id).isSome)
    (joins : u.Joins id) : (Upload.settled result).Joins id ∧ s'.records = s.records := by
  induction ends with
  | settled => exact ⟨joins, rfl⟩
  | call goes _ ih =>
      obtain ⟨joins, same⟩ := goes.joins stands joins
      obtain ⟨joins, same'⟩ := ih (by rw [same]; exact stands) joins
      exact ⟨joins, same'.trans same⟩

end Joins

theorem rank_le (u : Upload) : u.rank ≤ 5 := by
  cases u <;> simp [rank]

end Upload

namespace State

/-- The uploads of a run as they were asked for, in order. -/
def requests (steps : List (Moment × Action)) : List Request :=
  steps.filterMap fun step =>
    match step.2 with
    | .submit r => some r
    | _ => none

theorem exists_submit {steps : List (Moment × Action)} {i : Nat} {r : Request}
    (asked : (requests steps)[i]? = some r) :
    ∃ first m rest, steps = first ++ (m, .submit r) :: rest ∧ (requests first).length = i := by
  induction steps generalizing i with
  | nil => cases asked
  | cons x steps ih =>
      obtain ⟨m, a⟩ := x
      cases a with
      | submit r' =>
          cases i with
          | zero =>
              cases asked
              exact ⟨[], m, steps, rfl, rfl⟩
          | succ i =>
              obtain ⟨first, m', rest, rfl, length⟩ := ih (i := i) asked
              exact ⟨(m, .submit r') :: first, m', rest, rfl, congrArg Nat.succ length⟩
      | upload _ | drop _ | schedule _ | enter _ | scan _ | answer _ _ | sweep _ =>
          obtain ⟨first, m', rest, rfl, length⟩ := ih (i := i) asked
          exact ⟨_ :: first, m', rest, rfl, length⟩

theorem brought_of_request {most i : Nat} {r : Request} {content : Bytes} {tag : String}
    {steps : List (Moment × Action)} (carries : r.Carries most content tag)
    (asked : (requests steps)[i]? = some r) : (content, tag) ∈ brought most steps := by
  obtain ⟨first, m, rest, rfl, -⟩ := exists_submit asked
  rw [brought, List.filterMap_append]
  exact List.mem_append_right _ (by simp [Upload.brings?_of_carries carries])

section Runs

variable {c : Config} {engine : String} {steps rest : List (Moment × Action)}
  {s₀ s s' : State Payloads} {t₀ t : Trace}

theorem uploads_length_of_apply {x : Moment × Action} (moved : s.apply x.1 x.2 = some (s', t)) :
    s'.uploads.length = s.uploads.length + (requests [x]).length := by
  obtain ⟨m, a⟩ := x
  cases a with
  | submit r =>
      obtain ⟨rfl, -⟩ := apply_submit moved
      exact List.length_append
  | upload i =>
      obtain ⟨u, next, stores, trace, -, -, rfl, -⟩ := apply_upload moved
      rw [scheduleCreated_uploads]
      exact List.length_set
  | drop i =>
      obtain ⟨-, rfl, -⟩ := apply_drop moved
      exact List.length_set
  | schedule id =>
      obtain ⟨rfl, -⟩ := apply_schedule moved
      rfl
  | enter i =>
      obtain ⟨scan, -, -, -, rfl, -⟩ := apply_enter moved
      rw [askPlace_uploads]
      rfl
  | scan i =>
      obtain ⟨scan, next, stores, trace, -, -, rfl, -⟩ := apply_scan moved
      rw [putScan_uploads]
      rfl
  | answer i answer =>
      obtain ⟨scan, next, -, -, rfl⟩ := apply_answer moved
      rw [putScan_uploads]
      rfl
  | sweep ttl =>
      obtain ⟨stores, -, rfl⟩ := apply_sweep moved
      rfl

/-- Every request becomes an upload, in order. -/
theorem uploads_length_of_run (ran : s₀.run steps = some (s, t)) :
    s.uploads.length = s₀.uploads.length + (requests steps).length := by
  refine run_induction (P := fun steps s _ =>
    s.uploads.length = s₀.uploads.length + (requests steps).length) rfl ?_ ran
  intro steps s t x s' t' _ length moved
  rw [uploads_length_of_apply moved, length, requests, requests, requests, List.filterMap_append,
    List.length_append, Nat.add_assoc]

/-- What has been asked for is an upload on its way to the record under its id, and it does not fail. -/
theorem seeks_of_request {i : Nat} {r : Request} {content : Bytes} {tag : String} {swept : Bool}
    (calm : ∀ x ∈ steps, x.1.Calm)
    (contents : ∀ p ∈ brought c.maxUploadSize steps,
      Digest.sha256.digest p.1 = Digest.sha256.digest content → p.1 = content)
    (unswept : swept = false → steps.any (·.2.sweeps) = false)
    (carries : r.Carries c.maxUploadSize content tag) (asked : (requests steps)[i]? = some r)
    (ran : (State.idle c engine Stores.empty).run steps = some (s, t)) :
    ∃ u, s.uploads[i]? = some u ∧ u.Seeks content tag swept s.stores.records ∧ u.Smooth := by
  obtain ⟨first, m, rest, rfl, length⟩ := exists_submit asked
  obtain ⟨s₀, t₀, t₁, before, went, rfl⟩ := run_append_iff.mp ran
  obtain ⟨s₁, now, after, moved, goes, rfl⟩ := run_cons_iff.mp went
  have arrived := run_snoc before moved
  have waits := lookup_of_submit before carries moved
  have place : s₀.uploads.length = i := by
    rw [uploads_length_of_run before, length]
    exact Nat.zero_add i
  rw [place] at waits
  have later : swept = false → rest.any (·.2.sweeps) = false := fun never => by
    have none := unswept never
    rw [List.any_append, List.any_cons, Bool.or_eq_false_iff, Bool.or_eq_false_iff] at none
    exact none.2.2
  obtain ⟨u, found, seeks, smooth⟩ := seeks_of_spared arrived contents
    (fun x h => calm x (List.mem_append_right _ (List.mem_cons_of_mem _ h)))
    (fun p b => by simpa using b) waits ⟨rfl, rfl⟩ (fun never => spares_of_unswept (later never))
    goes
  exact ⟨u, found, seeks, smooth trivial⟩

/-- An upload next to a record that is there, in the course of a run that does not sweep it away. -/
theorem joins_of_run {i : Nat} {id : DocumentId} {u : Upload}
    (distinct : s₀.stores.records.Distinct) (spared : s₀.spares id steps = true)
    (stands : (s₀.stores.records.document? id).isSome) (found : s₀.uploads[i]? = some u)
    (joins : u.Joins id) (ran : s₀.run steps = some (s, t)) :
    (s.stores.records.document? id).isSome ∧ ∃ next, s.uploads[i]? = some next ∧ next.Joins id := by
  induction steps generalizing s₀ u t with
  | nil =>
      cases ran
      exact ⟨stands, u, found, joins⟩
  | cons x steps ih =>
      obtain ⟨m, a⟩ := x
      obtain ⟨s₁, now, later, moved, goes, rfl⟩ := run_cons_iff.mp ran
      obtain ⟨kept, spared⟩ := (spares_cons moved).mp spared
      have distinct' := (moves_of_apply moved).distinct distinct
      have stands' := Records.keeps_iff.mp
        (keeps_of_apply distinct moved ((spares_cons moved).mpr ⟨kept, rfl⟩)) stands
      obtain still | ⟨-, dropped⟩ | ⟨next, trace, stepped, went⟩ := apply_uploads found moved
      · exact ih distinct' spared stands' still joins goes
      · exact ih distinct' spared stands' dropped trivial goes
      · have joins := ((Upload.goes_of_step stepped).joins stands joins).1
        exact ih distinct' spared stands' went joins goes

theorem unchanged_of_joins {i : Nat} {id : DocumentId} {u : Upload} {m : Moment}
    (stands : (s.stores.records.document? id).isSome) (found : s.uploads[i]? = some u)
    (joins : u.Joins id) (moved : s.apply m (.upload i) = some (s', t)) :
    s'.stores.records = s.stores.records ∧ s'.scans = s.scans := by
  obtain ⟨v, next, stores, trace, found', stepped, rfl, -⟩ := apply_upload moved
  cases found.symm.trans found'
  obtain ⟨joins, same⟩ := (Upload.goes_of_step stepped).joins stands joins
  rw [scheduleCreated_stores, scheduleCreated_scans, joins.created?]
  exact ⟨same, List.append_nil _⟩

theorem brought_calls {most i : Nat} {calls : List Moment} :
    brought most (steps ++ calls.map fun m => (m, .upload i)) = brought most steps := by
  have none : brought most (calls.map fun m => (m, Action.upload i)) = [] := by
    rw [brought, List.filterMap_map]
    exact List.filterMap_eq_nil_iff.mpr fun _ _ => rfl
  rw [brought, List.filterMap_append]
  exact (congrArg _ none).trans (List.append_nil _)

/-- Left alone, an upload next to the record under its id comes to that record. -/
theorem settles_of_joins {i : Nat} {u : Upload} {content : Bytes} {tag : String}
    {calls : List Moment}
    (contents : ∀ p ∈ brought c.maxUploadSize steps,
      Digest.sha256.digest p.1 = Digest.sha256.digest content → p.1 = content)
    (ran : (State.idle c engine Stores.empty).run steps = some (s, t))
    (stands : (s.stores.records.document? (Identity.contentId content tag)).isSome)
    (found : s.uploads[i]? = some u) (live : u ≠ .dropped)
    (seeks : u.Seeks content tag false s.stores.records) (smooth : u.Smooth)
    (joins : u.Joins (Identity.contentId content tag))
    (calm : ∀ m ∈ calls, m.Calm) (enough : 5 ≤ calls.length) :
    ∃ used, used <+: calls ∧ ∃ s' t', s.run (used.map fun m => (m, .upload i)) = some (s', t') ∧
      s'.uploads[i]? = some (.settled (.ok (.alreadyExists (Identity.contentId content tag)))) ∧
      s'.stores.records = s.stores.records ∧ s'.scans = s.scans := by
  obtain ⟨used, first, s', t', result, went, settled⟩ :=
    settles found live (Nat.le_trans u.rank_le enough)
  obtain ⟨ends, scans⟩ := ends_of_settled found went settled
  obtain ⟨joined, same⟩ := ends.joins stands joins
  have alone : (used.map fun m => (m, Action.upload i)).any (·.2.sweeps) = false := by
    simp [Action.sweeps]
  obtain ⟨last, found', seeks, smooth'⟩ := seeks_of_spared ran contents
    (fun x h => by
      obtain ⟨m, own, rfl⟩ := List.mem_map.mp h
      exact calm m (first.subset own))
    (fun p b => by rwa [brought_calls] at b) found seeks (fun _ => spares_of_unswept alone) went
  cases found'.symm.trans settled
  refine ⟨used, first, s', t', went, ?_, same, ?_⟩
  · cases result with
    | error e => cases smooth' smooth
    | ok o =>
        obtain ⟨own, -⟩ := seeks o rfl
        have known := joined o rfl
        cases o with
        | created id => cases known
        | alreadyExists id =>
            rw [settled, ← own]
            rfl
  · rw [scans, joined.created?]
    cases u.isOver <;> exact List.append_nil _

/-- When an upload is done, the record that it has come to is there, unless it was swept away since
the upload had its last word with the records. -/
theorem stands_of_done {i : Nat} {r : Request} {content : Bytes} {tag : String} {outcome : Outcome}
    (calm : ∀ x ∈ steps ++ rest, x.1.Calm)
    (contents : ∀ p ∈ brought c.maxUploadSize (steps ++ rest),
      Digest.sha256.digest p.1 = Digest.sha256.digest content → p.1 = content)
    (carries : r.Carries c.maxUploadSize content tag) (asked : (requests steps)[i]? = some r)
    (before : (State.idle c engine Stores.empty).run steps = some (s₀, t₀))
    (seeking : ∃ u ∈ s₀.uploads[i]?, u.isSeeking = true) (ran : s₀.run rest = some (s, t))
    (done : s.uploads[i]? = some (.settled (.ok outcome)))
    (kept : s₀.spares outcome.id rest = true) :
    outcome.id = Identity.contentId content tag ∧
      (s.stores.records.document? outcome.id).isSome := by
  have asked' : (requests (steps ++ rest))[i]? = some r := by
    rw [requests, List.filterMap_append]
    exact (List.getElem?_append_left (List.getElem?_eq_some_iff.mp asked).1).trans asked
  have own : outcome.id = Identity.contentId content tag := by
    obtain ⟨u, found, seeks, -⟩ := seeks_of_request calm contents
      (fun never : true = false => by cases never) carries asked'
      (run_append_iff.mpr ⟨s₀, t₀, t, before, ran, rfl⟩)
    cases found.symm.trans done
    exact (seeks outcome rfl).1
  obtain ⟨u, found, seeks, -⟩ := seeks_of_request (fun x h => calm x (List.mem_append_left _ h))
    (fun p b => contents p (brought_append rest b)) (fun never : true = false => by cases never)
    carries asked before
  obtain ⟨v, found', seeking⟩ := seeking
  cases found.symm.trans found'
  have fresh : u.Seeks content tag false s₀.stores.records := seeks.of_isSeeking seeking
  obtain ⟨last, found, seeks, -⟩ := seeks_of_spared before contents
    (fun x h => calm x (List.mem_append_right _ h)) (fun p b => b) found fresh
    (fun _ => own ▸ kept) ran
  cases found.symm.trans done
  obtain ⟨-, stands⟩ := seeks outcome rfl
  exact ⟨own, stands rfl⟩

/-- An upload of a content and a tag that has come to a record is followed by another one of the same
content and tag. As long as the record is not swept away after the first has had its last word with
the records, the other comes to it, too, whatever goes on besides. No call of the other changes a
record or asks for a scan. -/
theorem reupload_changes_nothing {i : Nat} {r r' : Request} {content : Bytes} {tag : String}
    {outcome : Outcome} {m : Moment} {during : List (Moment × Action)} {s₁ s₂ : State Payloads}
    {t₁ t₂ : Trace}
    (calm : ∀ x ∈ steps ++ rest ++ (m, .submit r') :: during, x.1.Calm)
    (contents : ∀ p ∈ brought c.maxUploadSize (steps ++ rest ++ (m, .submit r') :: during),
      ∀ q ∈ brought c.maxUploadSize (steps ++ rest ++ (m, .submit r') :: during),
        Digest.sha256.digest p.1 = Digest.sha256.digest q.1 → p.1 = q.1)
    (carries : r.Carries c.maxUploadSize content tag)
    (carries' : r'.Carries c.maxUploadSize content tag)
    (asked : (requests steps)[i]? = some r)
    (before : (State.idle c engine Stores.empty).run steps = some (s₀, t₀))
    (seeking : ∃ u ∈ s₀.uploads[i]?, u.isSeeking = true)
    (ran : s₀.run rest = some (s₁, t₁))
    (done : s₁.uploads[i]? = some (.settled (.ok outcome)))
    (kept : s₀.spares outcome.id rest = true)
    (again : s₁.run ((m, .submit r') :: during) = some (s₂, t₂))
    (spared : s₁.spares outcome.id ((m, .submit r') :: during) = true)
    (live : s₂.uploads[s₁.uploads.length]? ≠ some .dropped) :
    (∀ m s t, s₂.apply m (.upload s₁.uploads.length) = some (s, t) →
        s.stores.records = s₂.stores.records ∧ s.scans = s₂.scans) ∧
      ∀ calls, (∀ m ∈ calls, m.Calm) → 5 ≤ calls.length →
        ∃ used, used <+: calls ∧ ∃ s t,
          s₂.run (used.map fun m => (m, .upload s₁.uploads.length)) = some (s, t) ∧
            s.uploads[s₁.uploads.length]? = some (.settled (.ok (.alreadyExists outcome.id))) ∧
            s.stores.records = s₂.stores.records ∧ s.scans = s₂.scans := by
  generalize whole : steps ++ rest ++ (m, .submit r') :: during = all at calm contents
  have arrived := run_append_iff.mpr ⟨s₀, t₀, t₁, before, ran, rfl⟩
  have own : (content, tag) ∈ brought c.maxUploadSize all := by
    rw [← whole]
    exact brought_append _ (brought_append _ (brought_of_request carries asked))
  have alone : ∀ p ∈ brought c.maxUploadSize all,
      Digest.sha256.digest p.1 = Digest.sha256.digest content → p.1 = content :=
    fun p b => contents p b (content, tag) own
  obtain ⟨same, stands⟩ := stands_of_done
    (fun x h => calm x (whole ▸ List.mem_append_left _ h))
    (fun p b => alone p (whole ▸ brought_append _ b)) carries asked before seeking ran done kept
  rw [same] at stands spared ⊢
  -- The other upload arrives, and goes on for a while.
  obtain ⟨next, now, later, moved, goes, rfl⟩ := run_cons_iff.mp again
  have spared := ((spares_cons moved).mp spared).2
  have came := run_snoc arrived moved
  have waits := lookup_of_submit arrived carries' moved
  obtain ⟨rfl, rfl⟩ := apply_submit moved
  obtain ⟨stands, u, found, joins⟩ :=
    joins_of_run (originates came).stores.distinct spared stands waits rfl goes
  have reached := run_append_iff.mpr ⟨_, _, _, came, goes, rfl⟩
  have all_eq : steps ++ rest ++ [(m, .submit r')] ++ during = all := by
    rw [← whole, List.append_assoc _ [_], List.singleton_append]
  obtain ⟨u', found', seeks, smooth⟩ := seeks_of_spared came alone
    (fun x h => calm x (all_eq ▸ List.mem_append_right _ h))
    (fun p b => all_eq ▸ b) waits ⟨rfl, rfl⟩ (fun _ => spared) goes
  cases found.symm.trans found'
  refine ⟨fun m s t moved => unchanged_of_joins stands found joins moved, ?_⟩
  intro calls calm enough
  rw [all_eq] at reached
  exact settles_of_joins alone reached stands found (fun gone => live (gone ▸ found)) seeks
    (smooth trivial) joins calm enough

/-- A content is recorded under one tag and then under none. The later record is the one to be
shown. -/
def shadowed : List (Moment × Action) :=
  calmly 0 [.upload 0, .upload 0, .upload 0] ++
    calmly 1 [.submit (.ofBytes [7]), .upload 1, .upload 1, .upload 1]

/-- The content comes once more, under a tag that is written differently but reads as the first. -/
theorem shadowed_reupload_changes_nothing :
    ∃ p ∈ (State.idle .standard "engine" Stores.empty).run
        (calmly 0 [.submit (.under "b" [7])] ++ shadowed),
      ∃ q ∈ p.1.run [(.calm default, .submit (.under "b!" [7]))],
        ∃ used : List Moment, ∃ s t,
          q.1.run (used.map fun m => (m, .upload p.1.uploads.length)) = some (s, t) ∧
          s.uploads[p.1.uploads.length]? =
            some (.settled (.ok (.alreadyExists (Identity.contentId [7] "b")))) ∧
          s.stores.records = q.1.stores.records ∧ s.scans = q.1.scans := by
  obtain ⟨p₀, before, seeking, p, ran, done, kept, q, again, spared, live⟩ :
      ∃ p₀ ∈ (State.idle .standard "engine" Stores.empty).run
          (calmly 0 [.submit (.under "b" [7])]),
        (∃ u ∈ p₀.1.uploads[0]?, u.isSeeking = true) ∧
        ∃ p ∈ p₀.1.run shadowed,
          (p.1.uploads[0]?).bind Upload.result? =
            some (.ok (.created (Identity.contentId [7] "b"))) ∧
          p₀.1.spares (Identity.contentId [7] "b") shadowed = true ∧
          ∃ q ∈ p.1.run [(.calm default, .submit (.under "b!" [7]))],
            p.1.spares (Identity.contentId [7] "b")
              [(.calm default, .submit (.under "b!" [7]))] = true ∧
            ∃ u ∈ q.1.uploads[p.1.uploads.length]?, u.isSeeking = true := by decide +kernel
  have carries : (Request.under "b" [7]).Carries Config.standard.maxUploadSize [7] "b" :=
    ⟨by decide, by decide, by decide +kernel, by decide, by decide⟩
  have carries' : (Request.under "b!" [7]).Carries Config.standard.maxUploadSize [7] "b" :=
    ⟨by decide, by decide, by decide +kernel, by decide, by decide +kernel⟩
  obtain ⟨-, comes⟩ := reupload_changes_nothing (by decide) (by decide +kernel) carries carries'
    (by rfl) before seeking ran (bind_result?_eq_some.mp done) kept again spared (by
      obtain ⟨u, found, live⟩ := live
      intro gone
      cases found.symm.trans gone
      cases live)
  obtain ⟨used, -, s, t, went, settled, same, scans⟩ :=
    comes (List.replicate 5 (.calm default)) (by decide) (by decide)
  exact ⟨(p.1, _), run_append_iff.mpr ⟨p₀.1, p₀.2, p.2, before, ran, rfl⟩, q, again, used, s, t,
    went, settled, same, scans⟩

end Runs

end State

end Quarantine
