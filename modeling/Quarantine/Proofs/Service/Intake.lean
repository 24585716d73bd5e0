import Mathlib.Data.List.Forall2
import Quarantine.Proofs.Service.Alone

/-!
What of a source matters to an upload: the bytes that it announces, and no more. How they come in
reads, and what the source would do past them, shows nowhere. What an upload does to the stores does
not depend on the time either, but for the time that its record tells.
-/

namespace Quarantine

/-- The moments differ in nothing but the time. -/
def Moment.Alike (m m' : Moment) : Prop :=
  m'.storage = m.storage ∧ m'.metadata = m.metadata

/-- A record without the time at which it was made. -/
def Document.undated (d : Document) : Document :=
  { d with createdAt := default }

structure Records.Alike (r r' : Records) : Prop where
  documents : r'.documents.map Document.undated = r.documents.map Document.undated
  online : r'.online = r.online

theorem Records.save_alike {d d' : Document} (same : d'.undated = d.undated) (r : Records) :
    (∃ e, r.save d = (.error e, r) ∧ r.save d' = (.error e, r)) ∨
      ∃ added added', r.save d = (.ok (), added) ∧ r.save d' = (.ok (), added') ∧
        added.Alike added' := by
  have id : d'.undated.id = d.undated.id := by rw [same]
  have id : d'.id = d.id := id
  unfold save
  rw [id]
  split
  · split
    · exact .inl ⟨_, rfl, rfl⟩
    · exact .inr ⟨_, _, rfl, rfl, by simp [same], rfl⟩
  · exact .inl ⟨_, rfl, rfl⟩

namespace Stores

variable {σ : Type}

/-- The stores hold the same but for the times at which records were made. -/
structure Alike (s s' : Stores σ) : Prop where
  payloads : s'.payloads = s.payloads
  records : s.records.Alike s'.records

theorem Alike.rfl {s : Stores σ} : s.Alike s :=
  ⟨Eq.refl _, Eq.refl _, Eq.refl _⟩

variable {m m' : Moment}

theorem saveRecord_alike (alike : m.Alike m') {d d' : Document} (same : d'.undated = d.undated)
    (s : Stores σ) :
    (∃ e, s.saveRecord m d = (.error e, s) ∧ s.saveRecord m' d' = (.error e, s)) ∨
      ∃ added added', s.saveRecord m d = (.ok (), added) ∧ s.saveRecord m' d' = (.ok (), added') ∧
        added.Alike added' := by
  unfold saveRecord
  rw [alike.2]
  cases m.metadata with
  | some e => exact .inl ⟨e, Eq.refl _, Eq.refl _⟩
  | none =>
      cases s.records.save_alike same with
      | inl failed =>
          obtain ⟨e, failed, failed'⟩ := failed
          exact .inl ⟨e, by rw [failed], by rw [failed']⟩
      | inr saved =>
          obtain ⟨added, added', saved, saved', records⟩ := saved
          exact .inr ⟨{ s with records := added }, { s with records := added' }, by rw [saved],
            by rw [saved'], Eq.refl _, records⟩

end Stores

namespace Upload

variable {σ : Type} [PayloadStore σ] {m m' : Moment}

/-- At moments that differ in time only a call comes to the same. If it makes a record, the upload
is over. -/
theorem step_alike (alike : m.Alike m') (u : Upload) (s : Stores σ) :
    (u.step m s = none ∧ u.step m' s = none) ∨
      ∃ next s₁ s₂ t₁ t₂, u.step m s = some (next, s₁, t₁) ∧ u.step m' s = some (next, s₂, t₂) ∧
        s₁.Alike s₂ ∧ (s₂ = s₁ ∨ next.isOver = true) := by
  cases u with
  | lookup identity content tag =>
      have same : s.findRecord m' identity.hash = s.findRecord m identity.hash := by
        rw [Stores.findRecord, alike.2, Stores.findRecord]
      exact .inr ⟨_, s, s, [], [], rfl, by rw [step, same], .rfl, .inl rfl⟩
  | inherit identity tag source =>
      have same : (Document.inheriting identity.id tag source m'.now).undated =
          (Document.inheriting identity.id tag source m.now).undated := rfl
      cases s.saveRecord_alike alike same with
      | inl failed =>
          obtain ⟨e, failed, failed'⟩ := failed
          exact .inr ⟨.settled (if e.isAlreadyExists then .ok (.alreadyExists identity.id)
              else .error (.metadata e)), s, s, [], [],
            by simp only [step, failed, afterInherit]; rfl,
            by simp only [step, failed', afterInherit]; rfl, .rfl, .inl rfl⟩
      | inr saved =>
          obtain ⟨added, added', saved, saved', records⟩ := saved
          exact .inr ⟨.settled (.ok (.alreadyExists identity.id)), added, added', _, _,
            by simp only [step, saved, afterInherit]; rfl,
            by simp only [step, saved', afterInherit]; rfl, records, .inr rfl⟩
  | keep identity content tag =>
      have same : s.savePayload m' identity.id (.ofBytes content) identity.size =
          s.savePayload m identity.id (.ofBytes content) identity.size := by
        rw [Stores.savePayload, alike.1, Stores.savePayload]
      cases saved : s.savePayload m identity.id (.ofBytes content) identity.size with
      | mk result kept =>
          rw [saved] at same
          cases result with
          | ok done => exact .inr ⟨.create identity tag, kept, kept, [], [],
              by simp only [step, saved], by simp only [step, same], .rfl, .inl rfl⟩
          | error e => exact .inr ⟨.settled (.error (.storage e)), kept, kept, [], [],
              by simp only [step, saved], by simp only [step, same], .rfl, .inl rfl⟩
  | create identity tag =>
      have same : (Document.fresh identity.id identity.hash tag m'.now).undated =
          (Document.fresh identity.id identity.hash tag m.now).undated := rfl
      cases s.saveRecord_alike alike same with
      | inl failed =>
          obtain ⟨e, failed, failed'⟩ := failed
          cases taken : e.isAlreadyExists with
          | true => exact .inr ⟨.inspect identity.id, s, s, _, _,
              by simp only [step, failed, afterCreate, taken]; rfl,
              by simp only [step, failed', afterCreate, taken]; rfl, .rfl, .inl rfl⟩
          | false => exact .inr ⟨.discard identity.id (.error (.metadata e)), s, s, _, _,
              by simp only [step, failed, afterCreate, taken]; rfl,
              by simp only [step, failed', afterCreate, taken]; rfl, .rfl, .inl rfl⟩
      | inr saved =>
          obtain ⟨added, added', saved, saved', records⟩ := saved
          exact .inr ⟨.settled (.ok (.created identity.id)), added, added', _, _,
            by simp only [step, saved, afterCreate]; rfl,
            by simp only [step, saved', afterCreate]; rfl, records, .inr rfl⟩
  | inspect id =>
      have same : s.getRecord m' id = s.getRecord m id := by
        rw [Stores.getRecord, alike.2, Stores.getRecord]
      exact .inr ⟨_, s, s, _, _, rfl, by rw [step, same], .rfl, .inl rfl⟩
  | discard id result =>
      have same : s.deletePayload m' id = s.deletePayload m id := by
        rw [Stores.deletePayload, alike.1, Stores.deletePayload]
      exact .inr ⟨_, _, _, _, _, rfl, by rw [step, same], .rfl, .inl rfl⟩
  | settled _ | dropped => exact .inl ⟨rfl, rfl⟩

/-- What an upload has yet to look up or to keep is this content, with the identity that it has. -/
def Bears (content : Bytes) (tag : String) : Upload → Prop
  | .lookup identity bytes _ | .keep identity bytes _ =>
    identity = .derive content tag ∧ bytes = content
  | .inherit _ _ _ | .create _ _ | .inspect _ | .discard _ _ | .settled _ | .dropped => True

theorem bears_of_step {s s' : Stores σ} {u next : Upload} {t : Trace} {content : Bytes}
    {tag : String} (stepped : u.step m s = some (next, s', t)) (bears : u.Bears content tag) :
    next.Bears content tag := by
  cases u with
  | lookup identity bytes tag' =>
      cases stepped
      unfold afterLookup
      split
      · split
        · exact bears
        · trivial
      · split
        · trivial
        · split
          · exact bears
          · trivial
  | inherit _ _ source =>
      cases stepped
      unfold afterInherit
      split <;> trivial
  | keep _ _ _ =>
      simp only [step] at stepped
      split at stepped <;> cases stepped <;> trivial
  | create _ _ =>
      cases stepped
      unfold afterCreate
      repeat' split
      all_goals trivial
  | inspect _ =>
      cases stepped
      unfold afterInspect
      repeat' split
      all_goals trivial
  | discard _ _ =>
      cases stepped
      trivial
  | settled _ | dropped => cases stepped

/-- The look-up of a content shows nothing that would spare its upload the bytes: no record, or one
under another tag that has no verdict yet. -/
def Wanted (m : Moment) (s : Stores σ) (content : Bytes) (tag : String) : Prop :=
  (∃ e, s.findRecord m (Identity.contentHash content) = .error e ∧ e.isNotFound = true) ∨
    ∃ d, s.findRecord m (Identity.contentHash content) = .ok d ∧ d.tag ≠ tag ∧ d.isPending = true

theorem step_of_wanted {s : Stores σ} {content : Bytes} {tag : String}
    (wanted : Wanted m s content tag) :
    (lookup (.derive content tag) content tag).step m s =
      some (.keep (.derive content tag) content tag, s, []) := by
  obtain ⟨e, failed, absent⟩ | ⟨d, found, other, pending⟩ := wanted
  · simp only [step, Identity.derive, failed, afterLookup, absent, if_true]
  · simp only [step, Identity.derive, found, afterLookup, if_neg other, pending, if_true]

/-- The next call of the upload hands these bytes over to the store, whatever this holds. -/
def HandsOver (σ : Type) [PayloadStore σ] (content : Bytes) (tag : String) (u : Upload) : Prop :=
  ∀ (m : Moment) (s : Stores σ),
    u.call? m.now = some (.savePayload (Identity.contentId content tag) content.length) ∧
      ∃ next t, u.step m s = some (next, (s.savePayload m (Identity.contentId content tag)
        (.ofBytes content) content.length).2, t)

theorem handsOver_keep (content : Bytes) (tag own : String) :
    (keep (.derive content tag) content own).HandsOver σ content tag := by
  refine fun m s => ⟨rfl, ?_⟩
  simp only [step, Identity.derive]
  split <;> exact ⟨_, _, rfl⟩

section InMemory

variable {s : Stores Payloads} {content : Bytes} (tag : String)

/-- Memory that does not fail takes the bytes that are handed over, and all of them. -/
theorem step_keep_calm (calm : m.Calm) (on : s.payloads.online = true) :
    (keep (.derive content tag) content tag).step m s = some (.create (.derive content tag) tag,
      { s with payloads := s.payloads.keep (Identity.contentId content tag) content }, []) := by
  simp only [step, Identity.derive, s.savePayload_calm m calm on, List.take_length]

theorem step_create_calm (calm : m.Calm) (on : s.records.online = true)
    (free : s.records.document? (Identity.contentId content tag) = none) :
    ∃ records t, (create (.derive content tag) tag).step m s =
      some (.settled (.ok (.created (Identity.contentId content tag))), { s with records := records },
        t) := by
  have saved := s.saveRecord_calm m calm.2 on
    (.fresh (Identity.contentId content tag) (Identity.contentHash content) tag m.now)
  rw [Document.fresh, free, Option.isSome_none, if_neg Bool.false_ne_true] at saved
  simp only [step, Identity.derive, Document.fresh, saved, afterCreate]
  exact ⟨_, _, rfl⟩

end InMemory

/-- When the upload hands bytes over to the store, it is these. -/
def Hands (σ : Type) [PayloadStore σ] (content : Bytes) (tag : String) (u : Upload) : Prop :=
  ∀ (now : Instant) (id : DocumentId) (size : Nat), u.call? now = some (.savePayload id size) →
    u.HandsOver σ content tag

theorem Bears.hands {u : Upload} {content : Bytes} {tag : String} (bears : u.Bears content tag) :
    u.Hands σ content tag := by
  intro now id size called
  cases u with
  | keep identity bytes tag' =>
      obtain ⟨rfl, rfl⟩ := bears
      exact handsOver_keep bytes tag tag'
  | lookup _ _ _ | inherit _ _ _ | create _ _ | inspect _ | discard _ _ | settled _ | dropped =>
      cases called

end Upload

namespace State

variable {σ : Type}

/-- The states are the same but for the times at which records were made. -/
structure Alike (s s' : State σ) : Prop where
  rest : s' = { s with stores := s'.stores }
  stores : s.stores.Alike s'.stores

theorem Alike.rfl {s : State σ} : s.Alike s :=
  ⟨Eq.refl _, .rfl⟩

variable [PayloadStore σ] {s s₁ : State σ} {m m' : Moment} {t₁ : Trace}

theorem upload_alike {i : Nat} (alike : m.Alike m')
    (moved : s.apply m (.upload i) = some (s₁, t₁)) :
    ∃ s₂ t₂, s.apply m' (.upload i) = some (s₂, t₂) ∧ s₁.Alike s₂ ∧
      (s₂ = s₁ ∨ ∃ u, s₁.uploads[i]? = some u ∧ u.isOver = true) := by
  obtain ⟨u, next, stores, trace, found, stepped, rfl, -⟩ := apply_upload moved
  have here : i < s.uploads.length := (List.getElem?_eq_some_iff.mp found).1
  cases u.step_alike alike s.stores with
  | inl stuck =>
      rw [stuck.1] at stepped
      cases stepped
  | inr steps =>
      obtain ⟨next', stores', other, _, trace', stepped', moved', stores_alike, same⟩ := steps
      cases stepped.symm.trans stepped'
      refine ⟨({ s with stores := other, uploads := s.uploads.set i next } :
        State σ).scheduleCreated next, Trace.ofCall? (u.call? m'.now) ++ trace', ?_, ?_, ?_⟩
      · simp [apply, found, moved']
      · refine ⟨?_, by simpa using stores_alike⟩
        rw [scheduleCreated_eq, scheduleCreated_eq]
      · cases same with
        | inl same => exact .inl (by rw [same])
        | inr finished =>
            refine .inr ⟨next, ?_, finished⟩
            rw [scheduleCreated_uploads]
            exact List.getElem?_set_self here

/-- An upload that is left alone comes to the same at other times. -/
theorem run_alike {i : Nat} {calls calls' : List Moment}
    (alike : List.Forall₂ Moment.Alike calls calls')
    (ran : s.run (calls.map fun m => (m, .upload i)) = some (s₁, t₁)) :
    ∃ s₂ t₂, s.run (calls'.map fun m => (m, .upload i)) = some (s₂, t₂) ∧ s₁.Alike s₂ := by
  induction alike generalizing s t₁ with
  | nil =>
      cases ran
      exact ⟨_, [], rfl, .rfl⟩
  | @cons m m' calls calls' first later ih =>
      obtain ⟨n₁, now, after, moved, rest, rfl⟩ := run_cons_iff.mp ran
      obtain ⟨n₂, now', moved', states, same⟩ := upload_alike first moved
      cases same with
      | inl same =>
          subst same
          obtain ⟨s₂, after', ran', last⟩ := ih rest
          exact ⟨s₂, _, run_cons_iff.mpr ⟨n₂, now', after', moved', ran', rfl⟩, last⟩
      | inr finished =>
          -- The upload is over, so that this was its last call.
          obtain ⟨u, found, finished⟩ := finished
          cases later with
          | nil =>
              cases rest
              exact ⟨n₂, _, run_cons_iff.mpr ⟨n₂, now', [], moved', rfl, rfl⟩, states⟩
          | cons _ _ =>
              obtain ⟨n₃, _, _, moved, -, -⟩ := run_cons_iff.mp rest
              obtain ⟨v, next, stores, trace, found', stepped, -, -⟩ := apply_upload moved
              cases found.symm.trans found'
              rw [Upload.unfinished_of_step stepped] at finished
              cases finished

theorem bears_of_run {i : Nat} {u : Upload} {content : Bytes} {tag : String}
    {steps : List (Moment × Action)} (found : s.uploads[i]? = some u)
    (bears : u.Bears content tag) (ran : s.run steps = some (s₁, t₁)) :
    ∃ v, s₁.uploads[i]? = some v ∧ v.Bears content tag := by
  refine run_induction (P := fun _ s _ => ∃ v, s.uploads[i]? = some v ∧ v.Bears content tag)
    ⟨u, found, bears⟩ ?_ ran
  rintro steps s t x s' t' - ⟨v, found, bears⟩ moved
  obtain still | ⟨-, dropped⟩ | ⟨next, trace, stepped, went⟩ := apply_uploads found moved
  · exact ⟨v, still, bears⟩
  · exact ⟨.dropped, dropped, trivial⟩
  · exact ⟨next, went, Upload.bears_of_step stepped bears⟩

/-- A request is turned down as it arrives: it leaves no trace, and its upload makes no call. -/
def Refuses (s : State σ) (r : Request) (e : ServiceError) : Prop :=
  ∀ m, s.apply m (.submit r) =
      some ({ s with uploads := s.uploads ++ [.settled (.error e)] }, []) ∧
    ∀ rest s' t, s.run ((m, .submit r) :: rest) = some (s', t) →
      s'.uploads[s.uploads.length]? = some (.settled (.error e)) ∧
        ∀ m, s'.apply m (.upload s.uploads.length) = none

/-- A request is taken in: its upload looks for a record of this content, whatever else goes on
meanwhile. If the look-up shows none, or one under another tag that has no verdict, the next call
hands these bytes over to the store. No call ever hands over any others. -/
structure Admits (s : State σ) (r : Request) (content : Bytes) (tag : String) : Prop where
  arrives : ∀ m, s.apply m (.submit r) = some ({ s with
    uploads := s.uploads ++ [.lookup (.derive content tag) content tag] }, [])
  hands : ∀ m rest s' t, s.run ((m, .submit r) :: rest) = some (s', t) →
    ∃ u, s'.uploads[s.uploads.length]? = some u ∧ u.Hands σ content tag
  keeps : ∀ m rest s' t, s.run ((m, .submit r) :: rest) = some (s', t) →
    s'.uploads[s.uploads.length]? = some (.lookup (.derive content tag) content tag) →
    ∀ m, Upload.Wanted m s'.stores content tag → ∃ looked u,
      s'.apply m (.upload s.uploads.length) =
          some (looked, [.call (.findRecord (Identity.contentHash content))]) ∧
        looked.stores = s'.stores ∧ looked.uploads[s.uploads.length]? = some u ∧
        u.HandsOver σ content tag

/-- Over stores in memory that do not fail, the second call of a request that is left alone leaves
these bytes under its id, if they are wanted, and all others as they were. If there is no record
under the id, they are still there when the upload is over, with a new record for them. -/
def Deposits (s : State Payloads) (r : Request) (content : Bytes) (tag : String) : Prop :=
  ∀ m first second, first.Calm → second.Calm → s.stores.Online →
    Upload.Wanted first s.stores content tag → ∃ kept t,
      s.run (uninterrupted s.uploads.length m r [first, second]) = some (kept, t) ∧
        kept.stores.records = s.stores.records ∧
        (∀ id, kept.stores.payloads.kept.get? id =
          if id = Identity.contentId content tag then some content
          else s.stores.payloads.kept.get? id) ∧
        ∀ third, third.Calm → s.stores.records.document? (Identity.contentId content tag) = none →
          ∃ made t, kept.apply third (.upload s.uploads.length) = some (made, t) ∧
            made.uploads[s.uploads.length]? =
              some (.settled (.ok (.created (Identity.contentId content tag)))) ∧
            made.stores.payloads = kept.stores.payloads

/-- Either request, if it is left alone, comes to its end with the same result, and leaves the same
behind. What their calls meet is the same, but not when. -/
def EndsAlike (s : State σ) (r r' : Request) : Prop :=
  ∀ m m' calls calls', List.Forall₂ Moment.Alike calls calls' → 5 ≤ calls.length →
    ∃ k s₁ t₁ s₂ t₂ result,
      s.run (uninterrupted s.uploads.length m r (calls.take k)) = some (s₁, t₁) ∧
      s.run (uninterrupted s.uploads.length m' r' (calls'.take k)) = some (s₂, t₂) ∧
      s₁.uploads[s.uploads.length]? = some (.settled result) ∧
      s₂.uploads[s.uploads.length]? = some (.settled result) ∧ s₁.Alike s₂

theorem refuses_of_start {r : Request} {e : ServiceError}
    (started : Upload.start s.config.maxUploadSize r = .settled (.error e)) : s.Refuses r e := by
  intro m
  have arrived : s.apply m (.submit r) =
      some ({ s with uploads := s.uploads ++ [.settled (.error e)] }, []) := by
    rw [apply, started]
  refine ⟨arrived, fun rest s' t ran => ?_⟩
  obtain ⟨s₁, now, later, moved, went, -⟩ := run_cons_iff.mp ran
  cases arrived.symm.trans moved
  have placed : (s.uploads ++ [Upload.settled (.error e)])[s.uploads.length]? =
      some (.settled (.error e)) := List.getElem?_concat_length
  have settled := settled_of_run placed went
  exact ⟨settled, fun m => by simp [apply, settled, Upload.step]⟩

section Admitted

variable {r r' : Request} {content : Bytes} {tag : String}

theorem admits_of_start (started : Upload.start s.config.maxUploadSize r =
    .lookup (.derive content tag) content tag) : s.Admits r content tag := by
  have arrives : ∀ m, s.apply m (.submit r) = some ({ s with
      uploads := s.uploads ++ [.lookup (.derive content tag) content tag] }, []) := fun m => by
    rw [apply, started]
  refine ⟨arrives, fun m rest s' t ran => ?_, fun _ _ s' _ _ looks m wanted => ?_⟩
  · obtain ⟨s₁, now, later, moved, went, -⟩ := run_cons_iff.mp ran
    cases (arrives m).symm.trans moved
    have placed : (s.uploads ++ [Upload.lookup (.derive content tag) content tag])[
        s.uploads.length]? = some (.lookup (.derive content tag) content tag) :=
      List.getElem?_concat_length
    have bears : Upload.Bears content tag (.lookup (.derive content tag) content tag) := ⟨rfl, rfl⟩
    obtain ⟨u, found, bears⟩ := bears_of_run placed bears went
    exact ⟨u, found, bears.hands⟩
  · obtain ⟨looked, moved, same, placed⟩ :=
      apply_upload_of_step looks (Upload.step_of_wanted wanted)
    exact ⟨looked, _, moved, same, placed, Upload.handsOver_keep content tag tag⟩

theorem Admits.deposits {s : State Payloads} (admits : s.Admits r content tag) :
    s.Deposits r content tag := by
  intro m first second calm calm' online wanted
  have placed : (s.uploads ++ [Upload.lookup (.derive content tag) content tag])[
      s.uploads.length]? = some (.lookup (.derive content tag) content tag) :=
    List.getElem?_concat_length
  obtain ⟨looked, looks, same, placed⟩ := apply_upload_of_step
    (s := { s with uploads := _ }) placed (Upload.step_of_wanted (s := s.stores) wanted)
  obtain ⟨kept, keeps, stored, placed⟩ := apply_upload_of_step placed
    (Upload.step_keep_calm (s := looked.stores) tag calm' (same ▸ online.1))
  rw [same] at stored
  have arrived : s.run [(m, .submit r)] = some ({ s with uploads := s.uploads ++ [_] }, [] ++ []) :=
    run_cons_iff.mpr ⟨_, [], [], admits.arrives m, rfl, rfl⟩
  have ran := run_snoc (x := (second, .upload s.uploads.length))
    (run_snoc (x := (first, .upload s.uploads.length)) arrived looks) keeps
  refine ⟨kept, _, ran, by rw [stored], fun id => ?_, fun third calm free => ?_⟩
  · rw [stored]
    exact Payloads.get?_keep _ id _ _
  · obtain ⟨records, t, stepped⟩ := Upload.step_create_calm (s := kept.stores) tag calm
      (by rw [stored]; exact online.2) (by rw [stored]; exact free)
    obtain ⟨made, makes, still, settled⟩ := apply_upload_of_step placed stepped
    exact ⟨made, _, makes, settled, by rw [still]⟩

theorem Admits.endsAlike (admits : s.Admits r content tag)
    (same : ∀ m m', s.apply m' (.submit r') = s.apply m (.submit r)) : s.EndsAlike r r' := by
  intro m m' calls calls' moments enough
  have placed : (s.uploads ++ [Upload.lookup (.derive content tag) content tag])[
      s.uploads.length]? = some (.lookup (.derive content tag) content tag) :=
    List.getElem?_concat_length
  obtain ⟨used, front, s₁, t₁, result, ran, settled⟩ :=
    settles (s := { s with uploads := _ }) placed (by simp) enough
  rw [List.prefix_iff_eq_take.mp front] at ran
  obtain ⟨s₂, t₂, ran', states⟩ := run_alike (List.forall₂_take used.length moments) ran
  refine ⟨used.length, s₁, [] ++ t₁, s₂, [] ++ t₂, result, ?_, ?_, settled, ?_, states⟩
  · exact run_cons_iff.mpr ⟨_, [], t₁, admits.arrives m, ran, rfl⟩
  · exact run_cons_iff.mpr ⟨_, [], t₂, (same m m').trans (admits.arrives m), ran', rfl⟩
  · rw [states.rest]
    exact settled

end Admitted

/-- Of two sources that agree in what they announce, an upload comes to the same, whatever the
stores hold. It takes no byte past that. A source that breaks before, or that is empty, is turned
down without a call; of any other the identity is that of just these bytes. They, and no others, are
handed over to the store when they are wanted, which keeps them in memory if it does not fail.
Uploads of the two at different times end alike. -/
theorem upload_of_first {n : Nat} (announced : 1 ≤ n) (fits : n ≤ s.config.maxUploadSize)
    {r r' : Request} (declared : r.declared = n) (declared' : r'.declared = n)
    (tag : r'.effectiveTag = r.effectiveTag) (flowing : (r.source.limit n).Flowing)
    (flowing' : (r'.source.limit n).Flowing) (same : r'.source.first n = r.source.first n) :
    (∀ m m', s.apply m' (.submit r') = s.apply m (.submit r)) ∧
      ((r.source.limit n).drain 8192).rest.source.bytes = r.source.bytes.drop n ∧
      match r.source.first n with
      | .error e => s.Refuses r (.transport e)
      | .ok [] => s.Refuses r .emptyPayload
      | .ok content =>
        (Identity.derive content (Tag.sanitize r.effectiveTag)).size =
            min n r.source.bytes.length ∧
          s.Admits r content (Tag.sanitize r.effectiveTag) ∧ s.EndsAlike r r' ∧
          ∀ p : State Payloads, p.config.maxUploadSize = s.config.maxUploadSize →
            p.Deposits r content (Tag.sanitize r.effectiveTag) := by
  have started : ∀ {q : Request}, q.declared = n → (q.source.limit n).Flowing →
      q.effectiveTag = r.effectiveTag → q.source.first n = r.source.first n →
      Upload.start s.config.maxUploadSize q = match r.source.first n with
        | .error e => .settled (.error (.transport e))
        | .ok [] => .settled (.error .emptyPayload)
        | .ok content => .lookup (.derive content (Tag.sanitize r.effectiveTag)) content
            (Tag.sanitize r.effectiveTag) := by
    intro q declared flowing tag same
    have read : (q.source.limit q.declared).readAll = r.source.first n := by
      rw [declared, Source.readAll_limit _ flowing, same]
    have start : Upload.start s.config.maxUploadSize q = _ := Upload.start_eq (by omega) (by omega)
    rw [read, tag] at start
    exact start
  have first := started declared flowing rfl rfl
  have alike : ∀ m m', s.apply m' (.submit r') = s.apply m (.submit r) := fun m m' => by
    rw [apply, apply, started declared' flowing' tag same, first]
  refine ⟨alike, r.source.rest_limit (by decide) flowing, ?_⟩
  cases given : r.source.first n with
  | error e =>
      rw [given] at first
      exact refuses_of_start first
  | ok content =>
      rw [given] at first
      cases content with
      | nil => exact refuses_of_start first
      | cons b bs =>
          have admits := admits_of_start first
          refine ⟨Source.length_first given, admits, admits.endsAlike alike, fun p limit => ?_⟩
          rw [← limit] at first
          exact (admits_of_start first).deposits

/-- A source that goes on past the three bytes announced and then breaks, next to one of these three
bytes; and one that breaks before. Of the first the three bytes are kept. -/
theorem upload_of_first_three :
    (State.idle .standard "engine" Stores.empty).Admits
        ⟨⟨[1, 2, 3, 9], [2, 1], some ⟨"reset"⟩⟩, 3, some "a", none⟩ [1, 2, 3] "a" ∧
      (State.idle .standard "engine" Stores.empty).EndsAlike
        ⟨⟨[1, 2, 3, 9], [2, 1], some ⟨"reset"⟩⟩, 3, some "a", none⟩
        ⟨.ofBytes [1, 2, 3], 3, some "a", none⟩ ∧
      (State.idle .standard "engine" Stores.empty).Refuses
        ⟨⟨[1, 2], [1], some ⟨"reset"⟩⟩, 3, some "a", none⟩ (.transport ⟨"reset"⟩) ∧
      ∃ s t, (State.idle .standard "engine" Stores.empty).run (uninterrupted 0 (.calm default)
          ⟨⟨[1, 2, 3, 9], [2, 1], some ⟨"reset"⟩⟩, 3, some "a", none⟩
          [.calm default, .calm default]) = some (s, t) ∧
        s.stores.payloads.kept.get? (Identity.contentId [1, 2, 3] "a") = some [1, 2, 3] := by
  obtain ⟨-, -, -, admits, alike, deposits⟩ := upload_of_first (s := .idle .standard "engine" Stores.empty)
    (r := ⟨⟨[1, 2, 3, 9], [2, 1], some ⟨"reset"⟩⟩, 3, some "a", none⟩)
    (by decide : 1 ≤ 3) (by decide) rfl
    (show (Request.mk (.ofBytes [1, 2, 3]) 3 (some "a") none).declared = 3 from rfl) rfl (by decide)
    (by decide) rfl
  obtain ⟨-, -, refuses⟩ := upload_of_first (s := .idle .standard "engine" Stores.empty)
    (r := ⟨⟨[1, 2], [1], some ⟨"reset"⟩⟩, 3, some "a", none⟩)
    (by decide : 1 ≤ 3) (by decide) rfl rfl rfl (by decide) (by decide) rfl
  obtain ⟨s, t, ran, -, kept, -⟩ := deposits (.idle .standard "engine" Stores.empty) rfl
    (.calm default) (.calm default) (.calm default) ⟨rfl, rfl⟩ ⟨rfl, rfl⟩ ⟨rfl, rfl⟩
    (.inl ⟨_, rfl, rfl⟩)
  exact ⟨admits, alike, refuses, s, t, ran, (kept _).trans (if_pos rfl)⟩

end State

end Quarantine
