import Quarantine.Proofs.Service.Alone
import Quarantine.Proofs.Service.Resolution
import Quarantine.Proofs.Store.Lookup
import Quarantine.Proofs.Upload.Steps

/-!
What an upload comes to that is left alone over stores that do not fail. The look-up shows it one
record of its content only, so all others count just as far as they keep that one from being shown:
one with a verdict hides those without, and a later one the earlier. What it comes to is told here by
all records together.
-/

namespace Quarantine

/-- Whether a call goes to the store of payloads. -/
def Call.reachesPayloads : Call → Bool
  | .savePayload _ _ | .fetchPayload _ | .deletePayload _ | .pingPayloads => true
  | .saveRecord _ | .getRecord _ | .findRecord _ | .updateRecord _ _ | .purgeRecords _
  | .pingRecords | .analyze _ | .pingEngine => false

def Trace.reachesPayloads (t : Trace) : Bool :=
  t.calls.any Call.reachesPayloads

namespace Records

/-- No record of a content has a verdict. -/
def Unjudged (hash : String) (r : Records) : Prop :=
  ∀ d ∈ r.documents, d.hash = hash → d.isPending = true

/-- A record of a content that has a verdict, and no such record was made later. -/
structure Latest (hash : String) (r : Records) (d : Document) : Prop where
  stored : d ∈ r.documents
  own : d.hash = hash
  judged : d.isPending = false
  later : ∀ e ∈ r.documents, e.hash = hash → e.isPending = false →
    d.createdAt.before e.createdAt = false

/-- A content under a tag has to be scanned: there is no verdict to take over, and nothing is known
under the id. -/
def Needs (content : Bytes) (tag : String) (r : Records) : Prop :=
  r.Unjudged (Identity.contentHash content) ∧ r.document? (Identity.contentId content tag) = none

variable {r : Records} {hash : String} {d : Document}

theorem Latest.not_unjudged (latest : r.Latest hash d) : ¬ r.Unjudged hash := by
  intro unjudged
  have pending := unjudged d latest.stored latest.own
  rw [latest.judged] at pending
  cases pending

/-- Unless two of them were made at the same time, the latest record with a verdict is one. -/
theorem Latest.eq_of_untied {e : Document} (latest : r.Latest hash d) (latest' : r.Latest hash e)
    (untied : ∀ d ∈ r.documents, ∀ e ∈ r.documents, d.hash = hash → e.hash = hash →
      d.isPending = false → e.isPending = false → d.createdAt = e.createdAt → d = e) : d = e := by
  refine untied d latest.stored e latest'.stored latest.own latest'.own latest.judged
    latest'.judged (Instant.eq_of_not_before ?_ ?_)
  · exact latest.later e latest'.stored latest'.own latest'.judged
  · exact latest'.later d latest.stored latest.own latest.judged

theorem unjudged_of_informative? (found : r.informative? hash = some d)
    (pending : d.isPending = true) : r.Unjudged hash := by
  intro e stored own
  cases waits : e.isPending with
  | true => rfl
  | false =>
      -- A verdict would have been shown in place of this record.
      have judged := (leads_of_informative? found).judged ⟨e, stored, own, waits⟩
      rw [pending] at judged
      cases judged

theorem latest_of_informative? (found : r.informative? hash = some d)
    (judged : d.isPending = false) : r.Latest hash d where
  stored := (informative?_mem found).1
  own := (informative?_mem found).2
  judged := judged
  later e stored own judged' :=
    (leads_of_informative? found).latest e stored own (judged'.trans judged.symm)

end Records

namespace Upload

/-- What the upload of a content under a tag comes to over stores that do not fail. -/
inductive Yields (s : Stores Payloads) (content : Bytes) (tag : String) :
    Outcome → Stores Payloads → Trace → Prop
  | created {now t} (needs : s.records.Needs content tag) :
      Yields s content tag (.created (Identity.contentId content tag))
        ⟨s.payloads.keep (Identity.contentId content tag) content,
          s.records.add (.fresh (Identity.contentId content tag) (Identity.contentHash content) tag
            now)⟩ t
  | inherited {source now t} (latest : s.records.Latest (Identity.contentHash content) source)
      (free : s.records.document? (Identity.contentId content tag) = none)
      (silent : Trace.reachesPayloads t = false) :
      Yields s content tag (.alreadyExists (Identity.contentId content tag))
        { s with records :=
            s.records.add (.inheriting (Identity.contentId content tag) tag source now) } t
  | known {s' t} (stands : (s.records.document? (Identity.contentId content tag)).isSome)
      (same : s'.records = s.records) :
      Yields s content tag (.alreadyExists (Identity.contentId content tag)) s' t

variable {s s' : Stores Payloads} {content : Bytes} {tag : String} {calls : List Moment}
  {outcome : Outcome} {t : Trace}

/-- Over calm stores an upload does not fail that has not failed yet. -/
theorem Ends.smooth {u : Upload} {result : Except ServiceError Outcome}
    (ends : Ends s u calls result s' t) (calm : ∀ m ∈ calls, m.Calm) (online : s.Online)
    (smooth : u.Smooth) : ∃ o, result = .ok o := by
  induction ends with
  | @settled _ result =>
      cases result with
      | ok o => exact ⟨o, rfl⟩
      | error e => cases smooth
  | call goes _ ih =>
      exact ih (fun m h => calm m (List.mem_cons_of_mem _ h)) (goes.online online)
        (goes.smooth (calm _ List.mem_cons_self) online smooth)

theorem ends_inspect {id : DocumentId} (ends : Ends s (.inspect id) calls (.ok outcome) s' t) :
    outcome = .alreadyExists id ∧ s'.records = s.records := by
  cases ends with
  | call goes ends =>
      cases goes with
      | winnerPending _ _ | winnerUnread _ =>
          obtain ⟨-, same, rfl, -⟩ := ends_settled ends
          cases same
          exact ⟨rfl, rfl⟩
      | winnerJudged _ _ =>
          obtain ⟨last, -, same, rfl, -⟩ := ends_discard ends
          cases same
          exact ⟨rfl, Stores.records_deletePayload _ _ _⟩

theorem yields_of_keep (calm : ∀ m ∈ calls, m.Calm)
    (unjudged : s.records.Unjudged (Identity.contentHash content))
    (ends : Ends s (.keep (.derive content tag) content tag) calls (.ok outcome) s' t) :
    Yields s content tag outcome s' t := by
  cases ends with
  | call goes ends =>
      cases goes with
      | unkept _ => cases (ends_settled ends).2.1
      | kept _ =>
          cases ends with
          | call goes ends =>
              cases goes with
              | created free =>
                  obtain ⟨-, same, rfl, -⟩ := ends_settled ends
                  cases same
                  simp only [Identity.derive, List.take_length] at free ⊢
                  exact .created ⟨unjudged, free⟩
              | taken failed exists_ =>
                  obtain ⟨rfl, same⟩ := ends_inspect ends
                  have calm := calm _ (List.mem_cons_of_mem _ List.mem_cons_self)
                  exact .known (Stores.exists_of_saveRecord _ _ calm.2 failed exists_) same
              | uncreated _ _ =>
                  obtain ⟨last, -, same, -⟩ := ends_discard ends
                  cases same

theorem yields_of_inherit {source : Document} (calm : ∀ m ∈ calls, m.Calm)
    (latest : s.records.Latest (Identity.contentHash content) source)
    (ends : Ends s (.inherit (.derive content tag) tag source) calls (.ok outcome) s' t) :
    Yields s content tag outcome s' t := by
  cases ends with
  | call goes ends =>
      cases goes with
      | inherited free =>
          obtain ⟨-, same, rfl, rfl⟩ := ends_settled ends
          cases same
          exact .inherited latest free rfl
      | @uninherited _ _ _ e failed =>
          obtain ⟨-, same, rfl, -⟩ := ends_settled ends
          cases taken : e.isAlreadyExists with
          | false =>
              rw [taken] at same
              cases same
          | true =>
              rw [taken] at same
              cases same
              have calm := calm _ List.mem_cons_self
              exact .known (Stores.exists_of_saveRecord _ _ calm.2 failed taken) rfl

theorem Yields.cons (yields : Yields s content tag outcome s' t) {before : Trace}
    (silent : before.reachesPayloads = false) : Yields s content tag outcome s' (before ++ t) := by
  cases yields with
  | created needs => exact .created needs
  | inherited latest free quiet =>
      refine .inherited latest free ?_
      rw [Trace.reachesPayloads, Trace.calls, List.filterMap_append, List.any_append]
      exact Bool.or_eq_false_iff.mpr ⟨silent, quiet⟩
  | known stands same => exact .known stands same

theorem Yields.isCreated_iff (yields : Yields s content tag outcome s' t) :
    outcome.isCreated = true ↔ s.records.Needs content tag := by
  cases yields with
  | created needs => exact iff_of_true rfl needs
  | inherited latest _ _ =>
      exact iff_of_false Bool.false_ne_true fun needs => latest.not_unjudged needs.1
  | known stands _ =>
      refine iff_of_false Bool.false_ne_true fun needs => ?_
      rw [needs.2] at stands
      cases stands

theorem Yields.id (yields : Yields s content tag outcome s' t) :
    outcome.id = Identity.contentId content tag := by
  cases yields <;> rfl

theorem Yields.eq_created (yields : Yields s content tag outcome s' t)
    (needs : s.records.Needs content tag) :
    outcome = .created (Identity.contentId content tag) := by
  have own := yields.id
  have made := yields.isCreated_iff.mpr needs
  cases outcome with
  | created id => rw [← own, Outcome.id]
  | alreadyExists id => cases made

/-- If a scan is needed, the record and the bytes for it are there afterwards. -/
theorem Yields.needed (yields : Yields s content tag outcome s' t)
    (needs : s.records.Needs content tag) :
    (∃ now, s'.records.documents =
        ⟨Identity.contentId content tag, Identity.contentHash content, tag, .pending, none, now⟩ ::
          s.records.documents) ∧
      ∀ id, s'.payloads.kept.get? id =
        if id = Identity.contentId content tag then some content else s.payloads.kept.get? id := by
  have made := yields.isCreated_iff.mpr needs
  cases yields with
  | created _ => exact ⟨⟨_, rfl⟩, fun id => Payloads.get?_keep _ id _ _⟩
  | inherited _ _ _ | known _ _ => cases made

/-- If no scan is needed, at most a record is added, and it takes over a verdict. -/
theorem Yields.idle (yields : Yields s content tag outcome s' t)
    (idle : ¬ s.records.Needs content tag) :
    outcome = .alreadyExists (Identity.contentId content tag) ∧
      ((s.records.document? (Identity.contentId content tag)).isSome → s'.records = s.records) ∧
      (s.records.document? (Identity.contentId content tag) = none →
        ∃ source now, s.records.Latest (Identity.contentHash content) source ∧
          s'.records.documents =
            ⟨Identity.contentId content tag, Identity.contentHash content, tag, source.status,
              source.analyzedAt, now⟩ :: s.records.documents ∧
          s'.payloads = s.payloads ∧ t.reachesPayloads = false) := by
  cases yields with
  | created needs => exact absurd needs idle
  | @inherited source now _ latest free silent =>
      refine ⟨rfl, fun stands => ?_, fun _ => ⟨source, now, latest, ?_, rfl, silent⟩⟩
      · rw [free] at stands
        cases stands
      · rw [Records.add, Document.inheriting, latest.own]
  | known stands same =>
      refine ⟨rfl, fun _ => same, fun free => ?_⟩
      rw [free] at stands
      cases stands

/-- What the look-up shows decides how the upload goes on. -/
theorem yields_of_lookup (online : s.Online) (calm : ∀ m ∈ calls, m.Calm)
    (own : ∀ d ∈ s.records.documents, d.hash = Identity.contentHash content →
      d.id = Identity.contentId content d.tag)
    (ends : Ends s (.lookup (.derive content tag) content tag) calls (.ok outcome) s' t) :
    Yields s content tag outcome s' t := by
  cases ends with
  | @call m _ _ _ _ _ calls _ _ _ goes ends =>
      have calm' : ∀ m ∈ calls, m.Calm := fun m h => calm m (List.mem_cons_of_mem _ h)
      cases goes with
      | @known _ _ _ d found same =>
          obtain ⟨stored, hash⟩ := s.findRecord_ok m found
          obtain ⟨-, settled, rfl, -⟩ := ends_settled ends
          cases settled
          have id := own d stored hash
          rw [same] at id
          rw [id]
          exact .known (id ▸ Records.document?_isSome_of_mem stored) rfl
      | other found _ pending =>
          have shown := s.informative?_of_findRecord m found
          exact (yields_of_keep calm' (Records.unjudged_of_informative? shown pending) ends).cons rfl
      | judged found _ judged =>
          have shown := s.informative?_of_findRecord m found
          exact (yields_of_inherit calm' (Records.latest_of_informative? shown judged) ends).cons rfl
      | unknown failed _ =>
          have unknown : s.records.Unjudged (Identity.contentHash content) := by
            rw [s.findRecord_calm m (calm m List.mem_cons_self).2 online.2] at failed
            split at failed
            · cases failed
            · next shown =>
                intro d stored own
                exact absurd own (Records.informative?_eq_none.mp shown d stored)
          exact (yields_of_keep calm' unknown ends).cons rfl
      | unread _ _ => cases (ends_settled ends).2.1

end Upload

namespace State

variable {c : Config} {engine : String} {steps : List (Moment × Action)} {s : State Payloads}
  {t₀ : Trace}

/-- An admitted upload that is left alone over stores that do not fail comes to its end, and what it
comes to is told by the records. -/
theorem upload_yields {r : Request} {content : Bytes} {tag : String} {calls : List Moment}
    (m : Moment) (calm : ∀ m ∈ calls, m.Calm) (enough : 5 ≤ calls.length)
    (contents : ∀ p ∈ brought c.maxUploadSize steps,
      Digest.sha256.digest p.1 = Digest.sha256.digest content → p.1 = content)
    (carries : r.Carries c.maxUploadSize content tag)
    (ran : (State.idle c engine Stores.empty).run steps = some (s, t₀)) :
    ∃ used, used <+: calls ∧ ∃ s' t outcome,
      s.run (uninterrupted s.uploads.length m r used) = some (s', t) ∧
        s'.uploads[s.uploads.length]? = some (.settled (.ok outcome)) ∧
        Upload.Yields s.stores content tag outcome s'.stores t ∧
        s'.scans = s.scans ++ if outcome.isCreated then [⟨outcome.id, .queued⟩] else [] := by
  have arrived := lookup_of_submit (m := m) ran carries rfl
  obtain ⟨used, first, s', t, result, went, settled⟩ := settles arrived (by simp) enough
  have calm : ∀ m ∈ used, m.Calm := fun m h => calm m (first.subset h)
  obtain ⟨ends, scans⟩ := ends_of_settled arrived went settled
  have online : s.stores.Online := online_of_run ran
  obtain ⟨outcome, rfl⟩ := ends.smooth calm online trivial
  refine ⟨used, first, s', t, outcome, run_cons_iff.mpr ⟨_, [], t, rfl, went, rfl⟩, settled, ?_, ?_⟩
  · refine Upload.yields_of_lookup online calm ?_ ends
    intro d stored hash
    exact (originates ran).stores.id_of_hash contents stored hash
  · rw [scans]
    cases outcome <;> rfl

/-- An upload that is left alone has its content scanned if and only if that is needed. If it is not,
there is a record already, or one is made that takes over the latest verdict on the content. -/
theorem scan_scheduled_iff_needed {r : Request} {content : Bytes} {tag : String}
    {calls : List Moment} (m : Moment)
    (contents : ∀ p ∈ brought c.maxUploadSize (steps ++ [(m, .submit r)]),
      ∀ q ∈ brought c.maxUploadSize (steps ++ [(m, .submit r)]),
        Digest.sha256.digest p.1 = Digest.sha256.digest q.1 → p.1 = q.1)
    (calm : ∀ m ∈ calls, m.Calm) (enough : 5 ≤ calls.length)
    (carries : r.Carries c.maxUploadSize content tag)
    (ran : (State.idle c engine Stores.empty).run steps = some (s, t₀)) :
    ∃ used, used <+: calls ∧ ∃ s' t outcome,
      s.run (uninterrupted s.uploads.length m r used) = some (s', t) ∧
        s'.uploads[s.uploads.length]? = some (.settled (.ok outcome)) ∧
        ((outcome = .created (Identity.contentId content tag) ∧
            s'.scans = s.scans ++ [⟨Identity.contentId content tag, .queued⟩]) ↔
          s.stores.records.Needs content tag) ∧
        (s.stores.records.Needs content tag →
          (∃ now, s'.stores.records.documents =
            ⟨Identity.contentId content tag, Identity.contentHash content, tag, .pending, none,
              now⟩ :: s.stores.records.documents) ∧
          ∀ id, s'.stores.payloads.kept.get? id =
            if id = Identity.contentId content tag then some content
            else s.stores.payloads.kept.get? id) ∧
        (¬ s.stores.records.Needs content tag →
          outcome = .alreadyExists (Identity.contentId content tag) ∧ s'.scans = s.scans ∧
          ((s.stores.records.document? (Identity.contentId content tag)).isSome →
            s'.stores.records = s.stores.records) ∧
          (s.stores.records.document? (Identity.contentId content tag) = none →
            ∃ source now, s.stores.records.Latest (Identity.contentHash content) source ∧
              s'.stores.records.documents =
                ⟨Identity.contentId content tag, Identity.contentHash content, tag, source.status,
                  source.analyzedAt, now⟩ :: s.stores.records.documents ∧
              s'.stores.payloads = s.stores.payloads ∧ t.reachesPayloads = false)) := by
  have own : (content, tag) ∈ brought c.maxUploadSize (steps ++ [(m, .submit r)]) :=
    brought_submit (Upload.brings?_of_carries carries) steps m
  have alone : ∀ p ∈ brought c.maxUploadSize steps,
      Digest.sha256.digest p.1 = Digest.sha256.digest content → p.1 = content :=
    fun p b => contents p (brought_mono _ b) (content, tag) own
  obtain ⟨used, first, s', t, outcome, went, settled, yields, scans⟩ :=
    upload_yields m calm enough alone carries ran
  refine ⟨used, first, s', t, outcome, went, settled, ?_, yields.needed, ?_⟩
  · constructor
    · rintro ⟨rfl, -⟩
      exact yields.isCreated_iff.mp rfl
    · intro needs
      obtain rfl := yields.eq_created needs
      exact ⟨rfl, scans⟩
  · intro idle
    obtain ⟨rfl, known, inherited⟩ := yields.idle idle
    rw [Outcome.isCreated, if_neg Bool.false_ne_true, List.append_nil] at scans
    exact ⟨rfl, scans, known, inherited⟩

/-- The content comes under another tag after it was found to be clean, and takes the verdict over. -/
theorem retagged_scan_not_needed :
    ∃ p ∈ (State.idle .standard "engine" Stores.empty).run cleared,
      ¬ p.1.stores.records.Needs [7] "b" ∧
      ∃ used s' t, p.1.run (uninterrupted p.1.uploads.length (.calm default) (.under "b" [7]) used) =
          some (s', t) ∧
        s'.uploads[p.1.uploads.length]? =
          some (.settled (.ok (.alreadyExists (Identity.contentId [7] "b")))) ∧
        s'.scans = p.1.scans ∧ t.reachesPayloads = false := by
  obtain ⟨p, ran, free, d, stored, hash, judged⟩ :
      ∃ p ∈ (State.idle .standard "engine" Stores.empty).run cleared,
        p.1.stores.records.document? (Identity.contentId [7] "b") = none ∧
        ∃ d ∈ p.1.stores.records.documents, d.hash = Identity.contentHash [7] ∧
          d.isPending = false := by decide +kernel
  have idle : ¬ p.1.stores.records.Needs [7] "b" := fun needs => by
    have pending := needs.1 d stored hash
    rw [judged] at pending
    cases pending
  have carries : (Request.under "b" [7]).Carries Config.standard.maxUploadSize [7] "b" :=
    ⟨by decide, by decide, by decide +kernel, by decide, by decide⟩
  have calm : ∀ m ∈ List.replicate 5 (Moment.calm default), m.Calm := by decide
  obtain ⟨used, -, s', t, outcome, went, settled, -, -, rest⟩ :=
    scan_scheduled_iff_needed (.calm default) (by decide +kernel) calm (by decide) carries ran
  obtain ⟨known, scans, -, inherited⟩ := rest idle
  obtain ⟨-, -, -, -, -, silent⟩ := inherited free
  rw [known] at settled
  exact ⟨p, ran, idle, used, s', t, went, settled, scans, silent⟩

end State

end Quarantine
