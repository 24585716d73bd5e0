import Quarantine.Proofs.Document.Tag
import Quarantine.Proofs.Service.Origin

/-!
Records agree with themselves. The hash, the id and the tag of a record always come from one content
and one reduced tag, and the record has a time of analysis just when it has a verdict. This holds of
records that are made as pending, of those that take over the verdict of another, and of those that
a scan has judged, whatever fails in a run.
-/

namespace Quarantine

/-- The time of analysis is there just when the verdict is. -/
def Document.Dated (d : Document) : Prop :=
  d.analyzedAt.isSome = true ↔ d.isPending = false

/-- A record whose parts agree. Its content and its tag are among these. -/
structure Document.Coherent (B : List (Bytes × String)) (d : Document) : Prop where
  origin : ∃ content, (content, d.tag) ∈ B ∧ Identity.contentHash content = d.hash ∧
    (Identity.derive content d.tag).id = d.id
  id : d.id.isValid = true
  hash : Identity.isValidHash d.hash = true
  tag : Tag.sanitize d.tag = d.tag
  dated : d.Dated

namespace Document

theorem dated_fresh (id : DocumentId) (hash tag : String) (now : Instant) :
    (fresh id hash tag now).Dated :=
  ⟨fun dated => (by cases dated), fun judged => (by cases judged)⟩

theorem Dated.inheriting {source : Document} (dated : source.Dated) (id : DocumentId) (tag : String)
    (now : Instant) : (Document.inheriting id tag source now).Dated :=
  dated

theorem dated_judged (d : Document) (v : Verdict) (time : Instant) :
    ({ d with status := v.status, analyzedAt := some time } : Document).Dated :=
  ⟨fun _ => v.isPending_status, fun _ => rfl⟩

end Document

/-- The record whose verdict an upload is about to take over has a time if it has a verdict. -/
def Upload.Dated : Upload → Prop
  | .inherit _ _ source => source.Dated
  | .lookup _ _ _ | .keep _ _ _ | .create _ _ | .inspect _ | .discard _ _ | .settled _
  | .dropped => True

namespace Records

def Dated (r : Records) : Prop :=
  ∀ d ∈ r.documents, d.Dated

variable {r : Records}

theorem Dated.add (dated : r.Dated) {d : Document} (own : d.Dated) : (r.add d).Dated := by
  intro e stored
  cases List.mem_cons.mp stored with
  | inl same =>
      rw [same]
      exact own
  | inr stored => exact dated e stored

theorem Dated.judge (dated : r.Dated) (id : DocumentId) (v : Verdict) (time : Instant) :
    (r.judge id v.status time).Dated := by
  intro e stored
  cases r.mem_judge.mp stored with
  | inl kept => exact dated e kept.1
  | inr judged =>
      obtain ⟨d, -, -, rfl⟩ := judged
      exact d.dated_judged v time

theorem Dated.purged (dated : r.Dated) (cutoff : Instant) : (r.purged cutoff).Dated :=
  fun e stored => dated e (r.mem_purged.mp stored).1

end Records

namespace State

variable {c : Config} {engine : String} {steps : List (Moment × Action)} {s s' : State Payloads}
  {m : Moment} {a : Action} {t : Trace}

/-- Every record, and every record that an upload has looked up, has a time if it has a verdict. -/
def Dated (s : State Payloads) : Prop :=
  s.Each (fun stores => stores.records.Dated) (fun _ => Upload.Dated) (fun _ _ => True)

theorem Dated.upload {stores stores' : Stores Payloads} {u next : Upload}
    (records : stores.records.Dated) (own : u.Dated) (goes : Upload.Goes m stores u next stores' t) :
    stores'.records.Dated ∧ next.Dated := by
  cases goes with
  | judged found _ _ => exact ⟨records, records _ (stores.findRecord_ok m found).1⟩
  | inherited _ => exact ⟨records.add (own.inheriting _ _ _), trivial⟩
  | created _ => exact ⟨records.add (Document.dated_fresh _ _ _ _), trivial⟩
  | known _ _ | other _ _ _ | unknown _ _ | unread _ _ | uninherited _ | kept _ | unkept _
  | taken _ _ | uncreated _ _ | winnerPending _ _ | winnerJudged _ _ | winnerUnread _ | discarded _
  | undiscarded _ => exact ⟨records, trivial⟩

theorem Dated.scan {settings : ScanSettings} {stores stores' : Stores Payloads} {id : DocumentId}
    {phase next : Scan.Phase} (records : stores.records.Dated)
    (goes : Scan.Goes settings engine m stores id phase next stores' t) :
    stores'.records.Dated := by
  cases goes with
  | recorded _ _ => exact records.judge _ _ _
  | opened _ | unopened _ | reopened _ | retried _ | already _ | lost _ _ | released _
  | unreleased _ => exact records

theorem Dated.apply (dated : s.Dated) (moved : s.apply m a = some (s', t)) : s'.Dated := by
  have frame := Frame.of_imp (σ := Payloads) fun (u : Upload) (own : u.Dated) => own
  refine Each.apply dated moved ⟨dated.stores, frame _ _⟩ (fun _ _ => trivial) ?submit ?upload
    trivial (fun _ _ => trivial) ?scan (fun _ _ _ _ _ _ _ => trivial) ?sweep
  case submit =>
    intro r _
    exact Upload.start_of (fun _ => trivial) (fun _ _ _ => trivial)
  case upload =>
    intro i u next stores trace _ stored stepped _
    obtain ⟨records, own⟩ :=
      Dated.upload dated.stores (dated.uploads u stored) (Upload.goes_of_step stepped)
    exact ⟨records, own, frame _ _⟩
  case scan =>
    intro i scan next stores trace _ _ stepped _
    exact ⟨Dated.scan dated.stores (Scan.goes_of_step stepped).2, trivial, frame _ _⟩
  case sweep =>
    intro ttl stores _ swept
    refine ⟨?_, frame _ _⟩
    obtain same | ⟨cutoff, rfl⟩ := Retention.sweepQuietly_cases swept
    · rw [same]
      exact dated.stores
    · exact dated.stores.purged cutoff

theorem dated_of_run (ran : (State.idle c engine Stores.empty).run steps = some (s, t)) :
    s.Dated := by
  refine run_induction (P := fun _ s _ => s.Dated) ?_ ?_ ran
  · exact Each.idle (fun _ stored => absurd stored List.not_mem_nil) c engine
  · intro steps s t x s' t' _ dated moved
    exact dated.apply moved

/-- What an upload brings has been reduced. -/
theorem sanitize_of_brought {most : Nat} {p : Bytes × String} (b : p ∈ brought most steps) :
    Tag.sanitize p.2 = p.2 := by
  obtain ⟨⟨m, a⟩, -, brings⟩ := List.mem_filterMap.mp b
  cases a with
  | submit r =>
      cases Upload.start_cases most r with
      | inl refused => cases refused.1.symm.trans brings
      | inr admitted =>
          obtain ⟨content, tag, brings', ⟨-, rfl⟩, -⟩ := admitted
          cases brings'.symm.trans brings
          exact Tag.sanitize_sanitize _
  | upload _ | drop _ | schedule _ | enter _ | scan _ | answer _ _ | sweep _ => cases brings

/-- In every run every record agrees with itself and is the one under its id. No two records have
the same hash and the same tag, unless two contents that were uploaded have the same digest. -/
theorem records_cohere (ran : (State.idle c engine Stores.empty).run steps = some (s, t)) :
    (∀ d ∈ s.stores.records.documents, d.Coherent (brought c.maxUploadSize steps) ∧
        s.stores.records.document? d.id = some d) ∧
      ((∀ p ∈ brought c.maxUploadSize steps, ∀ q ∈ brought c.maxUploadSize steps,
          Digest.sha256.digest p.1 = Digest.sha256.digest q.1 → p.1 = q.1) →
        ∀ d ∈ s.stores.records.documents, ∀ e ∈ s.stores.records.documents,
          d.hash = e.hash → d.tag = e.tag → d = e) := by
  have stem := (originates ran).stores
  refine ⟨fun d stored => ⟨?coherent, stem.distinct.document?_of_mem stored⟩, ?apart⟩
  case coherent =>
    obtain ⟨content, b, id, hash⟩ := stem.record d stored
    have valid : d.id.isValid = true := by
      rw [id]
      exact Identity.isValid_contentId content d.tag
    have written : Identity.isValidHash d.hash = true := by
      rw [hash]
      exact Identity.isValidHash_contentHash content
    have reduced : Tag.sanitize d.tag = d.tag := sanitize_of_brought (p := (content, d.tag)) b
    exact ⟨⟨content, b, hash.symm, id.symm⟩, valid, written, reduced,
      (dated_of_run ran).stores d stored⟩
  case apart =>
    intro contents d stored e stored' hash tag
    obtain ⟨content, b, id, own⟩ := stem.record d stored
    have id' := stem.id_of_hash (fun p b' => contents p b' _ b) stored' (hash.symm.trans own)
    have same : d.id = e.id := by rw [id, id', tag]
    have found := stem.distinct.document?_of_mem stored
    rw [same, stem.distinct.document?_of_mem stored'] at found
    exact (Option.some.inj found).symm

/-- One content under three tags and another one beside it. The second tag takes the verdict of the
first over once a failed attempt is made again, and the third takes it over from the second, the
first being swept away by then. -/
def lineage : List (Moment × Action) :=
  calmly 0 [.submit (.under "a b" [7]), .upload 0, .upload 0, .upload 0, .enter 0, .scan 0,
      .answer 0 (.verdict .clean), .scan 0, .scan 0, .submit (.under "c" [7]), .upload 1] ++
    (⟨default, none, some Records.offline⟩, .upload 1) ::
    calmly 7200 [.submit (.under "c" [7]), .upload 2, .upload 2,
      .sweep Config.standard.resultTtl, .submit (.under "<d>" [7]), .upload 3, .upload 3,
      .submit (.ofBytes [8]), .upload 4, .upload 4, .upload 4]

theorem lineage_records_cohere :
    ∃ p ∈ (State.idle .standard "engine" Stores.empty).run lineage,
      p.1.stores.records.documents.map (·.tag) = ["", "d", "c"] ∧
        (∀ d ∈ p.1.stores.records.documents,
          d.Coherent (brought Config.standard.maxUploadSize lineage)) ∧
        ∀ d ∈ p.1.stores.records.documents, ∀ e ∈ p.1.stores.records.documents,
          d.hash = e.hash → d.tag = e.tag → d = e := by
  obtain ⟨p, ran, tags⟩ :
      ∃ p ∈ (State.idle .standard "engine" Stores.empty).run lineage,
        p.1.stores.records.documents.map (·.tag) = ["", "d", "c"] := by decide +kernel
  obtain ⟨coherent, apart⟩ := records_cohere ran
  exact ⟨p, ran, tags, fun d stored => (coherent d stored).1, apart (by decide +kernel)⟩

end State

end Quarantine
