import Quarantine.Proofs.Service.Finality
import Quarantine.Proofs.Scan.Steps
import Quarantine.Proofs.Upload.Steps

/-!
Where everything in a service comes from. In every run, whatever fails in it, the bytes under an id
are the content of an upload that has this id, and a record has the id, the hash and the tag of an
upload. Nothing is assumed of the digests.
-/

namespace Quarantine

namespace State

/-- What the uploads of a run bring, each a content and its tag. Those that are refused at once
bring nothing. -/
def brought (most : Nat) (steps : List (Moment × Action)) : List (Bytes × String) :=
  steps.filterMap fun step =>
    match step.2 with
    | .submit r => r.brings? most
    | _ => none

theorem brought_append {most : Nat} {steps : List (Moment × Action)} {p : Bytes × String}
    (rest : List (Moment × Action)) (b : p ∈ brought most steps) :
    p ∈ brought most (steps ++ rest) := by
  rw [brought, List.filterMap_append]
  exact List.mem_append_left _ b

theorem brought_mono {most : Nat} {steps : List (Moment × Action)} {p : Bytes × String}
    (x : Moment × Action) (b : p ∈ brought most steps) : p ∈ brought most (steps ++ [x]) :=
  brought_append [x] b

theorem brought_submit {most : Nat} {r : Request} {p : Bytes × String}
    (brings : r.brings? most = some p) (steps : List (Moment × Action)) (m : Moment) :
    p ∈ brought most (steps ++ [(m, .submit r)]) := by
  rw [brought, List.filterMap_append]
  exact List.mem_append_right _ (by simp [brings])

end State

/-- What the stores hold comes from these contents and tags. -/
structure Stores.Stem (B : List (Bytes × String)) (s : Stores Payloads) : Prop where
  distinct : s.records.Distinct
  payload : ∀ id bytes, s.payloads.kept.get? id = some bytes →
    ∃ tag, (bytes, tag) ∈ B ∧ Identity.contentId bytes tag = id
  record : ∀ d ∈ s.records.documents, ∃ content, (content, d.tag) ∈ B ∧
    d.id = Identity.contentId content d.tag ∧ d.hash = Identity.contentHash content

/-- What an upload carries along comes from one of these contents and its tag. -/
def Upload.Stems (B : List (Bytes × String)) : Upload → Prop
  | .lookup identity content tag | .keep identity content tag =>
    (content, tag) ∈ B ∧ identity = .derive content tag
  | .inherit identity tag source =>
    (∃ content, (content, tag) ∈ B ∧ identity = .derive content tag) ∧
      source.hash = identity.hash ∧ source.isPending = false
  | .create identity tag => ∃ content, (content, tag) ∈ B ∧ identity = .derive content tag
  | .inspect _ | .discard _ _ | .settled _ | .dropped => True

theorem Retention.sweepQuietly_cases {m : Moment} {ttl : Span} {s s' : Stores Payloads} {t : Trace}
    (swept : sweepQuietly m ttl s = some (s', t)) :
    s' = s ∨ ∃ cutoff, s' = { s with records := s.records.purged cutoff } := by
  obtain ⟨cutoff, rfl, -⟩ := eq_of_sweepQuietly swept
  obtain ⟨e, failed⟩ | purged := s.purgeRecords_cases m cutoff
  · exact .inl (congrArg Prod.snd failed)
  · exact .inr ⟨cutoff, congrArg Prod.snd purged⟩

namespace Stores.Stem

variable {B : List (Bytes × String)} {s : Stores Payloads}

theorem empty : Stores.empty.Stem [] where
  distinct := Records.distinct_empty
  payload := by intro id bytes found; cases found
  record := by intro d stored; cases stored

theorem mono {B' : List (Bytes × String)} (stem : s.Stem B) (more : ∀ p ∈ B, p ∈ B') :
    s.Stem B' where
  distinct := stem.distinct
  payload id bytes found := by
    obtain ⟨tag, b, own⟩ := stem.payload id bytes found
    exact ⟨tag, more _ b, own⟩
  record d stored := by
    obtain ⟨content, b, own⟩ := stem.record d stored
    exact ⟨content, more _ b, own⟩

theorem add {content : Bytes} {d : Document} (stem : s.Stem B)
    (free : s.records.document? d.id = none) (b : (content, d.tag) ∈ B)
    (id : d.id = Identity.contentId content d.tag) (hash : d.hash = Identity.contentHash content) :
    ({ s with records := s.records.add d } : Stores Payloads).Stem B where
  distinct := stem.distinct.add free
  payload := stem.payload
  record e stored := by
    cases List.mem_cons.mp stored with
    | inl same =>
        subst same
        exact ⟨content, b, id, hash⟩
    | inr stored => exact stem.record e stored

theorem judge (stem : s.Stem B) (id : DocumentId) (status : Status) (time : Instant) :
    ({ s with records := s.records.judge id status time } : Stores Payloads).Stem B where
  distinct := stem.distinct.judge id status time
  payload := stem.payload
  record e stored := by
    cases (s.records.mem_judge).mp stored with
    | inl kept =>
        obtain ⟨kept, -⟩ := kept
        exact stem.record e kept
    | inr judged =>
        obtain ⟨d, judged, -, rfl⟩ := judged
        exact stem.record d judged

theorem purged (stem : s.Stem B) (cutoff : Instant) :
    ({ s with records := s.records.purged cutoff } : Stores Payloads).Stem B where
  distinct := stem.distinct.purged cutoff
  payload := stem.payload
  record e stored := stem.record e ((s.records.mem_purged).mp stored).1

theorem keep {content : Bytes} {tag : String} (stem : s.Stem B) (b : (content, tag) ∈ B) :
    ({ s with payloads := s.payloads.keep (Identity.contentId content tag) content } :
      Stores Payloads).Stem B where
  distinct := stem.distinct
  payload id bytes found := by
    rw [Payloads.get?_keep] at found
    split at found
    · next own =>
        cases found
        exact ⟨tag, b, own.symm⟩
    · exact stem.payload id bytes found
  record := stem.record

theorem drop (stem : s.Stem B) (id : DocumentId) :
    ({ s with payloads := s.payloads.drop id } : Stores Payloads).Stem B where
  distinct := stem.distinct
  payload j bytes found := by
    rw [Payloads.get?_drop] at found
    split at found
    · cases found
    · exact stem.payload j bytes found
  record := stem.record

theorem upload {m : Moment} {u next : Upload} {s' : Stores Payloads} {t : Trace} (stem : s.Stem B)
    (own : u.Stems B) (goes : Upload.Goes m s u next s' t) : s'.Stem B ∧ next.Stems B := by
  cases goes with
  | known _ _ | unread _ _ | uninherited _ | unkept _ | taken _ _ | uncreated _ _
  | winnerPending _ _ | winnerJudged _ _ | winnerUnread _ | undiscarded _ => exact ⟨stem, trivial⟩
  | other _ _ _ | unknown _ _ => exact ⟨stem, own⟩
  | judged found _ judged =>
      obtain ⟨b, derived⟩ := own
      exact ⟨stem, ⟨_, b, derived⟩, (s.findRecord_ok m found).2, judged⟩
  | inherited free =>
      obtain ⟨⟨content, b, derived⟩, hash, -⟩ := own
      exact ⟨stem.add free b (congrArg Identity.id derived)
        (hash.trans (congrArg Identity.hash derived)), trivial⟩
  | kept _ =>
      obtain ⟨b, rfl⟩ := own
      refine ⟨?_, _, b, rfl⟩
      have whole := stem.keep b
      simpa only [Identity.derive, List.take_length] using whole
  | created free =>
      obtain ⟨content, b, derived⟩ := own
      refine ⟨stem.add free b ?_ ?_, trivial⟩
      · exact congrArg Identity.id derived
      · exact congrArg Identity.hash derived
  | discarded _ => exact ⟨stem.drop _, trivial⟩

theorem scan {c : ScanSettings} {engine : String} {m : Moment} {id : DocumentId}
    {phase next : Scan.Phase} {s' : Stores Payloads} {t : Trace} (stem : s.Stem B)
    (goes : Scan.Goes c engine m s id phase next s' t) : s'.Stem B := by
  cases goes with
  | recorded _ _ => exact stem.judge _ _ _
  | released _ => exact stem.drop _
  | opened _ | unopened _ | reopened _ | retried _ | already _ | lost _ _ | unreleased _ =>
      exact stem

theorem sweep {m : Moment} {ttl : Span} {s' : Stores Payloads} {t : Trace} (stem : s.Stem B)
    (swept : Retention.sweepQuietly m ttl s = some (s', t)) : s'.Stem B := by
  cases Retention.sweepQuietly_cases swept with
  | inl same =>
      rw [same]
      exact stem
  | inr purged =>
      obtain ⟨cutoff, rfl⟩ := purged
      exact stem.purged cutoff

/-- A record that has the hash of a content is a record of it, for no other content that was brought
has this hash. So its id goes by the tag alone. -/
theorem id_of_hash (stem : s.Stem B) {content : Bytes}
    (contents : ∀ p ∈ B, Digest.sha256.digest p.1 = Digest.sha256.digest content → p.1 = content)
    {d : Document} (stored : d ∈ s.records.documents)
    (hash : d.hash = Identity.contentHash content) : d.id = Identity.contentId content d.tag := by
  obtain ⟨content', b, own, hash'⟩ := stem.record d stored
  rw [← contents _ b (Identity.digest_eq_of_contentHash_eq (hash'.symm.trans hash))]
  exact own

end Stores.Stem

theorem Upload.Stems.mono {B B' : List (Bytes × String)} {u : Upload} (own : u.Stems B)
    (more : ∀ p ∈ B, p ∈ B') : u.Stems B' := by
  cases u with
  | lookup _ _ _ | keep _ _ _ => exact ⟨more _ own.1, own.2⟩
  | inherit _ _ _ =>
      obtain ⟨⟨content, b, derived⟩, source⟩ := own
      exact ⟨⟨content, more _ b, derived⟩, source⟩
  | create _ _ =>
      obtain ⟨content, b, derived⟩ := own
      exact ⟨content, more _ b, derived⟩
  | inspect _ | discard _ _ | settled _ | dropped => trivial

namespace State

variable {c : Config} {engine : String} {steps : List (Moment × Action)} {s s' : State Payloads}
  {t : Trace}

def Stems (B : List (Bytes × String)) (s : State Payloads) : Prop :=
  s.Each (Stores.Stem B) (fun _ => Upload.Stems B) (fun _ _ => True)

theorem Stems.step {x : Moment × Action}
    (each : s.Stems (brought s.config.maxUploadSize steps))
    (moved : s.apply x.1 x.2 = some (s', t)) :
    s'.Stems (brought s.config.maxUploadSize (steps ++ [x])) := by
  have more : ∀ p ∈ brought s.config.maxUploadSize steps,
      p ∈ brought s.config.maxUploadSize (steps ++ [x]) := fun p => brought_mono x
  have stem := each.stores.mono more
  have frame := Frame.of_imp (σ := Payloads) fun (u : Upload)
    (own : u.Stems (brought s.config.maxUploadSize steps)) => own.mono more
  refine each.apply moved ⟨stem, frame _ _⟩ (fun _ _ => trivial) ?submit ?upload trivial
    (fun _ _ => trivial) ?scan (fun _ _ _ _ _ _ _ => trivial) ?sweep
  case submit =>
    intro r action
    obtain ⟨m, a⟩ := x
    cases action
    refine Upload.start_of (fun _ => trivial) fun content tag brings => ?_
    exact ⟨brought_submit brings steps m, rfl⟩
  case upload =>
    intro i u next stores trace _ stored stepped _
    obtain ⟨stem, own⟩ :=
      stem.upload ((each.uploads u stored).mono more) (Upload.goes_of_step stepped)
    exact ⟨stem, own, frame _ _⟩
  case scan =>
    intro i scan next stores trace _ _ stepped _
    exact ⟨stem.scan (Scan.goes_of_step stepped).2, trivial, frame _ _⟩
  case sweep =>
    intro ttl stores _ swept
    exact ⟨stem.sweep swept, frame _ _⟩

/-- In every run everything comes from the uploads so far. -/
theorem originates (ran : (State.idle c engine Stores.empty).run steps = some (s, t)) :
    s.Stems (brought c.maxUploadSize steps) := by
  refine run_induction (P := fun steps s _ => s.Stems (brought c.maxUploadSize steps))
    (Each.idle .empty c engine) ?_ ran
  intro steps s t x s' t' ran each moved
  have config : s.config.maxUploadSize = c.maxUploadSize := by rw [(run_config ran).1]; rfl
  rw [← config] at each ⊢
  exact each.step moved

/-- Nothing that a service does switches a store off. -/
theorem online_of_run (ran : (State.idle c engine Stores.empty).run steps = some (s, t)) :
    s.stores.Online := by
  have frame := Frame.of_imp (σ := Payloads) fun (_ : Upload) (_ : True) => trivial
  refine (run_induction (P := fun _ s _ =>
    s.Each Stores.Online (fun _ _ => True) (fun _ _ => True)) ?_ ?_ ran).stores
  · exact Each.idle ⟨rfl, rfl⟩ c engine
  · intro steps s t x s' t' _ each moved
    refine each.apply moved ⟨each.stores, frame _ _⟩ (fun _ _ => trivial) (fun _ _ => trivial)
      ?upload trivial (fun _ _ => trivial) ?scan (fun _ _ _ _ _ _ _ => trivial) ?sweep
    case upload =>
      intro i u next stores trace _ _ stepped _
      exact ⟨(Upload.goes_of_step stepped).online each.stores, trivial, frame _ _⟩
    case scan =>
      intro i scan next stores trace _ _ stepped _
      exact ⟨(Scan.goes_of_step stepped).2.online each.stores, trivial, frame _ _⟩
    case sweep =>
      intro ttl stores _ swept
      refine ⟨?_, frame _ _⟩
      obtain same | ⟨cutoff, rfl⟩ := Retention.sweepQuietly_cases swept
      · rw [same]
        exact each.stores
      · exact each.stores

end State

end Quarantine
