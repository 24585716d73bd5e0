import Mathlib.Control.Monad.Basic
import Quarantine.Proofs.Service.Origin
import Quarantine.Proofs.Upload.Steps

/-!
The record that an upload resolves to. It is the one under the id of the content and the tag. An id
is made of the content followed by the tag, so two uploads that split the same bytes differently
share it, and the later one resolves to the record of the earlier. This is the only way in which the
record can be one of another content or tag, as long as the digests do not collide.
-/

namespace Quarantine

/-- There is a record under an id, if none was swept away. -/
def Records.Stands (r : Records) (swept : Bool) (id : DocumentId) : Prop :=
  swept = false → (r.document? id).isSome

/-- The upload of a content under a tag, on its way to the record under their id. -/
def Upload.Seeks (content : Bytes) (tag : String) (swept : Bool) (r : Records) : Upload → Prop
  | .lookup identity _ t | .keep identity _ t => identity = .derive content tag ∧ t = tag
  | .inherit identity _ _ | .create identity _ => identity = .derive content tag
  | .inspect id => id = Identity.contentId content tag ∧ r.Stands swept id
  | .discard _ result | .settled result =>
    ∀ o, result = .ok o → o.id = Identity.contentId content tag ∧ r.Stands swept o.id
  | .dropped => True

namespace Upload

variable {content : Bytes} {tag : String} {swept : Bool}

theorem Seeks.mono {old new : Records} {u : Upload} (seeks : u.Seeks content tag swept old)
    (stays : swept = false → old.keeps (Identity.contentId content tag) new = true) :
    u.Seeks content tag swept new := by
  have stands : ∀ {id}, id = Identity.contentId content tag → old.Stands swept id →
      new.Stands swept id := by
    intro id own stands unswept
    rw [own] at stands ⊢
    exact Records.keeps_iff.mp (stays unswept) (stands unswept)
  cases u with
  | lookup _ _ _ | inherit _ _ _ | keep _ _ _ | create _ _ | dropped => exact seeks
  | inspect id => exact ⟨seeks.1, stands seeks.1 seeks.2⟩
  | discard _ _ | settled _ =>
      intro o ok
      obtain ⟨own, stood⟩ := seeks o ok
      exact ⟨own, stands own stood⟩

/-- A calm call of an upload. Whatever it finds in its way is under its id. -/
theorem Seeks.step {B : List (Bytes × String)} {m : Moment} {s s' : Stores Payloads}
    {u next : Upload} {t : Trace} (seeks : u.Seeks content tag swept s.records) (calm : m.Calm)
    (stem : s.Stem B)
    (contents : ∀ p ∈ B, Digest.sha256.digest p.1 = Digest.sha256.digest content → p.1 = content)
    (goes : Goes m s u next s' t) : next.Seeks content tag swept s'.records := by
  cases goes with
  | @known identity _ _ d found same =>
      obtain ⟨derived, reduced⟩ := seeks
      obtain ⟨stored, hash⟩ := s.findRecord_ok m found
      rintro _ ⟨⟩
      refine ⟨?_, fun _ => Records.document?_isSome_of_mem stored⟩
      rw [← reduced, ← same]
      exact stem.id_of_hash contents stored (hash.trans (congrArg Identity.hash derived))
  | other _ _ _ | unknown _ _ => exact seeks
  | judged _ _ _ | kept _ => exact seeks.1
  | unread _ _ | unkept _ | uncreated _ _ => rintro _ ⟨⟩
  | inherited _ | created _ =>
      rintro _ ⟨⟩
      refine ⟨congrArg Identity.id seeks, fun _ => ?_⟩
      simp only [Records.document?_add, Document.inheriting, Document.fresh, Outcome.id, if_true,
        Option.isSome_some]
  | @uninherited _ _ _ e failed =>
      intro o ok
      cases taken : e.isAlreadyExists with
      | true =>
          rw [taken, if_pos rfl] at ok
          cases ok
          exact ⟨congrArg Identity.id seeks, fun _ => s.exists_of_saveRecord m calm.2 failed taken⟩
      | false =>
          rw [taken] at ok
          cases ok
  | taken failed exists_ =>
      exact ⟨congrArg Identity.id seeks, fun _ => s.exists_of_saveRecord m calm.2 failed exists_⟩
  | winnerPending _ _ | winnerJudged _ _ | winnerUnread _ =>
      rintro _ ⟨⟩
      exact seeks
  | discarded _ | undiscarded _ => exact seeks

end Upload

/-- The record under the id of a content and a tag is that of another pair, which makes up the same
bytes. -/
def Records.Crossed (B : List (Bytes × String)) (content : Bytes) (tag : String) (r : Records) :
    Prop :=
  ∃ p ∈ B, p ≠ (content, tag) ∧ p.1 ++ Text.utf8 p.2 = content ++ Text.utf8 tag ∧
    ∃ d, r.document? (Identity.contentId content tag) = some d ∧
      d.hash = Identity.contentHash p.1 ∧ d.tag = p.2

/-- Whose record it is that stands under the id of a content and a tag. -/
theorem Stores.Stem.own_iff {B : List (Bytes × String)} {s : Stores Payloads} (stem : s.Stem B)
    {content : Bytes} {tag : String}
    (contents : ∀ p ∈ B, Digest.sha256.digest p.1 = Digest.sha256.digest content → p.1 = content)
    (tagged : ∀ p ∈ B, Digest.md5.digest (p.1 ++ Text.utf8 p.2) =
      Digest.md5.digest (content ++ Text.utf8 tag) →
        p.1 ++ Text.utf8 p.2 = content ++ Text.utf8 tag) :
    (∃ d, s.records.document? (Identity.contentId content tag) = some d ∧
        d.hash = Identity.contentHash content ∧ d.tag = tag) ↔
      (s.records.document? (Identity.contentId content tag)).isSome ∧
        ¬ s.records.Crossed B content tag := by
  constructor
  · rintro ⟨d, found, hash, own⟩
    refine ⟨by rw [found]; rfl, ?_⟩
    rintro ⟨p, b, other, -, e, found', hash', tag'⟩
    cases found.symm.trans found'
    refine other (Prod.ext ?_ (tag'.symm.trans own))
    exact contents p b (Identity.digest_eq_of_contentHash_eq (hash'.symm.trans hash))
  · rintro ⟨stands, straight⟩
    obtain ⟨d, found⟩ := Option.isSome_iff_exists.mp stands
    obtain ⟨content', b, own, hash⟩ := stem.record d (Records.mem_of_document? found)
    -- Under one id all bytes agree. If they are split differently, the record is a crossed one.
    have same := tagged _ b
      (Identity.digest_eq_of_contentId_eq (own.symm.trans (Records.id_of_document? found)))
    have pair : (content', d.tag) = (content, tag) :=
      Classical.byContradiction fun other =>
        straight ⟨(content', d.tag), b, other, same, d, found, hash, rfl⟩
    cases pair
    exact ⟨d, found, hash, rfl⟩

namespace State

variable {c : Config} {engine : String} {first rest : List (Moment × Action)}
  {s₀ s : State Payloads} {t₀ t : Trace} {m : Moment}

/-- An upload goes on to seek the record under its id, whatever else goes on. If none is said to be
swept away, the record that it has met is spared. As no call fails, the upload does not either. -/
theorem seeks_of_spared {i : Nat} {B : List (Bytes × String)} {content : Bytes} {tag : String}
    {swept : Bool} {u₀ : Upload}
    (before : (State.idle c engine Stores.empty).run first = some (s₀, t₀))
    (contents : ∀ p ∈ B, Digest.sha256.digest p.1 = Digest.sha256.digest content → p.1 = content)
    (calm : ∀ x ∈ rest, x.1.Calm)
    (within : ∀ p ∈ brought c.maxUploadSize (first ++ rest), p ∈ B)
    (found : s₀.uploads[i]? = some u₀) (seeks : u₀.Seeks content tag swept s₀.stores.records)
    (spared : swept = false → s₀.spares (Identity.contentId content tag) rest = true)
    (ran : s₀.run rest = some (s, t)) :
    ∃ u, s.uploads[i]? = some u ∧ u.Seeks content tag swept s.stores.records ∧
      (u₀.Smooth → u.Smooth) := by
  -- Other tasks leave the upload alone; all they could do to it is to sweep its record away.
  refine run_induction (P := fun rest s _ => (∀ x ∈ rest, x.1.Calm) →
    (∀ p ∈ brought c.maxUploadSize (first ++ rest), p ∈ B) →
    (swept = false → s₀.spares (Identity.contentId content tag) rest = true) →
    ∃ u, s.uploads[i]? = some u ∧ u.Seeks content tag swept s.stores.records ∧
      (u₀.Smooth → u.Smooth)) ?_ ?_ ran calm within spared
  · intro _ _ _
    exact ⟨u₀, found, seeks, id⟩
  · intro rest s t x s' t' ran ih moved calm within spared
    have more : ∀ p ∈ brought c.maxUploadSize (first ++ rest), p ∈ B := fun p b =>
      within p (by rw [← List.append_assoc]; exact brought_mono x b)
    have split : swept = false → s₀.spares (Identity.contentId content tag) rest = true ∧
        s.spares (Identity.contentId content tag) [x] = true := fun unswept =>
      Bool.and_eq_true_iff.mp (by rw [← spares_concat ran]; exact spared unswept)
    obtain ⟨u, found, seeks, smooth⟩ :=
      ih (fun y h => calm y (List.mem_append_left _ h)) more fun unswept => (split unswept).1
    have reached := run_append_iff.mpr ⟨s₀, t₀, t, before, ran, rfl⟩
    have stem := (originates reached).stores.mono more
    have stays := fun unswept => keeps_of_apply stem.distinct moved (split unswept).2
    obtain still | ⟨-, dropped⟩ | ⟨next, trace, stepped, went⟩ := apply_uploads found moved
    · exact ⟨u, still, seeks.mono stays, smooth⟩
    · exact ⟨_, dropped, trivial, fun _ => trivial⟩
    · have calm := calm x (List.mem_append_right _ List.mem_cons_self)
      have goes := Upload.goes_of_step stepped
      exact ⟨next, went, seeks.step calm stem contents goes,
        fun began => goes.smooth calm (online_of_run reached) (smooth began)⟩

theorem seeks_of_run {i : Nat} {B : List (Bytes × String)} {content : Bytes} {tag : String}
    (before : (State.idle c engine Stores.empty).run first = some (s₀, t₀))
    (contents : ∀ p ∈ B, Digest.sha256.digest p.1 = Digest.sha256.digest content → p.1 = content)
    (calm : ∀ x ∈ rest, x.1.Calm)
    (within : ∀ p ∈ brought c.maxUploadSize (first ++ rest), p ∈ B)
    (arrived : s₀.uploads[i]? = some (.lookup (.derive content tag) content tag))
    (ran : s₀.run rest = some (s, t)) :
    ∃ u, s.uploads[i]? = some u ∧
      u.Seeks content tag (rest.any (·.2.sweeps)) s.stores.records := by
  obtain ⟨u, found, seeks, -⟩ :=
    seeks_of_spared before contents calm within arrived ⟨rfl, rfl⟩ spares_of_unswept ran
  exact ⟨u, found, seeks⟩

/-- An upload resolves to a record of its own content and tag if and only if there is still a record
under its id and no other pair with the same bytes has it. There is one as long as none is swept. -/
theorem resolves_iff {r : Request} {outcome : Outcome}
    (calm : ∀ x ∈ first ++ (m, .submit r) :: rest, x.1.Calm)
    (contents : ∀ p ∈ brought c.maxUploadSize (first ++ (m, .submit r) :: rest),
      ∀ q ∈ brought c.maxUploadSize (first ++ (m, .submit r) :: rest),
        Digest.sha256.digest p.1 = Digest.sha256.digest q.1 → p.1 = q.1)
    (tagged : ∀ p ∈ brought c.maxUploadSize (first ++ (m, .submit r) :: rest),
      ∀ q ∈ brought c.maxUploadSize (first ++ (m, .submit r) :: rest),
        Digest.md5.digest (p.1 ++ Text.utf8 p.2) = Digest.md5.digest (q.1 ++ Text.utf8 q.2) →
          p.1 ++ Text.utf8 p.2 = q.1 ++ Text.utf8 q.2)
    (before : (State.idle c engine Stores.empty).run first = some (s₀, t₀))
    (ran : s₀.run ((m, .submit r) :: rest) = some (s, t))
    (done : (s.uploads[s₀.uploads.length]?).bind Upload.result? = some (.ok outcome)) :
    ∃ content, (r.source.limit r.declared).readAll = .ok content ∧
      (rest.any (·.2.sweeps) = false → (s.stores.records.document? outcome.id).isSome) ∧
      ((∃ d, s.stores.records.document? outcome.id = some d ∧
          d.hash = Identity.contentHash content ∧ d.tag = Tag.sanitize r.effectiveTag) ↔
        (s.stores.records.document? outcome.id).isSome ∧
          ¬ s.stores.records.Crossed (brought c.maxUploadSize (first ++ (m, .submit r) :: rest))
            content (Tag.sanitize r.effectiveTag)) := by
  obtain ⟨s₁, t₁, t₂, arrived, rest_ran, waits⟩ := run_submit before ran
  have stem := (originates (run_append_iff.mpr ⟨s₀, t₀, t, before, ran, rfl⟩)).stores
  cases Upload.start_cases c.maxUploadSize r with
  | inl started =>
      obtain ⟨-, e, started⟩ := started
      rw [State.idle, started] at waits
      rw [settled_of_run waits rest_ran] at done
      cases done
  | inr started =>
      obtain ⟨content, tag, brings, ⟨read, rfl⟩, started⟩ := started
      rw [State.idle, started] at waits
      have b : (content, Tag.sanitize r.effectiveTag) ∈
          brought c.maxUploadSize (first ++ (m, .submit r) :: rest) := by
        rw [brought, List.filterMap_append]
        exact List.mem_append_right _ (by simp [brings])
      obtain ⟨u, found, seeks⟩ := seeks_of_run arrived (fun p b' => contents p b' _ b)
        (fun x h => calm x (List.mem_append_right _ (List.mem_cons_of_mem _ h)))
        (fun p b' => by simpa using b') waits rest_ran
      rw [found, Option.bind_some] at done
      cases u with
      | settled result =>
          cases done
          obtain ⟨own, stands⟩ := seeks outcome rfl
          refine ⟨content, read, stands, ?_⟩
          rw [own]
          exact stem.own_iff (fun p b' => contents p b' _ b) fun p b' => tagged p b' _ b
      | lookup _ _ _ | inherit _ _ _ | keep _ _ _ | create _ _ | inspect _ | discard _ _
      | dropped => cases done

/-- A content is uploaded and found to be clean. -/
def cleared : List (Moment × Action) :=
  calmly 0 [.submit (.ofBytes [7]), .upload 0, .upload 0, .upload 0, .enter 0, .scan 0,
    .answer 0 (.verdict .clean), .scan 0, .scan 0]

/-- A content comes again under another tag. -/
def retagged : List (Moment × Action) :=
  uninterrupted 1 (.calm default) (.under "b" [7])
    [.calm default, .calm default]

theorem retagged_resolves_iff :
    ∃ p ∈ (State.idle .standard "engine" Stores.empty).run cleared, ∃ q ∈ p.1.run retagged,
      ∃ outcome, (q.1.uploads[1]?).bind Upload.result? = some (.ok outcome) ∧
        (q.1.stores.records.document? outcome.id).isSome ∧
        ∃ content, ((Source.ofBytes [7]).limit 1).readAll = .ok content ∧
          ((∃ d, q.1.stores.records.document? outcome.id = some d ∧
              d.hash = Identity.contentHash content ∧ d.tag = Tag.sanitize "b") ↔
            (q.1.stores.records.document? outcome.id).isSome ∧
              ¬ q.1.stores.records.Crossed
                (brought Config.standard.maxUploadSize (cleared ++ retagged)) content
                (Tag.sanitize "b")) := by
  obtain ⟨p, ran, arrived, q, resolving, done⟩ :
      ∃ p ∈ (State.idle .standard "engine" Stores.empty).run cleared, p.1.uploads.length = 1 ∧
        ∃ q ∈ p.1.run retagged, (q.1.uploads[1]?).bind Upload.result? =
          some (.ok (.alreadyExists (Identity.contentId [7] "b"))) := by decide +kernel
  obtain ⟨content, read, stands, iff⟩ := resolves_iff (c := .standard) (by decide)
    (by decide +kernel) (by decide +kernel) ran resolving (by rw [arrived]; exact done)
  exact ⟨p, ran, q, resolving, _, done, stands rfl, content, read, iff⟩

/-- The content "ab" comes under the tag "c". -/
def splitLate : List (Moment × Action) :=
  calmly 0 [.submit (.under "c" [97, 98]), .upload 0, .upload 0, .upload 0]

/-- The content "a" comes under the tag "bc". -/
def splitEarly : List (Moment × Action) :=
  uninterrupted 1 (.calm default) (.under "bc" [97])
    [.calm default, .calm default, .calm default, .calm default]

/-- No digests collide, no call fails, and an upload resolves to a record of another content. -/
theorem split_upload_resolves_elsewhere :
    (∀ p ∈ brought Config.standard.maxUploadSize (splitLate ++ splitEarly),
      ∀ q ∈ brought Config.standard.maxUploadSize (splitLate ++ splitEarly),
        (Digest.sha256.digest p.1 = Digest.sha256.digest q.1 → p.1 = q.1) ∧
        (Digest.md5.digest (p.1 ++ Text.utf8 p.2) = Digest.md5.digest (q.1 ++ Text.utf8 q.2) →
          p.1 ++ Text.utf8 p.2 = q.1 ++ Text.utf8 q.2)) ∧
    ∃ p ∈ (State.idle .standard "engine" Stores.empty).run splitLate, ∃ q ∈ p.1.run splitEarly,
      (q.1.uploads[1]?).bind Upload.result? =
        some (.ok (.alreadyExists (Identity.contentId [97] "bc"))) ∧
      ∀ d ∈ q.1.stores.records.documents, d.id = Identity.contentId [97] "bc" →
        d.hash ≠ Identity.contentHash [97] ∧ d.tag ≠ "bc" := by
  decide +kernel

end State

end Quarantine
