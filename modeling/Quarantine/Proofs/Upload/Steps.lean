import Quarantine.Proofs.Document.Identity
import Quarantine.Proofs.Store.Calls
import Quarantine.Upload.Task

/-!
What an upload can do, said once: how it starts, and what each of its calls can come to. A call that
fails has changed nothing, so every case either leaves the stores as they are or makes the one
change that its call is for. Over stores that do not fail a call is refused only for what the stores
hold, and no upload that was admitted ends with an error.
-/

namespace Quarantine

namespace Request

def under (tag : String) (bytes : Bytes) : Request :=
  { ofBytes bytes with tag := some tag }

/-- The content and the tag that a request brings, unless it is refused at once. -/
def brings? (most : Nat) (r : Request) : Option (Bytes × String) :=
  match Upload.start most r with
  | .lookup _ content tag => some (content, tag)
  | _ => none

/-- A request that is admitted with this content and this tag. It announces something, but not too
much, and as far as it is read its source does not break and is not empty. -/
structure Carries (most : Nat) (r : Request) (content : Bytes) (tag : String) : Prop where
  announced : 0 < r.declared
  fits : r.declared ≤ most
  read : (r.source.limit r.declared).readAll = .ok content
  nonempty : content ≠ []
  tag : tag = Tag.sanitize r.effectiveTag

end Request

namespace Upload

/-- What is taken in of a request is what is read of its source, and the identity that is computed
on the way is that of it. -/
theorem spool_eq (r : Request) (tag : String) :
    spool r tag = (r.source.limit r.declared).readAll.map fun content =>
      ⟨content, .derive content tag⟩ := by
  simp only [spool, Limited.readAll, Identity.finish_foldl_absorb]
  cases ((r.source.limit r.declared).drain 8192).failure <;> rfl

theorem start_eq {most : Nat} {r : Request} (announced : 0 < r.declared)
    (fits : r.declared ≤ most) :
    start most r = match (r.source.limit r.declared).readAll with
      | .error e => .settled (.error (.transport e))
      | .ok [] => .settled (.error .emptyPayload)
      | .ok content => .lookup (.derive content (Tag.sanitize r.effectiveTag)) content
          (Tag.sanitize r.effectiveTag) := by
  have nothing : r.declared ≠ 0 := Nat.ne_of_gt announced
  have large : ¬ most < r.declared := Nat.not_lt.mpr fits
  cases read : (r.source.limit r.declared).readAll with
  | error e => simp [start, nothing, large, spool_eq, read, Except.map]
  | ok content =>
      cases content <;>
        simp [start, nothing, large, spool_eq, read, Except.map, Identity.derive]

theorem start_cases (most : Nat) (r : Request) :
    (r.brings? most = none ∧ ∃ e, start most r = .settled (.error e)) ∨
      ∃ content tag, r.brings? most = some (content, tag) ∧
        ((r.source.limit r.declared).readAll = .ok content ∧ tag = Tag.sanitize r.effectiveTag) ∧
        start most r = .lookup (.derive content tag) content tag := by
  unfold Request.brings?
  by_cases nothing : r.declared = 0
  · exact .inl (by simp [start, nothing])
  by_cases large : most < r.declared
  · exact .inl (by simp [start, nothing, large])
  have started := start_eq (Nat.pos_of_ne_zero nothing) (Nat.not_lt.mp large)
  cases read : (r.source.limit r.declared).readAll with
  | error e => exact .inl (by simp [started, read])
  | ok content =>
      cases content with
      | nil => exact .inl (by simp [started, read])
      | cons b bs =>
          exact .inr ⟨b :: bs, _, by simp [started, read], ⟨rfl, rfl⟩, by rw [started, read]⟩

theorem start_eq_lookup {most : Nat} {r : Request} {content : Bytes} {tag : String}
    (carries : r.Carries most content tag) :
    start most r = .lookup (.derive content tag) content tag := by
  rw [start_eq carries.announced carries.fits, carries.read, carries.tag]
  cases content with
  | nil => exact absurd rfl carries.nonempty
  | cons b bs => rfl

theorem brings?_of_carries {most : Nat} {r : Request} {content : Bytes} {tag : String}
    (carries : r.Carries most content tag) : r.brings? most = some (content, tag) := by
  rw [Request.brings?, start_eq_lookup carries]

theorem start_of {P : Upload → Prop} {most : Nat} {r : Request}
    (refused : ∀ e, P (.settled (.error e)))
    (admitted : ∀ content tag, r.brings? most = some (content, tag) →
      P (.lookup (.derive content tag) content tag)) : P (start most r) := by
  cases start_cases most r with
  | inl started =>
      obtain ⟨-, e, started⟩ := started
      rw [started]
      exact refused e
  | inr started =>
      obtain ⟨content, tag, brings, -, started⟩ := started
      rw [started]
      exact admitted content tag brings

/-- What a call of an upload can come to. -/
inductive Goes (m : Moment) (s : Stores Payloads) : Upload → Upload → Stores Payloads → Trace → Prop
  | known {identity content tag d} (found : s.findRecord m identity.hash = .ok d)
      (same : d.tag = tag) :
      Goes m s (.lookup identity content tag) (.settled (.ok (.alreadyExists d.id))) s []
  | other {identity content tag d} (found : s.findRecord m identity.hash = .ok d)
      (other : d.tag ≠ tag) (pending : d.isPending = true) :
      Goes m s (.lookup identity content tag) (.keep identity content tag) s []
  | judged {identity content tag d} (found : s.findRecord m identity.hash = .ok d)
      (other : d.tag ≠ tag) (judged : d.isPending = false) :
      Goes m s (.lookup identity content tag) (.inherit identity tag d) s []
  | unknown {identity content tag e} (failed : s.findRecord m identity.hash = .error e)
      (absent : e.isNotFound = true) :
      Goes m s (.lookup identity content tag) (.keep identity content tag) s []
  | unread {identity content tag e} (failed : s.findRecord m identity.hash = .error e)
      (unreadable : e.isNotFound = false) :
      Goes m s (.lookup identity content tag) (.settled (.error (.metadata e))) s []
  | inherited {identity tag source}
      (free : s.records.document? identity.id = none) :
      Goes m s (.inherit identity tag source) (.settled (.ok (.alreadyExists identity.id)))
        { s with records := s.records.add (.inheriting identity.id tag source m.now) }
        [.audit (.verdictPropagated (.inheriting identity.id tag source m.now) source.id)]
  | uninherited {identity tag source e}
      (failed : s.saveRecord m (.inheriting identity.id tag source m.now) = (.error e, s)) :
      Goes m s (.inherit identity tag source)
        (.settled (if e.isAlreadyExists then .ok (.alreadyExists identity.id)
          else .error (.metadata e))) s []
  | kept {identity content tag}
      (saved : s.savePayload m identity.id (.ofBytes content) identity.size =
        (.ok (), { s with payloads := s.payloads.keep identity.id (content.take identity.size) })) :
      Goes m s (.keep identity content tag) (.create identity tag)
        { s with payloads := s.payloads.keep identity.id (content.take identity.size) } []
  | unkept {identity content tag e}
      (failed : s.savePayload m identity.id (.ofBytes content) identity.size = (.error e, s)) :
      Goes m s (.keep identity content tag) (.settled (.error (.storage e))) s []
  | created {identity tag} (free : s.records.document? identity.id = none) :
      Goes m s (.create identity tag) (.settled (.ok (.created identity.id)))
        { s with records := s.records.add (.fresh identity.id identity.hash tag m.now) }
        [.audit (.documentCreated (.fresh identity.id identity.hash tag m.now) identity.size)]
  | taken {identity tag e}
      (failed : s.saveRecord m (.fresh identity.id identity.hash tag m.now) = (.error e, s))
      (exists_ : e.isAlreadyExists = true) :
      Goes m s (.create identity tag) (.inspect identity.id) s
        [.notice (.concurrentUpload identity.id)]
  | uncreated {identity tag e}
      (failed : s.saveRecord m (.fresh identity.id identity.hash tag m.now) = (.error e, s))
      (refused : e.isAlreadyExists = false) :
      Goes m s (.create identity tag) (.discard identity.id (.error (.metadata e))) s []
  | winnerPending {id d} (got : s.getRecord m id = .ok d) (pending : d.isPending = true) :
      Goes m s (.inspect id) (.settled (.ok (.alreadyExists id))) s []
  | winnerJudged {id d} (got : s.getRecord m id = .ok d) (judged : d.isPending = false) :
      Goes m s (.inspect id) (.discard id (.ok (.alreadyExists id))) s []
  | winnerUnread {id e} (failed : s.getRecord m id = .error e) :
      Goes m s (.inspect id) (.settled (.ok (.alreadyExists id))) s
        [.notice (.winnerUnreadable id e)]
  | discarded {id result}
      (deleted : s.deletePayload m id = (.ok (), { s with payloads := s.payloads.drop id })) :
      Goes m s (.discard id result) (.settled result)
        { s with payloads := s.payloads.drop id } []
  | undiscarded {id result e} (failed : s.deletePayload m id = (.error e, s)) :
      Goes m s (.discard id result) (.settled result) s (afterDiscard id (.error e))

theorem goes_of_step {m : Moment} {s s' : Stores Payloads} {u next : Upload} {t : Trace}
    (stepped : u.step m s = some (next, s', t)) : Goes m s u next s' t := by
  cases u with
  | lookup identity content tag =>
      cases found : s.findRecord m identity.hash with
      | error e =>
          simp only [step, found, afterLookup] at stepped
          cases absent : e.isNotFound with
          | true =>
              simp only [absent] at stepped
              cases stepped
              exact .unknown found absent
          | false =>
              simp only [absent] at stepped
              cases stepped
              exact .unread found absent
      | ok d =>
          simp only [step, found, afterLookup] at stepped
          by_cases same : d.tag = tag
          · rw [if_pos same] at stepped
            cases stepped
            exact .known found same
          · rw [if_neg same] at stepped
            cases pending : d.isPending with
            | true =>
                simp only [pending] at stepped
                cases stepped
                exact .other found same pending
            | false =>
                simp only [pending] at stepped
                cases stepped
                exact .judged found same pending
  | inherit identity tag source =>
      cases s.saveRecord_cases m (.inheriting identity.id tag source m.now) with
      | inl failed =>
          obtain ⟨e, failed⟩ := failed
          simp only [step, failed, afterInherit] at stepped
          cases stepped
          exact .uninherited failed
      | inr saved =>
          obtain ⟨free, saved⟩ := saved
          simp only [step, saved, afterInherit] at stepped
          cases stepped
          exact .inherited free
  | keep identity content tag =>
      cases s.savePayload_cases m identity.id content identity.size with
      | inl failed =>
          obtain ⟨e, failed⟩ := failed
          simp only [step, failed] at stepped
          cases stepped
          exact .unkept failed
      | inr saved =>
          simp only [step, saved] at stepped
          cases stepped
          exact .kept saved
  | create identity tag =>
      cases s.saveRecord_cases m (.fresh identity.id identity.hash tag m.now) with
      | inl failed =>
          obtain ⟨e, failed⟩ := failed
          simp only [step, failed, afterCreate] at stepped
          cases taken : e.isAlreadyExists with
          | true =>
              simp only [taken] at stepped
              cases stepped
              exact .taken failed taken
          | false =>
              simp only [taken] at stepped
              cases stepped
              exact .uncreated failed taken
      | inr saved =>
          obtain ⟨free, saved⟩ := saved
          simp only [step, saved, afterCreate] at stepped
          cases stepped
          exact .created free
  | inspect id =>
      cases got : s.getRecord m id with
      | error e =>
          simp only [step, got, afterInspect] at stepped
          cases stepped
          exact .winnerUnread got
      | ok d =>
          simp only [step, got, afterInspect] at stepped
          cases pending : d.isPending with
          | true =>
              simp only [pending] at stepped
              cases stepped
              exact .winnerPending got pending
          | false =>
              simp only [pending] at stepped
              cases stepped
              exact .winnerJudged got pending
  | discard id result =>
      cases s.deletePayload_cases m id with
      | inl failed =>
          obtain ⟨e, failed⟩ := failed
          simp only [step, failed] at stepped
          cases stepped
          exact .undiscarded failed
      | inr deleted =>
          simp only [step, deleted, afterDiscard] at stepped
          cases stepped
          exact .discarded deleted
  | settled result => cases stepped
  | dropped => cases stepped

theorem Goes.online {m : Moment} {s s' : Stores Payloads} {u next : Upload} {t : Trace}
    (goes : Goes m s u next s' t) (online : s.Online) : s'.Online := by
  cases goes <;> exact online

theorem Goes.lasts {m : Moment} {s s' : Stores Payloads} {u next : Upload} {t : Trace}
    (goes : Goes m s u next s' t) : s.records.Lasts s'.records := by
  cases goes with
  | inherited free | created free => exact .add free
  | known _ _ | other _ _ _ | judged _ _ _ | unknown _ _ | unread _ _ | uninherited _ | kept _
  | unkept _ | taken _ _ | uncreated _ _ | winnerPending _ _ | winnerJudged _ _ | winnerUnread _
  | discarded _ | undiscarded _ => exact .rfl

section Calm

variable {m : Moment} {s s' : Stores Payloads} {u next : Upload} {t : Trace}

/-- An upload that has not failed and is not about to. -/
def Smooth : Upload → Prop
  | .settled (.error _) | .discard _ (.error _) => False
  | .settled (.ok _) | .discard _ (.ok _) | .lookup _ _ _ | .inherit _ _ _ | .keep _ _ _
  | .create _ _ | .inspect _ | .dropped => True

theorem Goes.smooth (goes : Goes m s u next s' t) (calm : m.Calm) (online : s.Online)
    (smooth : u.Smooth) : next.Smooth := by
  cases goes with
  | known _ _ | other _ _ _ | judged _ _ _ | unknown _ _ | inherited _ | kept _ | created _
  | taken _ _ | winnerPending _ _ | winnerJudged _ _ | winnerUnread _ => trivial
  | unread failed unreadable =>
      rw [s.findRecord_calm m calm.2 online.2] at failed
      split at failed <;> cases failed
      cases unreadable
  | uninherited failed =>
      rw [s.alreadyExists_of_saveRecord m calm.2 online.2 failed]
      trivial
  | unkept failed =>
      rw [s.savePayload_calm m calm online.1] at failed
      cases failed
  | uncreated failed refused =>
      rw [s.alreadyExists_of_saveRecord m calm.2 online.2 failed] at refused
      cases refused
  | @discarded _ result _ | @undiscarded _ result _ _ =>
      cases result with
      | ok o => trivial
      | error e => exact smooth

end Calm

end Upload

end Quarantine
