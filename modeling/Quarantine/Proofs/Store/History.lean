import Quarantine.Proofs.Store.Records

/-!
Sequences of calls to the store of records. Between the call that saves a record and the one that
takes it away only its verdict is written, and that only once. A call that fails changes nothing.
-/

namespace Quarantine

/-- What becomes of a record while it is kept. It is still that of the same upload, and one that has
a verdict is as it was. -/
structure Document.Continues (d e : Document) : Prop where
  id : e.id = d.id
  hash : e.hash = d.hash
  tag : e.tag = d.tag
  createdAt : e.createdAt = d.createdAt
  judged : d.isPending = false → e.status = d.status ∧ e.analyzedAt = d.analyzedAt

namespace Document.Continues

variable {d e f : Document}

theorem rfl : d.Continues d :=
  ⟨Eq.refl _, Eq.refl _, Eq.refl _, Eq.refl _, fun _ => ⟨Eq.refl _, Eq.refl _⟩⟩

theorem isPending (continues : d.Continues e) (judged : d.isPending = false) :
    e.isPending = false := by
  rw [Document.isPending, (continues.judged judged).1]
  exact judged

theorem trans (first : d.Continues e) (second : e.Continues f) : d.Continues f where
  id := second.id.trans first.id
  hash := second.hash.trans first.hash
  tag := second.tag.trans first.tag
  createdAt := second.createdAt.trans first.createdAt
  judged verdict := by
    obtain ⟨status, time⟩ := first.judged verdict
    obtain ⟨status', time'⟩ := second.judged (first.isPending verdict)
    exact ⟨status'.trans status, time'.trans time⟩

theorem judge (pending : d.isPending = true) (status : Status) (time : Instant) :
    d.Continues { d with status := status, analyzedAt := some time } :=
  ⟨Eq.refl _, Eq.refl _, Eq.refl _, Eq.refl _, fun judged => by rw [pending] at judged; cases judged⟩

end Document.Continues

namespace Records

/-- A call to the store, or its switching on and off. -/
inductive Operation
  | save (d : Document)
  | get (id : DocumentId)
  | find (hash : String)
  | update (id : DocumentId) (status : Status) (time : Instant)
  | delete (id : DocumentId)
  | purge (cutoff : Instant)
  | switch (online : Bool)
  deriving DecidableEq, Repr

namespace Operation

/-- Whether an operation is there to take records away. -/
def removes : Operation → Bool
  | .delete _ | .purge _ => true
  | .save _ | .get _ | .find _ | .update _ _ _ | .switch _ => false

/-- Whether an operation goes well, and the records after it. -/
def perform (r : Records) : Operation → Except MetadataError Unit × Records
  | .save d => r.save d
  | .get id => ((r.get id).map fun _ => (), r)
  | .find hash => ((r.getByHash hash).map fun _ => (), r)
  | .update id status time => r.update id status time
  | .delete id => r.delete id
  | .purge cutoff =>
    let purged := r.purge cutoff
    (purged.1.map fun _ => (), purged.2)
  | .switch online => (.ok (), { r with online := online })

/-- What an operation can come to. -/
inductive Does (r : Records) : Operation → Except MetadataError Unit → Records → Prop
  | failed {op e} : Does r op (.error e) r
  | got {id} : Does r (.get id) (.ok ()) r
  | looked {hash} : Does r (.find hash) (.ok ()) r
  | saved {d} (free : r.document? d.id = none) : Does r (.save d) (.ok ()) (r.add d)
  | updated {id status time d} (found : r.document? id = some d) (pending : d.isPending = true) :
      Does r (.update id status time) (.ok ()) (r.judge id status time)
  | deleted {id} :
      Does r (.delete id) (.ok ()) { r with documents := r.documents.filter fun d => d.id ≠ id }
  | purged {cutoff} : Does r (.purge cutoff) (.ok ()) (r.purged cutoff)
  | switched {online} : Does r (.switch online) (.ok ()) { r with online := online }

theorem does_perform (r : Records) (op : Operation) : Does r op (op.perform r).1 (op.perform r).2 := by
  cases op with
  | save d =>
      cases r.save_cases d with
      | inl failed =>
          obtain ⟨e, failed⟩ := failed
          simp only [perform, failed]
          exact .failed
      | inr saved =>
          obtain ⟨free, saved⟩ := saved
          simp only [perform, saved]
          exact .saved free
  | get id =>
      simp only [perform]
      cases r.get id with
      | error e => exact .failed
      | ok d => exact .got
  | find hash =>
      simp only [perform]
      cases r.getByHash hash with
      | error e => exact .failed
      | ok d => exact .looked
  | update id status time =>
      cases r.update_cases id status time with
      | inl failed =>
          obtain ⟨e, failed, -⟩ := failed
          simp only [perform, failed]
          exact .failed
      | inr done =>
          obtain ⟨d, found, pending, done⟩ := done
          simp only [perform, done]
          exact .updated found pending
  | delete id =>
      simp only [perform, Records.delete]
      split
      · split
        · exact .deleted
        · exact .failed
      · exact .failed
  | purge cutoff =>
      simp only [perform, Records.purge]
      split
      · exact .purged
      · exact .failed
  | switch online => exact .switched

/-- An operation that fails leaves the whole store as it was. -/
theorem perform_error {r : Records} {op : Operation} {e : MetadataError}
    (failed : (op.perform r).1 = .error e) : (op.perform r).2 = r := by
  have does := does_perform r op
  generalize (op.perform r).1 = result, (op.perform r).2 = next at does failed ⊢
  cases does with
  | failed | got | looked => rfl
  | saved _ | updated _ _ | deleted | purged | switched => cases failed

end Operation

theorem Distinct.document?_filter {r : Records} (distinct : r.Distinct) (p : Document → Bool)
    (id : DocumentId) :
    ({ r with documents := r.documents.filter p } : Records).document? id =
      (r.document? id).filter p := by
  have still : ({ r with documents := r.documents.filter p } : Records).Distinct :=
    distinct.sublist (List.filter_sublist.map _)
  cases found : r.document? id with
  | none =>
      refine document?_eq_none.mpr fun d stored => document?_eq_none.mp found d ?_
      exact (List.mem_filter.mp stored).1
  | some d =>
      have own := id_of_document? found
      cases kept : p d with
      | true =>
          have stored : d ∈ ({ r with documents := r.documents.filter p } : Records).documents :=
            List.mem_filter.mpr ⟨mem_of_document? found, kept⟩
          rw [← own, still.document?_of_mem stored, Option.filter_some, if_pos kept]
      | false =>
          rw [Option.filter_some, if_neg (by rw [kept]; exact Bool.false_ne_true)]
          refine document?_eq_none.mpr fun e stored same => ?_
          obtain ⟨stored, kept'⟩ := List.mem_filter.mp stored
          -- The record under the id is the only one, and it has been taken away.
          have sole := distinct.document?_of_mem stored
          rw [same, found] at sole
          cases sole
          rw [kept] at kept'
          cases kept'

theorem Distinct.perform {r : Records} (distinct : r.Distinct) (op : Operation) :
    (op.perform r).2.Distinct := by
  have does := op.does_perform r
  generalize (op.perform r).1 = result, (op.perform r).2 = next at does ⊢
  cases does with
  | failed | got | looked | switched => exact distinct
  | saved free => exact distinct.add free
  | updated _ _ => exact distinct.judge _ _ _
  | deleted => exact distinct.sublist (List.filter_sublist.map _)
  | purged => exact distinct.purged _

/-- If there was a record under an id, there still is one. -/
def keeps (id : DocumentId) (old new : Records) : Bool :=
  (old.document? id).isNone || (new.document? id).isSome

theorem keeps_iff {id : DocumentId} {old new : Records} :
    old.keeps id new = true ↔ ((old.document? id).isSome → (new.document? id).isSome) := by
  cases found : old.document? id <;> simp [keeps, found]

/-- An operation leaves a record what it is, unless it takes it away. -/
theorem Distinct.continues {r : Records} (distinct : r.Distinct) {id : DocumentId} {d : Document}
    (found : r.document? id = some d) {op : Operation}
    (spared : op.removes = true → r.keeps id (op.perform r).2 = true) :
    ∃ e, (op.perform r).2.document? id = some e ∧ d.Continues e := by
  have filtered : ∀ p : Document → Bool,
      r.keeps id { r with documents := r.documents.filter p } = true →
      ∃ e, ({ r with documents := r.documents.filter p } : Records).document? id = some e ∧
        d.Continues e := by
    intro p kept
    have stands := keeps_iff.mp kept (by rw [found]; rfl)
    rw [distinct.document?_filter p id, found, Option.filter_some] at stands ⊢
    split at stands
    · next passes => exact ⟨d, if_pos passes, .rfl⟩
    · cases stands
  have does := op.does_perform r
  generalize (op.perform r).1 = result, (op.perform r).2 = next at does spared ⊢
  cases does with
  | failed | got | looked | switched => exact ⟨d, found, .rfl⟩
  | @saved f free =>
      have other : f.id ≠ id := fun same => by rw [same, found] at free; cases free
      exact ⟨d, by rw [document?_add, if_neg other, found], .rfl⟩
  | @updated j status time f target pending =>
      rw [document?_judge, found, Option.map_some]
      refine ⟨_, rfl, ?_⟩
      by_cases own : d.id = j
      · obtain rfl : id = j := (id_of_document? found).symm.trans own
        cases found.symm.trans target
        rw [if_pos own]
        exact .judge pending status time
      · rw [if_neg own]
        exact .rfl
  | deleted => exact filtered _ (spared rfl)
  | purged => exact filtered _ (spared rfl)

/-- A verdict is written into one record only. -/
theorem document?_update {r : Records} {id j : DocumentId} (other : j ≠ id) (status : Status)
    (time : Instant) :
    (r.update id status time).2.document? j = r.document? j := by
  cases r.update_cases id status time with
  | inl failed =>
      obtain ⟨e, failed, -⟩ := failed
      rw [failed]
  | inr done =>
      obtain ⟨d, -, -, done⟩ := done
      rw [done, document?_judge]
      cases found : r.document? j with
      | none => rfl
      | some e =>
          have apart : e.id ≠ id := fun same => other ((id_of_document? found).symm.trans same)
          rw [Option.map_some, if_neg apart]

/-- The records after a sequence of operations. -/
def after (r : Records) (ops : List Operation) : Records :=
  ops.foldl (fun r op => (op.perform r).2) r

/-- No operation of a sequence takes away the record under an id. -/
def spares (id : DocumentId) (r : Records) : List Operation → Bool
  | [] => true
  | op :: rest =>
    let next := (op.perform r).2
    (!op.removes || r.keeps id next) && next.spares id rest

theorem Distinct.after {r : Records} (distinct : r.Distinct) (ops : List Operation) :
    (r.after ops).Distinct := by
  induction ops generalizing r with
  | nil => exact distinct
  | cons op ops ih => exact ih (distinct.perform op)

theorem Distinct.continues_after {r : Records} (distinct : r.Distinct) {id : DocumentId}
    {d : Document} (found : r.document? id = some d) {ops : List Operation}
    (spared : r.spares id ops = true) :
    ∃ e, (r.after ops).document? id = some e ∧ d.Continues e := by
  induction ops generalizing r d with
  | nil => exact ⟨d, found, .rfl⟩
  | cons op ops ih =>
      rw [spares, Bool.and_eq_true, Bool.or_eq_true, Bool.not_eq_true'] at spared
      obtain ⟨first, rest⟩ := spared
      have kept : op.removes = true → r.keeps id (op.perform r).2 = true := fun removes =>
        first.resolve_left fun harmless => by rw [removes] at harmless; cases harmless
      obtain ⟨e, here, continues⟩ := distinct.continues found kept
      obtain ⟨f, last, later⟩ := ih (distinct.perform op) here rest
      exact ⟨f, last, continues.trans later⟩

end Records

end Quarantine
