import Quarantine.Store.Records

/-!
What the calls to the store of records do. A call that goes well makes one of three changes: a
record is added, the status of one is written, or old ones are taken away. All of them keep the ids apart,
so the record under an id is the only one.
-/

namespace Quarantine

theorem Instant.before_iff {s t : Instant} :
    s.before t = true ↔ s.seconds < t.seconds ∨ (s.seconds = t.seconds ∧ s.nanos < t.nanos) := by
  simp [before]

theorem Instant.before_trans {s t u : Instant} (first : s.before t = true)
    (second : t.before u = true) : s.before u = true := by
  rw [before_iff] at first second ⊢
  omega

theorem Instant.eq_of_not_before {s t : Instant} (early : s.before t = false)
    (late : t.before s = false) : s = t := by
  rw [Bool.eq_false_iff, ne_eq, before_iff] at early late
  cases s
  cases t
  simp only [mk.injEq]
  dsimp only at early late
  omega

namespace Records

/-- No two records have the same id. -/
def Distinct (r : Records) : Prop :=
  (r.documents.map (·.id)).Nodup

def add (d : Document) (r : Records) : Records :=
  { r with documents := d :: r.documents }

def judge (id : DocumentId) (status : Status) (time : Instant) (r : Records) : Records :=
  { r with documents := r.documents.map fun e =>
      if e.id = id then { e with status := status, analyzedAt := some time } else e }

def purged (cutoff : Instant) (r : Records) : Records :=
  { r with documents := r.documents.filter fun d => !d.isPurgeable cutoff }

/-- The old records are still there, with their hashes and tags. Those that have a verdict are as
they were. -/
def Lasts (old new : Records) : Prop :=
  ∀ id d, old.document? id = some d →
    ∃ e, new.document? id = some e ∧ e.hash = d.hash ∧ e.tag = d.tag ∧ (d.isPending = false → e = d)

section Lookup

variable {r : Records} {id : DocumentId} {d : Document}

theorem mem_of_document? (found : r.document? id = some d) : d ∈ r.documents :=
  List.mem_of_find?_eq_some found

theorem id_of_document? (found : r.document? id = some d) : d.id = id := by
  simpa using List.find?_some found

theorem document?_eq_none : r.document? id = none ↔ ∀ d ∈ r.documents, d.id ≠ id := by
  simp [document?]

theorem document?_isSome_of_mem (stored : d ∈ r.documents) : (r.document? d.id).isSome := by
  cases found : r.document? d.id with
  | none => exact absurd rfl (document?_eq_none.mp found d stored)
  | some e => rfl

theorem find?_id_of_mem {l : List Document} (distinct : (l.map (·.id)).Nodup) (stored : d ∈ l) :
    (l.find? fun e => e.id = d.id) = some d := by
  induction l with
  | nil => cases stored
  | cons e l ih =>
      obtain ⟨fresh, distinct⟩ := List.nodup_cons.mp distinct
      cases List.mem_cons.mp stored with
      | inl same =>
          subst same
          simp
      | inr stored =>
          have apart : e.id ≠ d.id := fun same =>
            fresh (List.mem_map.mpr ⟨d, stored, same.symm⟩)
          simp only [List.find?_cons, apart, decide_false]
          exact ih distinct stored

theorem Distinct.document?_of_mem (distinct : r.Distinct) (stored : d ∈ r.documents) :
    r.document? d.id = some d :=
  find?_id_of_mem distinct stored

theorem Distinct.countP_le_one (distinct : r.Distinct) (id : DocumentId) :
    r.documents.countP (fun d => d.id = id) ≤ 1 := by
  have count := List.nodup_iff_count.mp distinct id
  rw [List.count_eq_countP, List.countP_map] at count
  exact count

theorem best_mem {l : List Document} (found : best l = some d) : d ∈ l := by
  induction l generalizing d with
  | nil => cases found
  | cons e l ih =>
      cases later : best l with
      | none =>
          simp only [best, later, Option.some.injEq] at found
          exact found ▸ List.mem_cons_self
      | some f =>
          simp only [best, later] at found
          split at found
          · cases found
            exact List.mem_cons_self
          · cases found
            exact List.mem_cons_of_mem _ (ih later)

theorem best_eq_none {l : List Document} : best l = none ↔ l = [] := by
  cases l with
  | nil => simp [best]
  | cons d l =>
      simp only [best, reduceCtorEq, iff_false]
      split
      · simp
      · split <;> simp

/-- What it is to tell less: to lack a verdict that the other has, or to be older than the other
with no such difference. -/
theorem outranked_iff {d e : Document} :
    outranked d e = true ↔ (d.isPending = true ∧ e.isPending = false) ∨
      (d.isPending = e.isPending ∧ d.createdAt.before e.createdAt = true) := by
  unfold outranked
  cases d.isPending <;> cases e.isPending <;> simp

theorem outranked_irrefl (d : Document) : outranked d d = false := by
  rw [Bool.eq_false_iff, ne_eq, outranked_iff, Instant.before_iff]
  simp

theorem outranked_trans {d e f : Document} (first : outranked d e = true)
    (second : outranked e f = true) : outranked d f = true := by
  rw [outranked_iff] at first second ⊢
  obtain ⟨waits, judged⟩ | ⟨alike, older⟩ := first
  · obtain ⟨waits', -⟩ | ⟨alike', -⟩ := second
    · rw [judged] at waits'
      cases waits'
    · exact .inl ⟨waits, alike'.symm.trans judged⟩
  · obtain ⟨waits, judged⟩ | ⟨alike', older'⟩ := second
    · exact .inl ⟨alike.trans waits, judged⟩
    · exact .inr ⟨alike.trans alike', Instant.before_trans older older'⟩

/-- No record among some tells more than the best. -/
theorem best_max {l : List Document} (found : best l = some d) :
    ∀ e ∈ l, outranked d e = false := by
  induction l generalizing d with
  | nil => cases found
  | cons e l ih =>
      intro f stored
      cases later : best l with
      | none =>
          rw [best_eq_none.mp later, List.mem_singleton] at stored
          simp only [best, later, Option.some.injEq] at found
          rw [stored, found]
          exact outranked_irrefl d
      | some b =>
          simp only [best, later] at found
          split at found
          · next less =>
              cases found
              cases List.mem_cons.mp stored with
              | inl same =>
                  rw [same]
                  exact outranked_irrefl e
              | inr stored =>
                  -- A record that tells more than this one would tell more than the best of the rest.
                  rw [Bool.eq_false_iff]
                  intro more
                  have above := outranked_trans less more
                  rw [ih later f stored] at above
                  cases above
          · next less =>
              cases found
              cases List.mem_cons.mp stored with
              | inl same =>
                  rw [same]
                  exact Bool.eq_false_iff.mpr less
              | inr stored => exact ih later f stored

theorem informative?_eq_none {hash : String} :
    r.informative? hash = none ↔ ∀ d ∈ r.documents, d.hash ≠ hash := by
  simp [informative?, best_eq_none]

theorem informative?_max {hash : String} (found : r.informative? hash = some d) :
    ∀ e ∈ r.documents, e.hash = hash → outranked d e = false := by
  intro e stored same
  exact best_max found e (List.mem_filter.mpr ⟨stored, by simpa using same⟩)

theorem informative?_mem {hash : String} (found : r.informative? hash = some d) :
    d ∈ r.documents ∧ d.hash = hash := by
  simpa using best_mem found

end Lookup

section Changes

variable (r : Records)

theorem distinct_empty : empty.Distinct :=
  List.nodup_nil

theorem Distinct.add {r : Records} (distinct : r.Distinct) {d : Document}
    (free : r.document? d.id = none) : (r.add d).Distinct := by
  refine List.nodup_cons.mpr ⟨?_, distinct⟩
  intro taken
  obtain ⟨e, stored, same⟩ := List.mem_map.mp taken
  exact document?_eq_none.mp free e stored same

theorem Distinct.judge {r : Records} (distinct : r.Distinct) (id : DocumentId) (status : Status)
    (time : Instant) : (r.judge id status time).Distinct := by
  have ids : ((r.judge id status time).documents.map (·.id)) = r.documents.map (·.id) := by
    simp only [Records.judge, List.map_map]
    refine List.map_congr_left fun e _ => ?_
    simp only [Function.comp_apply]
    split <;> rfl
  rw [Distinct, ids]
  exact distinct

theorem Distinct.purged {r : Records} (distinct : r.Distinct) (cutoff : Instant) :
    (r.purged cutoff).Distinct :=
  distinct.sublist (List.filter_sublist.map _)

theorem mem_judge {d : Document} {id : DocumentId} {status : Status} {time : Instant} :
    d ∈ (r.judge id status time).documents ↔
      (d ∈ r.documents ∧ d.id ≠ id) ∨
        ∃ e ∈ r.documents, e.id = id ∧
          d = { e with status := status, analyzedAt := some time } := by
  simp only [judge, List.mem_map]
  constructor
  · rintro ⟨e, stored, rfl⟩
    by_cases same : e.id = id
    · rw [if_pos same]
      exact .inr ⟨e, stored, same, rfl⟩
    · rw [if_neg same]
      exact .inl ⟨stored, same⟩
  · rintro (⟨stored, other⟩ | ⟨e, stored, same, rfl⟩)
    · exact ⟨d, stored, if_neg other⟩
    · exact ⟨e, stored, if_pos same⟩

theorem document?_judge (id j : DocumentId) (status : Status) (time : Instant) :
    (r.judge id status time).document? j = (r.document? j).map fun e =>
      if e.id = id then { e with status := status, analyzedAt := some time } else e := by
  simp only [judge, document?, List.find?_map]
  congr 2
  funext e
  simp only [Function.comp_apply]
  split <;> rfl

theorem mem_purged {d : Document} {cutoff : Instant} :
    d ∈ (r.purged cutoff).documents ↔ d ∈ r.documents ∧ d.isPurgeable cutoff = false := by
  simp [purged]

/-- As many records are removed as there are to be purged. -/
theorem length_purged (cutoff : Instant) :
    (r.purged cutoff).documents.length + r.documents.countP (fun d => d.isPurgeable cutoff) =
      r.documents.length := by
  rw [purged, ← List.countP_eq_length_filter, Nat.add_comm]
  simpa using (r.documents.length_eq_countP_add_countP fun d => d.isPurgeable cutoff).symm

theorem document?_add (d : Document) (id : DocumentId) :
    (r.add d).document? id = if d.id = id then some d else r.document? id := by
  simp only [add, document?, List.find?_cons]
  by_cases same : d.id = id <;> simp [same]

theorem Lasts.rfl {r : Records} : r.Lasts r :=
  fun _ d found => ⟨d, found, Eq.refl _, Eq.refl _, fun _ => Eq.refl _⟩

theorem Lasts.add {r : Records} {d : Document} (free : r.document? d.id = none) :
    r.Lasts (r.add d) := by
  intro id e found
  have other : d.id ≠ id := fun same => by rw [← same, free] at found; cases found
  rw [document?_add, if_neg other]
  exact Lasts.rfl id e found

theorem Lasts.judge {r : Records} {id : DocumentId} {d : Document} (found : r.document? id = some d)
    (pending : d.isPending = true) (status : Status) (time : Instant) :
    r.Lasts (r.judge id status time) := by
  intro j e stored
  rw [document?_judge, stored, Option.map_some]
  refine ⟨_, Eq.refl _, ?_⟩
  by_cases same : j = id
  · subst same
    cases found.symm.trans stored
    rw [if_pos (id_of_document? stored)]
    exact ⟨Eq.refl _, Eq.refl _, fun judged => by rw [pending] at judged; cases judged⟩
  · rw [if_neg fun own => same ((id_of_document? stored).symm.trans own)]
    exact ⟨Eq.refl _, Eq.refl _, fun _ => Eq.refl _⟩

end Changes

section Calls

variable (r : Records)

theorem save_eq (on : r.online = true) (d : Document) :
    r.save d = if (r.document? d.id).isSome then (.error (.alreadyExists d.id.text), r)
      else (.ok (), r.add d) := by
  simp only [save, on, if_true, add]

theorem save_cases (d : Document) :
    (∃ e, r.save d = (.error e, r)) ∨
      (r.document? d.id = none ∧ r.save d = (.ok (), r.add d)) := by
  by_cases on : r.online = true
  · cases found : r.document? d.id with
    | none => exact .inr ⟨rfl, by simp [r.save_eq on, found]⟩
    | some e => exact .inl ⟨_, by rw [r.save_eq on, found]; rfl⟩
  · exact .inl ⟨offline, by simp [save, on]⟩

theorem update_cases (id : DocumentId) (status : Status) (time : Instant) :
    (∃ e, r.update id status time = (.error e, r) ∧
        ∀ text, e = .alreadyAnalyzed text →
          ∃ d, r.document? id = some d ∧ d.isPending = false) ∨
      (∃ d, r.document? id = some d ∧ d.isPending = true ∧
        r.update id status time = (.ok (), r.judge id status time)) := by
  by_cases on : r.online = true
  · cases found : r.document? id with
    | none => exact .inl ⟨.notFound id.text, by simp [update, on, found], fun _ h => by cases h⟩
    | some d =>
        cases pending : d.isPending with
        | true => exact .inr ⟨d, rfl, pending, by simp [update, on, found, pending, judge]⟩
        | false =>
            exact .inl ⟨.alreadyAnalyzed id.text, by simp [update, on, found, pending],
              fun _ _ => ⟨d, rfl, pending⟩⟩
  · exact .inl ⟨offline, by simp [update, on], fun _ h => by cases h⟩

theorem purge_cases (cutoff : Instant) :
    (∃ e, r.purge cutoff = (.error e, r)) ∨
      r.purge cutoff =
        (.ok (r.documents.countP fun d => d.isPurgeable cutoff), r.purged cutoff) := by
  by_cases on : r.online = true
  · exact .inr (by simp [purge, on, purged])
  · exact .inl ⟨offline, by simp [purge, on]⟩

theorem get_ok {id : DocumentId} {d : Document} (got : r.get id = .ok d) :
    r.document? id = some d := by
  unfold get at got
  split at got
  · split at got
    · next found => cases got; exact found
    · cases got
  · cases got

theorem getByHash_ok {hash : String} {d : Document} (got : r.getByHash hash = .ok d) :
    r.informative? hash = some d := by
  unfold getByHash at got
  split at got
  · split at got
    · next found => cases got; exact found
    · cases got
  · cases got

end Calls

end Records

end Quarantine
