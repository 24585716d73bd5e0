import Quarantine.Proofs.Store.History

/-!
Looking a record up by the hash of its content. Whatever order the store walks through its records
in, it finds one that has a verdict if any of that content has one, and among those with which it
shares this none was made later. The order counts only between records that were made at the same
time.
-/

namespace Quarantine

namespace Records

/-- A record of a content that may be found among some. -/
structure Leads (hash : String) (documents : List Document) (d : Document) : Prop where
  stored : d ∈ documents
  own : d.hash = hash
  judged : (∃ e ∈ documents, e.hash = hash ∧ e.isPending = false) → d.isPending = false
  latest : ∀ e ∈ documents, e.hash = hash → e.isPending = d.isPending →
    d.createdAt.before e.createdAt = false

/-- No two records of a content, both with a verdict or both without, were made at the same time. -/
def Untied (hash : String) (documents : List Document) : Prop :=
  ∀ d ∈ documents, ∀ e ∈ documents, d.hash = hash → e.hash = hash →
    d.isPending = e.isPending → d.createdAt = e.createdAt → d = e

instance (hash : String) (documents : List Document) : Decidable (Untied hash documents) :=
  inferInstanceAs (Decidable (∀ d ∈ documents, ∀ e ∈ documents, d.hash = hash →
    e.hash = hash → d.isPending = e.isPending → d.createdAt = e.createdAt → d = e))

/-- The same records, to be walked through in another order. -/
structure Reorders (r s : Records) : Prop where
  documents : s.documents.Perm r.documents
  online : s.online = r.online

/-- The store holds these records and no others. -/
def Holds (r : Records) (documents : List Document) : Prop :=
  ∀ d, d ∈ r.documents ↔ d ∈ documents

section Found

variable {r s : Records} {documents : List Document} {hash : String} {d e : Document}

theorem leads_of_informative? (found : r.informative? hash = some d) :
    Leads hash r.documents d where
  stored := (informative?_mem found).1
  own := (informative?_mem found).2
  judged := by
    rintro ⟨e, stored, own, judged⟩
    have most := informative?_max found e stored own
    rw [Bool.eq_false_iff, ne_eq, outranked_iff] at most
    rw [Bool.eq_false_iff]
    exact fun pending => most (.inl ⟨pending, judged⟩)
  latest e stored own alike := by
    have most := informative?_max found e stored own
    rw [Bool.eq_false_iff, ne_eq, outranked_iff] at most
    rw [Bool.eq_false_iff]
    exact fun older => most (.inr ⟨alike.symm, older⟩)

/-- Which records may be found depends on which there are. -/
theorem Leads.of_holds (holds : r.Holds documents) (leads : Leads hash r.documents d) :
    Leads hash documents d where
  stored := (holds d).mp leads.stored
  own := leads.own
  judged := by
    rintro ⟨e, stored, judged⟩
    exact leads.judged ⟨e, (holds e).mpr stored, judged⟩
  latest e stored := leads.latest e ((holds e).mpr stored)

/-- Two records that may be found are alike in what counts. -/
theorem Leads.eq_of_untied (leads : Leads hash documents d) (leads' : Leads hash documents e)
    (untied : Untied hash documents) : d = e := by
  have alike : d.isPending = e.isPending := by
    cases judged : d.isPending with
    | false => exact (leads'.judged ⟨d, leads.stored, leads.own, judged⟩).symm
    | true =>
        cases judged' : e.isPending with
        | true => rfl
        | false =>
            rw [leads.judged ⟨e, leads'.stored, leads'.own, judged'⟩] at judged
            cases judged
  refine untied d leads.stored e leads'.stored leads.own leads'.own alike
    (Instant.eq_of_not_before ?_ ?_)
  · exact leads.latest e leads'.stored leads'.own alike.symm
  · exact leads'.latest d leads.stored leads.own alike

theorem Holds.reorders (holds : r.Holds documents) (order : r.Reorders s) : s.Holds documents :=
  fun d => order.documents.mem_iff.trans (holds d)

theorem Holds.getByHash (holds : r.Holds documents) (online : r.online = true) (hash : String) :
    (r.getByHash hash = .error (.notFound hash) ∧ ∀ d ∈ documents, d.hash ≠ hash) ∨
      ∃ d, r.getByHash hash = .ok d ∧ Leads hash documents d := by
  cases found : r.informative? hash with
  | none =>
      refine .inl ⟨by simp [Records.getByHash, online, found], fun d stored => ?_⟩
      exact informative?_eq_none.mp found d ((holds d).mpr stored)
  | some d =>
      exact .inr ⟨d, by simp [Records.getByHash, online, found],
        (leads_of_informative? found).of_holds holds⟩

theorem Holds.getByHash_eq_notFound_iff (holds : r.Holds documents) :
    r.getByHash hash = .error (.notFound hash) ↔
      r.online = true ∧ ∀ d ∈ documents, d.hash ≠ hash := by
  constructor
  · intro missing
    cases online : r.online with
    | false =>
        simp only [Records.getByHash, online] at missing
        cases missing
    | true =>
        obtain ⟨-, none⟩ | ⟨d, found, -⟩ := holds.getByHash online hash
        · exact ⟨rfl, none⟩
        · rw [found] at missing
          cases missing
  · rintro ⟨online, none⟩
    obtain ⟨missing, -⟩ | ⟨d, -, leads⟩ := holds.getByHash online hash
    · exact missing
    · exact absurd leads.own (none d leads.stored)

/-- Without ties all stores with the same records give one answer. -/
theorem Holds.getByHash_congr (holds : r.Holds documents) (holds' : s.Holds documents)
    (online : r.online = s.online) (untied : Untied hash documents) :
    r.getByHash hash = s.getByHash hash := by
  cases on : s.online with
  | false => simp [Records.getByHash, online, on]
  | true =>
      obtain ⟨missing, none⟩ | ⟨d, found, leads⟩ := holds.getByHash (online.trans on) hash
      · rw [missing, eq_comm, holds'.getByHash_eq_notFound_iff]
        exact ⟨on, none⟩
      · obtain ⟨-, none⟩ | ⟨e, found', leads'⟩ := holds'.getByHash on hash
        · exact absurd leads.own (none d leads.stored)
        · rw [found, found', leads.eq_of_untied leads' untied]

end Found

/-- Records with ids of their own can be saved in any order. -/
theorem after_saves {saved : List Document} {r : Records} (online : r.online = true)
    (distinct : (saved.map (·.id)).Nodup) (free : ∀ d ∈ saved, r.document? d.id = none) :
    r.after (saved.map .save) = { r with documents := saved.reverse ++ r.documents } := by
  induction saved generalizing r with
  | nil => rfl
  | cons d saved ih =>
      obtain ⟨fresh, distinct⟩ := List.nodup_cons.mp distinct
      have first : (Operation.perform r (.save d)).2 = r.add d := by
        simp [Operation.perform, r.save_eq online, free d List.mem_cons_self]
      have free' : ∀ e ∈ saved, (r.add d).document? e.id = none := by
        intro e listed
        have other : d.id ≠ e.id := fun same =>
          fresh (List.mem_map.mpr ⟨e, listed, same.symm⟩)
        rw [document?_add, if_neg other]
        exact free e (List.mem_cons_of_mem d listed)
      have rest := ih (r := r.add d) online distinct free'
      simp only [after, List.map_cons, List.foldl_cons, first] at rest ⊢
      rw [rest]
      simp [add]

/-- Any records with ids of their own can be saved in any order. Whatever operations have led to
them, and in whatever order they are walked through, a look-up finds nothing exactly if there is no
record of the content, and otherwise a record of it that has a verdict if any has one and that is the
latest of its kind. Without ties there is one such record only, and all stores that hold the same
records give the same answer. -/
theorem lookup_leads {documents : List Document} (distinct : (documents.map (·.id)).Nodup)
    (hash : String) :
    (∀ saved : List Document, saved.Perm documents →
      (empty.after (saved.map .save)).online = true ∧
        (empty.after (saved.map .save)).Holds documents) ∧
    ∀ (ops : List Operation) (s : Records), (empty.after ops).Holds documents →
      (empty.after ops).Reorders s →
      (s.getByHash hash = .error (.notFound hash) ↔
        s.online = true ∧ ∀ d ∈ documents, d.hash ≠ hash) ∧
      (s.online = true → (∃ d ∈ documents, d.hash = hash) →
        ∃ d, s.getByHash hash = .ok d ∧ Leads hash documents d) ∧
      (Untied hash documents →
        (∀ d e, Leads hash documents d → Leads hash documents e → d = e) ∧
        ∀ (ops' : List Operation) (s' : Records), (empty.after ops').Holds documents →
          (empty.after ops').Reorders s' → s'.online = s.online →
            s'.getByHash hash = s.getByHash hash) := by
  refine ⟨?saves, fun ops s holds order => ⟨?missing, ?found, fun untied => ⟨?sole, ?again⟩⟩⟩
  case saves =>
    intro saved order
    have distinct' : (saved.map (·.id)).Nodup := (order.map _).nodup_iff.mpr distinct
    rw [after_saves rfl distinct' fun _ _ => rfl]
    refine ⟨rfl, fun d => ?_⟩
    simpa [empty] using order.mem_iff
  case missing => exact (holds.reorders order).getByHash_eq_notFound_iff
  case found =>
    rintro online ⟨d, stored, own⟩
    obtain ⟨-, none⟩ | found := (holds.reorders order).getByHash online hash
    · exact absurd own (none d stored)
    · exact found
  case sole => exact fun d e leads leads' => leads.eq_of_untied leads' untied
  case again =>
    intro ops' s' holds' order' online
    exact (holds'.reorders order').getByHash_congr (holds.reorders order) online untied

section Witness

def second (seconds : Int) : Instant :=
  { (default : Instant) with seconds := seconds }

/-- One of the records of a content, with its tag as its id. -/
def sharer (tag : String) (status : Status) (analyzed : Option Int) (created : Int) : Document :=
  ⟨⟨tag⟩, "shared", tag, status, analyzed.map second, second created⟩

/-- Two records of one content come late, one early; of the two that get a verdict the early one is
swept. -/
def sweptHistory : List Operation :=
  [.save (sharer "early" .clean (some 2) 1), .save (sharer "late" .pending none 8),
    .save (sharer "judged" .pending none 5), .update ⟨"judged"⟩ .infected (second 9),
    .purge (second 4)]

/-- The same two records are left, and one is deleted. -/
def deletedHistory : List Operation :=
  [.save (sharer "judged" .infected (some 9) 5), .save (sharer "gone" .clean (some 7) 6),
    .switch false, .delete ⟨"judged"⟩, .switch true, .delete ⟨"gone"⟩,
    .save (sharer "late" .pending none 8)]

/-- After both histories, and in either order of the records, the one with the verdict is found,
though the other was made later. -/
theorem lookup_leads_after_sweep :
    ∃ r s, empty.after sweptHistory = r ∧ (empty.after deletedHistory).Reorders s ∧
      (empty.after deletedHistory).documents ≠ s.documents ∧ Untied "shared" r.documents ∧
      r.getByHash "shared" = .ok (sharer "judged" .infected (some 9) 5) ∧
      s.getByHash "shared" = .ok (sharer "judged" .infected (some 9) 5) ∧
      r.getByHash "other" = .error (.notFound "other") := by
  have reversed : (empty.after deletedHistory).Reorders
      { empty.after deletedHistory with documents := (empty.after deletedHistory).documents.reverse } :=
    ⟨List.reverse_perm _, rfl⟩
  refine ⟨_, _, rfl, reversed, by decide, by decide, ?_⟩
  have swept : (empty.after sweptHistory).Holds (empty.after sweptHistory).documents :=
    fun _ => .rfl
  have deleted : (empty.after deletedHistory).Holds (empty.after sweptHistory).documents :=
    have order : (empty.after deletedHistory).documents.Perm
      (empty.after sweptHistory).documents := by decide
    fun _ => order.mem_iff
  have same : (empty.after sweptHistory).Reorders (empty.after sweptHistory) := ⟨.refl _, rfl⟩
  obtain ⟨-, found, unique⟩ :=
    (lookup_leads (by decide) "shared").2 sweptHistory _ swept same
  obtain ⟨missing, -⟩ :=
    (lookup_leads (by decide) "other").2 sweptHistory _ swept same
  obtain ⟨sole, again⟩ := unique (by decide)
  obtain ⟨d, answer, leads⟩ := found rfl (by decide)
  have judged : Leads "shared" (empty.after sweptHistory).documents
      (sharer "judged" .infected (some 9) 5) :=
    ⟨by decide, rfl, fun _ => rfl, by decide⟩
  rw [sole d _ leads judged] at answer
  have answer' := (again deletedHistory _ deleted reversed rfl).trans answer
  exact ⟨answer, answer', missing.mpr ⟨rfl, by decide⟩⟩

end Witness

end Records

end Quarantine
