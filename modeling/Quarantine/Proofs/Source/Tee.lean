import Quarantine.Proofs.Document.Identity
import Quarantine.Proofs.Source.Drain
import Quarantine.Source.Tee

/-!
The identity of a content that is taken in as it comes. However it is cut into pieces, the pieces have
the identity of the whole. A reader that looks over the shoulder of another one changes nothing of what
is read, and knows the identity of exactly what has been read through it.
-/

namespace Quarantine

namespace Identity.Hasher

theorem absorbAll_eq (chunks : List Bytes) (h : Hasher) :
    (h.absorbAll chunks).2 = chunks.foldl Hasher.absorb h := by
  induction chunks generalizing h with
  | nil => rfl
  | cons chunk chunks ih => exact ih (h.absorb chunk)

/-- After each piece the bytes of all pieces so far have been counted. -/
theorem Holds.counts {h : Hasher} {content : Bytes} (taken : h.Holds content)
    (chunks : List Bytes) :
    (h.absorbAll chunks).1 = (List.range chunks.length).map fun i =>
      content.length + (chunks.take (i + 1)).flatten.length := by
  induction chunks generalizing h content with
  | nil => rfl
  | cons chunk chunks ih =>
      have next := taken.absorb chunk
      rw [Hasher.absorbAll, ih next, next.2.2, List.length_cons, List.range_succ_eq_map, List.map_cons,
        List.map_map]
      simp [Function.comp_def, Nat.add_assoc]

end Identity.Hasher

namespace Limited

/-- What reads of given sizes give, one after another. A read that fails changes nothing. -/
def reads : List Nat → Limited → List (Except IoError Bytes)
  | [], _ => []
  | n :: sizes, l =>
    match l.read n with
    | .ok (got, rest) => .ok got :: rest.reads sizes
    | .error e => .error e :: l.reads sizes

end Limited

namespace Tee

/-- The bytes that reads have given, one after another. -/
def returned (results : List (Except IoError (Bytes × Nat))) : Bytes :=
  results.flatMap fun
    | .ok (got, _) => got
    | .error _ => []

/-- Some read was for a byte or more and gave none. -/
def Exhausted (sizes : List Nat) (results : List (Except IoError (Bytes × Nat))) : Prop :=
  ∃ p ∈ sizes.zip results, 0 < p.1 ∧ returned [p.2] = []

instance (sizes : List Nat) (results : List (Except IoError (Bytes × Nat))) :
    Decidable (Exhausted sizes results) :=
  inferInstanceAs (Decidable (∃ p ∈ sizes.zip results, 0 < p.1 ∧ returned [p.2] = []))

variable {t rest : Tee} {n : Nat} {sizes : List Nat}

theorem read_ok {got : Bytes} (given : t.read n = .ok (got, rest)) :
    t.source.read n = .ok (got, rest.source) ∧ rest.hasher = t.hasher.absorb got := by
  unfold read at given
  split at given
  · cases given
  · next took =>
      cases given
      exact ⟨took, rfl⟩

theorem read_error {e : IoError} (given : t.read n = .error e) : t.source.read n = .error e := by
  unfold read at given
  split at given
  · next failed => cases given; exact failed
  · cases given

/-- Reads one after another, taken apart at the first. -/
theorem reads_induction {P : List Nat → Tee → List (Except IoError (Bytes × Nat)) → Tee → Prop}
    (none : ∀ t, P [] t [] t)
    (took : ∀ n sizes t got rest results last, t.source.read n = .ok (got, rest.source) →
      rest.hasher = t.hasher.absorb got → P sizes rest results last →
      P (n :: sizes) t (.ok (got, rest.counted) :: results) last)
    (failed : ∀ n sizes t e results last, t.source.read n = .error e → P sizes t results last →
      P (n :: sizes) t (.error e :: results) last)
    (sizes : List Nat) (t : Tee) : P sizes t (t.reads sizes).1 (t.reads sizes).2 := by
  induction sizes generalizing t with
  | nil => exact none t
  | cons n sizes ih =>
      unfold reads
      cases given : t.read n with
      | ok p => exact took n sizes t p.1 p.2 _ _ (read_ok given).1 (read_ok given).2 (ih p.2)
      | error e => exact failed n sizes t e _ _ (read_error given) (ih t)

/-- Nobody can tell from what is read that it is hashed. -/
theorem reads_eq (sizes : List Nat) (t : Tee) :
    (t.reads sizes).1.map (Except.map Prod.fst) = t.source.reads sizes := by
  refine reads_induction (P := fun sizes t results _ =>
    results.map (Except.map Prod.fst) = t.source.reads sizes) ?_ ?_ ?_ sizes t
  · exact fun t => rfl
  · intro n sizes t got rest results last took _ ih
    rw [Limited.reads, took, List.map_cons, ih]
    rfl
  · intro n sizes t e results last failed ih
    rw [Limited.reads, failed, List.map_cons, ih]
    rfl

/-- What reads have given stood in front of what is left, in the source and of what may be taken. -/
theorem gives_reads (sizes : List Nat) (t : Tee) :
    t.source.source.bytes = returned (t.reads sizes).1 ++ (t.reads sizes).2.source.source.bytes ∧
      t.source.within = returned (t.reads sizes).1 ++ (t.reads sizes).2.source.within := by
  refine reads_induction (P := fun _ t results last =>
    t.source.source.bytes = returned results ++ last.source.source.bytes ∧
      t.source.within = returned results ++ last.source.within) ?_ ?_ ?_ sizes t
  · exact fun t => ⟨rfl, rfl⟩
  · intro n sizes t got rest results last took _ ⟨bytes, within⟩
    have gives := Limited.gives_of_read took
    rw [gives.bytes, gives.within, bytes, within]
    exact ⟨(List.append_assoc _ _ _).symm, (List.append_assoc _ _ _).symm⟩
  · exact fun n sizes t e results last _ ih => ih

theorem holds_reads (sizes : List Nat) (t : Tee) {content : Bytes}
    (taken : t.hasher.Holds content) :
    (t.reads sizes).2.hasher.Holds (content ++ returned (t.reads sizes).1) := by
  refine reads_induction (P := fun _ t results last => ∀ content, t.hasher.Holds content →
    last.hasher.Holds (content ++ returned results)) ?_ ?_ ?_ sizes t content taken
  · exact fun t content taken => by simpa [returned] using taken
  · intro n sizes t got rest results last _ hashed ih content taken
    have later := ih (content ++ got) (hashed ▸ taken.absorb got)
    rw [List.append_assoc] at later
    exact later
  · exact fun n sizes t e results last _ ih => ih

/-- A read that gives bytes has counted all that were given by then. -/
theorem counts_reads (sizes : List Nat) (t : Tee) {content : Bytes}
    (taken : t.hasher.Holds content) {i : Nat} {got : Bytes} {count : Nat}
    (given : (t.reads sizes).1[i]? = some (.ok (got, count))) :
    count = content.length + (returned ((t.reads sizes).1.take (i + 1))).length := by
  refine reads_induction (P := fun _ t results _ => ∀ content i, t.hasher.Holds content →
    results[i]? = some (.ok (got, count)) →
      count = content.length + (returned (results.take (i + 1))).length) ?_ ?_ ?_ sizes t content i
    taken given
  · exact fun t content i taken given => by cases given
  · intro n sizes t got' rest results last _ hashed ih content i taken given
    have next := hashed ▸ taken.absorb got'
    cases i with
    | zero =>
        cases given
        rw [counted, next.2.2]
        simp [returned]
    | succ i =>
        rw [ih _ i next given]
        simp [returned, Nat.add_assoc]
  · intro n sizes t e results last _ ih content i taken given
    cases i with
    | zero => cases given
    | succ i => exact ih content i taken given

/-- When a read for some bytes has given none, all that may be taken has been given. -/
theorem spent_reads (sizes : List Nat) (t : Tee) (flowing : t.source.Flowing)
    (exhausted : Exhausted sizes (t.reads sizes).1) : (t.reads sizes).2.source.within = [] := by
  revert flowing exhausted
  refine reads_induction (P := fun sizes t results last => t.source.within =
      returned results ++ last.source.within ∧ (t.source.Flowing → Exhausted sizes results →
      last.source.within = [])) ?_ ?_ ?_ sizes t |>.2
  · exact fun t => ⟨rfl, fun _ ⟨p, member, _⟩ => absurd member List.not_mem_nil⟩
  · intro n sizes t got rest results last took _ ⟨within, spent⟩
    have gives := Limited.gives_of_read took
    have all : t.source.within = got ++ (returned results ++ last.source.within) := by
      rw [gives.within, within]
    refine ⟨all.trans (List.append_assoc _ _ _).symm, fun flowing ⟨p, member, pos, nothing⟩ => ?_⟩
    cases List.mem_cons.mp member with
    | inl first =>
        subst first
        have nothing : got = [] := by simpa [returned] using nothing
        have spent_here := Limited.within_of_read_nothing pos flowing fun got' rest' given => by
          cases given.symm.trans took
          exact nothing
        rw [spent_here, nothing] at all
        exact (List.append_eq_nil_iff.mp (List.append_eq_nil_iff.mp all.symm).2).2
    | inr later => exact spent (gives.flowing flowing) ⟨p, later, pos, nothing⟩
  · intro n sizes t e results last failed ⟨within, spent⟩
    refine ⟨within, fun flowing ⟨p, member, pos, nothing⟩ => ?_⟩
    cases List.mem_cons.mp member with
    | inl first =>
        subst first
        have spent_here := Limited.within_of_read_nothing pos flowing fun got' rest' given => by
          cases given.symm.trans failed
        rw [spent_here] at within
        exact (List.append_eq_nil_iff.mp within.symm).2
    | inr later => exact spent flowing ⟨p, later, pos, nothing⟩

/-- A content that is taken in piece by piece has the identity of the whole under any tag, and the count
after each piece is that of all bytes so far. A reader that hashes what passes through it gives what the
reads would have given without it, in its order and within the limit; it counts what it gives and
nothing else, and what it has given by the end is what it has the identity of. -/
theorem streamed_identity :
    (∀ (chunks : List Bytes) (tag : String),
      let fed := Identity.Hasher.empty.absorbAll chunks
      let whole := chunks.flatten
      fed.2.finish tag = .derive whole tag ∧ (fed.2.finish tag).size = whole.length ∧
      fed.1 = (List.range chunks.length).map (fun i => (chunks.take (i + 1)).flatten.length) ∧
      ∀ other, (fed.2.finish other).hash = (fed.2.finish tag).hash ∧
        (fed.2.finish other).size = (fed.2.finish tag).size ∧
        (fed.2.finish other).id = (Identity.derive whole other).id) ∧
    ∀ (source : Limited) (sizes : List Nat),
      let read := (ofLimited source).reads sizes
      let given := returned read.1
      read.1.map (Except.map Prod.fst) = source.reads sizes ∧
      source.source.bytes = given ++ read.2.source.source.bytes ∧
      source.within = given ++ read.2.source.within ∧
      (source.Flowing → Exhausted sizes read.1 → given = source.within) ∧
      (∀ i got count, read.1[i]? = some (.ok (got, count)) →
        count = (returned (read.1.take (i + 1))).length) ∧
      read.2.counted = given.length ∧
      ∀ tag, read.2.finish tag = .derive given tag := by
  refine ⟨fun chunks tag => ?_, fun source sizes => ?_⟩
  · have finished : ∀ tag, (Identity.Hasher.empty.absorbAll chunks).2.finish tag =
        .derive chunks.flatten tag := fun tag => by
      rw [Identity.Hasher.absorbAll_eq, Identity.finish_foldl_absorb]
    simp only [finished]
    refine ⟨trivial, rfl, ?_, fun other => ⟨rfl, rfl, trivial⟩⟩
    simpa using Identity.Hasher.holds_empty.counts chunks
  · have hashed : (ofLimited source).hasher.Holds [] := Identity.Hasher.holds_empty
    obtain ⟨bytes, within⟩ := gives_reads sizes (ofLimited source)
    have taken := holds_reads sizes (ofLimited source) hashed
    rw [List.nil_append] at taken
    refine ⟨reads_eq sizes _, bytes, within, fun flowing exhausted => ?_, fun i got count at_ => ?_,
      taken.2.2, taken.finish⟩
    · rw [spent_reads sizes (ofLimited source) flowing exhausted, List.append_nil] at within
      exact within.symm
    · simpa using counts_reads sizes (ofLimited source) hashed at_

/-- Three bytes in reads of their own sizes, one of them for nothing, from a source that then breaks. -/
theorem streamed_identity_of_broken :
    let source : Limited := ⟨⟨[1, 2, 3], [1], some ⟨"reset"⟩⟩, none⟩
    let read := (ofLimited source).reads [2, 0, 3, 1]
    source.Flowing ∧ Exhausted [2, 0, 3, 1] read.1 ∧ returned read.1 = [1, 2, 3] ∧
      read.1[2]? = some (.ok ([2, 3], 3)) ∧ read.2.finish "t" = .derive [1, 2, 3] "t" := by
  intro source read
  have flowing : source.Flowing := by decide
  have exhausted : Exhausted [2, 0, 3, 1] read.1 := by decide
  obtain ⟨-, -, -, all, -, -, finished⟩ := streamed_identity.2 source [2, 0, 3, 1]
  have given : returned read.1 = [1, 2, 3] := all flowing exhausted
  exact ⟨flowing, exhausted, given, by rfl, (finished "t").trans (congrArg (Identity.derive · "t") given)⟩

end Tee

end Quarantine
