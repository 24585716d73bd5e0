import Quarantine.Proofs.Service.Books
import Quarantine.Proofs.Time.Instant
import Quarantine.Simulation.Clock

/-!
What sweeps take away. A sweep whose cutoff has a date removes the records with a verdict that were
created before it, and tells how many, or it fails and removes none. All other calls that come in
between keep every record, so in a whole course the numbers add up to the records that are gone.
Without a date there is no sweep.
-/

namespace Quarantine

namespace Document

theorem isPurgeable_later (d : Document) (first second : Instant) :
    d.isPurgeable (first.later second) = (d.isPurgeable first || d.isPurgeable second) := by
  simp only [isPurgeable, Instant.before_later, Bool.and_or_distrib_left]

end Document

namespace Records

variable {r : Records}

/-- How many of the old records are not there any more. -/
def gone (old new : Records) : Nat :=
  old.documents.countP fun d => (new.document? d.id).isNone

theorem purged_purged (r : Records) (first second : Instant) :
    (r.purged first).purged second = r.purged (first.later second) := by
  simp only [purged, List.filter_filter, Document.isPurgeable_later, Bool.not_or, Bool.and_comm]

/-- What is left to be removed after a first removal. -/
theorem countP_purged (r : Records) (first second : Instant) :
    r.documents.countP (·.isPurgeable first) +
        (r.purged first).documents.countP (·.isPurgeable second) =
      r.documents.countP (·.isPurgeable (first.later second)) := by
  have once := r.length_purged first
  have twice := (r.purged first).length_purged second
  have both := r.length_purged (first.later second)
  rw [purged_purged] at twice
  omega

/-- What is to be removed is what is gone. -/
theorem Distinct.gone_purged (distinct : r.Distinct) (cutoff : Instant) :
    r.gone (r.purged cutoff) = r.documents.countP (·.isPurgeable cutoff) := by
  refine List.countP_congr fun d stored => ?_
  have found := distinct.document?_of_mem stored
  rw [Records.purged, distinct.document?_filter, found, Option.filter_some]
  cases d.isPurgeable cutoff <;> simp

/-- If every record is kept then none is gone. -/
theorem gone_eq_zero {old new : Records}
    (kept : ∀ d ∈ old.documents, (new.document? d.id).isSome = true) : old.gone new = 0 := by
  refine List.countP_eq_zero.mpr fun d stored missing => ?_
  have there := kept d stored
  rw [Option.isNone_iff_eq_none.mp missing] at there
  cases there

theorem gone_self (r : Records) : r.gone r = 0 :=
  gone_eq_zero fun _ stored => document?_isSome_of_mem stored

theorem gone_add (r : Records) (d : Document) : r.gone (r.add d) = 0 := by
  refine gone_eq_zero fun e stored => ?_
  rw [document?_add]
  split
  · rfl
  · exact document?_isSome_of_mem stored

theorem gone_judge (r : Records) (id : DocumentId) (status : Status) (time : Instant) :
    r.gone (r.judge id status time) = 0 := by
  refine gone_eq_zero fun e stored => ?_
  rw [document?_judge, Option.isSome_map]
  exact document?_isSome_of_mem stored

/-- The audit trail tells how many records are gone. -/
theorem Books.removed_eq_gone {adding removing : Bool} {new : Records} {t : Trace}
    (books : r.Books adding removing t.audits new) (distinct : r.Distinct) :
    t.removed = r.gone new := by
  rw [Trace.removed]
  generalize t.audits = told at books
  cases books with
  | silent => exact r.gone_self.symm
  | @aside a aside =>
      rw [gone_self]
      cases a with
      | bytesReleased _ | scanAbandoned _ _ _ | verdictLost _ _ _ => rfl
      | documentCreated _ _ | verdictPropagated _ _ | verdictRecorded _ _ _ _
      | purgeCompleted _ _ => cases aside
  | created _ _ _ => exact (gone_add r _).symm
  | propagated _ _ => exact (gone_add r _).symm
  | recorded _ => exact (gone_judge r _ _ _).symm
  | @purged cutoff _ => exact (distinct.gone_purged cutoff).symm

theorem Moves.gone_eq_zero {new : Records} (moves : r.Moves false new) (distinct : r.Distinct) :
    r.gone new = 0 := by
  refine Records.gone_eq_zero fun d stored => ?_
  obtain ⟨e, found, -⟩ := moves.continues distinct (distinct.document?_of_mem stored) nofun
  rw [found]
  rfl

end Records

namespace Retention

variable {m : Moment} {cutoff : Instant} {s : Stores Payloads}

/-- Exactly the records with a verdict that were created before the cutoff are removed, and their
number is told. -/
structure Removes (cutoff : Instant) (old new : Records) (removed : Nat) : Prop where
  documents : new.documents =
    old.documents.filter fun d => d.isPending || !d.createdAt.before cutoff
  online : new.online = old.online
  counted : removed = old.documents.countP fun d => !d.isPending && d.createdAt.before cutoff

theorem removes_purged (cutoff : Instant) (r : Records) :
    Removes cutoff r (r.purged cutoff) (r.documents.countP (·.isPurgeable cutoff)) where
  documents := by simp only [Records.purged, Document.isPurgeable, Bool.not_and, Bool.not_not]
  online := rfl
  counted := rfl

section Removal

variable {old new : Records} {removed : Nat} {d : Document}

theorem Removes.mem_iff (removes : Removes cutoff old new removed) :
    d ∈ new.documents ↔
      d ∈ old.documents ∧ (d.isPending = true ∨ d.createdAt.before cutoff = false) := by
  rw [removes.documents, List.mem_filter, Bool.or_eq_true, Bool.not_eq_true']

end Removal

/-- A sweep that reaches the records goes well. -/
theorem sweepAt_reached (well : m.metadata = none) (on : s.records.online = true) :
    sweepAt m cutoff s =
      (.ok (s.records.documents.countP (·.isPurgeable cutoff)),
        { s with records := s.records.purged cutoff },
        [.call (.purgeRecords cutoff),
          .audit (.purgeCompleted (s.records.documents.countP (·.isPurgeable cutoff)) cutoff)]) := by
  simp only [sweepAt, Stores.purgeRecords, well, Records.purge, Records.purged, on, if_true]

/-- What keeps a sweep from the records is what it fails with. -/
def Hindered (m : Moment) (r : Records) (e : MetadataError) : Prop :=
  m.metadata = some e ∨ (m.metadata = none ∧ r.online = false ∧ e = Records.offline)

theorem reached_or_hindered (m : Moment) (r : Records) :
    (m.metadata = none ∧ r.online = true) ∨ ∃ e, Hindered m r e := by
  cases failing : m.metadata with
  | some e => exact .inr ⟨e, .inl failing⟩
  | none =>
      cases on : r.online with
      | true => exact .inl ⟨rfl, rfl⟩
      | false => exact .inr ⟨_, .inr ⟨failing, on, rfl⟩⟩

theorem sweepAt_hindered {e : MetadataError} (hindered : Hindered m s.records e) :
    sweepAt m cutoff s = (.error e, s, [.call (.purgeRecords cutoff)]) := by
  obtain failing | ⟨well, off, rfl⟩ := hindered
  · simp only [sweepAt, Stores.purgeRecords, failing]
  · simp only [sweepAt, Stores.purgeRecords, well, Records.purge, off]
    rfl

/-- Two sweeps in a row leave the records and tell the numbers that one with the later cutoff does. -/
theorem sweepAt_sweepAt {m₁ m₂ : Moment} (first second : Instant) (well₁ : m₁.metadata = none)
    (well₂ : m₂.metadata = none) (well : m.metadata = none) (on : s.records.online = true) :
    ∃ n₁ n₂, (sweepAt m₁ first s).1 = .ok n₁ ∧
      (sweepAt m₂ second (sweepAt m₁ first s).2.1).1 = .ok n₂ ∧
      (sweepAt m (first.later second) s).1 = .ok (n₁ + n₂) ∧
      (sweepAt m (first.later second) s).2.1 =
        (sweepAt m₂ second (sweepAt m₁ first s).2.1).2.1 := by
  have next : sweepAt m₂ second { s with records := s.records.purged first } = _ :=
    sweepAt_reached well₂ on
  rw [sweepAt_reached well₁ on, sweepAt_reached well on, next]
  refine ⟨_, _, rfl, rfl, ?_, ?_⟩
  · rw [Records.countP_purged]
  · rw [Records.purged_purged]

end Retention

/-- What can come about around a service: an action of it, or a call to its records from elsewhere
that takes none of them away. -/
inductive Occurrence
  | action (a : Action)
  | call (op : Records.Operation) (keeping : op.removes = false)

namespace State

variable {s s' : State Payloads} {m : Moment} {t t' : Trace}

def occur (m : Moment) (s : State Payloads) : Occurrence → Option (State Payloads × Trace)
  | .action a => s.apply m a
  | .call op _ =>
    some ({ s with stores := { s.stores with records := (op.perform s.stores.records).2 } }, [])

/-- A course of occurrences, each at its own moment: the state after them, and the trace. -/
def course (s : State Payloads) : List (Moment × Occurrence) → Option (State Payloads × Trace)
  | [] => some (s, [])
  | (m, o) :: rest => do
    let (next, trace) ← s.occur m o
    let (last, later) ← next.course rest
    return (last, trace ++ later)

/-- How many records go in a course, one occurrence after the other. -/
def vanished (s : State Payloads) : List (Moment × Occurrence) → Nat
  | [] => 0
  | (m, o) :: rest =>
    match s.occur m o with
    | some (next, _) => s.stores.records.gone next.stores.records + next.vanished rest
    | none => 0

theorem apply_sweep_of_cutoff {ttl : Span} {cutoff : Instant}
    (dated : Retention.cutoff? m.now ttl = some cutoff) :
    s.apply m (.sweep ttl) =
      some ({ s with stores := (Retention.sweepAt m cutoff s.stores).2.1 },
        (Retention.sweepAt m cutoff s.stores).2.2 ++
          match (Retention.sweepAt m cutoff s.stores).1 with
          | .ok _ => []
          | .error e => [.notice (.sweepFailed e)]) := by
  simp only [apply, Retention.sweepQuietly, Retention.sweep, dated, Option.map_some,
    Option.bind_eq_bind]
  cases (Retention.sweepAt m cutoff s.stores).1 with
  | ok _ => simp
  | error e => rfl

theorem isSome_apply_sweep {ttl : Span} :
    (s.apply m (.sweep ttl)).isSome = (Retention.cutoff? m.now ttl).isSome := by
  cases dated : Retention.cutoff? m.now ttl with
  | none =>
      simp only [apply, Retention.sweepQuietly, Retention.sweep, dated]
      rfl
  | some cutoff => rw [apply_sweep_of_cutoff dated]; rfl

theorem moves_of_call {op : Records.Operation} (keeping : op.removes = false) (r : Records) :
    r.Moves false (op.perform r).2 :=
  .called op fun removes => by rw [keeping] at removes; cases removes

theorem distinct_of_occur {o : Occurrence} (distinct : s.stores.records.Distinct)
    (came : s.occur m o = some (s', t)) : s'.stores.records.Distinct := by
  cases o with
  | action a => exact (moves_of_apply came).distinct distinct
  | call op keeping =>
      cases came
      exact (moves_of_call keeping _).distinct distinct

theorem removed_of_occur {o : Occurrence} (distinct : s.stores.records.Distinct)
    (came : s.occur m o = some (s', t)) :
    t.removed = s.stores.records.gone s'.stores.records := by
  cases o with
  | action a => exact (books_of_apply came).removed_eq_gone distinct
  | call op keeping =>
      cases came
      exact ((moves_of_call keeping _).gone_eq_zero distinct).symm

theorem course_cons_iff {x : Moment × Occurrence} {rest : List (Moment × Occurrence)} :
    s.course (x :: rest) = some (s', t) ↔ ∃ next now later,
      s.occur x.1 x.2 = some (next, now) ∧ next.course rest = some (s', later) ∧
        t = now ++ later := by
  simp only [course, Option.bind_eq_bind, Option.bind_eq_some_iff, Option.pure_def,
    Option.some.injEq, Prod.mk.injEq]
  constructor
  · rintro ⟨⟨next, now⟩, came, ⟨last, later⟩, went, rfl, rfl⟩
    exact ⟨next, now, later, came, went, rfl⟩
  · rintro ⟨next, now, later, came, went, rfl⟩
    exact ⟨(next, now), came, (s', later), went, rfl, rfl⟩

/-- The numbers that a course tells add up to the records that go in it. -/
theorem removed_of_course {steps : List (Moment × Occurrence)}
    (distinct : s.stores.records.Distinct) (went : s.course steps = some (s', t)) :
    t.removed = s.vanished steps := by
  induction steps generalizing s t with
  | nil =>
      cases went
      rfl
  | cons x steps ih =>
      obtain ⟨next, now, later, came, goes, rfl⟩ := course_cons_iff.mp went
      rw [Trace.removed_append, removed_of_occur distinct came,
        ih (distinct_of_occur distinct came) goes, vanished]
      simp only [came]

/-- What has come of a sweep at a cutoff. -/
inductive Swept (m : Moment) (cutoff : Instant) (s : State Payloads) :
    Except MetadataError Nat → State Payloads → Trace → Prop
  | done {records removed} (well : m.metadata = none) (on : s.stores.records.online = true)
      (removes : Retention.Removes cutoff s.stores.records records removed) :
      Swept m cutoff s (.ok removed) { s with stores := { s.stores with records := records } }
        [.call (.purgeRecords cutoff), .audit (.purgeCompleted removed cutoff)]
  | failed {e} (hindered : Retention.Hindered m s.stores.records e) :
      Swept m cutoff s (.error e) s [.call (.purgeRecords cutoff), .notice (.sweepFailed e)]

theorem swept_of_apply {ttl : Span} (moved : s.apply m (.sweep ttl) = some (s', t')) :
    ∃ cutoff result trace, cutoff.line = m.now.line - ttl.nanos ∧ cutoff.nanos < 1000000000 ∧
      Retention.sweep m ttl s.stores = some (result, s'.stores, trace) ∧
      s.Swept m cutoff result s' t' := by
  obtain ⟨cutoff, dated⟩ := Option.isSome_iff_exists.mp
    (isSome_apply_sweep.symm.trans (congrArg Option.isSome moved))
  obtain ⟨place, whole, -⟩ := Instant.minus?_eq_some_iff.mp dated
  have swept : Retention.sweep m ttl s.stores = some (Retention.sweepAt m cutoff s.stores) := by
    rw [Retention.sweep, dated, Option.map_some]
  rw [apply_sweep_of_cutoff dated] at moved
  obtain ⟨well, on⟩ | ⟨e, hindered⟩ := Retention.reached_or_hindered m s.stores.records
  · rw [Retention.sweepAt_reached well on] at moved swept
    cases moved
    exact ⟨cutoff, _, _, place, whole, swept, .done well on (Retention.removes_purged cutoff _)⟩
  · rw [Retention.sweepAt_hindered hindered] at moved swept
    cases moved
    exact ⟨cutoff, _, _, place, whole, swept, .failed hindered⟩

end State

namespace Simulation.Rehearsal

/-- A fault does not change the time. -/
theorem now_moment (w : Rehearsal Payloads) (methods : List Method) :
    (w.moment methods).1.now = w.wall := by
  have kept : ∀ f : Moment × List Fault → Method → Moment × List Fault,
      (∀ p method, (f p method).1.now = p.1.now) → ∀ p, (methods.foldl f p).1.now = p.1.now := by
    intro f keeps
    induction methods with
    | nil => exact fun _ => rfl
    | cons method methods ih =>
        intro p
        exact (ih _).trans (keeps p method)
  refine kept _ ?_ (.calm w.wall, w.faults)
  rintro ⟨m, faults⟩ method
  dsimp only
  split <;> rfl

/-- After a sweep in the background the next one is due, whether or not it has failed. There is no
other one just if the cutoff had no date. -/
theorem sweeper_sweepNow (w : Rehearsal Payloads) (b : Sweeper) :
    (w.sweepNow b).sweeper =
      if (Retention.cutoff? w.wall b.ttl).isSome then some { b with due := b.due + b.period }
      else none := by
  have possible : (w.act? (.sweep b.ttl)).isSome = (Retention.cutoff? w.wall b.ttl).isSome := by
    rw [← w.now_moment (w.method? (.sweep b.ttl)).toList, act?, Option.isSome_map]
    exact State.isSome_apply_sweep
  rw [← possible, sweepNow]
  cases w.act? (.sweep b.ttl) with
  | some swept => rfl
  | none => rfl

end Simulation.Rehearsal

namespace State

/-- After any course a sweep is possible if and only if its cutoff has a date. Then it removes
exactly the records with a verdict that were created before the cutoff, and tells their number, or
it fails and changes nothing; pending records stay in any case. Two sweeps in a row are one with the
later cutoff, and however a sweep in the background ends, the next one is due. In the whole course
the numbers that were told add up to the records that have gone. -/
theorem sweeps_remove_expired {c : Config} {engine : String} {payloads : Payloads}
    {steps : List (Moment × Occurrence)}
    (went : (State.idle c engine ⟨payloads, .empty⟩).course steps = some (s, t)) :
    (∀ m ttl, (s.apply m (.sweep ttl)).isSome = true ↔
        Instant.minSeconds * 1000000000 ≤ m.now.line - ttl.nanos ∧
          m.now.line - ttl.nanos < (Instant.maxSeconds + 1) * 1000000000) ∧
      (∀ m ttl s' t', s.apply m (.sweep ttl) = some (s', t') →
        ∃ cutoff result trace, cutoff.line = m.now.line - ttl.nanos ∧ cutoff.nanos < 1000000000 ∧
          Retention.sweep m ttl s.stores = some (result, s'.stores, trace) ∧
          s.Swept m cutoff result s' t' ∧
          (∀ d ∈ s.stores.records.documents, d.isPending = true →
            d ∈ s'.stores.records.documents) ∧
          ∀ removed, result = .ok removed → ∀ d ∈ s'.stores.records.documents,
            d.isPending = false → d.createdAt.before cutoff = false) ∧
      (∀ m₁ m₂ m first second, m₁.metadata = none → m₂.metadata = none → m.metadata = none →
        s.stores.records.online = true →
        ∃ n₁ n₂, (Retention.sweepAt m₁ first s.stores).1 = .ok n₁ ∧
          (Retention.sweepAt m₂ second (Retention.sweepAt m₁ first s.stores).2.1).1 = .ok n₂ ∧
          (Retention.sweepAt m (first.later second) s.stores).1 = .ok (n₁ + n₂) ∧
          (Retention.sweepAt m (first.later second) s.stores).2.1 =
            (Retention.sweepAt m₂ second (Retention.sweepAt m₁ first s.stores).2.1).2.1) ∧
      (∀ (w : Simulation.Rehearsal Payloads) b, w.state = s → (w.sweepNow b).sweeper =
        if (s.apply (.calm w.wall) (.sweep b.ttl)).isSome then some { b with due := b.due + b.period }
        else none) ∧
      t.removed = (State.idle c engine ⟨payloads, .empty⟩).vanished steps := by
  refine ⟨?possible, ?exact, ?twice, ?goesOn, ?counted⟩
  case possible =>
    intro m ttl
    rw [isSome_apply_sweep]
    exact Instant.minus?_isSome_iff
  case exact =>
    intro m ttl s' t' moved
    obtain ⟨cutoff, result, trace, place, whole, swept, came⟩ := swept_of_apply moved
    refine ⟨cutoff, result, trace, place, whole, swept, came, ?_⟩
    cases came with
    | done well on removes =>
        refine ⟨fun d stored pending => removes.mem_iff.mpr ⟨stored, .inl pending⟩, ?_⟩
        intro removed _ d stored judged
        obtain ⟨-, pending | young⟩ := removes.mem_iff.mp stored
        · rw [judged] at pending
          cases pending
        · exact young
    | failed hindered => exact ⟨fun d stored _ => stored, nofun⟩
  case twice =>
    intro m₁ m₂ m first second well₁ well₂ well on
    exact Retention.sweepAt_sweepAt first second well₁ well₂ well on
  case goesOn =>
    rintro w b rfl
    rw [isSome_apply_sweep]
    exact w.sweeper_sweepNow b
  case counted => exact removed_of_course Records.distinct_empty went

/-- Records are saved directly: an old one that waits for its verdict, and an old and a new one that
have theirs. Two sweeps come, of which the first fails, then the verdict of the first record, another
old record, and a third sweep. -/
def clearance : List (Moment × Occurrence) :=
  let now : Instant := { (default : Instant) with seconds := 7200 }
  let calm : Moment := .calm now
  let sweep : Occurrence := .action (.sweep Config.standard.resultTtl)
  [(calm, .call (.save (.fresh ⟨"a"⟩ "hash" "a" default)) rfl),
    (calm, .call (.save ⟨⟨"b"⟩, "hash", "b", .clean, some default, default⟩) rfl),
    (calm, .call (.save ⟨⟨"c"⟩, "hash", "c", .clean, some now, now⟩) rfl),
    (⟨now, none, some (.query "gone")⟩, sweep), (calm, .action (.submit (.ofBytes [7]))),
    (calm, .action (.upload 0)), (calm, sweep),
    (calm, .call (.update ⟨"a"⟩ .infected default) rfl),
    (calm, .call (.save ⟨⟨"d"⟩, "hash", "d", .clean, none, default⟩) rfl), (calm, sweep)]

theorem clearance_sweeps_remove_expired :
    (State.idle .standard "engine" Stores.empty).vanished clearance = 3 ∧
      ∃ p ∈ (State.idle .standard "engine" Stores.empty).course clearance,
        p.2.removed = 3 ∧ p.1.stores.records.documents.map (·.id) = [⟨"c"⟩] := by
  obtain ⟨gone, p, went, left⟩ :
      (State.idle .standard "engine" Stores.empty).vanished clearance = 3 ∧
        ∃ p ∈ (State.idle .standard "engine" Stores.empty).course clearance,
          p.1.stores.records.documents.map (·.id) = [⟨"c"⟩] := by decide +kernel
  obtain ⟨-, -, -, -, counted⟩ := sweeps_remove_expired went
  exact ⟨gone, p, went, counted.trans gone, left⟩

/-- Results are kept for so long that the time so long ago has no date. -/
def endless : Span :=
  ⟨9223372036854775000000000, by decide⟩

theorem endless_ends_sweeping :
    endless.isPositive = true ∧
      (Retention.sweep (.calm default) endless (⟨.empty, .empty⟩ : Stores Payloads)).isSome = false ∧
      ((State.idle .standard "engine" Stores.empty).apply (.calm default)
        (.sweep endless)).isSome = false ∧
      ∀ w : Simulation.Rehearsal Payloads, w.wall = default →
        (w.sweepNow ⟨endless, 1, 0⟩).sweeper = none := by
  have undated : Retention.cutoff? default endless = none := by decide
  refine ⟨by decide, ?_, ?_, fun w wall => ?_⟩
  · rw [Retention.sweep, Option.isSome_map, Moment.calm, undated]
    rfl
  · rw [isSome_apply_sweep, Moment.calm, undated]
    rfl
  · rw [w.sweeper_sweepNow, wall, undated]
    rfl

end State

end Quarantine
