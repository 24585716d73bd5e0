import Quarantine.Service.State

/-!
Runs of a service. What holds at the beginning and is kept by every action holds after every run.
A property that speaks of the stores, and of each upload and each scan by itself, is kept if every
call keeps it for the task that makes the call and for all that look on.
-/

namespace Quarantine

/-- The scan that an action moves. -/
def Action.scan? : Action → Option Nat
  | .enter i | .scan i | .answer i _ => some i
  | .submit _ | .upload _ | .drop _ | .schedule _ | .sweep _ => none

namespace Scan

theorem enter_cases (scan : Scan) :
    scan.enter = scan ∨ (scan.phase = .queued ∧ scan.enter = { scan with phase := .opening }) := by
  unfold enter
  split
  · next queued => exact .inr ⟨queued, rfl⟩
  · exact .inl rfl

@[simp] theorem enter_id (scan : Scan) : scan.enter.id = scan.id := by
  unfold enter
  split <;> rfl

theorem enter_of_queued {scan : Scan} (queued : scan.phase = .queued) :
    scan.enter = { scan with phase := .opening } :=
  if_pos queued

end Scan

/-- A sweep makes one call, and writes to the log what has come of it. -/
theorem Retention.eq_of_sweepQuietly {σ : Type} {m : Moment} {ttl : Span} {s s' : Stores σ}
    {t : Trace} (swept : sweepQuietly m ttl s = some (s', t)) :
    ∃ cutoff, s' = (s.purgeRecords m cutoff).2 ∧
      t = .call (.purgeRecords cutoff) :: match (s.purgeRecords m cutoff).1 with
        | .ok removed => [.audit (.purgeCompleted removed cutoff)]
        | .error e => [.notice (.sweepFailed e)] := by
  simp only [sweepQuietly, sweep, Option.map_map, Option.map_eq_some_iff, Function.comp_apply,
    sweepAt] at swept
  obtain ⟨cutoff, -, done⟩ := swept
  refine ⟨cutoff, ?_⟩
  cases purged : (s.purgeRecords m cutoff).1 <;>
    · simp only [purged] at done
      cases done
      exact ⟨rfl, rfl⟩

namespace State

variable {σ : Type} [PayloadStore σ] {s s' : State σ} {m : Moment} {a : Action} {t : Trace}

theorem run_cons_iff {x : Moment × Action} {rest : List (Moment × Action)} :
    s.run (x :: rest) = some (s', t) ↔ ∃ next now later, s.apply x.1 x.2 = some (next, now) ∧
      next.run rest = some (s', later) ∧ t = now ++ later := by
  simp only [run, Option.bind_eq_bind, Option.bind_eq_some_iff, Option.pure_def, Option.some.injEq,
    Prod.mk.injEq]
  constructor
  · rintro ⟨⟨next, now⟩, moved, ⟨last, later⟩, ran, rfl, rfl⟩
    exact ⟨next, now, later, moved, ran, rfl⟩
  · rintro ⟨next, now, later, moved, ran, rfl⟩
    exact ⟨(next, now), moved, (s', later), ran, rfl, rfl⟩

theorem run_append_iff {first second : List (Moment × Action)} :
    s.run (first ++ second) = some (s', t) ↔ ∃ middle before after,
      s.run first = some (middle, before) ∧ middle.run second = some (s', after) ∧
      t = before ++ after := by
  induction first generalizing s t with
  | nil =>
      constructor
      · intro ran
        exact ⟨s, [], t, rfl, ran, rfl⟩
      · rintro ⟨middle, before, after, start, ran, rfl⟩
        cases start
        exact ran
  | cons x first ih =>
      rw [List.cons_append, run_cons_iff]
      constructor
      · rintro ⟨next, now, later, moved, ran, rfl⟩
        obtain ⟨middle, before, after, went, rest, rfl⟩ := ih.mp ran
        exact ⟨middle, now ++ before, after,
          run_cons_iff.mpr ⟨next, now, before, moved, went, rfl⟩, rest,
          (List.append_assoc ..).symm⟩
      · rintro ⟨middle, before, after, went, ran, rfl⟩
        obtain ⟨next, now, later, moved, goes, rfl⟩ := run_cons_iff.mp went
        exact ⟨next, now, later ++ after, moved, ih.mpr ⟨middle, later, after, goes, ran, rfl⟩,
          List.append_assoc ..⟩

theorem run_concat {s₀ : State σ} {steps : List (Moment × Action)} {x : Moment × Action}
    (ran : s₀.run (steps ++ [x]) = some (s', t)) :
    ∃ s before after, s₀.run steps = some (s, before) ∧ s.apply x.1 x.2 = some (s', after) ∧
      t = before ++ after := by
  obtain ⟨s, before, after, went, last, rfl⟩ := run_append_iff.mp ran
  obtain ⟨next, now, later, moved, stop, rfl⟩ := run_cons_iff.mp last
  cases stop
  exact ⟨s, before, now, went, moved, by rw [List.append_nil]⟩

theorem run_snoc {s₀ : State σ} {steps : List (Moment × Action)} {x : Moment × Action} {t' : Trace}
    (ran : s₀.run steps = some (s, t)) (moved : s.apply x.1 x.2 = some (s', t')) :
    s₀.run (steps ++ [x]) = some (s', t ++ t') :=
  run_append_iff.mpr ⟨s, t, t', ran,
    run_cons_iff.mpr ⟨s', t', [], moved, rfl, (List.append_nil t').symm⟩, rfl⟩

/-- The motive may speak of the actions so far and of the trace so far. -/
theorem run_induction {s₀ : State σ} {P : List (Moment × Action) → State σ → Trace → Prop}
    (start : P [] s₀ [])
    (step : ∀ steps s t x s' t', s₀.run steps = some (s, t) → P steps s t →
      s.apply x.1 x.2 = some (s', t') → P (steps ++ [x]) s' (t ++ t'))
    {steps : List (Moment × Action)} (ran : s₀.run steps = some (s, t)) : P steps s t := by
  -- A run grows at its end, so the induction is on the actions in reverse.
  induction back : steps.reverse generalizing steps s t with
  | nil =>
      obtain rfl : steps = [] := by simpa using back
      cases ran
      exact start
  | cons x back' ih =>
      obtain rfl : steps = back'.reverse ++ [x] := by simpa using congrArg List.reverse back
      obtain ⟨s', before, after, went, moved, rfl⟩ := run_concat ran
      exact step _ _ _ _ _ _ went (ih went (by simp)) moved

/-- Some actions at one time, at which nothing goes wrong. -/
def calmly (seconds : Int) (actions : List Action) : List (Moment × Action) :=
  actions.map fun a => (.calm { (default : Instant) with seconds := seconds }, a)

/-- An upload that arrives as the `i`th and makes its calls one after the other, while nothing else
goes on. -/
def uninterrupted (i : Nat) (m : Moment) (r : Request) (calls : List Moment) :
    List (Moment × Action) :=
  (m, .submit r) :: calls.map fun m => (m, .upload i)

section Inversion

theorem apply_submit {r : Request} (moved : s.apply m (.submit r) = some (s', t)) :
    s' = { s with uploads := s.uploads ++ [.start s.config.maxUploadSize r] } ∧ t = [] := by
  cases moved
  exact ⟨rfl, rfl⟩

theorem apply_upload {i : Nat} (moved : s.apply m (.upload i) = some (s', t)) :
    ∃ u next stores trace, s.uploads[i]? = some u ∧
      u.step m s.stores = some (next, stores, trace) ∧
      s' = ({ s with stores := stores, uploads := s.uploads.set i next } :
        State σ).scheduleCreated next ∧
      t = Trace.ofCall? (u.call? m.now) ++ trace := by
  simp only [apply, Option.bind_eq_bind, Option.bind_eq_some_iff] at moved
  obtain ⟨u, found, ⟨next, stores, trace⟩, stepped, done⟩ := moved
  cases done
  exact ⟨u, next, stores, trace, found, stepped, rfl, rfl⟩

theorem apply_drop {i : Nat} (moved : s.apply m (.drop i) = some (s', t)) :
    (∃ u, s.uploads[i]? = some u ∧ u.isOver = false) ∧
      s' = { s with uploads := s.uploads.set i .dropped } ∧ t = [] := by
  simp only [apply, Option.bind_eq_bind, Option.bind_eq_some_iff] at moved
  obtain ⟨u, found, done⟩ := moved
  cases finished : u.isOver with
  | true => simp [finished] at done
  | false =>
      simp only [finished] at done
      cases done
      exact ⟨⟨u, found, finished⟩, rfl, rfl⟩

theorem apply_schedule {id : DocumentId} (moved : s.apply m (.schedule id) = some (s', t)) :
    s' = s.schedule id ∧ t = [] := by
  cases moved
  exact ⟨rfl, rfl⟩

theorem apply_enter {i : Nat} (moved : s.apply m (.enter i) = some (s', t)) :
    ∃ scan, s.scans[i]? = some scan ∧ scan.phase = .queued ∧ i ∉ s.line ∧ s' = s.askPlace i ∧
      t = [] := by
  simp only [apply, Option.bind_eq_bind, Option.bind_eq_some_iff] at moved
  obtain ⟨scan, found, done⟩ := moved
  split at done
  · next asks =>
      cases done
      exact ⟨scan, found, asks.1, asks.2, rfl, rfl⟩
  · cases done

theorem apply_scan {i : Nat} (moved : s.apply m (.scan i) = some (s', t)) :
    ∃ scan next stores trace, s.scans[i]? = some scan ∧
      scan.step s.config.scan s.engine m s.stores = some (next, stores, trace) ∧
      s' = ({ s with stores := stores } : State σ).putScan i next ∧
      t = Trace.ofCall? scan.call? ++ trace := by
  simp only [apply, Option.bind_eq_bind, Option.bind_eq_some_iff] at moved
  obtain ⟨scan, found, ⟨next, stores, trace⟩, stepped, done⟩ := moved
  cases done
  exact ⟨scan, next, stores, trace, found, stepped, rfl, rfl⟩

theorem apply_answer {i : Nat} {answer : Scan.Answer}
    (moved : s.apply m (.answer i answer) = some (s', t)) :
    ∃ scan next, s.scans[i]? = some scan ∧
      scan.answer s.config.scan s.engine answer = some (next, t) ∧ s' = s.putScan i next := by
  simp only [apply, Option.bind_eq_bind, Option.bind_eq_some_iff] at moved
  obtain ⟨scan, found, ⟨next, trace⟩, answered, done⟩ := moved
  cases done
  exact ⟨scan, next, found, answered, rfl⟩

theorem apply_sweep {ttl : Span} (moved : s.apply m (.sweep ttl) = some (s', t)) :
    ∃ stores, Retention.sweepQuietly m ttl s.stores = some (stores, t) ∧
      s' = { s with stores := stores } := by
  simp only [apply, Option.bind_eq_bind, Option.bind_eq_some_iff] at moved
  obtain ⟨⟨stores, trace⟩, swept, done⟩ := moved
  cases done
  exact ⟨stores, swept, rfl⟩

end Inversion

section Fields

omit [PayloadStore σ]

/-- A scan is asked for if the upload has made a record. -/
theorem scheduleCreated_eq (u : Upload) (s : State σ) :
    s.scheduleCreated u =
      { s with scans := s.scans ++ (u.created?.toList.map fun id => ⟨id, .queued⟩) } := by
  unfold scheduleCreated
  split
  · next id made => simp [made, schedule]
  · next made => simp [made]

@[simp] theorem scheduleCreated_stores (u : Upload) (s : State σ) :
    (s.scheduleCreated u).stores = s.stores := by
  rw [scheduleCreated_eq]

@[simp] theorem scheduleCreated_uploads (u : Upload) (s : State σ) :
    (s.scheduleCreated u).uploads = s.uploads := by
  rw [scheduleCreated_eq]

theorem scheduleCreated_scans (u : Upload) (s : State σ) :
    (s.scheduleCreated u).scans = s.scans ++ (u.created?.toList.map fun id => ⟨id, .queued⟩) := by
  rw [scheduleCreated_eq]

/-- Who has a place, who waits for one, and how far the scans are, is all that changes. -/
theorem askPlace_rest (i : Nat) (s : State σ) :
    (s.askPlace i).config = s.config ∧ (s.askPlace i).engine = s.engine ∧
      (s.askPlace i).stores = s.stores ∧ (s.askPlace i).uploads = s.uploads := by
  unfold askPlace
  split <;> exact ⟨rfl, rfl, rfl, rfl⟩

theorem putScan_rest (i : Nat) (scan : Scan) (s : State σ) :
    (s.putScan i scan).config = s.config ∧ (s.putScan i scan).engine = s.engine ∧
      (s.putScan i scan).stores = s.stores ∧ (s.putScan i scan).uploads = s.uploads := by
  unfold putScan returnPlace
  split
  · dsimp only
    split <;> exact ⟨rfl, rfl, rfl, rfl⟩
  · exact ⟨rfl, rfl, rfl, rfl⟩

@[simp] theorem askPlace_stores (i : Nat) (s : State σ) : (s.askPlace i).stores = s.stores :=
  (s.askPlace_rest i).2.2.1

@[simp] theorem askPlace_uploads (i : Nat) (s : State σ) : (s.askPlace i).uploads = s.uploads :=
  (s.askPlace_rest i).2.2.2

@[simp] theorem putScan_stores (i : Nat) (scan : Scan) (s : State σ) :
    (s.putScan i scan).stores = s.stores :=
  (s.putScan_rest i scan).2.2.1

@[simp] theorem putScan_uploads (i : Nat) (scan : Scan) (s : State σ) :
    (s.putScan i scan).uploads = s.uploads :=
  (s.putScan_rest i scan).2.2.2

end Fields

section Places

omit [PayloadStore σ]

theorem getElem?_seat (i j : Nat) (s : State σ) :
    (s.seat i).scans[j]? = s.scans[j]?.map fun scan => if i = j then scan.enter else scan :=
  List.getElem?_modify ..

theorem getElem?_askPlace (i j : Nat) (s : State σ) :
    (s.askPlace i).scans[j]? =
      s.scans[j]?.map fun scan => if 0 < s.free ∧ i = j then scan.enter else scan := by
  unfold askPlace
  split
  · next place => simp [getElem?_seat, place]
  · next full => simp [full]

/-- A scan is where it was, unless it gets the place that is given back. -/
theorem getElem?_returnPlace {j : Nat} {scan : Scan} (found : s.scans[j]? = some scan) :
    s.returnPlace.scans[j]? = some scan ∨
      (scan.phase = .queued ∧ s.returnPlace.scans[j]? = some { scan with phase := .opening }) := by
  unfold returnPlace
  split
  · exact .inl found
  · simp only [getElem?_seat, found, Option.map_some]
    split
    · obtain same | ⟨queued, seated⟩ := scan.enter_cases
      · exact .inl (congrArg some same)
      · exact .inr ⟨queued, congrArg some seated⟩
    · exact .inl rfl

theorem getElem?_putScan_self {i : Nat} {next : Scan} (here : i < s.scans.length) :
    (s.putScan i next).scans[i]? = some next := by
  have placed : (s.scans.set i next)[i]? = some next := List.getElem?_set_self here
  unfold putScan
  split
  · next ended =>
      obtain kept | ⟨queued, -⟩ :=
        getElem?_returnPlace (s := { s with scans := s.scans.set i next }) placed
      · exact kept
      · rw [queued] at ended
        cases ended
  · exact placed

theorem getElem?_putScan_ne {i j : Nat} {scan : Scan} (next : Scan) (other : i ≠ j)
    (found : s.scans[j]? = some scan) :
    (s.putScan i next).scans[j]? = some scan ∨
      (scan.phase = .queued ∧
        (s.putScan i next).scans[j]? = some { scan with phase := .opening }) := by
  have placed : (s.scans.set i next)[j]? = some scan := (List.getElem?_set_ne other).trans found
  unfold putScan
  split
  · exact getElem?_returnPlace (s := { s with scans := s.scans.set i next }) placed
  · exact .inl placed

theorem map_id_set {scans : List Scan} {i : Nat} {scan next : Scan} (found : scans[i]? = some scan)
    (same : next.id = scan.id) : (scans.set i next).map (·.id) = scans.map (·.id) := by
  have here := (List.getElem?_eq_some_iff.mp found).1
  refine List.ext_getElem? fun j => ?_
  rw [List.getElem?_map, List.getElem?_map]
  by_cases own : i = j
  · rw [← own, List.getElem?_set_self here, found, Option.map_some, Option.map_some, same]
  · rw [List.getElem?_set_ne own]

theorem map_id_seat (i : Nat) (s : State σ) :
    (s.seat i).scans.map (·.id) = s.scans.map (·.id) := by
  refine List.ext_getElem? fun j => ?_
  rw [List.getElem?_map, List.getElem?_map, getElem?_seat, Option.map_map]
  refine congrArg (Option.map · s.scans[j]?) (funext fun scan => ?_)
  dsimp only [Function.comp]
  split
  · exact scan.enter_id
  · rfl

theorem map_id_askPlace (i : Nat) (s : State σ) :
    (s.askPlace i).scans.map (·.id) = s.scans.map (·.id) := by
  unfold askPlace
  split
  · exact map_id_seat i _
  · rfl

theorem map_id_returnPlace (s : State σ) :
    s.returnPlace.scans.map (·.id) = s.scans.map (·.id) := by
  unfold returnPlace
  split
  · rfl
  · exact map_id_seat _ _

theorem map_id_putScan {i : Nat} {scan next : Scan} (found : s.scans[i]? = some scan)
    (same : next.id = scan.id) : (s.putScan i next).scans.map (·.id) = s.scans.map (·.id) := by
  have put := map_id_set found same
  unfold putScan
  split
  · exact (map_id_returnPlace _).trans put
  · exact put

theorem length_askPlace (i : Nat) (s : State σ) :
    (s.askPlace i).scans.length = s.scans.length := by
  simpa using congrArg List.length (map_id_askPlace i s)

theorem length_returnPlace (s : State σ) : s.returnPlace.scans.length = s.scans.length := by
  simpa using congrArg List.length (map_id_returnPlace s)

theorem length_putScan (i : Nat) (next : Scan) (s : State σ) :
    (s.putScan i next).scans.length = s.scans.length := by
  unfold putScan
  split
  · exact (length_returnPlace _).trans List.length_set
  · exact List.length_set

end Places

/-- An upload can make its next call at any time. -/
theorem apply_upload_of_step {i : Nat} {u next : Upload} {stores : Stores σ} {trace : Trace}
    (found : s.uploads[i]? = some u) (stepped : u.step m s.stores = some (next, stores, trace)) :
    ∃ s', s.apply m (.upload i) = some (s', Trace.ofCall? (u.call? m.now) ++ trace) ∧
      s'.stores = stores ∧ s'.uploads[i]? = some next := by
  have here : i < s.uploads.length := (List.getElem?_eq_some_iff.mp found).1
  refine ⟨({ s with stores := stores, uploads := s.uploads.set i next } :
    State σ).scheduleCreated next, ?_, ?_, ?_⟩
  · simp [apply, found, stepped]
  · rw [scheduleCreated_stores]
  · rw [scheduleCreated_uploads]
    exact List.getElem?_set_self here

theorem apply_config (moved : s.apply m a = some (s', t)) :
    s'.config = s.config ∧ s'.engine = s.engine := by
  cases a with
  | submit r =>
      obtain ⟨rfl, -⟩ := apply_submit moved
      exact ⟨rfl, rfl⟩
  | upload i =>
      obtain ⟨u, next, stores, trace, -, -, rfl, -⟩ := apply_upload moved
      rw [scheduleCreated_eq]
      exact ⟨rfl, rfl⟩
  | drop i =>
      obtain ⟨-, rfl, -⟩ := apply_drop moved
      exact ⟨rfl, rfl⟩
  | schedule id =>
      obtain ⟨rfl, -⟩ := apply_schedule moved
      exact ⟨rfl, rfl⟩
  | enter i =>
      obtain ⟨scan, -, -, -, rfl, -⟩ := apply_enter moved
      exact ⟨(s.askPlace_rest i).1, (s.askPlace_rest i).2.1⟩
  | scan i =>
      obtain ⟨scan, next, stores, trace, -, -, rfl, -⟩ := apply_scan moved
      obtain ⟨config, engine, -⟩ := putScan_rest i next ({ s with stores := stores } : State σ)
      exact ⟨config, engine⟩
  | answer i answer =>
      obtain ⟨scan, next, -, -, rfl⟩ := apply_answer moved
      exact ⟨(s.putScan_rest i next).1, (s.putScan_rest i next).2.1⟩
  | sweep ttl =>
      obtain ⟨stores, -, rfl⟩ := apply_sweep moved
      exact ⟨rfl, rfl⟩

theorem run_config {s₀ : State σ} {steps : List (Moment × Action)}
    (ran : s₀.run steps = some (s, t)) : s.config = s₀.config ∧ s.engine = s₀.engine := by
  refine run_induction (P := fun _ s _ => s.config = s₀.config ∧ s.engine = s₀.engine)
    ⟨rfl, rfl⟩ ?_ ran
  intro steps s t x s' t' _ same moved
  obtain ⟨config, engine⟩ := apply_config moved
  exact ⟨config.trans same.1, engine.trans same.2⟩

theorem run_submit {start s₀ : State σ} {first rest : List (Moment × Action)} {t₀ : Trace}
    {r : Request} (before : start.run first = some (s₀, t₀))
    (ran : s₀.run ((m, .submit r) :: rest) = some (s, t)) :
    ∃ s₁ t₁ t₂, start.run (first ++ [(m, .submit r)]) = some (s₁, t₁) ∧
      s₁.run rest = some (s, t₂) ∧
      s₁.uploads[s₀.uploads.length]? = some (.start start.config.maxUploadSize r) := by
  obtain ⟨s₁, now, later, moved, goes, rfl⟩ := run_cons_iff.mp ran
  refine ⟨s₁, t₀ ++ now, later, run_snoc before moved, goes, ?_⟩
  obtain ⟨rfl, -⟩ := apply_submit moved
  rw [List.getElem?_concat_length, (run_config before).1]

/-- An upload moves by its own calls only, unless its caller goes away. -/
theorem apply_uploads {i : Nat} {u : Upload} (found : s.uploads[i]? = some u)
    (moved : s.apply m a = some (s', t)) :
    s'.uploads[i]? = some u ∨ (u.isOver = false ∧ s'.uploads[i]? = some .dropped) ∨
      ∃ next trace, u.step m s.stores = some (next, s'.stores, trace) ∧
        s'.uploads[i]? = some next := by
  have here : i < s.uploads.length := (List.getElem?_eq_some_iff.mp found).1
  cases a with
  | submit r =>
      obtain ⟨rfl, -⟩ := apply_submit moved
      exact .inl ((List.getElem?_append_left here).trans found)
  | upload j =>
      obtain ⟨v, next, stores, trace, found', stepped, rfl, -⟩ := apply_upload moved
      rw [scheduleCreated_uploads, scheduleCreated_stores]
      by_cases same : j = i
      · subst same
        cases found.symm.trans found'
        exact .inr (.inr ⟨next, trace, stepped, List.getElem?_set_self here⟩)
      · exact .inl ((List.getElem?_set_ne same).trans found)
  | drop j =>
      obtain ⟨⟨v, found', unfinished⟩, rfl, -⟩ := apply_drop moved
      by_cases same : j = i
      · subst same
        cases found.symm.trans found'
        exact .inr (.inl ⟨unfinished, List.getElem?_set_self here⟩)
      · exact .inl ((List.getElem?_set_ne same).trans found)
  | schedule id =>
      obtain ⟨rfl, -⟩ := apply_schedule moved
      exact .inl found
  | enter j =>
      obtain ⟨scan, -, -, -, rfl, -⟩ := apply_enter moved
      exact .inl (by simpa using found)
  | scan j =>
      obtain ⟨scan, next, stores, trace, -, -, rfl, -⟩ := apply_scan moved
      exact .inl (by simpa using found)
  | answer j answer =>
      obtain ⟨scan, next, -, -, rfl⟩ := apply_answer moved
      exact .inl (by simpa using found)
  | sweep ttl =>
      obtain ⟨stores, -, rfl⟩ := apply_sweep moved
      exact .inl found

/-- What an action makes of a scan: nothing, unless it is the scan's own, or the scan waits for a
place and gets one that another scan gives back. -/
inductive Advances (m : Moment) (s s' : State σ) (i : Nat) (scan : Scan) (t : Trace) :
    Action → Scan → Prop
  | idle {action} (other : action.scan? ≠ some i) : Advances m s s' i scan t action scan
  | seated {action} (other : action.scan? ≠ some i) (queued : scan.phase = .queued) :
      Advances m s s' i scan t action { scan with phase := .opening }
  | entered (queued : scan.phase = .queued) (place : 0 < s.free) (told : t = [])
      (asked : s' = s.askPlace i) : Advances m s s' i scan t (.enter i) { scan with phase := .opening }
  | waits (queued : scan.phase = .queued) (full : s.free = 0) (told : t = [])
      (asked : s' = s.askPlace i) : Advances m s s' i scan t (.enter i) scan
  | called {next trace}
      (stepped : scan.step s.config.scan s.engine m s.stores = some (next, s'.stores, trace))
      (told : t = Trace.ofCall? scan.call? ++ trace)
      (put : s' = ({ s with stores := s'.stores } : State σ).putScan i next) :
      Advances m s s' i scan t (.scan i) next
  | answered {answer next}
      (answered : scan.answer s.config.scan s.engine answer = some (next, t))
      (put : s' = s.putScan i next) : Advances m s s' i scan t (.answer i answer) next

theorem advances_of_apply {i : Nat} {scan : Scan} (found : s.scans[i]? = some scan)
    (moved : s.apply m a = some (s', t)) :
    ∃ next, s'.scans[i]? = some next ∧ Advances m s s' i scan t a next := by
  have here : i < s.scans.length := (List.getElem?_eq_some_iff.mp found).1
  cases a with
  | submit r =>
      obtain ⟨rfl, -⟩ := apply_submit moved
      exact ⟨scan, found, .idle nofun⟩
  | upload j =>
      obtain ⟨u, next, stores, trace, -, -, rfl, -⟩ := apply_upload moved
      refine ⟨scan, ?_, .idle nofun⟩
      rw [scheduleCreated_scans]
      exact (List.getElem?_append_left here).trans found
  | drop j =>
      obtain ⟨-, rfl, -⟩ := apply_drop moved
      exact ⟨scan, found, .idle nofun⟩
  | schedule id =>
      obtain ⟨rfl, -⟩ := apply_schedule moved
      exact ⟨scan, (List.getElem?_append_left here).trans found, .idle nofun⟩
  | enter j =>
      obtain ⟨_, found', queued, -, rfl, rfl⟩ := apply_enter moved
      rw [getElem?_askPlace, found, Option.map_some]
      by_cases same : j = i
      · subst same
        cases found.symm.trans found'
        by_cases place : 0 < s.free
        · rw [if_pos ⟨place, rfl⟩, Scan.enter_of_queued queued]
          exact ⟨_, rfl, .entered queued place rfl rfl⟩
        · rw [if_neg fun both => place both.1]
          exact ⟨_, rfl, .waits queued (Nat.eq_zero_of_not_pos place) rfl rfl⟩
      · rw [if_neg fun both => same both.2]
        exact ⟨scan, rfl, .idle fun own => same (Option.some.inj own)⟩
  | scan j =>
      obtain ⟨_, next, stores, trace, found', stepped, rfl, told⟩ := apply_scan moved
      by_cases same : j = i
      · subst same
        cases found.symm.trans found'
        exact ⟨next, getElem?_putScan_self here, .called (by simpa using stepped) told (by simp)⟩
      · have other : (Action.scan j).scan? ≠ some i := fun own => same (Option.some.inj own)
        obtain still | ⟨queued, seated⟩ :=
          getElem?_putScan_ne (s := { s with stores := stores }) next same found
        · exact ⟨scan, still, .idle other⟩
        · exact ⟨_, seated, .seated other queued⟩
  | answer j answer =>
      obtain ⟨_, next, found', answered, rfl⟩ := apply_answer moved
      by_cases same : j = i
      · subst same
        cases found.symm.trans found'
        exact ⟨next, getElem?_putScan_self here, .answered answered rfl⟩
      · have other : (Action.answer j answer).scan? ≠ some i := fun own => same (Option.some.inj own)
        obtain still | ⟨queued, seated⟩ := getElem?_putScan_ne next same found
        · exact ⟨scan, still, .idle other⟩
        · exact ⟨_, seated, .seated other queued⟩
  | sweep ttl =>
      obtain ⟨stores, -, rfl⟩ := apply_sweep moved
      exact ⟨scan, found, .idle nofun⟩

/-- A place in the list of scans that is still free is not moved by any action, and the scan that is
put there, if there is one, waits in the queue. -/
theorem scan_of_apply_free {i : Nat} (missing : s.scans[i]? = none)
    (moved : s.apply m a = some (s', t)) :
    a.scan? ≠ some i ∧ ∀ scan, s'.scans[i]? = some scan → scan.phase = .queued := by
  have beyond : s.scans.length ≤ i := List.getElem?_eq_none_iff.mp missing
  -- What is appended waits in the queue.
  have appended : ∀ {new : List Scan} {scan : Scan}, (∀ c ∈ new, c.phase = .queued) →
      (s.scans ++ new)[i]? = some scan → scan.phase = .queued := by
    intro new scan queued found
    rw [List.getElem?_append_right beyond] at found
    exact queued scan (List.mem_of_getElem? found)
  -- An action on a scan is on one that is there, and adds none.
  have aside : ∀ {j : Nat} {scan : Scan} {new : List Scan}, s.scans[j]? = some scan →
      new.length = s.scans.length →
      some j ≠ some i ∧ ∀ scan, new[i]? = some scan → scan.phase = .queued := by
    intro j scan new there length
    have other : j ≠ i := fun same => by rw [same, missing] at there; cases there
    refine ⟨fun same => other (Option.some.inj same), fun scan found => ?_⟩
    rw [List.getElem?_eq_none (length ▸ beyond)] at found
    cases found
  have absent : ∀ scan, s.scans[i]? = some scan → scan.phase = .queued := fun scan found => by
    rw [missing] at found
    cases found
  cases a with
  | submit r =>
      obtain ⟨rfl, -⟩ := apply_submit moved
      exact ⟨nofun, absent⟩
  | upload j =>
      obtain ⟨u, next, stores, trace, -, -, rfl, -⟩ := apply_upload moved
      refine ⟨nofun, fun scan found => ?_⟩
      rw [scheduleCreated_scans] at found
      refine appended (fun c asked => ?_) found
      obtain ⟨id, -, rfl⟩ := List.mem_map.mp asked
      rfl
  | drop j =>
      obtain ⟨-, rfl, -⟩ := apply_drop moved
      exact ⟨nofun, absent⟩
  | schedule id =>
      obtain ⟨rfl, -⟩ := apply_schedule moved
      refine ⟨nofun, fun scan found => appended (fun c asked => ?_) found⟩
      rw [List.mem_singleton.mp asked]
  | enter j =>
      obtain ⟨scan, there, -, -, rfl, -⟩ := apply_enter moved
      exact aside there (length_askPlace j s)
  | scan j =>
      obtain ⟨scan, next, stores, trace, there, -, rfl, -⟩ := apply_scan moved
      exact aside there (length_putScan j next _)
  | answer j answer =>
      obtain ⟨scan, next, there, -, rfl⟩ := apply_answer moved
      exact aside there (length_putScan j next s)
  | sweep ttl =>
      obtain ⟨stores, -, rfl⟩ := apply_sweep moved
      exact ⟨nofun, absent⟩

theorem settled_of_run {s₀ : State σ} {steps : List (Moment × Action)} {i : Nat}
    {result : Except ServiceError Outcome} (found : s₀.uploads[i]? = some (.settled result))
    (ran : s₀.run steps = some (s, t)) : s.uploads[i]? = some (.settled result) := by
  refine run_induction (P := fun _ s _ => s.uploads[i]? = some (.settled result)) found ?_ ran
  intro steps s t x s' t' _ settled moved
  obtain still | ⟨unfinished, -⟩ | ⟨next, trace, stepped, -⟩ := apply_uploads settled moved
  · exact still
  · cases unfinished
  · cases stepped

/-- What is put in the place of another counts instead of it. -/
theorem countP_set_add {α : Type} {p : α → Bool} {l : List α} {i : Nat} {a b : α}
    (found : l[i]? = some b) :
    (l.set i a).countP p + (p b).toNat = l.countP p + (p a).toNat := by
  obtain ⟨here, rfl⟩ := List.getElem?_eq_some_iff.mp found
  have counted : p l[i] = true → 0 < l.countP p := fun passes =>
    List.countP_pos_iff.mpr ⟨l[i], List.getElem_mem here, passes⟩
  rw [List.countP_set here]
  cases old : p l[i] with
  | true =>
      have := counted old
      cases p a <;> simp <;> omega
  | false => cases p a <;> simp

/-- The stores are as they should be, and so is each upload and each scan in the light of them. -/
structure Each (S : Stores σ → Prop) (U : Stores σ → Upload → Prop) (C : Stores σ → Scan → Prop)
    (s : State σ) : Prop where
  stores : S s.stores
  uploads : ∀ u ∈ s.uploads, U s.stores u
  scans : ∀ scan ∈ s.scans, C s.stores scan

omit [PayloadStore σ] in
theorem Each.idle {S : Stores σ → Prop} {U : Stores σ → Upload → Prop} {C : Stores σ → Scan → Prop}
    {stores : Stores σ} (right : S stores) (c : Config) (engine : String) :
    (State.idle c engine stores).Each S U C :=
  ⟨right, fun _ stored => absurd stored List.not_mem_nil,
    fun _ stored => absurd stored List.not_mem_nil⟩

/-- What was right of the tasks that look on while the stores change is right after it. -/
structure Frame (U U' : Stores σ → Upload → Prop) (C C' : Stores σ → Scan → Prop)
    (old new : Stores σ) : Prop where
  upload : ∀ u, U old u → U' new u
  scan : ∀ scan, C old scan → C' new scan

omit [PayloadStore σ] in
/-- What is right of an upload whatever the stores are stays right while they change. -/
theorem Frame.of_imp {U U' : Upload → Prop} (uploads : ∀ u, U u → U' u) (old new : Stores σ) :
    Frame (fun _ => U) (fun _ => U') (fun _ _ => True) (fun _ _ => True) old new :=
  ⟨uploads, fun _ _ => trivial⟩

theorem forall_mem_set {α : Type} {P : α → Prop} {l : List α} (all : ∀ x ∈ l, P x) (i : Nat)
    {a : α} (new : P a) : ∀ x ∈ l.set i a, P x := by
  intro x stored
  cases List.mem_or_eq_of_mem_set stored with
  | inl stored => exact all x stored
  | inr same =>
      subst same
      exact new

theorem mem_set_of_ne {α : Type} {l : List α} {i : Nat} {a b x : α} (found : l[i]? = some b)
    (stored : x ∈ l) (other : x ≠ b) : x ∈ l.set i a := by
  obtain ⟨k, here⟩ := List.getElem?_of_mem stored
  have apart : i ≠ k := by
    intro same
    rw [← same, found] at here
    exact other (Option.some.inj here).symm
  exact List.mem_of_getElem? ((List.getElem?_set_ne apart).trans here)

section Places

omit [PayloadStore σ]

variable {P : Scan → Prop}

/-- What is right of every scan, and of one that has just got its place, stays right of all while
places are taken and given back. -/
theorem forall_mem_seat {s : State σ} (all : ∀ x ∈ s.scans, P x)
    (opening : ∀ id, P ⟨id, .opening⟩) (i : Nat) : ∀ x ∈ (s.seat i).scans, P x := by
  intro x stored
  obtain ⟨j, there⟩ := List.getElem?_of_mem stored
  rw [getElem?_seat, Option.map_eq_some_iff] at there
  obtain ⟨scan, found, rfl⟩ := there
  have own := all scan (List.mem_of_getElem? found)
  split
  · obtain same | ⟨-, seated⟩ := scan.enter_cases
    · rw [same]
      exact own
    · rw [seated]
      exact opening scan.id
  · exact own

theorem forall_mem_askPlace {s : State σ} (all : ∀ x ∈ s.scans, P x)
    (opening : ∀ id, P ⟨id, .opening⟩) (i : Nat) : ∀ x ∈ (s.askPlace i).scans, P x := by
  unfold askPlace
  split
  · exact forall_mem_seat (s := { s with free := s.free - 1 }) all opening i
  · exact all

theorem forall_mem_returnPlace {s : State σ} (all : ∀ x ∈ s.scans, P x)
    (opening : ∀ id, P ⟨id, .opening⟩) : ∀ x ∈ s.returnPlace.scans, P x := by
  unfold returnPlace
  split
  · exact all
  · next first rest _ => exact forall_mem_seat (s := { s with line := rest }) all opening first

theorem forall_mem_putScan {s : State σ} (all : ∀ x ∈ s.scans, P x)
    (opening : ∀ id, P ⟨id, .opening⟩) (i : Nat) {next : Scan} (new : P next) :
    ∀ x ∈ (s.putScan i next).scans, P x := by
  have put := forall_mem_set all i new
  unfold putScan
  split
  · exact forall_mem_returnPlace (s := { s with scans := s.scans.set i next }) put opening
  · exact put

end Places

section Stays

omit [PayloadStore σ]

variable {x : Scan}

/-- A scan that does not wait for a place is not moved while places are taken and given back. -/
theorem mem_seat {s : State σ} (stored : x ∈ s.scans) (begun : x.phase ≠ .queued) (i : Nat) :
    x ∈ (s.seat i).scans := by
  obtain ⟨j, found⟩ := List.getElem?_of_mem stored
  have same : x.enter = x := if_neg begun
  refine List.mem_of_getElem? (i := j) ?_
  rw [getElem?_seat, found, Option.map_some, same, ite_self]

theorem mem_askPlace {s : State σ} (stored : x ∈ s.scans) (begun : x.phase ≠ .queued) (i : Nat) :
    x ∈ (s.askPlace i).scans := by
  unfold askPlace
  split
  · exact mem_seat (s := { s with free := s.free - 1 }) stored begun i
  · exact stored

theorem mem_returnPlace {s : State σ} (stored : x ∈ s.scans) (begun : x.phase ≠ .queued) :
    x ∈ s.returnPlace.scans := by
  unfold returnPlace
  split
  · exact stored
  · next first rest _ => exact mem_seat (s := { s with line := rest }) stored begun first

theorem mem_putScan_of_ne {s : State σ} {i : Nat} {scan next : Scan}
    (found : s.scans[i]? = some scan) (stored : x ∈ s.scans) (other : x ≠ scan)
    (begun : x.phase ≠ .queued) : x ∈ (s.putScan i next).scans := by
  have put : x ∈ s.scans.set i next := mem_set_of_ne found stored other
  unfold putScan
  split
  · exact mem_returnPlace (s := { s with scans := s.scans.set i next }) put begun
  · exact put

end Stays

/-- One action. The primed predicates are those after it, so that they may speak of a longer
history. -/
theorem Each.apply {S S' : Stores σ → Prop} {U U' : Stores σ → Upload → Prop}
    {C C' : Stores σ → Scan → Prop} (each : s.Each S U C) (moved : s.apply m a = some (s', t))
    (still : S' s.stores ∧ Frame U U' C C' s.stores s.stores)
    (queued : ∀ stores id, C' stores ⟨id, .queued⟩)
    (submit : ∀ r, a = .submit r → U' s.stores (.start s.config.maxUploadSize r))
    (upload : ∀ i u next stores trace, a = .upload i → u ∈ s.uploads →
      u.step m s.stores = some (next, stores, trace) → t = Trace.ofCall? (u.call? m.now) ++ trace →
      S' stores ∧ U' stores next ∧ Frame U U' C C' s.stores stores)
    (drop : U' s.stores .dropped)
    (opening : ∀ stores id, C' stores ⟨id, .opening⟩)
    (scan : ∀ i scan next stores trace, a = .scan i → scan ∈ s.scans →
      scan.step s.config.scan s.engine m s.stores = some (next, stores, trace) →
      t = Trace.ofCall? scan.call? ++ trace →
      S' stores ∧ C' stores next ∧ Frame U U' C C' s.stores stores)
    (answer : ∀ i answer scan next, a = .answer i answer → s.scans[i]? = some scan →
      scan.answer s.config.scan s.engine answer = some (next, t) → C' s.stores next)
    (sweep : ∀ ttl stores, a = .sweep ttl →
      Retention.sweepQuietly m ttl s.stores = some (stores, t) →
      S' stores ∧ Frame U U' C C' s.stores stores) : s'.Each S' U' C' := by
  obtain ⟨right, frame⟩ := still
  have uploads : ∀ u ∈ s.uploads, U' s.stores u :=
    fun u h => frame.upload u (each.uploads u h)
  have scans : ∀ scan ∈ s.scans, C' s.stores scan :=
    fun scan h => frame.scan scan (each.scans scan h)
  cases a with
  | submit r =>
      obtain ⟨rfl, -⟩ := apply_submit moved
      refine ⟨right, fun u stored => ?_, scans⟩
      cases List.mem_append.mp stored with
      | inl stored => exact uploads u stored
      | inr stored =>
          rw [List.mem_singleton.mp stored]
          exact submit r rfl
  | upload i =>
      obtain ⟨u, next, stores, trace, found, stepped, rfl, rfl⟩ := apply_upload moved
      obtain ⟨right, moved_on, frame⟩ :=
        upload i u next stores trace rfl (List.mem_of_getElem? found) stepped rfl
      refine ⟨?_, ?_, ?_⟩
      · rw [scheduleCreated_stores]
        exact right
      · rw [scheduleCreated_stores, scheduleCreated_uploads]
        exact forall_mem_set (fun v h => frame.upload v (each.uploads v h)) i moved_on
      · rw [scheduleCreated_stores, scheduleCreated_scans]
        intro scan stored
        cases List.mem_append.mp stored with
        | inl stored => exact frame.scan scan (each.scans scan stored)
        | inr stored =>
            obtain ⟨id, -, rfl⟩ := List.mem_map.mp stored
            exact queued stores id
  | drop i =>
      obtain ⟨-, rfl, -⟩ := apply_drop moved
      exact ⟨right, forall_mem_set uploads i drop, scans⟩
  | schedule id =>
      obtain ⟨rfl, -⟩ := apply_schedule moved
      refine ⟨right, uploads, fun scan stored => ?_⟩
      cases List.mem_append.mp stored with
      | inl stored => exact scans scan stored
      | inr stored =>
          rw [List.mem_singleton.mp stored]
          exact queued _ id
  | enter i =>
      obtain ⟨scan, found, -, -, rfl, -⟩ := apply_enter moved
      refine ⟨?_, ?_, ?_⟩
      · rw [askPlace_stores]
        exact right
      · rw [askPlace_stores, askPlace_uploads]
        exact uploads
      · rw [askPlace_stores]
        exact forall_mem_askPlace scans (opening s.stores) i
  | scan i =>
      obtain ⟨c, next, stores, trace, found, stepped, rfl, rfl⟩ := apply_scan moved
      obtain ⟨right, moved_on, frame⟩ :=
        scan i c next stores trace rfl (List.mem_of_getElem? found) stepped rfl
      refine ⟨?_, ?_, ?_⟩
      · rw [putScan_stores]
        exact right
      · rw [putScan_stores, putScan_uploads]
        exact fun u h => frame.upload u (each.uploads u h)
      · rw [putScan_stores]
        exact forall_mem_putScan (s := { s with stores := stores })
          (fun c h => frame.scan c (each.scans c h)) (opening stores) i moved_on
  | answer i ans =>
      obtain ⟨c, next, found, answered, rfl⟩ := apply_answer moved
      refine ⟨?_, ?_, ?_⟩
      · rw [putScan_stores]
        exact right
      · rw [putScan_stores, putScan_uploads]
        exact uploads
      · rw [putScan_stores]
        exact forall_mem_putScan scans (opening s.stores) i
          (answer i ans c next rfl found answered)
  | sweep ttl =>
      obtain ⟨stores, swept, rfl⟩ := apply_sweep moved
      obtain ⟨right, frame⟩ := sweep ttl stores rfl swept
      exact ⟨right, fun u h => frame.upload u (each.uploads u h),
        fun c h => frame.scan c (each.scans c h)⟩

end State

end Quarantine
