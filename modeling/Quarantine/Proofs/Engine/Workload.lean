import Mathlib.Data.List.Induction
import Quarantine.Engine.Workload
import Quarantine.Proofs.Engine.Mock
import Quarantine.Proofs.Service.Run

/-!
What the counters of a mock engine tell, however its analyses go on side by side and whichever of
them are cancelled. An analysis gives its place up in the same step in which it ends, so the counter
of those under way is right after every step, and its peak is the most there ever were. The failures
that are to come next are used up only by analyses that come to the point at which they may fail
while not all are to fail.
-/

namespace Quarantine

theorem Mock.cause_always {m : Mock} (always : m.failAlways = true) : m.cause = .always :=
  if_pos always

theorem Mock.cause_next {m : Mock} (always : m.failAlways = false) : m.cause = .next :=
  if_neg (by rw [always]; decide)

namespace Analysis

/-- What the next part of an analysis can come to. -/
inductive Acts (m : Mock) (a : Analysis) :
    Act → Phase → Mock → List (Option Mock.Cause) → Prop
  | refused {e} (here : a.phase = .started) (refusal : m.refusal = some e) :
      Acts m a .look (.refused e) m.leave []
  | admitted (here : a.phase = .started) (online : m.refusal = none) :
      Acts m a .look .waiting m []
  | always (here : a.phase = .waiting) (failing : m.failAlways = true) :
      Acts m a .check (.failed .always (.connection m.name "simulated failure")) m.leave
        [some .always]
  | next {n} (here : a.phase = .waiting) (failing : m.failAlways = false)
      (left : m.failNext = n + 1) :
      Acts m a .check (.failed .next (.connection m.name "simulated failure"))
        { m with failNext := n }.leave [some .next]
  | passed (here : a.phase = .waiting) (failing : m.failAlways = false) (left : m.failNext = 0) :
      Acts m a .check .reading m [none]
  | judged (here : a.phase = .reading) :
      Acts m a .read (.judged (Mock.inspect a.source)) m.leave []
  | cancelledWaiting (here : a.phase = .waiting) : Acts m a .cancel .cancelledWaiting m.leave []
  | cancelledReading (here : a.phase = .reading) : Acts m a .cancel .cancelledReading m.leave []

variable {m m' : Mock} {a : Analysis} {act : Act} {phase : Phase} {marks : List (Option Mock.Cause)}

theorem acts_of_act (done : a.act m act = some (phase, m', marks)) : Acts m a act phase m' marks := by
  obtain ⟨source, before⟩ := a
  cases act with
  | look =>
      cases before with
      | started =>
          simp only [Analysis.act] at done
          split at done
          · next refusal =>
              cases done
              exact .refused rfl refusal
          · next online =>
              cases done
              exact .admitted rfl online
      | waiting | reading | refused _ | failed _ _ | judged _ | cancelledWaiting
      | cancelledReading => cases done
  | check =>
      cases before with
      | waiting =>
          cases failing : m.failAlways with
          | true =>
              simp only [Analysis.act, Mock.takeFailure_always failing,
                Mock.cause_always failing] at done
              cases done
              exact .always rfl failing
          | false =>
              cases left : m.failNext with
              | zero =>
                  simp only [Analysis.act, Mock.takeFailure_spent failing left] at done
                  cases done
                  exact .passed rfl failing left
              | succ n =>
                  simp only [Analysis.act, Mock.takeFailure_next failing left,
                    Mock.cause_next failing] at done
                  cases done
                  exact .next rfl failing left
      | started | reading | refused _ | failed _ _ | judged _ | cancelledWaiting
      | cancelledReading => cases done
  | read =>
      cases before with
      | reading =>
          cases done
          exact .judged rfl
      | started | waiting | refused _ | failed _ _ | judged _ | cancelledWaiting
      | cancelledReading => cases done
  | cancel =>
      cases before with
      | waiting =>
          cases done
          exact .cancelledWaiting rfl
      | reading =>
          cases done
          exact .cancelledReading rfl
      | started | refused _ | failed _ _ | judged _ | cancelledWaiting | cancelledReading =>
          cases done

/-- What a part of an analysis does to the counters of all analyses. -/
structure Counts (a : Analysis) (phase : Phase) (m m' : Mock) : Prop where
  running : a.phase.isRunning = true
  calls : m'.calls = m.calls
  active : m'.active = if phase.isRunning then m.active else m.active - 1
  peak : m'.peak = m.peak

theorem Acts.counts (acts : Acts m a act phase m' marks) : Counts a phase m m' := by
  cases acts with
  | refused here _ | admitted here _ | always here _ | next here _ _ | passed here _ _
  | judged here | cancelledWaiting here | cancelledReading here =>
      exact ⟨by rw [here]; rfl, rfl, rfl, rfl⟩

/-- How an analysis has passed the point at which it may be made to fail, if it has. -/
def Phase.mark? : Phase → Option (Option Mock.Cause)
  | .failed cause _ => some (some cause)
  | .reading | .judged _ | .cancelledReading => some none
  | .started | .waiting | .refused _ | .cancelledWaiting => none

theorem Acts.mark_append (acts : Acts m a act phase m' marks) :
    a.phase.mark?.toList ++ marks = phase.mark?.toList := by
  cases acts with
  | refused here _ | admitted here _ | always here _ | next here _ _ | passed here _ _
  | judged here | cancelledWaiting here | cancelledReading here =>
      rw [here]
      rfl

theorem Acts.check (acts : Acts m a .check phase m' marks) :
    ∃ mark, marks = [mark] ∧ (mark = some .always ↔ m.failAlways = true) := by
  cases acts with
  | always _ failing | next _ failing _ | passed _ failing _ => exact ⟨_, rfl, by simp [failing]⟩

/-- The marks that were left while not all analyses were to fail. -/
def unforced (marks : List (Option Mock.Cause)) : List (Option Mock.Cause) :=
  marks.filter (· ≠ some .always)

theorem Acts.unforced (acts : Acts m a act phase m' marks) :
    (unforced marks = [] ∧ m'.failNext = m.failNext) ∨
      (unforced marks = [if 0 < m.failNext then some .next else none] ∧
        m'.failNext = m.failNext - 1) := by
  cases acts with
  | refused _ _ | admitted _ _ | always _ _ | judged _ | cancelledWaiting _ | cancelledReading _ =>
      exact .inl ⟨rfl, rfl⟩
  | next _ _ left =>
      refine .inr ⟨?_, by rw [left]; rfl⟩
      rw [if_pos (by omega)]
      rfl
  | passed _ _ left =>
      refine .inr ⟨?_, by rw [left]⟩
      rw [left]
      rfl

end Analysis

/-- Of the analyses that left these marks precisely the first `n` were made to fail, and of the `n`
failures so many are left. -/
structure Spends (n : Nat) (marks : List (Option Mock.Cause)) (left : Nat) : Prop where
  first : marks = (List.range marks.length).map fun k => if k < n then some .next else none
  rest : left = n - marks.length

theorem Spends.nil (n : Nat) : Spends n [] n :=
  ⟨rfl, rfl⟩

theorem Spends.concat {n left : Nat} {marks : List (Option Mock.Cause)}
    (spends : Spends n marks left) :
    Spends n (marks ++ [if 0 < left then some .next else none]) (left - 1) := by
  obtain ⟨first, rest⟩ := spends
  have more : 0 < left ↔ marks.length < n := by omega
  refine ⟨?_, ?_⟩
  · rw [List.length_append, List.length_singleton, List.range_succ, List.map_append, ← first]
    simp only [more, List.map_cons, List.map_nil]
  · rw [List.length_append, List.length_singleton]
    omega

namespace Workload

variable {w₀ w w' : Workload} {moves : List Move} {move : Move}

section Runs

theorem run_append_iff {first second : List Move} :
    w.run (first ++ second) = some w' ↔ ∃ middle, w.run first = some middle ∧
      middle.run second = some w' := by
  simp only [run, List.foldlM_append, Option.bind_eq_bind, Option.bind_eq_some_iff]

theorem run_concat_iff :
    w₀.run (moves ++ [move]) = some w' ↔ ∃ w, w₀.run moves = some w ∧ w.step move = some w' := by
  rw [run_append_iff]
  simp [run]

theorem run_append_cons_iff {first second : List Move} :
    w₀.run (first ++ move :: second) = some w ↔ ∃ w₁ w₂, w₀.run first = some w₁ ∧
      w₁.step move = some w₂ ∧ w₂.run second = some w := by
  rw [run_append_iff]
  simp only [run, List.foldlM_cons, Option.bind_eq_bind, Option.bind_eq_some_iff,
    exists_and_left]

theorem run_induction {P : List Move → Workload → Prop} (start : P [] w₀)
    (step : ∀ moves w move w', w₀.run moves = some w → P moves w → w.step move = some w' →
      P (moves ++ [move]) w')
    (ran : w₀.run moves = some w) : P moves w := by
  induction moves using List.reverseRecOn generalizing w with
  | nil =>
      cases ran
      exact start
  | append_singleton moves move ih =>
      obtain ⟨w, went, stepped⟩ := run_concat_iff.mp ran
      exact step _ _ _ _ went (ih went) stepped

/-- What a move of an analysis does. -/
theorem step_act {i : Nat} {act : Analysis.Act} (stepped : w.step (.act i act) = some w') :
    ∃ a phase marks, w.analyses[i]? = some a ∧ a.Acts w.mock act phase w'.mock marks ∧
      w'.analyses = w.analyses.set i { a with phase := phase } ∧
      w'.checks = w.checks ++ marks.map (i, ·) := by
  simp only [step, Option.bind_eq_bind, Option.bind_eq_some_iff, Option.pure_def,
    Option.some.injEq] at stepped
  obtain ⟨a, found, ⟨phase, mock, marks⟩, done, rfl⟩ := stepped
  exact ⟨a, phase, marks, found, Analysis.acts_of_act done, rfl, rfl⟩

end Runs

section Counters

def Move.isStart : Move → Bool
  | .start _ => true
  | .act _ _ | .switch _ => false

/-- What the counters of the engine tell after so many analyses have been started. -/
structure Accounts (w : Workload) (started : Nat) : Prop where
  length : w.analyses.length = started
  calls : w.mock.calls = started
  active : w.mock.active = w.running

/-- An analysis is under way, has finished or has been cancelled. -/
theorem running_add (w : Workload) :
    w.running + w.finished + w.cancelled = w.analyses.length := by
  simp only [running, finished, cancelled]
  induction w.analyses with
  | nil => rfl
  | cons a rest ih =>
      simp only [List.countP_cons, List.length_cons, ← ih]
      cases a.phase <;> simp [Analysis.Phase.isRunning, Analysis.Phase.isFinished,
        Analysis.Phase.isCancelled] <;> omega

/-- The number of analyses under way goes up by one with a start, and down by one with an end. -/
theorem running_step (stepped : w.step move = some w') :
    (∃ source, move = .start source ∧ w'.mock = w.mock.start ∧ w'.running = w.running + 1) ∨
      (move.isStart = false ∧ w'.mock.calls = w.mock.calls ∧ w'.mock.peak = w.mock.peak ∧
        ((w'.running = w.running ∧ w'.mock.active = w.mock.active) ∨
          (w'.running + 1 = w.running ∧ w'.mock.active = w.mock.active - 1))) := by
  cases move with
  | start source =>
      cases stepped
      exact .inl ⟨source, rfl, rfl, by simp [running, Analysis.Phase.isRunning]⟩
  | act i act =>
      obtain ⟨a, phase, marks, found, acts, analyses, -⟩ := step_act stepped
      obtain ⟨under_way, calls, active, peak⟩ := acts.counts
      have count := State.countP_set_add (p := fun a : Analysis => a.phase.isRunning)
        (a := { a with phase := phase }) found
      rw [← analyses, under_way] at count
      refine .inr ⟨rfl, calls, peak, ?_⟩
      simp only [running, active]
      cases still : phase.isRunning <;> simp [still] at count ⊢ <;> omega
  | switch s =>
      cases stepped
      cases s with
      | online _ | failing _ | failNext _ => exact .inr ⟨rfl, rfl, rfl, .inl ⟨rfl, rfl⟩⟩

theorem length_step (stepped : w.step move = some w') :
    w'.analyses.length = w.analyses.length + move.isStart.toNat := by
  cases move with
  | start source =>
      cases stepped
      simp [Move.isStart]
  | act i act =>
      obtain ⟨a, phase, marks, -, -, analyses, -⟩ := step_act stepped
      simp [analyses, Move.isStart]
  | switch s =>
      cases stepped
      rfl

theorem Accounts.step {started : Nat} (accounts : w.Accounts started)
    (stepped : w.step move = some w') : w'.Accounts (started + move.isStart.toNat) := by
  obtain ⟨length, calls, active⟩ := accounts
  have longer := length_step stepped
  obtain ⟨source, rfl, mock, more⟩ | ⟨other, calls', -, change⟩ := running_step stepped
  · refine ⟨by rw [longer, length], ?_, ?_⟩
    · rw [mock, ← calls]
      rfl
    · rw [mock, more, ← active]
      rfl
  · rw [other] at longer ⊢
    exact ⟨by rw [longer, length], by rw [calls', calls]; rfl, by omega⟩

theorem accounts_of_run {name : String} {latency : Option Duration} {failures : Nat}
    (ran : (idle name latency failures).run moves = some w) :
    w.Accounts (moves.countP Move.isStart) := by
  refine run_induction (P := fun moves w => w.Accounts (moves.countP Move.isStart))
    ⟨rfl, rfl, rfl⟩ ?_ ran
  intro moves w move w' _ accounts stepped
  have one : (moves ++ [move]).countP Move.isStart =
      moves.countP Move.isStart + move.isStart.toNat := by
    rw [List.countP_append]
    cases starts : move.isStart <;> simp [starts]
  rw [one]
  exact accounts.step stepped

end Counters

section Peak

/-- At some time of a run so many analyses are under way. -/
def Attains (w₀ : Workload) (moves : List Move) (n : Nat) : Prop :=
  ∃ early w, early <+: moves ∧ w₀.run early = some w ∧ w.running = n

theorem attains_concat_iff {n : Nat} (ran : w₀.run (moves ++ [move]) = some w') :
    w₀.Attains (moves ++ [move]) n ↔ n = w'.running ∨ w₀.Attains moves n := by
  simp only [Attains, List.prefix_concat_iff]
  constructor
  · rintro ⟨early, w, rfl | short, went, rfl⟩
    · cases ran.symm.trans went
      exact .inl rfl
    · exact .inr ⟨early, w, short, went, rfl⟩
  · rintro (rfl | ⟨early, w, short, went, rfl⟩)
    · exact ⟨moves ++ [move], w', .inl rfl, ran, rfl⟩
    · exact ⟨early, w, .inr short, went, rfl⟩

/-- The most analyses that are under way at some time of a run. -/
structure Peaks (w₀ : Workload) (moves : List Move) (peak : Nat) : Prop where
  attained : w₀.Attains moves peak
  most : ∀ n, w₀.Attains moves n → n ≤ peak

theorem Peaks.concat {peak : Nat} (peaks : w₀.Peaks moves peak)
    (ran : w₀.run (moves ++ [move]) = some w') :
    w₀.Peaks (moves ++ [move]) (max peak w'.running) := by
  refine ⟨(attains_concat_iff ran).mpr ?_, fun n attained => ?_⟩
  · obtain top | top := Nat.le_total w'.running peak
    · rw [Nat.max_eq_left top]
      exact .inr peaks.attained
    · rw [Nat.max_eq_right top]
      exact .inl rfl
  · obtain rfl | before := (attains_concat_iff ran).mp attained
    · exact Nat.le_max_right ..
    · exact Nat.le_trans (peaks.most n before) (Nat.le_max_left ..)

theorem peaks_of_run {name : String} {latency : Option Duration} {failures : Nat}
    (ran : (idle name latency failures).run moves = some w) :
    (idle name latency failures).Peaks moves w.mock.peak := by
  refine run_induction (P := fun moves w => (idle name latency failures).Peaks moves w.mock.peak)
    ?_ ?_ ran
  · refine ⟨⟨[], _, List.prefix_rfl, rfl, rfl⟩, ?_⟩
    rintro n ⟨early, w, short, went, rfl⟩
    obtain rfl := List.prefix_nil.mp short
    cases went
    exact Nat.le_refl 0
  · intro moves w move w' went peaks stepped
    have concat := peaks.concat (run_concat_iff.mpr ⟨w, went, stepped⟩)
    have active := (accounts_of_run went).active
    have below : w.running ≤ w.mock.peak :=
      peaks.most _ ⟨moves, w, List.prefix_rfl, went, rfl⟩
    obtain ⟨source, rfl, mock, more⟩ | ⟨-, -, peak, change⟩ := running_step stepped
    · have peak : w'.mock.peak = max w.mock.peak w'.running := by
        rw [mock, more, ← active]
        rfl
      rwa [peak]
    · -- Nothing new is under way, so the peak so far stands.
      have peak : w'.mock.peak = max w.mock.peak w'.running := by
        rw [peak]
        omega
      rwa [peak]

end Peak

section Checks

/-- The marks that one analysis has left. -/
def marksOf (i : Nat) (checks : List (Nat × Option Mock.Cause)) : List (Option Mock.Cause) :=
  (checks.filter (·.1 = i)).map (·.2)

variable {i j : Nat} {checks : List (Nat × Option Mock.Cause)} {marks : List (Option Mock.Cause)}

theorem marksOf_eq_nil (silent : ∀ c ∈ checks, c.1 ≠ i) : marksOf i checks = [] := by
  rw [marksOf, List.map_eq_nil_iff, List.filter_eq_nil_iff]
  exact fun c listed => by simpa using silent c listed

theorem marksOf_append_own :
    marksOf i (checks ++ marks.map (i, ·)) = marksOf i checks ++ marks := by
  simp [marksOf, List.filter_map, Function.comp_def]

theorem marksOf_append_ne (other : j ≠ i) :
    marksOf i (checks ++ marks.map (j, ·)) = marksOf i checks := by
  simp [marksOf, List.filter_map, Function.comp_def, other]

/-- Each analysis has left the mark that belongs to its phase, and no other. -/
structure Recorded (w : Workload) : Prop where
  known : ∀ c ∈ w.checks, c.1 < w.analyses.length
  own : ∀ i a, w.analyses[i]? = some a → marksOf i w.checks = a.phase.mark?.toList

theorem Recorded.start (recorded : w.Recorded) (source : Source) :
    Recorded { w with
      mock := w.mock.start, analyses := w.analyses ++ [⟨source, .started⟩] } where
  known c listed := by
    have := recorded.known c listed
    rw [List.length_append, List.length_singleton]
    omega
  own i a found := by
    rw [List.getElem?_append] at found
    split at found
    · exact recorded.own i a found
    · next late =>
        -- Marks belong to analyses that were there before this one.
        rw [List.getElem?_singleton] at found
        split at found
        · cases found
          refine marksOf_eq_nil fun c listed => ?_
          have := recorded.known c listed
          omega
        · cases found

theorem Recorded.step (recorded : w.Recorded) (stepped : w.step move = some w') : w'.Recorded := by
  cases move with
  | start source =>
      cases stepped
      exact recorded.start source
  | act j act =>
      obtain ⟨a, phase, marks, found, acts, analyses, checks⟩ := step_act stepped
      refine ⟨fun c listed => ?_, fun i b found' => ?_⟩
      · rw [analyses, List.length_set]
        rw [checks, List.mem_append, List.mem_map] at listed
        obtain old | ⟨mark, -, rfl⟩ := listed
        · exact recorded.known c old
        · exact (List.getElem?_eq_some_iff.mp found).1
      · rw [analyses, List.getElem?_set] at found'
        rw [checks]
        split at found'
        · next same =>
            subst same
            split at found'
            · cases found'
              rw [marksOf_append_own, recorded.own j a found]
              exact acts.mark_append
            · cases found'
        · next other =>
            rw [marksOf_append_ne other]
            exact recorded.own i b found'
  | switch s =>
      cases stepped
      exact ⟨recorded.known, recorded.own⟩

theorem recorded_of_run {name : String} {latency : Option Duration} {failures : Nat}
    (ran : (idle name latency failures).run moves = some w) : w.Recorded := by
  refine run_induction (P := fun _ w => w.Recorded) ⟨?_, ?_⟩ ?_ ran
  · exact fun c listed => absurd listed List.not_mem_nil
  · intro i a found
    cases found
  · exact fun _ _ _ _ _ recorded stepped => recorded.step stepped

theorem checks_step_check {i : Nat} (stepped : w.step (.act i .check) = some w') :
    ∃ mark, w'.checks = w.checks ++ [(i, mark)] ∧
      (mark = some .always ↔ w.mock.failAlways = true) := by
  obtain ⟨a, phase, marks, -, acts, -, checks⟩ := step_act stepped
  obtain ⟨mark, rfl, why⟩ := acts.check
  exact ⟨mark, checks, why⟩

theorem checks_prefix_of_run (ran : w₀.run moves = some w) : w₀.checks <+: w.checks := by
  refine run_induction (P := fun _ w => w₀.checks <+: w.checks) List.prefix_rfl ?_ ran
  intro _ w move w' _ before stepped
  cases move with
  | start source =>
      cases stepped
      exact before
  | act i act =>
      obtain ⟨a, phase, marks, -, -, -, checks⟩ := step_act stepped
      rw [checks]
      exact before.trans (List.prefix_append ..)
  | switch s =>
      cases stepped
      exact before

/-- The number of failures to come is set. -/
def Move.sets : Move → Bool
  | .switch (.failNext _) => true
  | .switch (.online _) | .switch (.failing _) | .start _ | .act _ _ => false

/-- From a time on, as long as their number is not set anew. -/
theorem spends_of_run (ran : w₀.run moves = some w) (unset : ∀ move ∈ moves, move.sets = false) :
    ∃ new, w.checks = w₀.checks ++ new ∧
      Spends w₀.mock.failNext (Analysis.unforced (new.map (·.2))) w.mock.failNext := by
  refine run_induction (P := fun moves w => (∀ move ∈ moves, move.sets = false) →
    ∃ new, w.checks = w₀.checks ++ new ∧
      Spends w₀.mock.failNext (Analysis.unforced (new.map (·.2))) w.mock.failNext)
    ?_ ?_ ran unset
  · exact fun _ => ⟨[], (List.append_nil _).symm, .nil _⟩
  · intro moves w move w' _ before stepped unset
    obtain ⟨new, checks, spends⟩ :=
      before fun move listed => unset move (List.mem_append_left _ listed)
    cases move with
    | start source =>
        cases stepped
        exact ⟨new, checks, spends⟩
    | act i act =>
        obtain ⟨a, phase, marks, -, acts, -, checks'⟩ := step_act stepped
        have marked : Analysis.unforced ((new ++ marks.map (i, ·)).map (·.2)) =
            Analysis.unforced (new.map (·.2)) ++ Analysis.unforced marks := by
          simp [Analysis.unforced, Function.comp_def]
        refine ⟨new ++ marks.map (i, ·), by rw [checks', checks, List.append_assoc], ?_⟩
        rw [marked]
        obtain ⟨silent, same⟩ | ⟨mark, less⟩ := acts.unforced
        · rw [silent, same, List.append_nil]
          exact spends
        · rw [mark, less]
          exact spends.concat
    | switch s =>
        cases stepped
        cases s with
        | online _ | failing _ => exact ⟨new, checks, spends⟩
        | failNext n => cases unset _ (List.mem_append_right _ List.mem_cons_self)

end Checks

/-- However analyses start, finish and are cancelled on one engine, and whatever switches are thrown
in between: the engine counts its calls; its counter of active analyses is the number of those that
have started and neither finished nor been cancelled, and is not zero when one of them ends; its peak
is the most there ever were. Each analysis comes at most once to the point at which it may be made to
fail. After the number of failures to come has been set, and as long as it is not set anew, precisely
the first ones of that number fail that come there while not all are to fail. -/
theorem probes_exact {name : String} {latency : Option Duration} {failures : Nat}
    (ran : (idle name latency failures).run moves = some w) :
    w.mock.calls = moves.countP Move.isStart ∧
      w.mock.active = w.running ∧
      w.running + w.finished + w.cancelled = w.mock.calls ∧
      (∀ (move : Move) (w' : Workload), w.step move = some w' → w'.running < w.running →
        w.mock.active = w'.mock.active + 1) ∧
      (idle name latency failures).Peaks moves w.mock.peak ∧
      w.Recorded ∧
      (∀ (early later : List Move) (i : Nat), moves = early ++ .act i .check :: later →
        ∃ w₁ mark, (idle name latency failures).run early = some w₁ ∧
          w₁.checks ++ [(i, mark)] <+: w.checks ∧
          (mark = some .always ↔ w₁.mock.failAlways = true)) ∧
      ((∀ move ∈ moves, move.sets = false) →
        Spends failures (Analysis.unforced (w.checks.map (·.2))) w.mock.failNext) ∧
      ∀ (early later : List Move) (n : Nat), moves = early ++ .switch (.failNext n) :: later →
        (∀ move ∈ later, move.sets = false) →
        ∃ w₁ new, (idle name latency failures).run early = some w₁ ∧ w.checks = w₁.checks ++ new ∧
          Spends n (Analysis.unforced (new.map (·.2))) w.mock.failNext := by
  obtain ⟨length, calls, active⟩ := accounts_of_run ran
  have parts := w.running_add
  refine ⟨calls, active, by omega, ?ends, peaks_of_run ran, recorded_of_run ran, ?check, ?built,
    ?set⟩
  case ends =>
    intro move w' stepped fewer
    obtain ⟨-, -, -, more⟩ | ⟨-, -, -, change⟩ := running_step stepped <;> omega
  case check =>
    rintro early later i rfl
    obtain ⟨w₁, w₂, went, stepped, rest⟩ := run_append_cons_iff.mp ran
    obtain ⟨mark, checks, why⟩ := checks_step_check stepped
    exact ⟨w₁, mark, went, checks ▸ checks_prefix_of_run rest, why⟩
  case built =>
    intro unset
    obtain ⟨new, checks, spends⟩ := spends_of_run ran unset
    obtain rfl : w.checks = new := checks
    exact spends
  case set =>
    rintro early later n rfl unset
    obtain ⟨w₁, w₂, went, stepped, rest⟩ := run_append_cons_iff.mp ran
    cases stepped
    obtain ⟨new, checks, spends⟩ := spends_of_run rest unset
    exact ⟨w₁, new, went, checks, spends⟩

/-- The first analysis is cancelled during the latency, and the second one uses up the failure that
the engine is built with. The third one finds the engine offline. -/
def overture : List Move :=
  [.start (.ofBytes []), .act 0 .look, .start (.ofBytes []), .act 1 .look, .act 0 .cancel,
    .act 1 .check, .switch (.online false), .start (.ofBytes []), .act 2 .look,
    .switch (.online true)]

/-- All are to fail when the fourth analysis comes to that point, and then no more. The sixth one is
cancelled while it reads, and the last one is under way. -/
def finale : List Move :=
  [.switch (.failing true), .start (.ofBytes []), .start (.ofBytes []), .start (.ofBytes []),
    .act 3 .look, .act 4 .look, .act 5 .look, .act 3 .check, .switch (.failing false),
    .act 4 .check, .act 5 .check, .act 5 .cancel, .start (.ofBytes []), .act 6 .look]

theorem finale_probes_exact :
    ∃ w, (idle "rehearsal" (some (.ofMillis 50)) 1).run
        (overture ++ .switch (.failNext 1) :: finale) = some w ∧
      w.mock.calls = 7 ∧ w.mock.active = 1 ∧ w.finished + w.cancelled = 6 ∧
      (idle "rehearsal" (some (.ofMillis 50)) 1).Peaks
        (overture ++ .switch (.failNext 1) :: finale) 3 ∧
      w.checks = [(1, some .next), (3, some .always), (4, some .next), (5, none)] ∧
      Spends 1 [some .next, none] w.mock.failNext := by
  obtain ⟨w, ran⟩ : ∃ w, (idle "rehearsal" (some (.ofMillis 50)) 1).run
      (overture ++ .switch (.failNext 1) :: finale) = some w := ⟨_, rfl⟩
  obtain ⟨calls, active, parts, -, peaks, -, -, -, set⟩ := probes_exact ran
  obtain ⟨w₁, new, went, checks, spends⟩ := set overture finale 1 rfl (by decide)
  have seven : w.mock.calls = 7 := calls
  have one : w.running = 1 := by
    cases ran
    rfl
  have three : w.mock.peak = 3 := by
    cases ran
    rfl
  have listed : w.checks = [(1, some .next), (3, some .always), (4, some .next), (5, none)] := by
    cases ran
    rfl
  have first : w₁.checks = [(1, some .next)] := by
    cases went
    rfl
  obtain rfl : new = [(3, some .always), (4, some .next), (5, none)] := by
    rw [first, listed] at checks
    simpa using checks.symm
  exact ⟨w, ran, seven, active.trans one, by omega, three ▸ peaks, listed, spends⟩

end Workload

end Quarantine
