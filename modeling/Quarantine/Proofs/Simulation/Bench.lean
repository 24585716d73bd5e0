import Quarantine.Proofs.Engine.Workload

/-!
A bench is one of the orders in which analyses can go on side by side: all that it does with an
engine is a run of a workload, with the same answers. What the counters of an engine tell after any
run they therefore tell after each use of a bench.
-/

namespace Quarantine

theorem Mock.takeFailure_name (m : Mock) : m.takeFailure.2.name = m.name := by
  unfold Mock.takeFailure
  split
  · rfl
  · split <;> rfl

namespace Bench

variable {m : Mock}

theorem startOne_refused {e : ScanError} (refusal : m.start.refusal = some e) :
    startOne m = (some e, m.start.leave) := by
  simp only [startOne, refusal]

theorem startOne_admitted (online : m.start.refusal = none) : startOne m = (none, m.start) := by
  simp only [startOne, online]

end Bench

namespace Workload

variable {w w₁ w₂ : Workload}

section Reaches

/-- Some moves lead from the one to the other. -/
def Reaches (w w' : Workload) : Prop :=
  ∃ moves, w.run moves = some w'

theorem Reaches.refl (w : Workload) : w.Reaches w :=
  ⟨[], rfl⟩

theorem Reaches.trans (first : w.Reaches w₁) (second : w₁.Reaches w₂) : w.Reaches w₂ := by
  obtain ⟨moves, ran⟩ := first
  obtain ⟨more, on⟩ := second
  exact ⟨moves ++ more, run_append_iff.mpr ⟨w₁, ran, on⟩⟩

theorem Reaches.of_step (move : Move) (stepped : w.step move = some w₁) : w.Reaches w₁ :=
  ⟨[move], by simp [run, stepped]⟩

variable {a : Analysis} {phase : Analysis.Phase} {m : Mock}
  {marks : List (Option Mock.Cause)} {before after : List Analysis} {source : Source}

/-- A part of an analysis that others stand around. -/
theorem Reaches.of_act (act : Analysis.Act) (place : w.analyses = before ++ a :: after)
    (done : a.act w.mock act = some (phase, m, marks)) :
    w.Reaches ⟨m, before ++ { a with phase := phase } :: after,
      w.checks ++ marks.map (before.length, ·)⟩ := by
  refine .of_step (.act before.length act) ?_
  simp [step, place, done]

/-- An analysis is refused, or it waits. -/
theorem exists_started (w : Workload) (source : Source) :
    ∃ w', w.Reaches w' ∧ w'.mock = (Bench.startOne w.mock).2 ∧
      w'.analyses = w.analyses ++ [⟨source, match (Bench.startOne w.mock).1 with
        | some e => .refused e
        | none => .waiting⟩] := by
  have started : w.Reaches
      { w with mock := w.mock.start, analyses := w.analyses ++ [⟨source, .started⟩] } :=
    .of_step (.start source) rfl
  cases refusal : w.mock.start.refusal with
  | some e =>
      have look : (⟨source, .started⟩ : Analysis).act w.mock.start .look =
          some (.refused e, w.mock.start.leave, []) := by
        simp only [Analysis.act, refusal]
      rw [Bench.startOne_refused refusal]
      exact ⟨_, started.trans (.of_act .look rfl look), rfl, rfl⟩
  | none =>
      have look : (⟨source, .started⟩ : Analysis).act w.mock.start .look =
          some (.waiting, w.mock.start, []) := by
        simp only [Analysis.act, refusal]
      rw [Bench.startOne_admitted refusal]
      exact ⟨_, started.trans (.of_act .look rfl look), rfl, rfl⟩

/-- An analysis ends after its latency. -/
theorem exists_finished (place : w.analyses = before ++ ⟨source, .waiting⟩ :: after) :
    ∃ w' phase, w.Reaches w' ∧ w'.mock = (Bench.finish source w.mock).2 ∧
      w'.analyses = before ++ ⟨source, phase⟩ :: after ∧
      phase.result? = some (Bench.finish source w.mock).1 ∧ phase.isRunning = false := by
  cases taken : w.mock.takeFailure with
  | mk fails m =>
      cases fails with
      | true =>
          have check : (⟨source, .waiting⟩ : Analysis).act w.mock .check =
              some (.failed w.mock.cause (.connection w.mock.name "simulated failure"), m.leave,
                [some w.mock.cause]) := by
            simp only [Analysis.act, taken]
          have name : m.name = w.mock.name := by
            rw [← w.mock.takeFailure_name, taken]
          refine ⟨_, _, .of_act .check place check, ?_, rfl, ?_, rfl⟩ <;>
          simp [Bench.finish, Mock.judge, taken, Analysis.Phase.result?, name]
      | false =>
          have check : (⟨source, .waiting⟩ : Analysis).act w.mock .check =
              some (.reading, m, [none]) := by
            simp only [Analysis.act, taken]
          refine ⟨_, _, (Reaches.of_act .check place check).trans (.of_act .read rfl rfl), ?_, rfl,
            ?_, rfl⟩ <;>
          simp [Bench.finish, Mock.judge, taken, Analysis.Phase.result?]

theorem exists_cancelled (place : w.analyses = before ++ ⟨source, .waiting⟩ :: after) :
    ∃ w', w.Reaches w' ∧ w'.mock = w.mock.leave ∧
      w'.analyses = before ++ ⟨source, .cancelledWaiting⟩ :: after :=
  ⟨_, .of_act .cancel place rfl, rfl, rfl⟩

end Reaches

section Answers

/-- Analyses of these sources that are over, with their answers. One that was cancelled has none. -/
structure Over (analyses : List Analysis) (sources : List Source)
    (answers : List (Option (Except ScanError Verdict))) : Prop where
  sources : analyses.map (·.source) = sources
  answers : analyses.map (·.phase.result?) = answers
  idle : ∀ a ∈ analyses, a.phase.isRunning = false

theorem Over.nil : Over [] [] [] :=
  ⟨rfl, rfl, by simp⟩

theorem Over.one {phase : Analysis.Phase} (source : Source) (idle : phase.isRunning = false) :
    Over [⟨source, phase⟩] [source] [phase.result?] :=
  ⟨rfl, rfl, by simpa using idle⟩

variable {sources sources' : List Source} {answers answers' : List (Option (Except ScanError Verdict))}

theorem Over.append {analyses analyses' : List Analysis} (first : Over analyses sources answers)
    (second : Over analyses' sources' answers') :
    Over (analyses ++ analyses') (sources ++ sources') (answers ++ answers') := by
  obtain ⟨rfl, rfl, idle⟩ := first
  obtain ⟨rfl, rfl, idle'⟩ := second
  exact ⟨List.map_append .., List.map_append ..,
    fun a listed => (List.mem_append.mp listed).elim (idle a) (idle' a)⟩

/-- The one leads to the other by analyses of these sources, all of which end. -/
structure Answers (w w' : Workload) (sources : List Source)
    (answers : List (Option (Except ScanError Verdict))) : Prop where
  reaches : w.Reaches w'
  past : ∃ new, w'.analyses = w.analyses ++ new ∧ Over new sources answers

theorem Answers.nil (w : Workload) : w.Answers w [] [] :=
  ⟨.refl w, [], (List.append_nil _).symm, .nil⟩

theorem Answers.append (first : w.Answers w₁ sources answers)
    (second : w₁.Answers w₂ sources' answers') :
    w.Answers w₂ (sources ++ sources') (answers ++ answers') := by
  obtain ⟨reached, new, analyses, past⟩ := first
  obtain ⟨reached', new', analyses', past'⟩ := second
  refine ⟨reached.trans reached', new ++ new', ?_, past.append past'⟩
  rw [analyses', analyses, List.append_assoc]

theorem Answers.idle (made : w.Answers w₁ sources answers)
    (idle : ∀ a ∈ w.analyses, a.phase.isRunning = false) :
    ∀ a ∈ w₁.analyses, a.phase.isRunning = false := by
  obtain ⟨-, new, analyses, past⟩ := made
  rw [analyses]
  exact fun a listed => (List.mem_append.mp listed).elim (idle a) (past.idle a)

theorem Answers.one {source : Source} {phase : Analysis.Phase} (reached : w.Reaches w₁)
    (analyses : w₁.analyses = w.analyses ++ [⟨source, phase⟩]) (idle : phase.isRunning = false) :
    w.Answers w₁ [source] [phase.result?] :=
  ⟨reached, _, analyses, .one source idle⟩

theorem exists_refused {e : ScanError} (source : Source) (refusal : w.mock.start.refusal = some e) :
    ∃ w', w'.mock = w.mock.start.leave ∧ w.Answers w' [source] [some (.error e)] := by
  obtain ⟨w', reached, mock, analyses⟩ := w.exists_started source
  rw [Bench.startOne_refused refusal] at mock analyses
  exact ⟨w', mock, .one reached analyses rfl⟩

theorem exists_judged (source : Source) (online : w.mock.start.refusal = none) :
    ∃ w', w'.mock = (Bench.finish source w.mock.start).2 ∧
      w.Answers w' [source] [some (Bench.finish source w.mock.start).1] := by
  obtain ⟨w₁, reached, mock, analyses⟩ := w.exists_started source
  rw [Bench.startOne_admitted online] at mock analyses
  obtain ⟨w', phase, reached', mock', analyses', result, ends⟩ := exists_finished analyses
  rw [mock] at mock' result
  exact ⟨w', mock', result ▸ .one (reached.trans reached') analyses' ends⟩

theorem exists_broken_off (source : Source) (online : w.mock.start.refusal = none) :
    ∃ w', w'.mock = w.mock.start.leave ∧ w.Answers w' [source] [none] := by
  obtain ⟨w₁, reached, mock, analyses⟩ := w.exists_started source
  rw [Bench.startOne_admitted online] at mock analyses
  obtain ⟨w', reached', mock', analyses'⟩ := exists_cancelled analyses
  rw [mock] at mock'
  exact ⟨w', mock', .one (reached.trans reached') analyses' rfl⟩

end Answers

section Bench

variable {b : Bench}

theorem exists_analyzeWithin (on : w.mock = b.mock) (limit : Option Duration) (source : Source) :
    ∃ w', w'.mock = (b.analyzeWithin limit source).2.mock ∧
      w.Answers w' [source] [(b.analyzeWithin limit source).1] := by
  unfold Bench.analyzeWithin
  rw [← on]
  cases refusal : w.mock.start.refusal with
  | some e =>
      simp only [refusal]
      exact exists_refused source refusal
  | none =>
      simp only [refusal]
      cases limit with
      | none => exact exists_judged source refusal
      | some limit =>
          dsimp only
          split
          · exact exists_judged source refusal
          · exact exists_broken_off source refusal

/-- What holds after each beginning of a list that is folded. -/
theorem foldl_prefix {α β : Type} {f : β → α → β} {b : β} {P : List α → β → Prop}
    (nil : P [] b) (concat : ∀ xs x state, P xs state → P (xs ++ [x]) (f state x))
    (xs : List α) : P xs (xs.foldl f b) := by
  induction xs using List.reverseRecOn with
  | nil => exact nil
  | append_singleton xs x ih =>
      rw [List.foldl_append]
      exact concat xs x _ ih

section Together

/-- An analysis that has been started before the first one ends. -/
def together (started : Option ScanError × Source) : Analysis :=
  ⟨started.2, match started.1 with
    | some e => .refused e
    | none => .waiting⟩

variable {m : Mock}

theorem exists_begun {f : List (Option ScanError × Source) × Mock → Source →
      List (Option ScanError × Source) × Mock}
    {back : List (Option ScanError × Source)} {sources : List Source}
    (begun : sources.foldl f ([], w.mock) = (back, m))
    (next : ∀ back m source, f (back, m) source =
      (((Bench.startOne m).1, source) :: back, (Bench.startOne m).2)) :
    ∃ w', w.Reaches w' ∧ w'.mock = m ∧
      w'.analyses = w.analyses ++ back.reverse.map together ∧ back.reverse.map (·.2) = sources := by
  have all := foldl_prefix (f := f) (b := ([], w.mock)) (P := fun xs state =>
    ∃ w', w.Reaches w' ∧ w'.mock = state.2 ∧
      w'.analyses = w.analyses ++ state.1.reverse.map together ∧ state.1.reverse.map (·.2) = xs)
    ⟨w, .refl w, rfl, (List.append_nil _).symm, rfl⟩ ?_ sources
  · rwa [begun] at all
  · rintro xs source ⟨back, m⟩ ⟨w₁, reached, rfl, analyses, rfl⟩
    obtain ⟨w', reached', mock, analyses'⟩ := w₁.exists_started source
    rw [next]
    refine ⟨w', reached.trans reached', mock, ?_, ?_⟩
    · rw [analyses', analyses, List.reverse_cons, List.map_append, ← List.append_assoc]
      rfl
    · rw [List.reverse_cons, List.map_append]
      rfl

theorem exists_ended {f : List (Except ScanError Verdict) × Mock → Option ScanError × Source →
      List (Except ScanError Verdict) × Mock}
    {started : List (Option ScanError × Source)} {back : List (Except ScanError Verdict)}
    (begun : w₁.analyses = w.analyses ++ started.map together)
    (ended : started.foldl f ([], w₁.mock) = (back, m))
    (refused : ∀ back m e source, f (back, m) (some e, source) = (.error e :: back, m))
    (judged : ∀ back m source, f (back, m) (none, source) =
      ((Bench.finish source m).1 :: back, (Bench.finish source m).2)) :
    ∃ w' new, w₁.Reaches w' ∧ w'.mock = m ∧ w'.analyses = w.analyses ++ new ∧
      Over new (started.map (·.2)) (back.reverse.map some) := by
  -- What is left of the list says which analyses have not been come to yet.
  have all := foldl_prefix (f := f) (b := ([], w₁.mock)) (P := fun xs state =>
    ∀ rest, started = xs ++ rest → ∃ w' new, w₁.Reaches w' ∧ w'.mock = state.2 ∧
      w'.analyses = w.analyses ++ new ++ rest.map together ∧
      Over new (xs.map (·.2)) (state.1.reverse.map some))
    ?_ ?_ started
  · obtain ⟨w', new, reached, mock, analyses, past⟩ := all [] (List.append_nil _).symm
    rw [ended] at mock past
    exact ⟨w', new, reached, mock, by simpa using analyses, past⟩
  · rintro rest rfl
    exact ⟨w₁, [], .refl w₁, rfl, by simpa using begun, .nil⟩
  · rintro xs ⟨refusal, source⟩ ⟨back, m⟩ before rest rfl
    obtain ⟨w₂, new, reached, rfl, analyses, past⟩ :=
      before ((refusal, source) :: rest) (by simp)
    cases refusal with
    | some e =>
        have one : Over [⟨source, .refused e⟩] [source] [some (.error e)] := .one source rfl
        refine ⟨w₂, new ++ [⟨source, .refused e⟩], reached, by rw [refused], ?_, ?_⟩
        · simpa [together] using analyses
        · rw [refused, List.map_append, List.reverse_cons, List.map_append]
          exact past.append one
    | none =>
        obtain ⟨w', phase, reached', mock, analyses', result, idle⟩ := exists_finished analyses
        have next := past.append (.one source idle)
        refine ⟨w', new ++ [⟨source, phase⟩], reached.trans reached', by rw [judged, mock], ?_, ?_⟩
        · simpa using analyses'
        · rw [judged, List.map_append, List.reverse_cons, List.map_append]
          rw [result] at next
          exact next

end Together

theorem exists_analyzeAll (on : w.mock = b.mock) (sources : List Source) :
    ∃ w', w'.mock = (b.analyzeAll sources).2.mock ∧
      w.Answers w' sources ((b.analyzeAll sources).1.map some) := by
  unfold Bench.analyzeAll
  rw [← on]
  split
  · refine foldl_prefix (P := fun xs (state : List (Except ScanError Verdict) × Mock) =>
      ∃ w', w'.mock = state.2 ∧ w.Answers w' xs (state.1.reverse.map some)) ?_ ?_ sources
    · exact ⟨w, rfl, .nil w⟩
    · rintro xs source ⟨back, m⟩ ⟨w₁, rfl, answers⟩
      cases refusal : w₁.mock.start.refusal with
      | some e =>
          obtain ⟨w', mock, answer⟩ := exists_refused source refusal
          refine ⟨w', ?_, ?_⟩
          · simp only [Bench.startOne_refused refusal, mock]
          · simpa only [Bench.startOne_refused refusal, List.reverse_cons, List.map_append,
              List.map_cons, List.map_nil] using answers.append answer
      | none =>
          obtain ⟨w', mock, answer⟩ := exists_judged source refusal
          refine ⟨w', ?_, ?_⟩
          · simp only [Bench.startOne_admitted refusal, mock]
          · simpa only [Bench.startOne_admitted refusal, List.reverse_cons, List.map_append,
              List.map_cons, List.map_nil] using answers.append answer
  · split
    next back m begun =>
    split
    next back' m' ended =>
    obtain ⟨w₁, reached, rfl, analyses, same⟩ := exists_begun begun fun _ _ _ => rfl
    obtain ⟨w', new, reached', rfl, analyses', past⟩ :=
      exists_ended analyses ended (fun _ _ _ _ => rfl) fun _ _ _ => rfl
    exact ⟨w', rfl, reached.trans reached', new, analyses', same ▸ past⟩

end Bench

end Workload

namespace Bench

/-- A bench that is used in any way, from the time on at which its engine is built. -/
inductive Used (name : String) (latency : Option Duration) (failures : Nat) : Bench → Prop
  | built : Used name latency failures ⟨(Workload.idle name latency failures).mock, 0⟩
  | analyzeWithin {b} (used : Used name latency failures b) (limit : Option Duration)
      (source : Source) : Used name latency failures (b.analyzeWithin limit source).2
  | analyzeAll {b} (used : Used name latency failures b) (sources : List Source) :
      Used name latency failures (b.analyzeAll sources).2
  | switch {b} (used : Used name latency failures b) (s : Mock.Switch) :
      Used name latency failures { b with mock := b.mock.switch s }

variable {name : String} {latency : Option Duration} {failures : Nat} {b : Bench}

theorem Used.reaches (used : Used name latency failures b) :
    ∃ w, (Workload.idle name latency failures).Reaches w ∧ w.mock = b.mock ∧
      ∀ a ∈ w.analyses, a.phase.isRunning = false := by
  induction used with
  | built => exact ⟨_, .refl _, rfl, by simp [Workload.idle]⟩
  | analyzeWithin _ limit source ih =>
      obtain ⟨w, reached, on, idle⟩ := ih
      obtain ⟨w', mock, answers⟩ := Workload.exists_analyzeWithin on limit source
      exact ⟨w', reached.trans answers.reaches, mock, answers.idle idle⟩
  | analyzeAll _ sources ih =>
      obtain ⟨w, reached, on, idle⟩ := ih
      obtain ⟨w', mock, answers⟩ := Workload.exists_analyzeAll on sources
      exact ⟨w', reached.trans answers.reaches, mock, answers.idle idle⟩
  | switch _ s ih =>
      obtain ⟨w, reached, on, idle⟩ := ih
      exact ⟨_, reached.trans (.of_step (.switch s) rfl), by rw [on], idle⟩

/-- Whenever a bench is not in use, its engine knows of no analysis under way. -/
theorem Used.active (used : Used name latency failures b) : b.mock.active = 0 := by
  obtain ⟨w, ⟨moves, ran⟩, on, idle⟩ := used.reaches
  rw [← on, (Workload.accounts_of_run ran).active]
  exact List.countP_eq_zero.mpr fun a listed => by simp [idle a listed]

end Bench

end Quarantine
