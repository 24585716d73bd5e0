import Quarantine.Proofs.Source.Drain
import Quarantine.Simulation.Bench

/-!
What the mock engine says about a content. It looks for the test file from every byte on, so it finds
it exactly where it is a part of the content, however the source splits the content into reads. A
content that cannot be read to its end is not judged.
-/

namespace Quarantine

namespace Eicar

theorem length_signature : signature.length = 68 := by
  decide +kernel

theorem occursIn_iff_part (part content : Bytes) :
    occursIn part content = true ↔ part <:+: content := by
  induction content with
  | nil => rw [occursIn, List.isEmpty_iff, List.infix_nil]
  | cons b rest ih =>
      rw [occursIn, Bool.or_eq_true, List.isPrefixOf_iff_prefix, ih, List.infix_cons_iff]

/-- What is found has something before it and something after it, either of which may be empty. -/
theorem occursIn_iff (part content : Bytes) :
    occursIn part content = true ↔ ∃ front back, content = front ++ part ++ back := by
  rw [occursIn_iff_part]
  exact exists_congr fun _ => exists_congr fun _ => eq_comm

end Eicar

namespace Mock

variable {content : Bytes}

theorem verdict_eq_infected_iff :
    verdict content = .infected Eicar.threat ↔
      ∃ front back, content = front ++ Eicar.signature ++ back := by
  rw [← Eicar.occursIn_iff, verdict]
  cases Eicar.occursIn Eicar.signature content <;> simp

theorem verdict_eq_clean_iff :
    verdict content = .clean ↔ ¬ ∃ front back, content = front ++ Eicar.signature ++ back := by
  rw [← Eicar.occursIn_iff, verdict]
  cases Eicar.occursIn Eicar.signature content <;> simp

theorem inspect_flowing {source : Source} (flowing : Limited.Flowing ⟨source, none⟩) :
    inspect source = match source.failure with
      | some e => .error (.io e)
      | none => .ok (verdict source.bytes) := by
  rw [inspect, Source.readAll, Limited.readAll_flowing _ flowing]
  simp only [Limited.failure?, Limited.within]
  cases source.failure <;> rfl

section Failures

variable {m : Mock}

theorem takeFailure_always (always : m.failAlways = true) : m.takeFailure = (true, m) :=
  if_pos always

theorem takeFailure_next {n : Nat} (always : m.failAlways = false) (next : m.failNext = n + 1) :
    m.takeFailure = (true, { m with failNext := n }) := by
  rw [takeFailure, if_neg (by rw [always]; decide), next]

theorem takeFailure_spent (always : m.failAlways = false) (next : m.failNext = 0) :
    m.takeFailure = (false, m) := by
  rw [takeFailure, if_neg (by rw [always]; decide), next]

theorem judge_unforced (source : Source) (always : m.failAlways = false) (next : m.failNext = 0) :
    m.judge source = (inspect source, m) := by
  rw [judge, takeFailure_spent always next]

end Failures

end Mock

namespace Bench

theorem analyzeWithin_unlimited {b : Bench} (source : Source) (online : b.mock.online = true) :
    b.analyzeWithin none source =
      (some (finish source b.mock.start).1,
        ⟨(finish source b.mock.start).2, b.clock + wait b.mock.start⟩) := by
  have admitted : b.mock.start.refusal = none := if_pos online
  simp only [analyzeWithin, admitted, analyzeWithin.conclude]

/-- An engine that is online and is not made to fail says of a content that it is infected exactly if
the test file is a part of it, and else that it is clean, for every way in which the source gives the
content in reads. If the source breaks there is no verdict, whatever it has given before. -/
theorem analyze_detects {b : Bench} (source : Source) (online : b.mock.online = true)
    (always : b.mock.failAlways = false) (next : b.mock.failNext = 0)
    (flowing : Limited.Flowing ⟨source, none⟩) :
    Eicar.signature.length = 68 ∧
      ∃ result, (b.analyzeWithin none source).1 = some result ∧
        (source.failure = none →
          (result = .ok (.infected Eicar.threat) ↔
            ∃ front back, source.bytes = front ++ Eicar.signature ++ back) ∧
          (result = .ok .clean ↔
            ¬ ∃ front back, source.bytes = front ++ Eicar.signature ++ back)) ∧
        ∀ e, source.failure = some e → result = .error (.io e) := by
  have judged : (finish source b.mock.start).1 = Mock.inspect source := by
    rw [finish, Mock.judge_unforced source (m := b.mock.start) always next]
  refine ⟨Eicar.length_signature, Mock.inspect source, ?_, fun intact => ?_, fun e broken => ?_⟩
  · rw [analyzeWithin_unlimited source online, judged]
  · rw [Mock.inspect_flowing flowing, intact]
    simp only [Except.ok.injEq]
    exact ⟨Mock.verdict_eq_infected_iff, Mock.verdict_eq_clean_iff⟩
  · rw [Mock.inspect_flowing flowing, broken]

/-- A mock engine that takes its time, with an analysis under way. -/
def busy : Bench :=
  ⟨{ Mock.standard with latency := some (.ofMillis 50), calls := 1, active := 1, peak := 1 }, 7⟩

/-- The test file behind a false start of itself, in reads that cut it, once to the end and once with
a source that breaks behind it. -/
theorem busy_analyze_detects :
    (busy.analyzeWithin none
      ⟨Eicar.signature.take 5 ++ Eicar.signature ++ [0], [3, 1, 30, 2], none⟩).1 =
        some (.ok (.infected Eicar.threat)) ∧
      (busy.analyzeWithin none ⟨Eicar.signature.drop 1, [40], none⟩).1 = some (.ok .clean) ∧
      (busy.analyzeWithin none ⟨Eicar.signature, [67, 1], some ⟨"reset"⟩⟩).1 =
        some (.error (.io ⟨"reset"⟩)) := by
  refine ⟨?infected, ?clean, ?broken⟩
  case infected =>
    obtain ⟨-, result, answer, verdict, -⟩ := analyze_detects (b := busy)
      ⟨Eicar.signature.take 5 ++ Eicar.signature ++ [0], [3, 1, 30, 2], none⟩
      rfl rfl rfl (by decide +kernel)
    rw [answer, (verdict rfl).1.mpr ⟨Eicar.signature.take 5, [0], rfl⟩]
  case clean =>
    obtain ⟨-, result, answer, verdict, -⟩ := analyze_detects (b := busy)
      ⟨Eicar.signature.drop 1, [40], none⟩ rfl rfl rfl (by decide +kernel)
    have short : (Eicar.signature.drop 1).length = 67 := by decide +kernel
    have missing : ¬ ∃ front back, Eicar.signature.drop 1 = front ++ Eicar.signature ++ back := by
      rintro ⟨front, back, whole⟩
      rw [whole, List.length_append, List.length_append, Eicar.length_signature] at short
      omega
    rw [answer, (verdict rfl).2.mpr missing]
  case broken =>
    obtain ⟨-, result, answer, -, broken⟩ := analyze_detects (b := busy)
      ⟨Eicar.signature, [67, 1], some ⟨"reset"⟩⟩ rfl rfl rfl (by decide +kernel)
    rw [answer, broken _ rfl]

end Bench

end Quarantine
