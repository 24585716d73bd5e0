import Quarantine.Proofs.Time.Duration
import Quarantine.Scan.Ladder

/-!
The waits of a ladder, by the numbers of the attempts that they come before. They are all that the
ladder has but the last, also of a ladder that has a single one or none, and their sum is exact
unless it is longer than any duration.
-/

namespace Quarantine.Ladder

variable (l : Ladder)

theorem delayBefore_add_two (k : Nat) : l.delayBefore (k + 2) = l.steps.dropLast[k]? := by
  rw [delayBefore, List.getElem?_dropLast]
  by_cases before_last : k < l.steps.length - 1
  · rw [if_neg (by rw [attempts]; omega), if_pos before_last, Nat.add_sub_cancel]
  · rw [if_pos (by rw [attempts]; omega), if_neg before_last]

theorem filterMap_range_delayBefore (n : Nat) :
    ((List.range n).filterMap fun k => l.delayBefore (k + 2)) = l.steps.dropLast.take n := by
  induction n with
  | zero => rfl
  | succ n ih =>
      rw [List.range_succ, List.filterMap_append, ih, List.take_add_one, ← delayBefore_add_two]
      rfl

/-- There is no wait before the first attempt. -/
theorem filterMap_delayBefore (n : Nat) :
    (List.range' 1 n).filterMap l.delayBefore = l.steps.dropLast.take (n - 1) := by
  cases n with
  | zero => rfl
  | succ n =>
      have first : l.delayBefore 1 = none := rfl
      have later : List.range' 2 n = (List.range n).map (· + 2) := by
        simp only [List.range'_eq_map_range, Nat.add_comm]
      rw [List.range'_succ, List.filterMap_cons_none first, later, List.filterMap_map]
      exact l.filterMap_range_delayBefore n

theorem delays_eq : l.delays = l.steps.dropLast := by
  rw [delays, filterMap_range_delayBefore, List.take_of_length_le]
  rw [List.length_dropLast, attempts]
  omega

theorem totalWait?_eq :
    l.totalWait? =
      if Duration.total l.steps.dropLast ≤ Duration.max.nanos then
        some ⟨Duration.total l.steps.dropLast⟩
      else none := by
  rw [totalWait?, delays_eq, Duration.sum?_eq]

theorem nanos_of_totalWait? {wait : Duration} (waits : l.totalWait? = some wait) :
    Duration.total l.steps.dropLast = wait.nanos := by
  rw [totalWait?_eq] at waits
  split at waits
  · exact congrArg Duration.nanos (Option.some.inj waits)
  · cases waits

end Quarantine.Ladder
