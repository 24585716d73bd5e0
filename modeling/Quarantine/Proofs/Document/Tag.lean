import Quarantine.Document.Tag
import Quarantine.Proofs.Text.Boundary

/-!
Tags as they are written down. A tag that has been reduced fits into the limit and has no character
that the reduction would change, so reducing it once more makes no difference. What it is reduced from
is the longest beginning of the raw tag that fits, whichever way that is looked for.
-/

namespace Quarantine

namespace Tag

/-- The place where a raw tag is cut is found in three steps at most, and what is before it is the
longest beginning that there is room for. -/
theorem backUp_cut (raw : String) :
    let kept := Text.fitting maxBytes raw.toList
    let room := min (Text.utf8 raw).length maxBytes
    cut raw = Text.byteCount kept ∧ Text.backUp (Text.utf8 raw) room = some (cut raw) ∧
      cut raw ≤ room ∧ room ≤ cut raw + 3 ∧
      (Text.utf8 raw).take (cut raw) = Text.utf8 (String.ofList kept) := by
  intro kept room
  have inside : room ≤ Text.byteCount raw.toList := by
    rw [← Text.length_utf8]
    exact Nat.min_le_left _ _
  have beginning : Text.fitting room raw.toList = kept := by
    simp only [room, Text.length_utf8, Text.fitting_min_byteCount, kept]
  obtain ⟨found, near, taken⟩ := Text.backUp_encoded raw.toList inside
  have before := Text.byteCount_fitting room raw.toList
  rw [beginning] at found near taken before
  have place : cut raw = Text.byteCount kept := congrArg (Option.getD · 0) found
  rw [← place] at found near taken before
  refine ⟨place, found, before, near, ?_⟩
  rw [Text.utf8, Text.utf8, taken, String.toList_ofList]

/-- A tag is what is left of the longest beginning of the raw tag that there is room for. -/
theorem sanitize_eq (raw : String) :
    sanitize raw = String.ofList ((Text.fitting maxBytes raw.toList).filterMap reduceChar) := by
  rw [sanitize, (backUp_cut raw).1, Text.fitting_byteCount_fitting]

/-- A character that is left is one that is left again, and no longer than the one before it. -/
theorem reduceChar_some {c d : Char} (reduced : reduceChar c = some d) :
    reduceChar d = some d ∧ d.utf8Size ≤ c.utf8Size := by
  unfold reduceChar at reduced
  split at reduced
  · next space =>
      cases reduced
      rw [space]
      decide
  · next other =>
      split at reduced
      · next allowed =>
          cases reduced
          exact ⟨by rw [reduceChar, if_neg other, if_pos allowed], Nat.le_refl _⟩
      · cases reduced

theorem bind_reduceChar (c : Char) : (reduceChar c).bind reduceChar = reduceChar c := by
  cases reduced : reduceChar c with
  | none => rfl
  | some d => exact (reduceChar_some reduced).1

theorem byteCount_sanitize (raw : String) : Text.byteCount (sanitize raw).toList ≤ maxBytes := by
  rw [sanitize_eq, String.toList_ofList]
  exact Nat.le_trans
    (Text.byteCount_filterMap_le (fun _ _ reduced => (reduceChar_some reduced).2) _)
    (Text.byteCount_fitting maxBytes raw.toList)

theorem sanitize_sanitize (raw : String) : sanitize (sanitize raw) = sanitize raw := by
  have whole := Text.fitting_of_byteCount_le (byteCount_sanitize raw)
  rw [sanitize_eq, whole]
  simp only [sanitize_eq, String.toList_ofList, List.filterMap_filterMap, bind_reduceChar]

/-- What takes the place of a character, if it may stay. -/
def underscored (c : Char) : Char :=
  if c = ' ' then '_' else c

theorem filterMap_reduceChar (cs : List Char) :
    cs.filterMap reduceChar = (cs.map underscored).filter allowed := by
  induction cs with
  | nil => rfl
  | cons c cs ih =>
      by_cases space : c = ' '
      · have reduced : reduceChar c = some '_' := if_pos space
        have allowed : allowed '_' = true := by decide
        rw [List.filterMap_cons_some reduced, List.map_cons, underscored, if_pos space,
          List.filter_cons_of_pos allowed, ih]
      · have kept : underscored c = c := if_neg space
        rw [List.map_cons, kept]
        by_cases stays : allowed c = true
        · have reduced : reduceChar c = some c := by rw [reduceChar, if_neg space, if_pos stays]
          rw [List.filterMap_cons_some reduced, List.filter_cons_of_pos stays, ih]
        · have reduced : reduceChar c = none := by rw [reduceChar, if_neg space, if_neg stays]
          rw [List.filterMap_cons_none reduced, List.filter_cons_of_neg stays, ih]

theorem allowed_of_mem_sanitize {raw : String} {c : Char} (kept : c ∈ (sanitize raw).toList) :
    allowed c = true := by
  rw [sanitize_eq, String.toList_ofList, filterMap_reduceChar] at kept
  exact (List.mem_filter.mp kept).2

/-- A tag is made of the longest beginning of the raw tag that takes no more than 128 bytes, with an
underscore for each space and without what is not allowed. Going back from the last byte that there is
room for to a place between two characters takes three steps at most, and leads to the end of this
beginning. -/
theorem sanitize_longest_beginning (raw : String) :
    let kept := Text.fitting maxBytes raw.toList
    let room := min (Text.utf8 raw).length maxBytes
    (kept <+: raw.toList ∧ (Text.utf8 (String.ofList kept)).length ≤ maxBytes ∧
      ∀ front, front <+: raw.toList → (Text.utf8 (String.ofList front)).length ≤ maxBytes →
        front <+: kept) ∧
    (∃ cut, Text.backUp (Text.utf8 raw) room = some cut ∧ cut ≤ room ∧ room ≤ cut + 3 ∧
      (Text.utf8 raw).take cut = Text.utf8 (String.ofList kept)) ∧
    sanitize raw = String.ofList ((kept.map underscored).filter allowed) ∧
    (Text.utf8 (sanitize raw)).length ≤ maxBytes ∧
    (∀ c ∈ (sanitize raw).toList, allowed c = true) ∧
    sanitize (sanitize raw) = sanitize raw ∧
    ∀ other : String, Text.fitting maxBytes other.toList = kept →
      sanitize other = sanitize raw := by
  intro kept room
  have fits : Text.byteCount kept ≤ maxBytes := Text.byteCount_fitting maxBytes raw.toList
  obtain ⟨-, found, before, near, taken⟩ := backUp_cut raw
  refine ⟨⟨Text.fitting_prefix _ _, ?_, fun front begins small => ?_⟩,
    ⟨cut raw, found, before, near, taken⟩, ?_, ?_, fun c => allowed_of_mem_sanitize,
    sanitize_sanitize raw, fun other same => ?_⟩
  · rwa [Text.length_utf8, String.toList_ofList]
  · rw [Text.length_utf8, String.toList_ofList] at small
    exact Text.prefix_fitting begins small
  · rw [sanitize_eq, filterMap_reduceChar]
  · rw [Text.length_utf8]
    exact byteCount_sanitize raw
  · rw [sanitize_eq, sanitize_eq, same]

/-- A raw tag with a character of two bytes at bytes 127 and 128, between which the limit is. -/
def crowded : String :=
  String.ofList (List.replicate 125 'n' ++ [' ', '!', 'é', 'o'])

/-- The tag is cut before this character. The space is replaced, and the exclamation mark goes. -/
theorem sanitize_longest_beginning_of_mixed :
    (Text.utf8 crowded).length = 130 ∧ Text.backUp (Text.utf8 crowded) 128 = some 127 ∧
      sanitize crowded = String.ofList (List.replicate 125 'n' ++ ['_']) ∧
      sanitize (sanitize crowded) = sanitize crowded := by
  obtain ⟨-, ⟨cut, found, -, -, taken⟩, reduced, -, -, again, -⟩ := sanitize_longest_beginning crowded
  have size : (Text.utf8 crowded).length = 130 := by decide +kernel
  have kept : Text.fitting maxBytes crowded.toList = List.replicate 125 'n' ++ [' ', '!'] := by
    decide +kernel
  have front : (Text.utf8 (String.ofList (List.replicate 125 'n' ++ [' ', '!']))).length = 127 := by
    decide +kernel
  rw [size] at found
  rw [kept] at taken reduced
  have place : min cut 130 = 127 := by
    rw [← size, ← List.length_take, taken, front]
  obtain rfl : cut = 127 := by omega
  have left : (List.map underscored (List.replicate 125 'n' ++ [' ', '!'])).filter allowed =
      List.replicate 125 'n' ++ ['_'] := by
    decide +kernel
  exact ⟨size, found, left ▸ reduced, again⟩

end Tag

end Quarantine
