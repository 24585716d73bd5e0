import Quarantine.Text.Classes

/-!
Texts without the white space at their ends. What is cut off at one end does not depend on what is
cut off at the other, and cutting again changes nothing. A character that is no white space keeps
all that stands between it and the other end.
-/

namespace Quarantine.Text

theorem trimStart_cons_blank {c : Char} (blank : isBlank c = true) (cs : List Char) :
    trimStart (c :: cs) = trimStart cs := by
  rw [trimStart, List.dropWhile_cons, if_pos blank, trimStart]

theorem trimStart_cons_ink {c : Char} (ink : isBlank c = false) (cs : List Char) :
    trimStart (c :: cs) = c :: cs := by
  rw [trimStart, List.dropWhile_cons, ink, if_neg Bool.false_ne_true]

theorem trimStart_concat {c : Char} (ink : isBlank c = false) (cs : List Char) :
    trimStart (cs ++ [c]) = trimStart cs ++ [c] := by
  induction cs with
  | nil => exact trimStart_cons_ink ink []
  | cons b cs ih =>
      rw [List.cons_append]
      cases kind : isBlank b with
      | true => rw [trimStart_cons_blank kind, trimStart_cons_blank kind, ih]
      | false => rw [trimStart_cons_ink kind, trimStart_cons_ink kind, List.cons_append]

theorem trimStart_append_of_ink {cs : List Char} (ink : trimStart cs ≠ []) (rest : List Char) :
    trimStart (cs ++ rest) = trimStart cs ++ rest := by
  rw [trimStart, List.dropWhile_append, if_neg, trimStart]
  exact fun all_blank => ink (List.isEmpty_iff.mp all_blank)

theorem trimStart_append_of_blank {cs : List Char} (blank : trimStart cs = [])
    (rest : List Char) : trimStart (cs ++ rest) = trimStart rest := by
  rw [trimStart, List.dropWhile_append, if_pos, trimStart]
  exact List.isEmpty_iff.mpr blank

theorem trimEnd_prefix (cs : List Char) : trimEnd cs <+: cs := by
  have kept := List.reverse_prefix.mpr (List.dropWhile_suffix isBlank (l := cs.reverse))
  rwa [List.reverse_reverse] at kept

/-- Cutting off the end, character by character from the front. -/
theorem trimEnd_cons (c : Char) (cs : List Char) :
    trimEnd (c :: cs) = if trimEnd cs = [] ∧ isBlank c = true then [] else c :: trimEnd cs := by
  simp only [trimEnd, List.reverse_cons, List.dropWhile_append, List.reverse_eq_nil_iff,
    List.isEmpty_iff]
  cases later : cs.reverse.dropWhile isBlank with
  | nil => cases kind : isBlank c <;> simp [kind]
  | cons b bs => simp

theorem trimEnd_cons_ink {c : Char} (ink : isBlank c = false) (cs : List Char) :
    trimEnd (c :: cs) = c :: trimEnd cs := by
  rw [trimEnd_cons, ink]
  exact if_neg fun both => Bool.false_ne_true both.2

theorem trimEnd_append_cons {c : Char} (ink : isBlank c = false) (front back : List Char) :
    trimEnd (front ++ c :: back) = front ++ c :: trimEnd back := by
  induction front with
  | nil => exact trimEnd_cons_ink ink back
  | cons b front ih =>
      rw [List.cons_append, trimEnd_cons, ih, if_neg fun both => by simp at both, List.cons_append]

theorem trimStart_trimEnd (cs : List Char) : trimStart (trimEnd cs) = trimEnd (trimStart cs) := by
  induction cs with
  | nil => rfl
  | cons c cs ih =>
      cases kind : isBlank c with
      | true =>
          rw [trimStart_cons_blank kind, ← ih, trimEnd_cons]
          split
          · next both => rw [both.1]
          · exact trimStart_cons_blank kind _
      | false =>
          rw [trimStart_cons_ink kind, trimEnd_cons_ink kind, trimStart_cons_ink kind]

theorem trimStart_trimStart (cs : List Char) : trimStart (trimStart cs) = trimStart cs := by
  induction cs with
  | nil => rfl
  | cons c cs ih =>
      cases kind : isBlank c with
      | true => rw [trimStart_cons_blank kind, ih]
      | false => rw [trimStart_cons_ink kind, trimStart_cons_ink kind]

theorem trimEnd_trimEnd (cs : List Char) : trimEnd (trimEnd cs) = trimEnd cs := by
  induction cs with
  | nil => rfl
  | cons c cs ih =>
      rw [trimEnd_cons]
      split
      · rfl
      · next some_left => rw [trimEnd_cons, ih, if_neg some_left]

theorem trim_trim (cs : List Char) : trim (trim cs) = trim cs := by
  rw [trim, trim, trimStart_trimEnd, trimStart_trimStart, trimEnd_trimEnd]

theorem trim_trimEnd (cs : List Char) : trim (trimEnd cs) = trim cs := by
  rw [trim, trimStart_trimEnd, trimEnd_trimEnd, trim]

theorem trim_concat {c : Char} (ink : isBlank c = false) (cs : List Char) :
    trim (cs ++ [c]) = trimStart cs ++ [c] := by
  rw [trim, trimStart_concat ink, trimEnd_append_cons ink]
  rfl

theorem trim_cons_blank {c : Char} (blank : isBlank c = true) (cs : List Char) :
    trim (c :: cs) = trim cs := by
  rw [trim, trimStart_cons_blank blank, trim]

theorem trim_concat_blank {c : Char} (blank : isBlank c = true) (cs : List Char) :
    trim (cs ++ [c]) = trim cs := by
  have shorter : trimEnd (cs ++ [c]) = trimEnd cs := by
    simp only [trimEnd, List.reverse_append, List.reverse_singleton, List.singleton_append,
      List.dropWhile_cons, blank, if_true]
  rw [← trim_trimEnd, shorter, trim_trimEnd]

section Bare

variable {cs : List Char} (bare : trim cs = cs)
include bare

theorem trimStart_of_bare : trimStart cs = cs :=
  calc trimStart cs
      _ = trimStart (trimEnd (trimStart cs)) := by rw [← trim, bare]
      _ = trim cs := by rw [trimStart_trimEnd, trimStart_trimStart, trim]
      _ = cs := bare

/-- A text without white space at its ends begins with another character. -/
theorem eq_cons_of_bare (some_text : cs ≠ []) : ∃ c rest, cs = c :: rest ∧ isBlank c = false := by
  have start := trimStart_of_bare bare
  cases cs with
  | nil => exact absurd rfl some_text
  | cons c rest =>
      cases kind : isBlank c with
      | false => exact ⟨c, rest, rfl, kind⟩
      | true =>
          rw [trimStart_cons_blank kind] at start
          have shorter := (List.dropWhile_suffix isBlank (l := rest)).length_le
          rw [show rest.dropWhile isBlank = c :: rest from start, List.length_cons] at shorter
          omega

theorem trimStart_append_of_bare (some_text : cs ≠ []) (rest : List Char) :
    trimStart (cs ++ rest) = cs ++ rest := by
  obtain ⟨c, later, text, ink⟩ := eq_cons_of_bare bare some_text
  rw [text, List.cons_append, trimStart_cons_ink ink]

end Bare

end Quarantine.Text
