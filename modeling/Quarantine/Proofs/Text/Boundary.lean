import Quarantine.Document.Tag
import Quarantine.Proofs.Text.Lossy

/-!
Places between characters in a text that is written as UTF-8. Whoever looks for one no later than some
place finds it within three bytes, and what stands before it is the longest beginning of the text
that fits.
-/

namespace Quarantine.Text

/-- How many bytes characters take in UTF-8. -/
def byteCount : List Char → Nat
  | [] => 0
  | c :: cs => c.utf8Size + byteCount cs

@[simp] theorem byteCount_nil : byteCount [] = 0 :=
  rfl

@[simp] theorem byteCount_cons (c : Char) (cs : List Char) :
    byteCount (c :: cs) = c.utf8Size + byteCount cs :=
  rfl

theorem byteCount_append (front rest : List Char) :
    byteCount (front ++ rest) = byteCount front + byteCount rest := by
  induction front with
  | nil => exact (Nat.zero_add _).symm
  | cons c front ih => rw [List.cons_append, byteCount_cons, ih, byteCount_cons, Nat.add_assoc]

theorem length_encoded (cs : List Char) :
    (cs.flatMap String.utf8EncodeChar).length = byteCount cs := by
  induction cs with
  | nil => rfl
  | cons c cs ih =>
      rw [List.flatMap_cons, List.length_append, String.length_utf8EncodeChar, ih, byteCount_cons]

theorem length_utf8 (s : String) : (utf8 s).length = byteCount s.toList :=
  length_encoded s.toList

section Fitting

variable (limit : Nat) (cs : List Char)

theorem byteCount_fitting : byteCount (fitting limit cs) ≤ limit := by
  induction cs generalizing limit with
  | nil => exact Nat.zero_le limit
  | cons c cs ih =>
      unfold fitting
      split
      · next room =>
          have rest := ih (limit - c.utf8Size)
          rw [byteCount_cons]
          omega
      · exact Nat.zero_le limit

/-- What is cut off is nothing, or begins with a character for which there is no room. -/
theorem fitting_append :
    ∃ rest, cs = fitting limit cs ++ rest ∧
      ∀ c ∈ rest.head?, limit < byteCount (fitting limit cs) + c.utf8Size := by
  induction cs generalizing limit with
  | nil => exact ⟨[], rfl, nofun⟩
  | cons c cs ih =>
      rw [fitting]
      split
      · next room =>
          obtain ⟨rest, whole, full⟩ := ih (limit - c.utf8Size)
          refine ⟨rest, by rw [List.cons_append, ← whole], fun d first => ?_⟩
          have beyond := full d first
          rw [byteCount_cons]
          omega
      · next full => exact ⟨c :: cs, rfl, fun d first => by cases first; simpa using full⟩

theorem fitting_prefix : fitting limit cs <+: cs := by
  obtain ⟨rest, whole, -⟩ := fitting_append limit cs
  exact ⟨rest, whole.symm⟩

variable {limit cs}

theorem fitting_of_byteCount_le (room : byteCount cs ≤ limit) : fitting limit cs = cs := by
  induction cs generalizing limit with
  | nil => rfl
  | cons c cs ih =>
      rw [byteCount_cons] at room
      rw [fitting, if_pos (by omega), ih (by omega)]

/-- No beginning that fits is longer. -/
theorem prefix_fitting {front : List Char} (begins : front <+: cs)
    (room : byteCount front ≤ limit) : front <+: fitting limit cs := by
  induction cs generalizing limit front with
  | nil => rw [List.prefix_nil.mp begins]; exact List.nil_prefix
  | cons c cs ih =>
      cases front with
      | nil => exact List.nil_prefix
      | cons d front =>
          obtain ⟨rfl, later⟩ := List.cons_prefix_cons.mp begins
          rw [byteCount_cons] at room
          rw [fitting, if_pos (by omega), List.cons_prefix_cons]
          exact ⟨rfl, ih later (by omega)⟩

/-- Room beyond what fits makes no difference. -/
theorem fitting_byteCount_fitting : fitting (byteCount (fitting limit cs)) cs = fitting limit cs := by
  have begins := fitting_prefix limit cs
  have begins_shorter := fitting_prefix (byteCount (fitting limit cs)) cs
  have longer := prefix_fitting begins (Nat.le_refl _)
  have shorter := prefix_fitting begins_shorter
    (Nat.le_trans (byteCount_fitting _ cs) (byteCount_fitting limit cs))
  exact shorter.eq_of_length_le longer.length_le

theorem fitting_min_byteCount : fitting (min (byteCount cs) limit) cs = fitting limit cs := by
  by_cases room : byteCount cs ≤ limit
  · rw [Nat.min_eq_left room, fitting_of_byteCount_le (Nat.le_refl _), fitting_of_byteCount_le room]
  · rw [Nat.min_eq_right (by omega)]

end Fitting

theorem byteCount_filterMap_le {f : Char → Option Char}
    (shrinks : ∀ c d, f c = some d → d.utf8Size ≤ c.utf8Size) (cs : List Char) :
    byteCount (cs.filterMap f) ≤ byteCount cs := by
  induction cs with
  | nil => exact Nat.le_refl 0
  | cons c cs ih =>
      cases reduced : f c with
      | none =>
          rw [List.filterMap_cons_none reduced, byteCount_cons]
          omega
      | some d =>
          have smaller := shrinks c d reduced
          rw [List.filterMap_cons_some reduced, byteCount_cons, byteCount_cons]
          omega

theorem backUp_eq_some {bytes : Bytes} {m n : Nat} (le : m ≤ n) (found : isBoundary bytes m = true)
    (last : ∀ k, m < k → k ≤ n → isBoundary bytes k = false) : backUp bytes n = some m := by
  induction n with
  | zero =>
      obtain rfl := Nat.le_zero.mp le
      rw [backUp, if_pos found]
  | succ n ih =>
      by_cases here : m = n + 1
      · rw [backUp, ← here, if_pos found]
      · have within : m ≤ n := by omega
        rw [backUp, last (n + 1) (by omega) (Nat.le_refl _), if_neg Bool.false_ne_true]
        exact ih within fun k later le => last k later (Nat.le_succ_of_le le)

theorem isTail_lead {n : Nat} (small : n < 256) (lead : n < 128 ∨ 192 ≤ n) :
    isTail (UInt8.ofNat n) = false := by
  simp only [isTail, UInt8.le_iff_toNat_le, toNat_byte small, UInt8.reduceToNat,
    Bool.and_eq_false_iff, decide_eq_false_iff_not]
  omega

/-- Only the first byte of a character can be told from one that continues it. -/
theorem utf8EncodeChar_marked (c : Char) :
    ∃ a others, String.utf8EncodeChar c = a :: others ∧ isTail a = false ∧
      ∀ b ∈ others, isTail b = true := by
  have tails : ∀ (l : List Nat), (∀ k ∈ l, k < 64) →
      ∀ b ∈ l.map fun k => UInt8.ofNat (k + 128), isTail b = true := by
    intro l small b member
    obtain ⟨k, listed, rfl⟩ := List.mem_map.mp member
    exact isTail_byte (small k listed)
  unfold String.utf8EncodeChar
  generalize c.val.toNat = n
  dsimp only
  split
  · next one => exact ⟨_, _, rfl, isTail_lead (by omega) (by omega), nofun⟩
  · split
    · exact ⟨_, _, rfl, isTail_lead (by omega) (by omega), tails [n % 64] (by simp; omega)⟩
    · split
      · exact ⟨_, _, rfl, isTail_lead (by omega) (by omega),
          tails [n / 64 % 64, n % 64] (by simp; omega)⟩
      · exact ⟨_, _, rfl, isTail_lead (by omega) (by omega),
          tails [n / 4096 % 64, n / 64 % 64, n % 64] (by simp; omega)⟩

section Encoded

variable (front : List Char)

theorem isBoundary_end : isBoundary (front.flatMap String.utf8EncodeChar) (byteCount front) = true := by
  rw [isBoundary, length_encoded]
  simp

variable (c : Char) (rest : List Char)

theorem getElem?_encoded (k : Nat) :
    ((front ++ c :: rest).flatMap String.utf8EncodeChar)[byteCount front + k]? =
      (String.utf8EncodeChar c ++ rest.flatMap String.utf8EncodeChar)[k]? := by
  rw [List.flatMap_append, List.flatMap_cons,
    List.getElem?_append_right (by rw [length_encoded]; exact Nat.le_add_right _ _), length_encoded,
    Nat.add_sub_cancel_left]

theorem isBoundary_before :
    isBoundary ((front ++ c :: rest).flatMap String.utf8EncodeChar) (byteCount front) = true := by
  obtain ⟨a, others, written, lead, -⟩ := utf8EncodeChar_marked c
  have first := getElem?_encoded front c rest 0
  rw [written, Nat.add_zero] at first
  simp only [isBoundary, first, List.cons_append, List.getElem?_cons_zero, Option.any_some, lead,
    Bool.not_false, Bool.or_true]

theorem isBoundary_within {k : Nat} (later : byteCount front < k)
    (sooner : k < byteCount front + c.utf8Size) :
    isBoundary ((front ++ c :: rest).flatMap String.utf8EncodeChar) k = false := by
  obtain ⟨a, others, written, -, tails⟩ := utf8EncodeChar_marked c
  have size := String.length_utf8EncodeChar c
  rw [written, List.length_cons] at size
  obtain ⟨j, rfl⟩ : ∃ j, k = byteCount front + (j + 1) := ⟨k - byteCount front - 1, by omega⟩
  have short : j < others.length := by omega
  have there := getElem?_encoded front c rest (j + 1)
  rw [written, List.cons_append, List.getElem?_cons_succ, List.getElem?_append_left short,
    List.getElem?_eq_getElem short] at there
  have inside : byteCount front + (j + 1) < byteCount (front ++ c :: rest) := by
    rw [byteCount_append, byteCount_cons]
    omega
  simp only [isBoundary, there, length_encoded, Option.any_some, tails _ (List.getElem_mem short),
    Bool.not_true, Bool.or_false, Bool.or_eq_false_iff, decide_eq_false_iff_not]
  omega

end Encoded

/-- Going back from a place in a written text takes three steps at most, and leads to the end of the
longest beginning that is not beyond this place. -/
theorem backUp_encoded (cs : List Char) {n : Nat} (inside : n ≤ byteCount cs) :
    backUp (cs.flatMap String.utf8EncodeChar) n = some (byteCount (fitting n cs)) ∧
      n ≤ byteCount (fitting n cs) + 3 ∧
      (cs.flatMap String.utf8EncodeChar).take (byteCount (fitting n cs)) =
        (fitting n cs).flatMap String.utf8EncodeChar := by
  obtain ⟨rest, whole, full⟩ := fitting_append n cs
  have fits := byteCount_fitting n cs
  generalize fitting n cs = front at *
  subst whole
  refine ⟨?_, ?_, ?_⟩
  · cases rest with
    | nil =>
        rw [List.append_nil] at inside ⊢
        exact backUp_eq_some fits (isBoundary_end front) fun k later le => by omega
    | cons c rest =>
        have next := full c rfl
        exact backUp_eq_some fits (isBoundary_before front c rest) fun k later le =>
          isBoundary_within front c rest later (by omega)
  · cases rest with
    | nil =>
        rw [List.append_nil] at inside
        omega
    | cons c rest =>
        have next := full c rfl
        have four := Char.utf8Size_le_four c
        omega
  · rw [List.flatMap_append, ← length_encoded front, List.take_left]

end Quarantine.Text
