import Quarantine.Proofs.Text.Written
import Quarantine.Text.Utf8

/-!
Reading back what was written as UTF-8. Each character that was written is read, whatever bytes
follow it; a character that is cut off is read as one replacement. Only the character zero is
written with a zero byte. What is read of bytes that no text was written as is not covered.
-/

namespace Quarantine.Text

theorem isTail_byte {n : Nat} (small : n < 64) : isTail (UInt8.ofNat (n + 128)) = true := by
  simp only [isTail, Bool.and_eq_true, decide_eq_true_eq, UInt8.le_iff_toNat_le,
    toNat_byte (show n + 128 < 256 by omega), UInt8.reduceToNat]
  omega

theorem tailBits_byte {n : Nat} (small : n < 64) : tailBits (UInt8.ofNat (n + 128)) = n := by
  rw [tailBits, toNat_byte (by omega)]
  omega

theorem firstChar_one {n : Nat} (small : n ≤ 127) (rest : Bytes) :
    firstChar (UInt8.ofNat n) rest = (Char.ofNat n, 0) := by
  have value := toNat_byte (show n < 256 by omega)
  have one : UInt8.ofNat n < 0x80 := by
    rw [UInt8.lt_iff_toNat_lt, value]
    exact Nat.lt_succ_of_le small
  simp only [firstChar, if_pos one, value]

theorem isSecond_three {n : Nat} (large : 2047 < n) (small : n ≤ 65535)
    (scalar : n < 0xD800 ∨ 0xDFFF < n) :
    isSecond (UInt8.ofNat (n / 4096 % 16 + 224)) (UInt8.ofNat (n / 64 % 64 + 128)) = true := by
  have first := toNat_byte (show n / 4096 % 16 + 224 < 256 by omega)
  have second := toNat_byte (show n / 64 % 64 + 128 < 256 by omega)
  simp only [isSecond, isTail, ← UInt8.toNat_inj, first, second, UInt8.reduceToNat,
    UInt8.le_iff_toNat_le]
  grind

theorem isSecond_four {n : Nat} (large : 65535 < n) (small : n < 0x110000) :
    isSecond (UInt8.ofNat (n / 262144 % 8 + 240)) (UInt8.ofNat (n / 4096 % 64 + 128)) = true := by
  have first := toNat_byte (show n / 262144 % 8 + 240 < 256 by omega)
  have second := toNat_byte (show n / 4096 % 64 + 128 < 256 by omega)
  simp only [isSecond, isTail, ← UInt8.toNat_inj, first, second, UInt8.reduceToNat,
    UInt8.le_iff_toNat_le]
  grind

section Leads

variable {n : Nat} (rest : Bytes)

/-- A first byte of two, with the byte that it needs and without. -/
theorem firstChar_two (large : 127 < n) (small : n ≤ 2047) :
    firstChar (UInt8.ofNat (n / 64 % 32 + 192)) (UInt8.ofNat (n % 64 + 128) :: rest) =
        (Char.ofNat n, 1) ∧
      firstChar (UInt8.ofNat (n / 64 % 32 + 192)) [] = (replacement, 0) := by
  have first := toNat_byte (show n / 64 % 32 + 192 < 256 by omega)
  have second : n % 64 < 64 := by omega
  have whole : (n / 64 % 32 + 192) % 32 * 64 + n % 64 = n := by omega
  simp only [firstChar, UInt8.lt_iff_toNat_lt, UInt8.le_iff_toNat_le, first, UInt8.reduceToNat,
    Bool.and_eq_true, decide_eq_true_eq, isTail_byte second, tailBits_byte second, whole, if_true]
  rw [if_neg (by omega), if_pos (by omega), if_neg (by omega), if_pos (by omega)]
  exact ⟨rfl, rfl⟩

theorem firstChar_three (large : 2047 < n) (small : n ≤ 65535) (scalar : n < 0xD800 ∨ 0xDFFF < n) :
    firstChar (UInt8.ofNat (n / 4096 % 16 + 224))
        (UInt8.ofNat (n / 64 % 64 + 128) :: UInt8.ofNat (n % 64 + 128) :: rest) =
          (Char.ofNat n, 2) ∧
      firstChar (UInt8.ofNat (n / 4096 % 16 + 224)) [] = (replacement, 0) ∧
      firstChar (UInt8.ofNat (n / 4096 % 16 + 224)) [UInt8.ofNat (n / 64 % 64 + 128)] =
        (replacement, 1) := by
  have first := toNat_byte (show n / 4096 % 16 + 224 < 256 by omega)
  have second : n / 64 % 64 < 64 := by omega
  have third : n % 64 < 64 := by omega
  have whole : (n / 4096 % 16 + 224) % 16 * 4096 + n / 64 % 64 * 64 + n % 64 = n := by omega
  simp only [firstChar, UInt8.lt_iff_toNat_lt, UInt8.le_iff_toNat_le, first, UInt8.reduceToNat,
    Bool.and_eq_true, decide_eq_true_eq, isSecond_three large small scalar, isTail_byte third,
    tailBits_byte second, tailBits_byte third, whole, if_true]
  refine ⟨?_, ?_, ?_⟩ <;> rw [if_neg (by omega), if_neg (by omega), if_pos (by omega)]

theorem firstChar_four (large : 65535 < n) (small : n < 0x110000) :
    firstChar (UInt8.ofNat (n / 262144 % 8 + 240))
        (UInt8.ofNat (n / 4096 % 64 + 128) :: UInt8.ofNat (n / 64 % 64 + 128) ::
          UInt8.ofNat (n % 64 + 128) :: rest) = (Char.ofNat n, 3) ∧
      firstChar (UInt8.ofNat (n / 262144 % 8 + 240)) [] = (replacement, 0) ∧
      firstChar (UInt8.ofNat (n / 262144 % 8 + 240)) [UInt8.ofNat (n / 4096 % 64 + 128)] =
        (replacement, 1) ∧
      firstChar (UInt8.ofNat (n / 262144 % 8 + 240))
        [UInt8.ofNat (n / 4096 % 64 + 128), UInt8.ofNat (n / 64 % 64 + 128)] =
        (replacement, 2) := by
  have first := toNat_byte (show n / 262144 % 8 + 240 < 256 by omega)
  have second : n / 4096 % 64 < 64 := by omega
  have third : n / 64 % 64 < 64 := by omega
  have fourth : n % 64 < 64 := by omega
  have whole : (n / 262144 % 8 + 240) % 8 * 262144 + n / 4096 % 64 * 4096 + n / 64 % 64 * 64 +
      n % 64 = n := by omega
  simp only [firstChar, UInt8.lt_iff_toNat_lt, UInt8.le_iff_toNat_le, first, UInt8.reduceToNat,
    Bool.and_eq_true, decide_eq_true_eq, isSecond_four large small, isTail_byte third,
    isTail_byte fourth, tailBits_byte second, tailBits_byte third, tailBits_byte fourth, whole,
    if_true]
  refine ⟨?_, ?_, ?_, ?_⟩ <;>
    rw [if_neg (by omega), if_neg (by omega), if_neg (by omega), if_pos (by omega)]

end Leads

/-- What a character is written as: a first byte, and bytes that belong to it. A beginning of them
that lacks some is one malformed stretch. -/
theorem utf8EncodeChar_parts (c : Char) :
    ∃ a others, String.utf8EncodeChar c = a :: others ∧
      (∀ rest, firstChar a (others ++ rest) = (c, others.length)) ∧
      ∀ k < others.length, firstChar a (others.take k) = (replacement, k) := by
  have whole : Char.ofNat c.val.toNat = c := Char.ofNat_toNat c
  have valid : c.val.toNat < 0xD800 ∨ 0xDFFF < c.val.toNat ∧ c.val.toNat < 0x110000 := c.valid
  unfold String.utf8EncodeChar
  generalize c.val.toNat = n at whole valid
  subst whole
  dsimp only
  split
  · next small => exact ⟨_, _, rfl, fun rest => firstChar_one small rest, by simp⟩
  · next large =>
    split
    · next small =>
      have lead := fun rest => firstChar_two rest (Nat.lt_of_not_le large) small
      refine ⟨_, _, rfl, fun rest => (lead rest).1, fun k short => ?_⟩
      match k with
      | 0 => exact (lead []).2
    · next large =>
      split
      · next small =>
        have lead := fun rest => firstChar_three rest (Nat.lt_of_not_le large) small (by omega)
        refine ⟨_, _, rfl, fun rest => (lead rest).1, fun k short => ?_⟩
        match k with
        | 0 => exact (lead []).2.1
        | 1 => exact (lead []).2.2
      · next large =>
        have lead := fun rest => firstChar_four rest (Nat.lt_of_not_le large) (by omega)
        refine ⟨_, _, rfl, fun rest => (lead rest).1, fun k short => ?_⟩
        match k with
        | 0 => exact (lead []).2.1
        | 1 => exact (lead []).2.2.1
        | 2 => exact (lead []).2.2.2

theorem ofUtf8Lossy_cons (a : UInt8) (rest : Bytes) :
    ofUtf8Lossy (a :: rest) =
      (firstChar a rest).1 :: ofUtf8Lossy (rest.drop (firstChar a rest).2) := by
  rw [ofUtf8Lossy]

/-- A character that was written is read, whatever follows it. -/
theorem ofUtf8Lossy_utf8EncodeChar (c : Char) (rest : Bytes) :
    ofUtf8Lossy (String.utf8EncodeChar c ++ rest) = c :: ofUtf8Lossy rest := by
  obtain ⟨a, others, written, read, -⟩ := utf8EncodeChar_parts c
  rw [written, List.cons_append, ofUtf8Lossy_cons, read, List.drop_left]

theorem ofUtf8Lossy_written (cs : List Char) (rest : Bytes) :
    ofUtf8Lossy (cs.flatMap String.utf8EncodeChar ++ rest) = cs ++ ofUtf8Lossy rest := by
  induction cs with
  | nil => rfl
  | cons c cs ih =>
      rw [List.flatMap_cons, List.append_assoc, ofUtf8Lossy_utf8EncodeChar, ih, List.cons_append]

theorem ofUtf8Lossy_utf8 (s : String) : ofUtf8Lossy (utf8 s) = s.toList := by
  rw [utf8, ← List.append_nil (s.toList.flatMap _), ofUtf8Lossy_written, ofUtf8Lossy,
    List.append_nil]

/-- Of written text that is cut off, the characters before the cut are read, and a replacement for
one that the cut goes through. -/
theorem ofUtf8Lossy_cut (cs : List Char) {bytes : Bytes}
    (cut : bytes <+: cs.flatMap String.utf8EncodeChar) :
    ∃ front, front <+: cs ∧ (bytes = front.flatMap String.utf8EncodeChar ∨
      ofUtf8Lossy bytes = front ++ [replacement]) := by
  induction cs generalizing bytes with
  | nil => exact ⟨[], List.nil_prefix, .inl (List.prefix_nil.mp cut)⟩
  | cons c cs ih =>
      rw [List.flatMap_cons] at cut
      cases List.prefix_or_prefix_of_prefix cut (List.prefix_append _ _) with
      | inl within =>
          obtain ⟨a, others, written, read, part⟩ := utf8EncodeChar_parts c
          cases bytes with
          | nil => exact ⟨[], List.nil_prefix, .inl rfl⟩
          | cons b bytes =>
              rw [written, List.cons_prefix_cons] at within
              obtain ⟨rfl, within⟩ := within
              by_cases short : bytes.length < others.length
              · refine ⟨[], List.nil_prefix, .inr ?_⟩
                have taken := part _ short
                rw [← List.prefix_iff_eq_take.mp within] at taken
                rw [ofUtf8Lossy_cons, taken, List.drop_length, ofUtf8Lossy, List.nil_append]
              · have all := within.eq_of_length_le (Nat.le_of_not_lt short)
                refine ⟨[c], List.prefix_append [c] cs, .inl ?_⟩
                rw [all, List.flatMap_singleton, written]
      | inr beyond =>
          obtain ⟨bytes, rfl⟩ := beyond
          obtain ⟨front, shorter, read⟩ := ih ((List.prefix_append_right_inj _).mp cut)
          refine ⟨c :: front, List.cons_prefix_cons.mpr ⟨rfl, shorter⟩, ?_⟩
          cases read with
          | inl whole => exact .inl (by rw [whole, List.flatMap_cons])
          | inr broken => exact .inr (by rw [ofUtf8Lossy_utf8EncodeChar, broken, List.cons_append])

theorem zero_ne_byte {n : Nat} (pos : 0 < n) (small : n < 256) : 0 ≠ UInt8.ofNat n := by
  intro same
  have value := toNat_byte small
  rw [← same, UInt8.toNat_zero] at value
  omega

/-- Only the character zero is written with a zero byte. -/
theorem eq_zero_of_mem_utf8EncodeChar {c : Char} (zero : 0 ∈ String.utf8EncodeChar c) :
    c = '\x00' := by
  have whole : Char.ofNat c.val.toNat = c := Char.ofNat_toNat c
  unfold String.utf8EncodeChar at zero
  generalize c.val.toNat = n at whole zero
  dsimp only at zero
  split at zero
  · cases n with
    | zero => exact whole.symm
    | succ n => exact absurd (List.mem_singleton.mp zero) (zero_ne_byte (by omega) (by omega))
  · repeat' split at zero
    all_goals
      simp (disch := omega) only [List.mem_cons, List.not_mem_nil, zero_ne_byte, or_false] at zero

theorem zero_not_mem_utf8 {s : String} (zero_free : '\x00' ∉ s.toList) : 0 ∉ utf8 s := by
  intro zero
  obtain ⟨c, member, zero⟩ := List.mem_flatMap.mp zero
  exact zero_free (eq_zero_of_mem_utf8EncodeChar zero ▸ member)

end Quarantine.Text
