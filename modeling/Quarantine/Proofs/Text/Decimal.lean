import Mathlib.Algebra.Group.Nat.Defs
import Quarantine.Json.Token
import Quarantine.Time.Timestamp

/-!
Decimal digits. Both kinds of text that hold numbers read digits as far as they go, so a number that
is written in digits is read back as soon as something else follows it.
-/

namespace Quarantine

namespace Text

/-- Whether a text does not go on with a digit. -/
def Undigited (cs : List Char) : Prop :=
  ∀ c ∈ cs.head?, c.isDigit = false

theorem undigited_cons {c : Char} {cs : List Char} (other : c.isDigit = false) :
    Undigited (c :: cs) := by
  rintro d ⟨⟩
  exact other

theorem takeWhile_digits {digits rest : List Char} (all : ∀ c ∈ digits, c.isDigit = true)
    (stops : Undigited rest) : (digits ++ rest).takeWhile Char.isDigit = digits := by
  rw [List.takeWhile_append_of_pos all]
  cases rest with
  | nil => rw [List.takeWhile_nil, List.append_nil]
  | cons c rest =>
      rw [List.takeWhile_cons, stops c rfl, if_neg Bool.false_ne_true, List.append_nil]

theorem isDigit_toDigits (n : Nat) : ∀ c ∈ Nat.toDigits 10 n, c.isDigit = true :=
  fun _ written => Nat.isDigit_of_mem_toDigits (by decide) (by decide) written

/-- A number is not written with a zero in front, unless it is zero. -/
theorem eq_zero_of_head?_toDigits {n : Nat} (zero : (Nat.toDigits 10 n).head? = some '0') :
    n = 0 := by
  induction n using Nat.strongRecOn with
  | ind n ih =>
      rw [Nat.toDigits_eq_if (by decide)] at zero
      split at zero
      · next small =>
          have of_digit : ∀ d < 10, Nat.digitChar d = '0' → d = 0 := by decide
          exact of_digit n small (Option.some.inj zero)
      · next large =>
          have front : (Nat.toDigits 10 (n / 10)).head? = some '0' := by
            rwa [List.head?_append, List.head?_eq_some_head Nat.toDigits_ne_nil, Option.some_or,
              ← List.head?_eq_some_head] at zero
          have tens := ih (n / 10) (by omega) front
          omega

theorem digit_range {c : Char} (digit : c.isDigit = true) : 48 ≤ c.toNat ∧ c.toNat ≤ 57 :=
  Char.isDigit_iff_toNat.mp digit

theorem ofDigitChars_lt {digits : List Char} (all : ∀ c ∈ digits, c.isDigit = true) :
    Nat.ofDigitChars 10 digits 0 < 10 ^ digits.length := by
  induction digits with
  | nil => exact Nat.one_pos
  | cons c digits ih =>
      have rest := ih fun d later => all d (List.mem_cons_of_mem c later)
      have digit := digit_range (all c List.mem_cons_self)
      have scaled : 10 ^ digits.length * (c.toNat - 48) ≤ 10 ^ digits.length * 9 :=
        Nat.mul_le_mul_left _ (by omega)
      rw [Nat.ofDigitChars_cons, Nat.ofDigitChars_eq_ofDigitChars_zero, List.length_cons,
        Nat.pow_succ, Nat.mul_zero, Nat.zero_add]
      change 10 ^ digits.length * (c.toNat - 48) + _ < _
      omega

theorem isBlank_of_isDigit {c : Char} (digit : c.isDigit = true) : isBlank c = false := by
  have range := digit_range digit
  refine Bool.eq_false_iff.mpr fun blank => ?_
  obtain ⟨r, known, low, high⟩ := inRanges_iff.mp blank
  simp only [blankRanges, List.mem_cons, List.not_mem_nil, or_false] at known
  rcases known with rfl | rfl | rfl | rfl | rfl | rfl | rfl | rfl | rfl | rfl <;> omega

end Text

theorem Json.Token.isDigit_eq : Json.Token.isDigit = Char.isDigit :=
  rfl

theorem Timestamp.isDigit_eq : Timestamp.isDigit = Char.isDigit :=
  rfl

theorem Timestamp.digitsValue_eq (cs : List Char) :
    Timestamp.digitsValue cs = Nat.ofDigitChars 10 cs 0 :=
  Nat.ofDigitChars_eq_foldl.symm

end Quarantine
