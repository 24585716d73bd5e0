import Quarantine.Json.Reader
import Quarantine.Proofs.Text.Decimal

/-!
The tokens of a written value. Numbers come back as they were written if they fit into 64 bits, and
strings whatever characters they hold. White space between tokens is not written and not covered.
-/

namespace Quarantine.Json

mutual

def tokens : Json → List Token
  | .null => [.null]
  | .bool b => [.bool b]
  | .int n => [.int n]
  | .text s => [.text s true]
  | .list [] => [.beginList, .endList]
  | .list (first :: rest) => .beginList :: first.tokens ++ itemTokens rest
  | .object [] => [.beginObject, .endObject]
  | .object ((key, first) :: rest) =>
    .beginObject :: .text key true :: .colon :: first.tokens ++ fieldTokens rest

def itemTokens : List Json → List Token
  | [] => [.endList]
  | item :: rest => .comma :: item.tokens ++ itemTokens rest

def fieldTokens : List (String × Json) → List Token
  | [] => [.endObject]
  | (key, value) :: rest =>
    .comma :: .text key true :: .colon :: value.tokens ++ fieldTokens rest

end

mutual

/-- All numbers fit into 64 bits, their signs apart. -/
def Fits : Json → Prop
  | .null | .bool _ | .text _ => True
  | .int n => n.natAbs < 18446744073709551616
  | .list items => ItemsFit items
  | .object fields => FieldsFit fields

def ItemsFit : List Json → Prop
  | [] => True
  | item :: rest => item.Fits ∧ ItemsFit rest

def FieldsFit : List (String × Json) → Prop
  | [] => True
  | (_, value) :: rest => value.Fits ∧ FieldsFit rest

end

namespace Token

/-- The characters have these tokens, with any fuel that suffices. -/
def Lexes (cs : List Char) (ts : List Token) : Prop :=
  ∀ fuel, cs.length < fuel → lexFrom fuel cs = ts

theorem Lexes.nil : Lexes [] [] := by
  intro fuel enough
  obtain ⟨fuel, rfl⟩ := Nat.exists_eq_succ_of_ne_zero (Nat.ne_zero_of_lt enough)
  rfl

theorem Lexes.cons {c : Char} {cs rest : List Char} {token : Token} {ts : List Token}
    (ink : isSpace c = false) (first : next c cs = some (token, rest))
    (shorter : rest.length ≤ cs.length) (later : Lexes rest ts) : Lexes (c :: cs) (token :: ts) := by
  intro fuel enough
  obtain ⟨fuel, rfl⟩ := Nat.exists_eq_succ_of_ne_zero (Nat.ne_zero_of_lt enough)
  rw [List.length_cons] at enough
  rw [lexFrom, List.dropWhile_cons, ink, if_neg Bool.false_ne_true]
  simp only [first]
  rw [later fuel (by omega)]

section Strings

/-- A control is escaped by the two digits of its number. -/
theorem escape_control {c : Char} (control : c.toNat < 32) (rest : List Char) :
    escape ('u' :: '0' :: '0' :: escapeDigit (c.toNat / 16) :: escapeDigit (c.toNat % 16) :: rest) =
      some (some c, rest) := by
  have units : ∀ n < 32, codeUnit ('0' :: '0' :: escapeDigit (n / 16) :: escapeDigit (n % 16) :: rest) =
      some (n, rest) := by
    intro n small
    have high : ∀ n < 32, Text.hexValue (escapeDigit (n / 16)) = some (n / 16) := by decide
    have low : ∀ n < 32, Text.hexValue (escapeDigit (n % 16)) = some (n % 16) := by decide
    have zero : Text.hexValue '0' = some 0 := by decide
    simp only [codeUnit, zero, high n small, low n small, Option.some.injEq, Prod.mk.injEq, and_true]
    omega
  have not_high : isHighSurrogate c.toNat = false := by simp [isHighSurrogate]; omega
  have not_low : isLowSurrogate c.toNat = false := by simp [isLowSurrogate]; omega
  simp only [escape, units c.toNat control, not_high, not_low, Bool.false_eq_true, if_false,
    Char.ofNat_toNat]

theorem string_charChars (fuel : Nat) (back : List Char) (c : Char) (rest : List Char) :
    string (fuel + 1) back true (charChars c ++ rest) = string fuel (c :: back) true rest := by
  unfold charChars
  split
  · next quote => subst quote; rfl
  split
  · next slash => subst slash; rfl
  split
  · next line => subst line; rfl
  split
  · next turn => subst turn; rfl
  split
  · next tab => subst tab; rfl
  split
  · next back => subst back; rfl
  split
  · next feed => subst feed; rfl
  split
  · next control =>
      simp only [List.cons_append, List.nil_append, string, escape_control control]
      rfl
  · next quote slash _ _ _ _ _ visible =>
      simp only [List.cons_append, List.nil_append, string, if_neg quote, if_neg slash,
        if_neg visible]

theorem string_written (cs rest : List Char) (fuel : Nat) (back : List Char)
    (enough : cs.length < fuel) :
    string fuel back true (cs.flatMap charChars ++ '"' :: rest) =
      some (.text (String.ofList (back.reverse ++ cs)) true, rest) := by
  induction cs generalizing fuel back with
  | nil =>
      obtain ⟨fuel, rfl⟩ := Nat.exists_eq_succ_of_ne_zero (Nat.ne_zero_of_lt enough)
      simp [string]
  | cons c cs ih =>
      obtain ⟨fuel, rfl⟩ := Nat.exists_eq_succ_of_ne_zero (Nat.ne_zero_of_lt enough)
      rw [List.flatMap_cons, List.append_assoc, string_charChars,
        ih fuel (c :: back) (by simpa using enough), List.reverse_cons, List.append_assoc,
        List.singleton_append]

theorem length_le_flatMap_charChars (cs : List Char) :
    cs.length ≤ (cs.flatMap charChars).length := by
  induction cs with
  | nil => exact Nat.le_refl 0
  | cons c cs ih =>
      have some_char : 1 ≤ (charChars c).length := by
        unfold charChars
        repeat' split
        all_goals simp
      rw [List.flatMap_cons, List.length_append, List.length_cons]
      omega

theorem lexes_string (s : String) {rest : List Char} {ts : List Token} (later : Lexes rest ts) :
    Lexes (stringChars s ++ rest) (.text s true :: ts) := by
  have chars : stringChars s ++ rest = '"' :: (s.toList.flatMap charChars ++ '"' :: rest) := by
    simp [stringChars]
  have long := length_le_flatMap_charChars s.toList
  rw [chars]
  have room : (s.toList.flatMap charChars ++ '"' :: rest).length =
      (s.toList.flatMap charChars).length + (rest.length + 1) := List.length_append
  refine .cons rfl ?_ (by omega) later
  have written := string_written s.toList rest
    ((s.toList.flatMap charChars ++ '"' :: rest).length + 1) [] (by omega)
  rwa [List.reverse_nil, List.nil_append, String.ofList_toList] at written

end Strings

section Numbers

/-- Whether a text goes on with nothing that belongs to a number. -/
def Unnumbered (cs : List Char) : Prop :=
  ∀ c ∈ cs.head?, c.isDigit = false ∧ c ≠ '.' ∧ c ≠ 'e' ∧ c ≠ 'E'

theorem Unnumbered.undigited {cs : List Char} (ends : Unnumbered cs) : Text.Undigited cs :=
  fun c first => (ends c first).1

theorem fraction_of_unnumbered {rest : List Char} (ends : Unnumbered rest) :
    fraction rest = some (none, rest) := by
  unfold fraction
  split
  · exact absurd rfl (ends '.' rfl).2.1
  · rfl

theorem exponent_of_unnumbered {rest : List Char} (ends : Unnumbered rest) :
    exponent rest = some (none, rest) := by
  cases rest with
  | nil => rfl
  | cons c rest =>
      obtain ⟨-, -, lower, upper⟩ := ends c rfl
      exact if_neg (not_or.mpr ⟨lower, upper⟩)

/-- Digits count as long as the number fits into 64 bits. -/
theorem append_digits {digits : List Char} {n : Nat}
    (small : Nat.ofDigitChars 10 digits n < 18446744073709551616) :
    Magnitude.append n digits = (Nat.ofDigitChars 10 digits n, 0) := by
  induction digits generalizing n with
  | nil => rfl
  | cons c digits ih =>
      rw [Nat.ofDigitChars_cons] at small ⊢
      have grows : 10 * n + (c.toNat - 48) ≤
          Nat.ofDigitChars 10 digits (10 * n + (c.toNat - '0'.toNat)) := by
        rw [Nat.ofDigitChars_eq_ofDigitChars_zero]
        exact Nat.le_trans (Nat.le_mul_of_pos_left _ (Nat.pow_pos (by decide))) (Nat.le_add_right _ _)
      exact (if_pos (Nat.lt_of_le_of_lt grows small)).trans (ih small)

theorem number_written (negative : Bool) {n : Nat} {rest : List Char}
    (small : n < 18446744073709551616) (signed : negative = true → n ≠ 0)
    (ends : Unnumbered rest) :
    number negative (Nat.toDigits 10 n ++ rest) =
      some (.int (if negative then -(n : Int) else n), rest) := by
  have whole : (Nat.toDigits 10 n ++ rest).takeWhile isDigit = Nat.toDigits 10 n :=
    Text.takeWhile_digits (Text.isDigit_toDigits n) ends.undigited
  have no_zero : ((Nat.toDigits 10 n).head? = some '0' && 1 < (Nat.toDigits 10 n).length) =
      false := by
    rw [Bool.and_eq_false_iff]
    by_cases zero : (Nat.toDigits 10 n).head? = some '0'
    · rw [Text.eq_zero_of_head?_toDigits zero]
      exact .inr rfl
    · exact .inl (by simpa using zero)
  have value : Magnitude.append 0 (Nat.toDigits 10 n) = (n, 0) := by
    rw [append_digits] <;> rw [Nat.ofDigitChars_ten_toDigits]
    exact small
  have no_negative_zero : (negative && decide (n = 0)) = false := by
    cases negative with
    | false => rfl
    | true => simpa using signed rfl
  simp only [number, whole, no_zero, List.isEmpty_eq_false_iff.mpr Nat.toDigits_ne_nil,
    Bool.or_false, Bool.false_eq_true, if_false, List.drop_left, fraction_of_unnumbered ends,
    exponent_of_unnumbered ends, value, no_negative_zero]
  rfl

theorem next_digit {c : Char} (digit : c.isDigit = true) (rest : List Char) :
    next c rest = number false (c :: rest) := by
  unfold next
  split
  all_goals first | exact absurd digit (by decide) | exact if_pos digit

theorem lexes_int {n : Int} (small : n.natAbs < 18446744073709551616) {rest : List Char}
    {ts : List Token} (ends : Unnumbered rest) (later : Lexes rest ts) :
    Lexes (intChars n ++ rest) (.int n :: ts) := by
  unfold intChars
  split
  · next negative =>
      refine .cons rfl ?_ (by simp) later
      have written := number_written true small (fun _ => by omega) ends
      rwa [if_pos rfl, show -(n.natAbs : Int) = n by omega] at written
  · next positive =>
      have written := number_written false small nofun ends
      rw [if_neg Bool.false_ne_true, show (n.natAbs : Int) = n by omega] at written
      have digits := Text.isDigit_toDigits n.natAbs
      cases chars : Nat.toDigits 10 n.natAbs with
      | nil => exact absurd chars Nat.toDigits_ne_nil
      | cons c cs =>
          rw [chars] at written digits
          have digit := digits c List.mem_cons_self
          refine .cons ?_ ((next_digit digit _).trans written) (by simp) later
          cases space : isSpace c with
          | false => rfl
          | true =>
              simp only [isSpace, Bool.or_eq_true, decide_eq_true_eq] at space
              rcases space with ((rfl | rfl) | rfl) | rfl <;> exact absurd digit (by decide)

end Numbers

end Token

section Values

open Token

theorem unnumbered_itemChars (items : List Json) (rest : List Char) :
    Unnumbered (itemChars items ++ rest) := by
  cases items <;> rintro c ⟨⟩ <;> decide

theorem unnumbered_fieldChars (fields : List (String × Json)) (rest : List Char) :
    Unnumbered (fieldChars fields ++ rest) := by
  cases fields <;> rintro c ⟨⟩ <;> decide

theorem lexes_mark {c : Char} {token : Token} {rest : List Char} {ts : List Token}
    (ink : isSpace c = false) (mark : next c rest = some (token, rest)) (later : Lexes rest ts) :
    Lexes (c :: rest) (token :: ts) :=
  .cons ink mark (Nat.le_refl _) later

theorem lexes_key (key : String) {rest : List Char} {ts : List Token} (later : Lexes rest ts) :
    Lexes (stringChars key ++ ':' :: rest) (.text key true :: .colon :: ts) :=
  lexes_string key (lexes_mark rfl rfl later)

mutual

theorem lexes_chars (j : Json) (fits : j.Fits) {rest : List Char} {ts : List Token}
    (ends : Unnumbered rest) (later : Lexes rest ts) : Lexes (j.chars ++ rest) (j.tokens ++ ts) := by
  match j with
  | .null => exact .cons rfl rfl (by simp; omega) later
  | .bool true => exact .cons rfl rfl (by simp; omega) later
  | .bool false => exact .cons rfl rfl (by simp; omega) later
  | .int n => exact lexes_int fits ends later
  | .text s => exact lexes_string s later
  | .list [] => exact lexes_mark rfl rfl (lexes_mark rfl rfl later)
  | .list (first :: items) =>
      simp only [chars, tokens, List.append_assoc, List.cons_append]
      exact lexes_mark rfl rfl (lexes_chars first fits.1 (unnumbered_itemChars _ _)
        (lexes_itemChars items fits.2 later))
  | .object [] => exact lexes_mark rfl rfl (lexes_mark rfl rfl later)
  | .object ((key, first) :: fields) =>
      simp only [chars, tokens, List.append_assoc, List.cons_append]
      exact lexes_mark rfl rfl (lexes_key key (lexes_chars first fits.1 (unnumbered_fieldChars _ _)
        (lexes_fieldChars fields fits.2 later)))

theorem lexes_itemChars (items : List Json) (fit : ItemsFit items) {rest : List Char}
    {ts : List Token} (later : Lexes rest ts) :
    Lexes (itemChars items ++ rest) (itemTokens items ++ ts) := by
  match items with
  | [] => exact lexes_mark rfl rfl later
  | item :: items =>
      simp only [itemChars, itemTokens, List.append_assoc, List.cons_append]
      exact lexes_mark rfl rfl (lexes_chars item fit.1 (unnumbered_itemChars _ _)
        (lexes_itemChars items fit.2 later))

theorem lexes_fieldChars (fields : List (String × Json)) (fit : FieldsFit fields)
    {rest : List Char} {ts : List Token} (later : Lexes rest ts) :
    Lexes (fieldChars fields ++ rest) (fieldTokens fields ++ ts) := by
  match fields with
  | [] => exact lexes_mark rfl rfl later
  | (key, value) :: fields =>
      simp only [fieldChars, fieldTokens, List.append_assoc, List.cons_append]
      exact lexes_mark rfl rfl (lexes_key key (lexes_chars value fit.1 (unnumbered_fieldChars _ _)
        (lexes_fieldChars fields fit.2 later)))

end

theorem lex_render {j : Json} (fits : j.Fits) : Token.lex j.render = j.tokens := by
  have lexes : Lexes (j.chars ++ []) (j.tokens ++ []) := lexes_chars j fits nofun .nil
  rw [List.append_nil, List.append_nil] at lexes
  rw [lex, render, String.toList_ofList]
  exact lexes _ (Nat.lt_succ_self _)

end Values

end Quarantine.Json
