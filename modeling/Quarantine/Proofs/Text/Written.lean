import Quarantine.Text.Written

/-!
Bytes that are written as text and read back: hexadecimal digits and URL-safe base64. What is read
back is what was written, so different bytes are written differently. Of base64 nothing else is
read, so that bytes have one written form.
-/

namespace Quarantine.Text

theorem toNat_byte {n : Nat} (small : n < 256) : (UInt8.ofNat n).toNat = n := by
  rw [UInt8.toNat_ofNat', Nat.mod_eq_of_lt small]

theorem hexValue_hexDigit : ∀ n < 16, hexValue (hexDigit n) = some n := by
  decide

theorem ofHex_hexChars (bytes : Bytes) : ofHex (hexChars bytes) = some bytes := by
  induction bytes with
  | nil => rfl
  | cons b bytes ih =>
      have bound := b.toNat_lt
      have high := hexValue_hexDigit (b.toNat / 16) (by omega)
      have low := hexValue_hexDigit (b.toNat % 16) (by omega)
      have whole : 16 * (b.toNat / 16) + b.toNat % 16 = b.toNat := by omega
      have cut : hexChars (b :: bytes) =
          hexDigit (b.toNat / 16) :: hexDigit (b.toNat % 16) :: hexChars bytes := rfl
      rw [cut]
      simp only [ofHex, high, low, ih, whole, UInt8.ofNat_toNat]

theorem hex_injective {a b : Bytes} (same : hex a = hex b) : a = b := by
  have chars : hexChars a = hexChars b := String.ofList_injective same
  have read := ofHex_hexChars a
  rw [chars, ofHex_hexChars] at read
  exact (Option.some.inj read).symm

theorem length_hexChars (bytes : Bytes) : (hexChars bytes).length = 2 * bytes.length := by
  induction bytes with
  | nil => rfl
  | cons b bytes ih =>
      have cut : (hexChars (b :: bytes)).length = (hexChars bytes).length + 2 := rfl
      rw [cut, ih, List.length_cons]
      omega

theorem hexValue_of_mem_hexChars {bytes : Bytes} :
    ∀ c ∈ hexChars bytes, (hexValue c).isSome = true := by
  intro c written
  obtain ⟨b, -, written⟩ := List.mem_flatMap.mp written
  have bound := b.toNat_lt
  have digit : ∀ n < 16, (hexValue (hexDigit n)).isSome = true := fun n small => by
    rw [hexValue_hexDigit n small, Option.isSome_some]
  cases List.mem_cons.mp written with
  | inl high =>
      rw [high]
      exact digit _ (by omega)
  | inr low =>
      rw [List.mem_singleton.mp low]
      exact digit _ (by omega)

namespace Base64Url

theorem value_symbol : ∀ n < 64, value (symbol n) = some n := by
  decide

theorem decode_encode (bytes : Bytes) : decode (encode bytes) = some bytes := by
  induction bytes using encode.induct with
  | case1 => rfl
  | case2 a =>
      have ha := a.toNat_lt
      have first := value_symbol (a.toNat / 4) (by omega)
      have second := value_symbol (a.toNat % 4 * 16) (by omega)
      have spare : a.toNat % 4 * 16 % 16 = 0 := by omega
      have whole : a.toNat / 4 * 4 + a.toNat % 4 * 16 / 16 = a.toNat := by omega
      simp only [encode, decode, first, second, spare, whole, if_true, UInt8.ofNat_toNat]
  | case3 a b =>
      have ha := a.toNat_lt
      have hb := b.toNat_lt
      have first := value_symbol (a.toNat / 4) (by omega)
      have second := value_symbol (a.toNat % 4 * 16 + b.toNat / 16) (by omega)
      have third := value_symbol (b.toNat % 16 * 4) (by omega)
      have spare : b.toNat % 16 * 4 % 4 = 0 := by omega
      have whole_a : a.toNat / 4 * 4 + (a.toNat % 4 * 16 + b.toNat / 16) / 16 = a.toNat := by omega
      have whole_b : (a.toNat % 4 * 16 + b.toNat / 16) % 16 * 16 + b.toNat % 16 * 4 / 4 =
          b.toNat := by omega
      simp only [encode, decode, first, second, third, spare, whole_a, whole_b, if_true,
        UInt8.ofNat_toNat]
  | case4 a b c rest ih =>
      have ha := a.toNat_lt
      have hb := b.toNat_lt
      have hc := c.toNat_lt
      have first := value_symbol (a.toNat / 4) (by omega)
      have second := value_symbol (a.toNat % 4 * 16 + b.toNat / 16) (by omega)
      have third := value_symbol (b.toNat % 16 * 4 + c.toNat / 64) (by omega)
      have fourth := value_symbol (c.toNat % 64) (by omega)
      have whole_a : a.toNat / 4 * 4 + (a.toNat % 4 * 16 + b.toNat / 16) / 16 = a.toNat := by omega
      have whole_b : (a.toNat % 4 * 16 + b.toNat / 16) % 16 * 16 +
          (b.toNat % 16 * 4 + c.toNat / 64) / 4 = b.toNat := by omega
      have whole_c : (b.toNat % 16 * 4 + c.toNat / 64) % 4 * 64 + c.toNat % 64 = c.toNat := by omega
      simp only [encode, decode, first, second, third, fourth, ih, whole_a, whole_b, whole_c,
        UInt8.ofNat_toNat]

theorem encode_injective {a b : Bytes} (same : encode a = encode b) : a = b := by
  have read := decode_encode a
  rw [same, decode_encode] at read
  exact (Option.some.inj read).symm

theorem value_ascii {c : Char} {n : Nat} (read : value c = some n) : c.toNat < 128 := by
  have below : ∀ {high : Char}, high.toNat < 128 → c ≤ high → c.toNat < 128 :=
    fun small le => Nat.lt_of_le_of_lt (Char.le_def.mp le) small
  unfold value at read
  split at read
  · next letter => exact below (by decide) letter.2
  · split at read
    · next letter => exact below (by decide) letter.2
    · split at read
      · next digit => exact below (by decide) digit.2
      · split at read
        · next dash => exact below (by decide) (Std.le_of_eq dash)
        · split at read
          · next line => exact below (by decide) (Std.le_of_eq line)
          · cases read

theorem symbol_value {c : Char} {n : Nat} (read : value c = some n) : n < 64 ∧ symbol n = c := by
  have table : ∀ k < 128, (value (Char.ofNat k)).all
      (fun m => decide (m < 64 ∧ symbol m = Char.ofNat k)) = true := by
    decide
  have entry := table c.toNat (value_ascii read)
  rw [Char.ofNat_toNat, read] at entry
  simpa using entry

/-- Only what bytes are written as is read as these bytes. -/
theorem encode_decode {text : List Char} {bytes : Bytes} (read : decode text = some bytes) :
    encode bytes = text := by
  fun_induction decode text generalizing bytes with
  | case1 =>
      cases read
      rfl
  | case2 | case4 | case5 | case7 | case8 | case10 => cases read
  | case3 p q m n second first spare =>
      obtain ⟨small_m, rfl⟩ := symbol_value first
      obtain ⟨small_n, rfl⟩ := symbol_value second
      cases read
      have byte := toNat_byte (show m * 4 + n / 16 < 256 by omega)
      have whole_m : (m * 4 + n / 16) / 4 = m := by omega
      have whole_n : (m * 4 + n / 16) % 4 * 16 = n := by omega
      simp only [encode, byte, whole_m, whole_n]
  | case6 p q r m n o third second first spare =>
      obtain ⟨small_m, rfl⟩ := symbol_value first
      obtain ⟨small_n, rfl⟩ := symbol_value second
      obtain ⟨small_o, rfl⟩ := symbol_value third
      cases read
      have byte_a := toNat_byte (show m * 4 + n / 16 < 256 by omega)
      have byte_b := toNat_byte (show n % 16 * 16 + o / 4 < 256 by omega)
      have whole_m : (m * 4 + n / 16) / 4 = m := by omega
      have whole_n : (m * 4 + n / 16) % 4 * 16 + (n % 16 * 16 + o / 4) / 16 = n := by omega
      have whole_o : (n % 16 * 16 + o / 4) % 16 * 4 = o := by omega
      simp only [encode, byte_a, byte_b, whole_m, whole_n, whole_o]
  | case9 p q r s rest m n o k bytes later fourth third second first ih =>
      obtain ⟨small_m, rfl⟩ := symbol_value first
      obtain ⟨small_n, rfl⟩ := symbol_value second
      obtain ⟨small_o, rfl⟩ := symbol_value third
      obtain ⟨small_k, rfl⟩ := symbol_value fourth
      cases read
      have byte_a := toNat_byte (show m * 4 + n / 16 < 256 by omega)
      have byte_b := toNat_byte (show n % 16 * 16 + o / 4 < 256 by omega)
      have byte_c := toNat_byte (show o % 4 * 64 + k < 256 by omega)
      have whole_m : (m * 4 + n / 16) / 4 = m := by omega
      have whole_n : (m * 4 + n / 16) % 4 * 16 + (n % 16 * 16 + o / 4) / 16 = n := by omega
      have whole_o : (n % 16 * 16 + o / 4) % 16 * 4 + (o % 4 * 64 + k) / 64 = o := by omega
      have whole_k : (o % 4 * 64 + k) % 64 = k := by omega
      simp only [encode, byte_a, byte_b, byte_c, whole_m, whole_n, whole_o, whole_k, ih later]

theorem length_encode (bytes : Bytes) : (encode bytes).length = (4 * bytes.length + 2) / 3 := by
  induction bytes using encode.induct with
  | case1 => rfl
  | case2 | case3 => simp [encode]
  | case4 a b c rest ih =>
      simp only [encode, List.length_cons, ih]
      omega

theorem exists_symbol_of_mem_encode {bytes : Bytes} {c : Char} (written : c ∈ encode bytes) :
    ∃ n < 64, c = symbol n := by
  induction bytes using encode.induct with
  | case1 => cases written
  | case2 a =>
      have ha := a.toNat_lt
      simp only [encode, List.mem_cons, List.not_mem_nil, or_false] at written
      obtain first | second := written
      · exact ⟨_, by omega, first⟩
      · exact ⟨_, by omega, second⟩
  | case3 a b =>
      have ha := a.toNat_lt
      have hb := b.toNat_lt
      simp only [encode, List.mem_cons, List.not_mem_nil, or_false] at written
      obtain first | second | third := written
      · exact ⟨_, by omega, first⟩
      · exact ⟨_, by omega, second⟩
      · exact ⟨_, by omega, third⟩
  | case4 a b c rest ih =>
      have ha := a.toNat_lt
      have hb := b.toNat_lt
      have hc := c.toNat_lt
      simp only [encode, List.mem_cons] at written
      obtain first | second | third | fourth | later := written
      · exact ⟨_, by omega, first⟩
      · exact ⟨_, by omega, second⟩
      · exact ⟨_, by omega, third⟩
      · exact ⟨_, by omega, fourth⟩
      · exact ih later

end Base64Url

end Quarantine.Text
