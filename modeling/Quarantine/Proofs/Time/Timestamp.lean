import Quarantine.Proofs.Text.Blank
import Quarantine.Proofs.Text.Decimal
import Quarantine.Proofs.Time.Calendar

/-!
Reading back written points in time. Each part of a written text is read with the next part behind
it. What can be read at all are the points in time with a date, and among them leap seconds only at
the end of a minute; each of them is read back from its own text.
-/

namespace Quarantine

/-- Whether a point in time has a text: it has a date, and if it lies in a leap second then at the
end of a minute. -/
structure Instant.HasText (t : Instant) : Prop where
  first : minSeconds ≤ t.seconds
  last : t.seconds ≤ maxSeconds
  leap : 1000000000 ≤ t.nanos → t.seconds % 60 = 59

namespace Timestamp

/-- What a text of the precision tells about a point in time. -/
def Precision.kept : Precision → Instant → Instant
  | .seconds, t => t.truncate
  | .nanos, t | .fewest, t => t

section Kept

variable (precision : Precision) (t : Instant)

theorem seconds_kept : (precision.kept t).seconds = t.seconds := by
  cases precision with
  | seconds =>
      simp only [Precision.kept, Instant.truncate]
      split <;> rfl
  | nanos | fewest => rfl

/-- A leap second stays one. -/
theorem leap_kept : (precision.kept t).nanos / 1000000000 = t.nanos / 1000000000 := by
  have bound := t.nanos_lt
  cases precision with
  | seconds =>
      simp only [Precision.kept, Instant.truncate]
      split
      · show 0 / 1000000000 = _
        omega
      · show 1000000000 / 1000000000 = _
        omega
  | nanos | fewest => rfl

theorem fraction_kept :
    (precision.kept t).nanos % 1000000000 =
      if precision = .seconds then 0 else t.nanos % 1000000000 := by
  cases precision with
  | seconds =>
      simp only [Precision.kept, Instant.truncate, if_true]
      split
      · rfl
      · exact Nat.mod_self _
  | nanos | fewest => rfl

variable {t} in
theorem hasText_kept (text : t.HasText) : (precision.kept t).HasText := by
  have leap := leap_kept precision t
  refine ⟨?_, ?_, fun late => ?_⟩
  · rw [seconds_kept]
    exact text.first
  · rw [seconds_kept]
    exact text.last
  · rw [seconds_kept]
    exact text.leap (by omega)

end Kept

section Numbers

theorem isDigit_padded (width n : Nat) : ∀ c ∈ padded width n, c.isDigit = true := by
  intro c written
  rw [padded, List.mem_append, List.mem_replicate] at written
  obtain ⟨-, rfl⟩ | written := written
  · rfl
  · exact Text.isDigit_toDigits n c written

theorem digitsValue_padded (width n : Nat) : digitsValue (padded width n) = n := by
  rw [digitsValue_eq, padded, Nat.ofDigitChars_append, Nat.ofDigitChars_replicate_zero,
    Nat.mul_zero, Nat.ofDigitChars_ten_toDigits]

theorem length_padded {width n : Nat} (some_width : 0 < width) (small : n < 10 ^ width) :
    (padded width n).length = width := by
  have short := (Nat.length_toDigits_le_iff (by decide) some_width).mpr small
  rw [padded, List.length_append, List.length_replicate, Nat.sub_add_cancel short]

theorem length_padded_pos (width n : Nat) : 0 < (padded width n).length := by
  rw [padded, List.length_append]
  have some_digit : 0 < (Nat.toDigits 10 n).length := List.length_pos_iff.mpr Nat.toDigits_ne_nil
  omega

theorem padded_eq_cons (width n : Nat) :
    ∃ c rest, padded width n = c :: rest ∧ c.isDigit = true := by
  obtain ⟨c, rest, written⟩ := List.exists_cons_of_length_pos (length_padded_pos width n)
  exact ⟨c, rest, written, isDigit_padded width n c (written ▸ List.mem_cons_self)⟩

theorem trimStart_padded (width n : Nat) (rest : List Char) :
    Text.trimStart (padded width n ++ rest) = padded width n ++ rest := by
  obtain ⟨c, later, written, digit⟩ := padded_eq_cons width n
  rw [written, List.cons_append, Text.trimStart_cons_ink (Text.isBlank_of_isDigit digit)]

/-- Digits are read as a number, up to the most there may be or up to another character. -/
theorem readNumber_digits {least most : Nat} {digits rest : List Char}
    (all : ∀ c ∈ digits, c.isDigit = true) (enough : least ≤ digits.length)
    (fits : digits.length ≤ most) (stops : digits.length < most → Text.Undigited rest) :
    readNumber least most (digits ++ rest) = some (digitsValue digits, rest) := by
  have taken : ((digits ++ rest).take most).takeWhile isDigit = digits := by
    rw [List.take_append, List.take_of_length_le fits, isDigit_eq]
    refine Text.takeWhile_digits all ?_
    obtain full | short := Nat.eq_or_lt_of_le fits
    · rw [full, Nat.sub_self]
      exact nofun
    · obtain ⟨places, more⟩ := Nat.exists_eq_add_of_lt short
      rw [show most - digits.length = places + 1 by omega]
      cases rest with
      | nil => exact nofun
      | cons c rest => exact Text.undigited_cons (stops short c rfl)
  rw [readNumber]
  simp only [taken, if_neg (Nat.not_lt.mpr enough), List.drop_left]

theorem readNumber_padded {least most width n : Nat} {rest : List Char} (some_width : 0 < width)
    (small : n < 10 ^ width) (enough : least ≤ width) (fits : width ≤ most)
    (stops : width < most → Text.Undigited rest) :
    readNumber least most (padded width n ++ rest) = some (n, rest) := by
  have long := length_padded some_width small
  rw [readNumber_digits (isDigit_padded width n) (by omega) (by omega)
    fun short => stops (by omega), digitsValue_padded]

theorem readPair_padded {n : Nat} (small : n < 100) (rest : List Char) :
    readPair (padded 2 n ++ rest) = some (n, rest) := by
  rw [readPair, trimStart_padded]
  exact readNumber_padded (by decide) small (by decide) (by decide)
    fun short => absurd short (by decide)

theorem readNumber_some {least most n : Nat} {cs rest : List Char}
    (read : readNumber least most cs = some (n, rest)) :
    ∃ digits, cs = digits ++ rest ∧ digits.length ≤ most ∧ n < 10 ^ digits.length := by
  rw [readNumber] at read
  split at read
  · cases read
  · cases read
    refine ⟨(cs.take most).takeWhile isDigit, ?_, ?_, ?_⟩
    · have front := (List.takeWhile_prefix isDigit).trans (List.take_prefix most cs)
      exact (List.prefix_iff_eq_append.mp front).symm
    · have short := (List.takeWhile_prefix isDigit (l := cs.take most)).length_le
      exact Nat.le_trans short (List.length_take_le most cs)
    · rw [digitsValue_eq, isDigit_eq]
      exact Text.ofDigitChars_lt (List.all_eq_true.mp List.all_takeWhile)

end Numbers

section Parts

variable (rest : List Char)

theorem readYear_sign {sign : Char} (signed : sign = '-' ∨ sign = '+') (n : Nat) :
    readYear (sign :: padded 4 n ++ '-' :: rest) =
      some (if sign = '-' then -(n : Int) else n, '-' :: rest) := by
  have digits : readNumber 1 (padded 4 n ++ '-' :: rest).length (padded 4 n ++ '-' :: rest) =
      some (n, '-' :: rest) := by
    rw [readNumber_digits (isDigit_padded 4 n) (length_padded_pos 4 n)
      (by rw [List.length_append]; omega) fun _ => Text.undigited_cons rfl, digitsValue_padded]
  obtain rfl | rfl := signed
  · rw [readYear, List.cons_append, Text.trimStart_cons_ink (by decide)]
    simp only [digits]
    rfl
  · rw [readYear, List.cons_append, Text.trimStart_cons_ink (by decide)]
    simp only [digits]
    rfl

theorem readYear_padded {n : Nat} (small : n < 10000) :
    readYear (padded 4 n ++ rest) = some ((n : Int), rest) := by
  have digits : readNumber 1 4 (padded 4 n ++ rest) = some (n, rest) :=
    readNumber_padded (by decide) small (by decide) (by decide)
      fun short => absurd short (by decide)
  rw [readYear, trimStart_padded]
  obtain ⟨c, later, written, digit⟩ := padded_eq_cons 4 n
  rw [written, List.cons_append] at digits ⊢
  split
  · next sign => cases sign; cases digit
  · next sign => cases sign; cases digit
  · rw [digits]
    rfl

theorem readYear_yearChars (year : Int) :
    readYear (yearChars year ++ '-' :: rest) = some (year, '-' :: rest) := by
  rw [yearChars]
  split
  · next four =>
      rw [readYear_padded _ (by omega), Int.toNat_of_nonneg four.1]
  · next other =>
      by_cases negative : year < 0
      · rw [if_pos negative, readYear_sign _ (.inl rfl), if_pos rfl,
          show -(year.natAbs : Int) = year by omega]
      · rw [if_neg negative, readYear_sign _ (.inr rfl), if_neg (by decide),
          show (year.natAbs : Int) = year by omega]

theorem readDate_dateChars {date : Date} (valid : date.isValid = true) :
    readDate (dateChars date ++ rest) = some (date, rest) := by
  obtain ⟨month, day⟩ := Date.month_day_le valid
  have dash : ∀ cs, readChar '-' (Text.trimStart ('-' :: cs)) = some cs := fun _ => rfl
  simp only [readDate, dateChars, List.append_assoc, List.cons_append, readYear_yearChars,
    readPair_padded (show date.month < 100 by omega), readPair_padded (show date.day < 100 by omega),
    dash, Option.bind_eq_bind, Option.bind_some]
  rfl

/-- The nanoseconds that a fraction of the precision keeps. -/
theorem readFraction_fractionChars (precision : Precision) {nanos : Nat}
    (small : nanos < 1000000000) :
    readFraction (fractionChars precision nanos ++ 'Z' :: rest) =
      some (if precision = .seconds then 0 else nanos, 'Z' :: rest) := by
  have digits : ∀ width n, 0 < width → width ≤ 9 → n < 10 ^ width →
      readFraction ('.' :: padded width n ++ 'Z' :: rest) =
        some (n * Nat.pow 10 (9 - width), 'Z' :: rest) := by
    intro width n some_width fits small
    have number : readNumber 1 9 (padded width n ++ 'Z' :: rest) = some (n, 'Z' :: rest) :=
      readNumber_padded some_width small some_width fits fun _ => Text.undigited_cons rfl
    simp only [readFraction, List.cons_append, number, Option.bind_eq_bind, Option.bind_some,
      List.length_append, Nat.add_sub_cancel, length_padded some_width small]
    rfl
  cases precision with
  | seconds => rfl
  | nanos => exact (digits 9 nanos (by decide) (by decide) small).trans (by simp)
  | fewest =>
      rw [fractionChars]
      split
      · next none => rw [none]; rfl
      · split
        · rw [digits 3 _ (by decide) (by decide) (by omega)]
          simp
          omega
        · split
          · rw [digits 6 _ (by decide) (by decide) (by omega)]
            simp
            omega
          · rw [digits 9 _ (by decide) (by decide) small]
            simp

/-- A time of day as it is written, from its seconds since midnight. -/
def ofSecond (second leap nanos : Nat) : TimeOfDay :=
  ⟨second / 3600, second / 60 % 60, second % 60 + leap, nanos⟩

theorem readTimeOfDay_chars (precision : Precision) {second leap nanos : Nat}
    (of_day : second < 86400) (one : leap ≤ 1) (small : nanos < 1000000000) :
    readTimeOfDay (padded 2 (second / 3600) ++ ':' :: (padded 2 (second / 60 % 60) ++
        ':' :: (padded 2 (second % 60 + leap) ++ (fractionChars precision nanos ++ 'Z' :: rest)))) =
      some (ofSecond second leap (if precision = .seconds then 0 else nanos), 'Z' :: rest) := by
  have colon : ∀ cs, readChar ':' (Text.trimStart (':' :: cs)) = some cs := fun _ => rfl
  simp only [readTimeOfDay, colon, Option.bind_eq_bind, Option.bind_some,
    readPair_padded (show second / 3600 < 100 by omega),
    readPair_padded (show second / 60 % 60 < 100 by omega),
    readPair_padded (show second % 60 + leap < 100 by omega),
    readFraction_fractionChars rest precision small]
  rfl

end Parts

section Whole

theorem isValid_ofSecond {second leap : Nat} (nanos : Nat) (of_day : second < 86400)
    (minute : second % 60 + leap ≤ 60) : (ofSecond second leap nanos).isValid = true := by
  simp only [TimeOfDay.isValid, Bool.and_eq_true, decide_eq_true_eq]
  simp only [ofSecond]
  omega

variable {t : Instant}

theorem isValid_date (text : t.HasText) : (Date.ofDays (t.seconds / 86400)).isValid = true := by
  have first := text.first
  have last := text.last
  simp only [Instant.minSeconds, Instant.maxSeconds] at first last
  exact Date.isValid_ofDays _ (by omega) (by omega)

/-- The date and the time of day of a point in time are those of no other. -/
theorem resolve_ofSecond (text : t.HasText) :
    resolve (Date.ofDays (t.seconds / 86400))
        (ofSecond (t.seconds % 86400).toNat (t.nanos / 1000000000) (t.nanos % 1000000000)) 0 =
      some t := by
  have date := isValid_date text
  obtain ⟨first, last, leap⟩ := text
  obtain ⟨seconds, nanos, bound⟩ := t
  have time : (ofSecond (seconds % 86400).toNat (nanos / 1000000000)
      (nanos % 1000000000)).isValid = true :=
    isValid_ofSecond _ (by omega) (by simp only at leap; omega)
  simp only at date first last leap ⊢
  rw [resolve, if_pos (by rw [date, time]; rfl)]
  simp only [ofSecond, Date.toDays_ofDays]
  rw [dif_pos (by omega)]
  simp only [Option.some.injEq, Instant.mk.injEq]
  omega

theorem readChars_writeChars (precision : Precision) (text : t.HasText) :
    readChars (writeChars precision t) = some (precision.kept t) := by
  have bound := t.nanos_lt
  have days : t.seconds.fdiv 86400 = t.seconds / 86400 :=
    Int.fdiv_eq_ediv_of_nonneg _ (by decide)
  have of_day : t.seconds.fmod 86400 = t.seconds % 86400 :=
    Int.fmod_eq_emod_of_nonneg _ (by decide)
  have separator : ∀ cs, readSeparator ('T' :: cs) = some cs := fun _ => rfl
  have zone : readOffset ['Z'] = some (0, []) := rfl
  have time := readTimeOfDay_chars [] precision
    (show (t.seconds % 86400).toNat < 86400 by omega) (show t.nanos / 1000000000 ≤ 1 by omega)
    (show t.nanos % 1000000000 < 1000000000 by omega)
  have whole := resolve_ofSecond (hasText_kept precision text)
  rw [seconds_kept, leap_kept, fraction_kept] at whole
  simp only [readChars, writeChars, clockChars, days, of_day, List.append_assoc, List.cons_append,
    readDate_dateChars _ (isValid_date text), separator, time, zone, Option.bind_eq_bind,
    Option.bind_some]
  exact (if_pos rfl).trans whole

theorem read_write (precision : Precision) (text : t.HasText) :
    read (write precision t) = some (precision.kept t) := by
  rw [read, write, String.toList_ofList, readChars_writeChars precision text]

end Whole

section Readable

theorem minutes_of_readOffsetAmount {cs rest : List Char} {amount : Nat}
    (read : readOffsetAmount cs = some (amount, rest)) : amount % 60 = 0 := by
  simp only [readOffsetAmount, Option.bind_eq_bind, Option.bind_eq_some_iff] at read
  obtain ⟨hours, -, minutes, -, read⟩ := read
  split at read
  · cases read
    omega
  · cases read

theorem minutes_of_signed {cs rest : List Char} {offset : Int}
    (read : readOffset.signed cs = some (offset, rest)) : offset % 60 = 0 := by
  cases cs with
  | nil => cases read
  | cons c cs =>
      rw [readOffset.signed] at read
      split at read
      · cases read
        rfl
      · split at read
        · obtain ⟨⟨amount, left⟩, number, read⟩ := Option.map_eq_some_iff.mp read
          have minutes := minutes_of_readOffsetAmount number
          cases read
          omega
        · split at read
          · obtain ⟨⟨amount, left⟩, number, read⟩ := Option.map_eq_some_iff.mp read
            have minutes := minutes_of_readOffsetAmount number
            cases read
            omega
          · cases read

/-- An offset is a number of whole minutes. -/
theorem minutes_of_readOffset {cs rest : List Char} {offset : Int}
    (read : readOffset cs = some (offset, rest)) : offset % 60 = 0 := by
  unfold readOffset at read
  split at read
  · split at read
    · cases read
      rfl
    · exact minutes_of_signed read
  · exact minutes_of_signed read

theorem lt_of_readFraction {cs rest : List Char} {nanos : Nat}
    (read : readFraction cs = some (nanos, rest)) : nanos < 1000000000 := by
  unfold readFraction at read
  split at read
  · next cs =>
      simp only [Option.bind_eq_bind, Option.bind_eq_some_iff] at read
      obtain ⟨⟨n, left⟩, number, read⟩ := read
      obtain ⟨digits, rfl, short, small⟩ := readNumber_some number
      cases read
      simp only [List.length_append, Nat.add_sub_cancel]
      calc n * 10 ^ (9 - digits.length)
          _ < 10 ^ digits.length * 10 ^ (9 - digits.length) :=
            Nat.mul_lt_mul_of_pos_right small (Nat.pow_pos (by decide))
          _ = 10 ^ 9 := by rw [← Nat.pow_add, Nat.add_sub_cancel' short]
  · cases read
    decide

theorem hasText_of_resolve {date : Date} {time : TimeOfDay} {offset : Int} {t : Instant}
    (fraction : time.nanos < 1000000000) (minutes : offset % 60 = 0)
    (resolved : resolve date time offset = some t) : t.HasText := by
  rw [resolve] at resolved
  split at resolved
  · next valid =>
      simp only [TimeOfDay.isValid, Bool.and_eq_true, decide_eq_true_eq] at valid
      dsimp only at resolved
      split at resolved
      · next range =>
          cases resolved
          refine ⟨range.1, range.2.1, fun late => ?_⟩
          simp only at late ⊢
          omega
      · cases resolved
  · cases resolved

theorem hasText_of_read {s : String} {t : Instant} (read : Timestamp.read s = some t) :
    t.HasText := by
  simp only [Timestamp.read, readChars, Option.bind_eq_bind, Option.bind_eq_some_iff] at read
  obtain ⟨⟨date, cs⟩, -, afterDate, -, ⟨time, cs'⟩, timed, ⟨offset, cs''⟩, zoned, resolved⟩ := read
  split at resolved
  · refine hasText_of_resolve ?_ (minutes_of_readOffset zoned) resolved
    simp only [readTimeOfDay, Option.bind_eq_bind, Option.bind_eq_some_iff] at timed
    obtain ⟨hour, -, cs, -, minute, -, cs', -, second, -, fraction, read, timed⟩ := timed
    cases timed
    exact lt_of_readFraction read
  · cases resolved

/-- The points in time that some text tells are those that have a text of their own. -/
theorem hasText_iff {t : Instant} : t.HasText ↔ ∃ s, Timestamp.read s = some t :=
  ⟨fun text => ⟨_, read_write .nanos text⟩, fun ⟨_, read⟩ => hasText_of_read read⟩

end Readable

end Timestamp

end Quarantine
