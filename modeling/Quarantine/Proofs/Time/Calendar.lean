import Quarantine.Time.Calendar

/-!
Every day has a date, and the date tells the day. Years are counted from March on, so that a leap day
is the last of its year; within an era of 400 years they follow one another as centuries, spans of
four years, and single years. That a date is of no other day is not covered.
-/

namespace Quarantine.Date

/-- The year of an era in which a day lies. -/
def yearOfEra (day : Int) : Int :=
  (day - day / 1460 + day / 36524 - day / 146096) / 365

/-- The days of an era before one of its years. -/
def daysBefore (year : Int) : Int :=
  365 * year + year / 4 - year / 100

/-- The date of a day of a year, both counted from March on. -/
def ofMarch (year day : Int) : Date :=
  let monthFromMarch := (5 * day + 2) / 153
  let month := if monthFromMarch < 10 then monthFromMarch + 3 else monthFromMarch - 9
  ⟨if month ≤ 2 then year + 1 else year, month.toNat,
    (day - (153 * monthFromMarch + 2) / 5 + 1).toNat⟩

theorem ofDays_eq (days : Int) :
    ofDays days =
      let era := (days + 719468).fdiv 146097
      let dayOfEra := days + 719468 - era * 146097
      ofMarch (yearOfEra dayOfEra + era * 400) (dayOfEra - daysBefore (yearOfEra dayOfEra)) :=
  rfl

section Years

/-- A day but the last of an era lies in one of its centuries, there in one of the spans of four
years, and there in one of its years. The last year of a span may be longer by a leap day. -/
theorem yearOfEra_of_parts (century span day : Int) (centuries : 0 ≤ century ∧ century ≤ 3)
    (spans : 0 ≤ span ∧ span ≤ 24) (days : 0 ≤ day ∧ day ≤ 1460)
    (short : span = 24 → day ≤ 1459) :
    ∃ year leap, yearOfEra (36524 * century + 1461 * span + day) =
        100 * century + 4 * span + year ∧
      0 ≤ year ∧ year ≤ 3 ∧ 0 ≤ leap ∧ leap ≤ 1 ∧
      365 * year + leap ≤ day ∧ day ≤ 365 * year + 364 + leap ∧
      (leap = 1 → 1460 ≤ 24 * century + span + day) := by
  have by_century : (36524 * century + 1461 * span + day) / 36524 = century := by omega
  have by_era : (36524 * century + 1461 * span + day) / 146096 = 0 := by omega
  by_cases leap : 1460 ≤ 24 * century + span + day
  · have by_span : (36524 * century + 1461 * span + day) / 1460 = 25 * century + span + 1 := by
      omega
    refine ⟨(day - 1) / 365, 1, ?_, ?_⟩
    · simp only [yearOfEra, by_century, by_era, by_span]
      omega
    · omega
  · have by_span : (36524 * century + 1461 * span + day) / 1460 = 25 * century + span := by
      omega
    refine ⟨day / 365, 0, ?_, ?_⟩
    · simp only [yearOfEra, by_century, by_era, by_span]
      omega
    · omega

/-- A day lies in its year. It is the 366th day only of a year that ends in a leap day. -/
theorem yearOfEra_bounds {day : Int} (start : 0 ≤ day) (stop : day < 146097) :
    0 ≤ yearOfEra day ∧ yearOfEra day < 400 ∧ daysBefore (yearOfEra day) ≤ day ∧
      day ≤ daysBefore (yearOfEra day) + 365 ∧
      (day = daysBefore (yearOfEra day) + 365 →
        yearOfEra day % 4 = 3 ∧ (yearOfEra day % 100 ≠ 99 ∨ yearOfEra day = 399)) := by
  by_cases last : day = 146096
  · subst last
    decide
  · obtain ⟨year, leap, parts, bounds⟩ := yearOfEra_of_parts (day / 36524) (day % 36524 / 1461)
      (day % 36524 % 1461) (by omega) (by omega) (by omega) (by omega)
    rw [show 36524 * (day / 36524) + 1461 * (day % 36524 / 1461) + day % 36524 % 1461 = day by
      omega] at parts
    generalize yearOfEra day = y at parts ⊢
    have fours : y / 4 = 25 * (day / 36524) + day % 36524 / 1461 := by omega
    have hundreds : y / 100 = day / 36524 := by omega
    simp only [daysBefore, fours, hundreds]
    omega

end Years

theorem isLeapYear_iff (year : Int) :
    isLeapYear year = true ↔ year % 4 = 0 ∧ (year % 100 ≠ 0 ∨ year % 400 = 0) := by
  simp [isLeapYear]

theorem daysInMonth_le (year : Int) (month : Nat) : daysInMonth year month ≤ 31 := by
  unfold daysInMonth
  repeat' split
  all_goals decide

theorem month_day_le {date : Date} (valid : date.isValid = true) :
    date.month ≤ 12 ∧ date.day ≤ 31 := by
  simp only [isValid, Bool.and_eq_true, decide_eq_true_eq] at valid
  exact ⟨valid.1.1.2, Nat.le_trans valid.2 (daysInMonth_le _ _)⟩

section Months

variable {year day : Int} (start : 0 ≤ day) (stop : day ≤ 365)
include start stop

/-- The months from March to December are those of the year itself, the last two are those of the
next. -/
theorem ofMarch_cases (year : Int) :
    ((5 * day + 2) / 153 < 10 ∧ ofMarch year day =
        ⟨year, ((5 * day + 2) / 153 + 3).toNat,
          (day - (153 * ((5 * day + 2) / 153) + 2) / 5 + 1).toNat⟩) ∨
      (10 ≤ (5 * day + 2) / 153 ∧ ofMarch year day =
        ⟨year + 1, ((5 * day + 2) / 153 - 9).toNat,
          (day - (153 * ((5 * day + 2) / 153) + 2) / 5 + 1).toNat⟩) := by
  by_cases early : (5 * day + 2) / 153 < 10
  · refine .inl ⟨early, ?_⟩
    simp only [ofMarch, if_pos early]
    rw [if_neg (by omega)]
  · refine .inr ⟨by omega, ?_⟩
    simp only [ofMarch, if_neg early]
    rw [if_pos (by omega)]

theorem toDays_ofMarch (year : Int) :
    (ofMarch year day).toDays =
      year / 400 * 146097 + daysBefore (year - year / 400 * 400) + day - 719468 := by
  have era : ∀ y : Int, y.fdiv 400 = y / 400 := fun y =>
    Int.fdiv_eq_ediv_of_nonneg y (by decide)
  obtain ⟨early, date⟩ | ⟨late, date⟩ := ofMarch_cases start stop year
  · have month : ¬ ((5 * day + 2) / 153 + 3).toNat ≤ 2 := by omega
    simp only [date, toDays, daysBefore, era, if_neg month]
    omega
  · have month : ((5 * day + 2) / 153 - 9).toNat ≤ 2 := by omega
    simp only [date, toDays, daysBefore, era, if_pos month, Int.add_sub_cancel]
    omega

/-- The month and the day of the month exist in that year. -/
theorem month_day_ofMarch (leap : day = 365 → isLeapYear (year + 1) = true) :
    1 ≤ (ofMarch year day).month ∧ (ofMarch year day).month ≤ 12 ∧ 1 ≤ (ofMarch year day).day ∧
      (ofMarch year day).day ≤
        daysInMonth (ofMarch year day).year (ofMarch year day).month := by
  obtain ⟨early, date⟩ | ⟨late, date⟩ := ofMarch_cases start stop year
  · simp only [date, daysInMonth, Bool.or_eq_true, decide_eq_true_eq]
    rw [if_neg (by omega)]
    split <;> omega
  · simp only [date, daysInMonth, Bool.or_eq_true, decide_eq_true_eq]
    split
    · cases kind : isLeapYear (year + 1) with
      | true =>
          rw [if_pos rfl]
          omega
      | false =>
          have ordinary : day ≠ 365 := fun last => by rw [leap last] at kind; cases kind
          rw [if_neg Bool.false_ne_true]
          omega
    · rw [if_neg (by omega)]
      omega

end Months

section Dates

variable (days : Int)

/-- A day is one of a year from March on. Its 366th day is a leap day. -/
theorem ofDays_cases :
    ∃ year day, ofDays days = ofMarch year day ∧ 0 ≤ day ∧ day ≤ 365 ∧
      (day = 365 → isLeapYear (year + 1) = true) ∧
      days = year / 400 * 146097 + daysBefore (year - year / 400 * 400) + day - 719468 := by
  have era : (days + 719468).fdiv 146097 = (days + 719468) / 146097 :=
    Int.fdiv_eq_ediv_of_nonneg _ (by decide)
  rw [ofDays_eq, era]
  have bounds := @yearOfEra_bounds (days + 719468 - (days + 719468) / 146097 * 146097)
    (by omega) (by omega)
  obtain ⟨early, late, start, stop, leap⟩ := bounds
  refine ⟨_, _, rfl, by omega, by omega, fun last => ?_, ?_⟩
  · have leap := leap (by omega)
    rw [isLeapYear_iff]
    omega
  · generalize yearOfEra _ = y at *
    have of_era : (y + (days + 719468) / 146097 * 400) / 400 = (days + 719468) / 146097 := by omega
    rw [of_era, show y + (days + 719468) / 146097 * 400 - (days + 719468) / 146097 * 400 = y by omega]
    omega

/-- The years from March on that reach into the years from the first to the last. -/
theorem year_bounds {year day : Int} (start : 0 ≤ day) (stop : day ≤ 365)
    (first : -96465292 ≤ year / 400 * 146097 + daysBefore (year - year / 400 * 400) + day - 719468)
    (last : year / 400 * 146097 + daysBefore (year - year / 400 * 400) + day - 719468 ≤ 95026236) :
    -262144 ≤ year ∧ year ≤ 262142 ∧ (year = -262144 → 306 ≤ day) ∧
      (year = 262142 → day < 306) := by
  have split : year = 400 * (year / 400) + (year - year / 400 * 400) := by omega
  have low : 0 ≤ year - year / 400 * 400 := by omega
  have high : year - year / 400 * 400 < 400 := by omega
  generalize year / 400 = era at *
  generalize year - era * 400 = rest at *
  simp only [daysBefore] at first last
  have era_low : -656 ≤ era := by omega
  have era_high : era ≤ 655 := by omega
  refine ⟨?_, ?_, ?_, ?_⟩
  · omega
  · omega
  · omega
  · omega

theorem toDays_ofDays : (ofDays days).toDays = days := by
  obtain ⟨year, day, date, start, stop, -, whole⟩ := ofDays_cases days
  rw [date, toDays_ofMarch start stop, ← whole]

theorem isValid_ofDays (first : toDays ⟨minYear, 1, 1⟩ ≤ days)
    (last : days ≤ toDays ⟨maxYear, 12, 31⟩) : (ofDays days).isValid = true := by
  obtain ⟨year, day, date, start, stop, leap, whole⟩ := ofDays_cases days
  have exists_day := month_day_ofMarch start stop leap
  have first_day : toDays ⟨minYear, 1, 1⟩ = -96465292 := by decide
  have last_day : toDays ⟨maxYear, 12, 31⟩ = 95026236 := by decide
  have years : minYear ≤ (ofMarch year day).year ∧ (ofMarch year day).year ≤ maxYear := by
    have bounds := year_bounds start stop (first_day ▸ whole ▸ first) (last_day ▸ whole ▸ last)
    obtain ⟨early, date⟩ | ⟨late, date⟩ := ofMarch_cases start stop year
    · simp only [date, minYear, maxYear]
      omega
    · simp only [date, minYear, maxYear]
      omega
  simp only [isValid, date, Bool.and_eq_true, decide_eq_true_eq]
  omega

end Dates

end Quarantine.Date
