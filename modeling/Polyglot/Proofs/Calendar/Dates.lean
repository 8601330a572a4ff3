import Mathlib.Tactic.IntervalCases
import Polyglot.Calendar.Date

/-!
# Days and dates

The date of a number of days is one that the calendar has (`Date.month_ofDays`,
`Date.day_ofDays`), and its number of days is the one that it was made from
(`Date.toDays_ofDays`).

Both ways count in years that begin with a March. Such a year is longer by a day if the year
of the calendar that it ends in is a leap year; so the leap day comes last, and the months
before it are the same in all years. That leaves two things to show: that a day of a year from
March to March has its date (`Date.toDays_ofMarch`), and that the formula for the year of a day
within 400 years finds the right one (`Date.exists_yearOfPeriod`).
-/

set_option autoImplicit false

namespace Polyglot

namespace Date

theorem isLeap_iff {year : Int} :
    isLeap year = true ↔ year % 4 = 0 ∧ (year % 100 ≠ 0 ∨ year % 400 = 0) := by
  simp [isLeap]

theorem isLeap_add_period (year era : Int) : isLeap (year + era * 400) = isLeap year := by
  rw [Bool.eq_iff_iff, isLeap_iff, isLeap_iff]
  omega

/-! ## Years from March to March -/

/-- The days from 1970 to the first of March of a year. -/
def marchDays (year : Int) : Int :=
  year / 400 * periodDays + (year % 400 * 365 + year % 400 / 4 - year % 400 / 100) - epochDays

/-- The date of a day of the year that begins in March. -/
def ofMarch (year dayOfYear : Int) : Date :=
  let monthFromMarch := (5 * dayOfYear + 2) / 153
  let month := if monthFromMarch < 10 then monthFromMarch + 3 else monthFromMarch - 9
  { year := if month ≤ 2 then year + 1 else year
    month := month.toNat
    day := (dayOfYear - (153 * monthFromMarch + 2) / 5 + 1).toNat }

/-- Which days there are in the year that begins in the March of a year. -/
structure InMarchYear (year dayOfYear : Int) : Prop where
  nonneg : 0 ≤ dayOfYear
  le : dayOfYear ≤ 365
  leap : dayOfYear = 365 → isLeap (year + 1) = true

section MarchYear

variable {year dayOfYear : Int} (inside : InMarchYear year dayOfYear)
include inside

theorem toDays_ofMarch : (ofMarch year dayOfYear).toDays = marchDays year + dayOfYear := by
  obtain ⟨nonneg, le, -⟩ := inside
  generalize monthIs : (5 * dayOfYear + 2) / 153 = month
  rw [ofMarch, toDays, marchDays]
  dsimp only
  rw [monthIs]
  by_cases early : month < 10
  · have later : ¬ (month + 3).toNat ≤ 2 := by omega
    rw [if_pos early, if_neg later, if_neg later, if_neg (by omega : ¬ month + 3 ≤ 2)]
    omega
  · have sooner : (month - 9).toNat ≤ 2 := by omega
    rw [if_neg early, if_pos sooner, if_pos sooner, if_pos (by omega : month - 9 ≤ 2),
      Int.add_sub_cancel]
    omega

theorem month_ofMarch :
    1 ≤ (ofMarch year dayOfYear).month ∧ (ofMarch year dayOfYear).month ≤ 12 := by
  obtain ⟨nonneg, le, -⟩ := inside
  rw [ofMarch]
  dsimp only
  split <;> omega

/-- The day is one of its month: for February this is the matter of the leap year, for the
other months it is one of eleven small ranges. -/
theorem day_ofMarch : 1 ≤ (ofMarch year dayOfYear).day ∧ (ofMarch year dayOfYear).day ≤
    monthLength (ofMarch year dayOfYear).year (ofMarch year dayOfYear).month := by
  obtain ⟨nonneg, le, leap⟩ := inside
  generalize monthIs : (5 * dayOfYear + 2) / 153 = month
  have month_nonneg : 0 ≤ month := by omega
  have month_le : month ≤ 11 := by omega
  rw [ofMarch, monthLength]
  dsimp only
  rw [monthIs]
  by_cases february : month = 11
  · subst february
    simp only [Int.reduceLT, if_false, Int.reduceSub, Int.reduceLE, if_true, Int.reduceToNat,
      Int.reduceMul, Int.reduceAdd, Int.reduceDiv]
    split
    · omega
    · next common =>
      have notLast : dayOfYear ≠ 365 := fun last => common (leap last)
      omega
  · have month_lt : month < 11 := by omega
    interval_cases month
    all_goals
      simp only [Int.reduceLT, if_true, if_false, Int.reduceSub, Int.reduceLE, Int.reduceToNat,
        Int.reduceMul, Int.reduceAdd, Int.reduceDiv, Nat.reduceEqDiff, or_false, or_true, or_self]
      omega

end MarchYear

/-! ## Periods of 400 years -/

/-- A day of a period: the number of whole centuries before it, of groups of four years after
them, of years after these, and of days after the years. Only the last century, and in another
century any group but the last, has the day that is over. -/
structure PeriodDay (day century four single rest : Int) : Prop where
  sum : day = 36524 * century + 1461 * four + 365 * single + rest
  century_nonneg : 0 ≤ century
  century_le : century ≤ 3
  four_nonneg : 0 ≤ four
  four_le : four ≤ 24
  single_nonneg : 0 ≤ single
  single_le : single ≤ 3
  rest_nonneg : 0 ≤ rest
  rest_le : rest ≤ 364 ∨ rest = 365 ∧ single = 3 ∧ (four < 24 ∨ century = 3)

theorem exists_periodDay {day : Int} (least : 0 ≤ day) (most : day < periodDays) :
    ∃ century four single rest, PeriodDay day century four single rest := by
  rw [periodDays] at most
  obtain ⟨century, rest, sum, bounds⟩ : ∃ century rest : Int, day = 36524 * century + rest ∧
      0 ≤ century ∧ century ≤ 3 ∧ 0 ≤ rest ∧ (rest < 36524 ∨ rest = 36524 ∧ century = 3) := by
    by_cases last : day = 146096
    · exact ⟨3, 36524, by omega⟩
    · exact ⟨day / 36524, day % 36524, by omega⟩
  obtain ⟨four, rest', sum', bounds'⟩ : ∃ four rest' : Int, rest = 1461 * four + rest' ∧
      0 ≤ four ∧ four ≤ 24 ∧ 0 ≤ rest' ∧
      (rest' < 1460 ∨ rest' = 1460 ∧ (four < 24 ∨ century = 3)) :=
    ⟨rest / 1461, rest % 1461, by omega⟩
  obtain ⟨single, rest'', sum'', bounds''⟩ : ∃ single rest'' : Int, rest' = 365 * single + rest'' ∧
      0 ≤ single ∧ single ≤ 3 ∧ 0 ≤ rest'' ∧
      (rest'' < 365 ∨ rest'' = 365 ∧ single = 3 ∧ rest' = 1460) := by
    by_cases last : rest' = 1460
    · exact ⟨3, 365, by omega⟩
    · exact ⟨rest' / 365, rest' % 365, by omega⟩
  exact ⟨century, four, single, rest'', by constructor <;> omega⟩

/-- The formula takes away the leap days that lie before a day, which leaves years of 365 days. -/
theorem PeriodDay.year_eq {day century four single rest : Int}
    (place : PeriodDay day century four single rest) :
    (day - day / 1460 + day / 36524 - day / 146096) / 365 = 100 * century + 4 * four + single := by
  obtain ⟨sum, century_nonneg, century_le, four_nonneg, four_le, single_nonneg, single_le,
    rest_nonneg, rest_le⟩ := place
  have centuries : day / 36524 - day / 146096 = century := by
    by_cases last : day = 146096
    · subst last
      omega
    · have first : day / 146096 = 0 := by omega
      omega
  have fours : day / 1460 = 25 * century + four ∧ rest ≤ 364 ∨
      day / 1460 = 25 * century + four + 1 ∧ 1 ≤ rest := by omega
  omega

/-- Each day of a period is in the year that the formula says. -/
theorem exists_yearOfPeriod {day : Int} (least : 0 ≤ day) (most : day < periodDays) :
    ∃ year rest : Int, 0 ≤ year ∧ year < 400 ∧ 0 ≤ rest ∧
      (rest ≤ 364 ∨ rest = 365 ∧ isLeap (year + 1) = true) ∧
      day = year * 365 + year / 4 - year / 100 + rest ∧
      (day - day / 1460 + day / 36524 - day / 146096) / 365 = year := by
  obtain ⟨century, four, single, rest, place⟩ := exists_periodDay least most
  refine ⟨_, rest, ?_, ?_, place.rest_nonneg, ?_, ?_, place.year_eq⟩
  all_goals
    obtain ⟨sum, century_nonneg, century_le, four_nonneg, four_le, single_nonneg, single_le,
      rest_nonneg, rest_le⟩ := place
  · omega
  · omega
  · rw [isLeap_iff]
    omega
  · omega

/-! ## All days -/

theorem exists_ofDays_eq (days : Int) : ∃ year dayOfYear : Int,
    InMarchYear year dayOfYear ∧ days = marchDays year + dayOfYear ∧
      ofDays days = ofMarch year dayOfYear := by
  have positive : 0 < periodDays := by decide
  obtain ⟨year, rest, year_nonneg, year_lt, rest_nonneg, rest_le, sum, formula⟩ :=
    exists_yearOfPeriod (Int.emod_nonneg (days + epochDays) positive.ne')
      (Int.emod_lt_of_pos (days + epochDays) positive)
  have split := Int.mul_ediv_add_emod (days + epochDays) periodDays
  have rest_eq : (days + epochDays) % periodDays - (365 * year + year / 4 - year / 100) = rest := by
    omega
  refine ⟨year + (days + epochDays) / periodDays * 400, rest, ⟨rest_nonneg, by omega, ?_⟩, ?_, ?_⟩
  · intro last
    rw [add_right_comm, isLeap_add_period]
    exact (rest_le.resolve_left (by omega)).2
  · generalize (days + epochDays) / periodDays = era at split ⊢
    have quotient : (year + era * 400) / 400 = era := by omega
    have remainder : (year + era * 400) % 400 = year := by omega
    rw [marchDays, quotient, remainder, mul_comm era]
    omega
  · rw [ofDays, ofMarch, formula, rest_eq]

/-- **The date of a day is that day's date.** -/
theorem toDays_ofDays (days : Int) : (ofDays days).toDays = days := by
  obtain ⟨year, dayOfYear, inside, sum, place⟩ := exists_ofDays_eq days
  rw [place, toDays_ofMarch inside, sum]

theorem month_ofDays (days : Int) : 1 ≤ (ofDays days).month ∧ (ofDays days).month ≤ 12 := by
  obtain ⟨year, dayOfYear, inside, -, place⟩ := exists_ofDays_eq days
  rw [place]
  exact month_ofMarch inside

theorem day_ofDays (days : Int) : 1 ≤ (ofDays days).day ∧
    (ofDays days).day ≤ monthLength (ofDays days).year (ofDays days).month := by
  obtain ⟨year, dayOfYear, inside, -, place⟩ := exists_ofDays_eq days
  rw [place]
  exact day_ofMarch inside

theorem monthLength_le (year : Int) (month : Nat) : monthLength year month ≤ 31 := by
  rw [monthLength]
  split_ifs <;> omega

theorem weekday_lt (date : Date) : date.weekday < 7 := by
  rw [weekday]
  omega

end Date

/-! ## Instants -/

namespace Instant

/-- Whether the calendar has the day of an instant. -/
def InCalendar (instant : Instant) : Prop :=
  Date.firstYear ≤ instant.date.year ∧ instant.date.year ≤ Date.lastYear

/-- Days that can be added lead to an instant that the calendar has. -/
theorem addDays?_eq_some {instant later : Instant} {days : Int}
    (added : instant.addDays? days = some later) :
    later = instant + days * daySeconds ∧ later.InCalendar := by
  rw [addDays?] at added
  split_ifs at added with far reached
  obtain rfl := Option.some.inj added
  exact ⟨rfl, reached⟩

theorem month_date (instant : Instant) : 1 ≤ instant.date.month ∧ instant.date.month ≤ 12 :=
  Date.month_ofDays (instant / daySeconds)

theorem day_date (instant : Instant) : 1 ≤ instant.date.day ∧
    instant.date.day ≤ Date.monthLength instant.date.year instant.date.month :=
  Date.day_ofDays (instant / daySeconds)

theorem isValid_date {instant : Instant} (reached : instant.InCalendar) :
    instant.date.isValid = true := by
  obtain ⟨least, most⟩ := reached
  obtain ⟨month_pos, month_le⟩ := instant.month_date
  obtain ⟨day_pos, day_le⟩ := instant.day_date
  simp only [Date.isValid, Bool.and_eq_true, decide_eq_true_eq]
  exact ⟨⟨⟨⟨⟨least, most⟩, month_pos⟩, month_le⟩, day_pos⟩, day_le⟩

theorem secondOfDay_lt (instant : Instant) : instant.secondOfDay < 86400 := by
  rw [secondOfDay, daySeconds]
  omega

theorem ofDate_date (instant : Instant) : ofDate instant.date instant.secondOfDay = instant := by
  have positive : 0 < daySeconds := by decide
  rw [ofDate, date, Date.toDays_ofDays, secondOfDay,
    Int.toNat_of_nonneg (Int.emod_nonneg instant positive.ne'), Int.ediv_mul_add_emod]

end Instant

end Polyglot
