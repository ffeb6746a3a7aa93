import RecordGate.Instant.Calendar

/-!
# Dates and day numbers

A cycle of 400 years, counted from March, is made up of centuries, spans of four years, years and days, where the
last of each may be a day longer than the others.  These parts are what `date` computes, so the date of a day is a
date of the calendar and has the number of the day.

The closed formulas for the year and the day of the year are shown against the parts of a cycle (`yearOfCycle_eq`,
`dayOfYear_eq`), each by linear arithmetic with the parts bounded.  The length of a month follows from the rule that
five months from March have 153 days (`le_daysInMonth`), where the last day of February needs a leap year.

Main statements: `dayNumber_date`, `isValid_date`.
-/

namespace RecordGate.Instant

/-- The parts of a day's place in a cycle: whole centuries, whole spans of four years in the century, whole years in
the span, and days in the year.  Only the last year of a span has day 365, and of the spans that end a century only
the last. -/
structure CycleParts (place century span year day : Int) : Prop where
  century_mem : 0 ≤ century ∧ century ≤ 3
  span_mem : 0 ≤ span ∧ span ≤ 24
  year_mem : 0 ≤ year ∧ year ≤ 3
  day_mem : 0 ≤ day ∧ day ≤ 365
  place_eq : place = 36524 * century + 1461 * span + 365 * year + day
  last : day = 365 → year = 3 ∧ (span = 24 → century = 3)

theorem exists_cycleParts (place : Int) (hplace : 0 ≤ place ∧ place < 146097) :
    ∃ century span year day, CycleParts place century span year day := by
  obtain ⟨century, hcentury⟩ : ∃ century, century = min (place / 36524) 3 := ⟨_, rfl⟩
  obtain ⟨span, hspan⟩ : ∃ span, span = (place - 36524 * century) / 1461 := ⟨_, rfl⟩
  obtain ⟨year, hyear⟩ : ∃ year, year = min ((place - 36524 * century - 1461 * span) / 365) 3 := ⟨_, rfl⟩
  refine ⟨century, span, year, place - 36524 * century - 1461 * span - 365 * year, ?_, ?_, ?_, ?_, ?_, ?_⟩ <;> omega

namespace CycleParts

variable {place century span year day : Int}

theorem yearOfCycle_eq (h : CycleParts place century span year day) :
    (place - place / 1460 + place / 36524 - place / 146096) / 365 = 100 * century + 4 * span + year := by
  obtain ⟨hcentury, hspan, hyear, hday, hplace, hlast⟩ := h
  by_cases hend : place = 146096
  · subst hend
    omega
  · have hcenturies : place / 36524 = century := by omega
    have hcycles : place / 146096 = 0 := by omega
    have hspans : place / 1460 = 25 * century + span ∨ place / 1460 = 25 * century + span + 1 := by omega
    rw [hcenturies, hcycles]
    rcases hspans with hspans | hspans <;> rw [hspans] <;> omega

theorem dayOfYear_eq (h : CycleParts place century span year day) :
    place - (365 * (100 * century + 4 * span + year) + (100 * century + 4 * span + year) / 4 -
      (100 * century + 4 * span + year) / 100) = day := by
  obtain ⟨hcentury, hspan, hyear, hday, hplace, hlast⟩ := h
  omega

theorem first_year (h : CycleParts place century span year day) (hfirst : 93808 ≤ place) :
    256 ≤ 100 * century + 4 * span + year ∧ (100 * century + 4 * span + year = 256 → 306 ≤ day) := by
  obtain ⟨hcentury, hspan, hyear, hday, hplace, -⟩ := h
  have hcenturies : century = 0 ∨ century = 1 ∨ century = 2 ∨ century = 3 := by omega
  rcases hcenturies with rfl | rfl | rfl | rfl <;> omega

theorem last_year (h : CycleParts place century span year day) (hlast : place ≤ 52169) :
    100 * century + 4 * span + year ≤ 142 ∧ (100 * century + 4 * span + year = 142 → day ≤ 305) := by
  obtain ⟨hcentury, hspan, hyear, hday, hplace, -⟩ := h
  have hcenturies : century = 0 ∨ century = 1 ∨ century = 2 ∨ century = 3 := by omega
  rcases hcenturies with rfl | rfl | rfl | rfl <;> omega

/-- The date of a day: from March to December in the year that starts with March, then in the next. -/
theorem date_eq {number : Int} (h : CycleParts ((number + 719468) % 146097) century span year day) :
    ∃ month : Int, 0 ≤ month ∧ month ≤ 11 ∧ (153 * month + 2) / 5 ≤ day ∧ day < (153 * month + 155) / 5 ∧
      date number =
        ⟨100 * century + 4 * span + year + (number + 719468) / 146097 * 400 + if month < 10 then 0 else 1,
          (if month < 10 then month + 3 else month - 9).toNat, (day - (153 * month + 2) / 5 + 1).toNat⟩ := by
  have hday := h.day_mem
  refine ⟨(5 * day + 2) / 153, by omega, by omega, by omega, by omega, ?_⟩
  rw [date]
  simp only [h.yearOfCycle_eq, h.dayOfYear_eq]
  split
  next hmonth => rw [if_neg (by omega), Int.add_zero]
  next hmonth => rw [if_pos (by omega)]

end CycleParts

/-- **The date of a day has the number of the day.** -/
theorem dayNumber_date (number : Int) : dayNumber (date number) = number := by
  obtain ⟨century, span, year, day, h⟩ := exists_cycleParts ((number + 719468) % 146097) (by omega)
  obtain ⟨month, hfirst, hlast, hfrom, -, hdate⟩ := h.date_eq
  obtain ⟨hcentury, hspan, hyear, hday, hplace, -⟩ := h
  obtain ⟨cycle, hcycle⟩ : ∃ cycle, cycle = (number + 719468) / 146097 := ⟨_, rfl⟩
  have hyears : (100 * century + 4 * span + year + cycle * 400) / 400 = cycle ∧
      (100 * century + 4 * span + year + cycle * 400) % 400 = 100 * century + 4 * span + year := by omega
  have hspans : (100 * century + 4 * span + year) / 4 = 25 * century + span := by omega
  have hcenturies : (100 * century + 4 * span + year) / 100 = century := by omega
  have hplaced : cycle * 146097 + (number + 719468) % 146097 = number + 719468 := by omega
  have hwritten : ((day - (153 * month + 2) / 5 + 1).toNat : Int) = day - (153 * month + 2) / 5 + 1 := by omega
  rw [hdate, ← hcycle, dayNumber]
  by_cases hmonth : month < 10
  · have hlater : ¬ (month + 3).toNat ≤ 2 := by omega
    have hmarch : (((month + 3).toNat : Int) + 9) % 12 = month := by omega
    simp only [hmonth, if_true, hlater, if_false, hmarch, hwritten, Int.add_zero, hyears, hspans, hcenturies]
    omega
  · have hearlier : (month - 9).toNat ≤ 2 := by omega
    have hmarch : (((month - 9).toNat : Int) + 9) % 12 = month := by omega
    simp only [hmonth, if_false, hearlier, if_true, hmarch, hwritten, Int.add_sub_cancel, hyears, hspans, hcenturies]
    omega

theorem daysInMonth_le (year : Int) (month : Nat) : daysInMonth year month ≤ 31 := by
  rw [daysInMonth]
  split
  · split <;> omega
  · split <;> omega

/-- A month has a date for each of its days: the month that starts `month` months after the first of March begins
`(153 * month + 2) / 5` days after it, and is February if it is the last one. -/
theorem le_daysInMonth {year month day : Int} (hmonth : 0 ≤ month ∧ month ≤ 11) (hday : day < (153 * month + 155) / 5)
    (hleap : month = 11 → day = 365 → isLeapYear year = true) (hlast : day ≤ 365) :
    (day - (153 * month + 2) / 5 + 1).toNat ≤
      daysInMonth year (if month < 10 then month + 3 else month - 9).toNat := by
  by_cases hfebruary : month = 11
  · subst hfebruary
    rw [daysInMonth, if_pos (by decide)]
    by_cases hend : day = 365
    · rw [if_pos (hleap rfl hend)]
      omega
    · split <;> omega
  · have hmonths : month = 0 ∨ month = 1 ∨ month = 2 ∨ month = 3 ∨ month = 4 ∨ month = 5 ∨ month = 6 ∨ month = 7 ∨
        month = 8 ∨ month = 9 ∨ month = 10 := by omega
    rcases hmonths with rfl | rfl | rfl | rfl | rfl | rfl | rfl | rfl | rfl | rfl | rfl <;>
      simp [daysInMonth] <;> omega

theorem isLeapYear_iff (year : Int) :
    isLeapYear year = true ↔ year % 4 = 0 ∧ (year % 100 ≠ 0 ∨ year % 400 = 0) := by
  simp [isLeapYear]

/-- **The date of a day is a date of the calendar**, if its year is one that dates may lie in. -/
theorem isValid_date {number : Int} (hfirst : dayNumber ⟨minYear, 1, 1⟩ ≤ number)
    (hlast : number ≤ dayNumber ⟨maxYear, 12, 31⟩) : (date number).isValid = true := by
  replace hfirst : -96465292 ≤ number := hfirst
  replace hlast : number ≤ 95026236 := hlast
  obtain ⟨century, span, year, day, h⟩ := exists_cycleParts ((number + 719468) % 146097) (by omega)
  obtain ⟨month, hmarch, hfebruary, hfrom, hupto, hdate⟩ := h.date_eq
  have hearliest := h.first_year
  have hlatest := h.last_year
  obtain ⟨hcentury, hspan, hyear, hday, -, hleap⟩ := h
  obtain ⟨cycle, hcycle⟩ : ∃ cycle, cycle = (number + 719468) / 146097 := ⟨_, rfl⟩
  have hplaced : cycle * 146097 + (number + 719468) % 146097 = number + 719468 := by omega
  rw [hdate, ← hcycle]
  simp only [Date.isValid, Bool.and_eq_true, decide_eq_true_eq]
  rw [minYear, maxYear]
  refine ⟨⟨⟨⟨⟨?_, ?_⟩, ?_⟩, ?_⟩, ?_⟩, ?_⟩
  · have hcycles : cycle = -656 ∨ -655 ≤ cycle := by omega
    rcases hcycles with hcycles | hcycles <;> split <;> omega
  · have hcycles : cycle ≤ 654 ∨ cycle = 655 := by omega
    rcases hcycles with hcycles | hcycles <;> split <;> omega
  · omega
  · omega
  · omega
  · apply le_daysInMonth ⟨hmarch, hfebruary⟩ hupto _ hday.2
    intro hmonth hend
    rw [isLeapYear_iff, hmonth]
    have hfourth := hleap hend
    omega

end RecordGate.Instant
