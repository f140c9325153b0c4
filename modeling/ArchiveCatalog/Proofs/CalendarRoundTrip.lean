import ArchiveCatalog.Calendar

/-! Within an era the days are counted by centuries, cycles of four years, and years, of which the
last may have a day more; with these parts known, every quotient of the calendar is linear. -/

namespace ArchiveCatalog.CivilDate

/-- A day of an era, counted by centuries, leap cycles and years. -/
structure InEra (dayOfEra century cycle year dayOfYear : Int) : Prop where
  total : dayOfEra = 36524 * century + 1461 * cycle + 365 * year + dayOfYear
  centuries : 0 ≤ century ∧ century ≤ 3
  cycles : 0 ≤ cycle ∧ cycle ≤ 24
  years : 0 ≤ year ∧ year ≤ 3
  days : 0 ≤ dayOfYear ∧ dayOfYear ≤ 365
  leap : dayOfYear = 365 → year = 3 ∧ (cycle < 24 ∨ century = 3)

private theorem exists_inEra (dayOfEra : Int) (low : 0 ≤ dayOfEra) (high : dayOfEra < 146097) :
    ∃ century cycle year dayOfYear, InEra dayOfEra century cycle year dayOfYear := by
  have century : ∃ c rest : Int, dayOfEra = 36524 * c + rest ∧ 0 ≤ c ∧ c ≤ 3 ∧ 0 ≤ rest ∧
      (rest < 36524 ∨ c = 3 ∧ rest = 36524) := by
    by_cases last : dayOfEra = 146096
    · exact ⟨3, 36524, by omega⟩
    · exact ⟨dayOfEra / 36524, dayOfEra % 36524, by omega⟩
  obtain ⟨c, rest, total, low, high, positive, small⟩ := century
  have year : ∃ y d : Int, rest % 1461 = 365 * y + d ∧ 0 ≤ y ∧ y ≤ 3 ∧ 0 ≤ d ∧
      (d < 365 ∨ y = 3 ∧ d = 365) := by
    by_cases last : rest % 1461 = 1460
    · exact ⟨3, 365, by omega⟩
    · exact ⟨rest % 1461 / 365, rest % 1461 % 365, by omega⟩
  obtain ⟨y, d, same, _, _, _, _⟩ := year
  exact ⟨c, rest / 1461, y, d, by omega, by omega, by omega, by omega, by omega, by omega⟩

private theorem yearOfEra_eq {dayOfEra century cycle year dayOfYear : Int}
    (parts : InEra dayOfEra century cycle year dayOfYear) :
    (dayOfEra - dayOfEra / 1460 + dayOfEra / 36524 - dayOfEra / 146096) / 365 =
      100 * century + 4 * cycle + year := by
  obtain ⟨total, _, _, _, _, leap⟩ := parts
  have ends : dayOfEra / 36524 - dayOfEra / 146096 = century := by
    by_cases last : dayOfEra = 146096
    · omega
    · have whole : dayOfEra / 36524 = century := by omega
      omega
  by_cases late : 24 * century + cycle + 365 * year + dayOfYear < 1460
  · have cycles : dayOfEra / 1460 = 25 * century + cycle := by omega
    omega
  · have cycles : dayOfEra / 1460 = 25 * century + cycle + 1 := by omega
    omega

private theorem yearStart_eq {dayOfEra century cycle year dayOfYear : Int}
    (parts : InEra dayOfEra century cycle year dayOfYear) :
    365 * (100 * century + 4 * cycle + year) + (100 * century + 4 * cycle + year) / 4 -
      (100 * century + 4 * cycle + year) / 100 = dayOfEra - dayOfYear := by
  obtain ⟨total, _, _, _, _, _⟩ := parts
  have quads : (100 * century + 4 * cycle + year) / 4 = 25 * century + cycle := by omega
  have hundreds : (100 * century + 4 * cycle + year) / 100 = century := by omega
  rw [quads, hundreds]
  omega

private theorem isLeapYear_of_last {dayOfEra century cycle year dayOfYear : Int}
    (parts : InEra dayOfEra century cycle year dayOfYear) (last : dayOfYear = 365) (era : Int) :
    isLeapYear (100 * century + 4 * cycle + year + era * 400 + 1) = true := by
  obtain ⟨rfl, regular⟩ := parts.leap last
  have cycles := parts.cycles
  have byFour : (100 * century + 4 * cycle + 3 + era * 400 + 1) % 4 = 0 := by omega
  rcases regular with below | final
  · have notHundred : (100 * century + 4 * cycle + 3 + era * 400 + 1) % 100 ≠ 0 := by omega
    simp [isLeapYear, byFour, notHundred]
  · by_cases below : cycle < 24
    · have notHundred : (100 * century + 4 * cycle + 3 + era * 400 + 1) % 100 ≠ 0 := by omega
      simp [isLeapYear, byFour, notHundred]
    · have byEra : (100 * century + 4 * cycle + 3 + era * 400 + 1) % 400 = 0 := by omega
      simp [isLeapYear, byFour, byEra]

/-- The date of a day of a year that starts in March. -/
def ofYearDay (year dayOfYear : Int) : CivilDate :=
  let monthFromMarch := (5 * dayOfYear + 2) / 153
  let month := if monthFromMarch < 10 then monthFromMarch + 3 else monthFromMarch - 9
  ⟨if month ≤ 2 then year + 1 else year, month.toNat,
    (dayOfYear - (153 * monthFromMarch + 2) / 5 + 1).toNat⟩

theorem ofDay_eq (day : Int) : ∃ era yearOfEra dayOfYear : Int,
    ofDay day = ofYearDay (yearOfEra + era * 400) dayOfYear ∧
      day + 719468 =
        era * 146097 + (365 * yearOfEra + yearOfEra / 4 - yearOfEra / 100) + dayOfYear ∧
      (0 ≤ yearOfEra ∧ yearOfEra < 400) ∧ (0 ≤ dayOfYear ∧ dayOfYear ≤ 365) ∧
      (dayOfYear = 365 → isLeapYear (yearOfEra + era * 400 + 1) = true) := by
  obtain ⟨century, cycle, year, dayOfYear, parts⟩ :=
    exists_inEra ((day + 719468) % 146097) (by omega) (by omega)
  have start := yearStart_eq parts
  have years : 0 ≤ 100 * century + 4 * cycle + year ∧ 100 * century + 4 * cycle + year < 400 := by
    obtain ⟨_, _, _, _, _, _⟩ := parts
    omega
  refine ⟨(day + 719468) / 146097, 100 * century + 4 * cycle + year, dayOfYear, ?_, ?_, years,
    parts.days, fun last => isLeapYear_of_last parts last _⟩
  · simp only [ofDay, yearOfEra_eq parts, start, ofYearDay, Int.sub_sub_self]
  · rw [start]
    have split := Int.mul_ediv_add_emod (day + 719468) 146097
    omega

theorem month_of_day {dayOfYear : Int} (low : 0 ≤ dayOfYear) (high : dayOfYear ≤ 365) :
    let month := (5 * dayOfYear + 2) / 153
    0 ≤ month ∧ month ≤ 11 ∧ (153 * month + 2) / 5 ≤ dayOfYear ∧
      dayOfYear < (153 * (month + 1) + 2) / 5 := by
  simp only
  omega

private theorem toDay_ofYearDay {era yearOfEra dayOfYear : Int}
    (years : 0 ≤ yearOfEra ∧ yearOfEra < 400)
    (days : 0 ≤ dayOfYear ∧ dayOfYear ≤ 365) :
    (ofYearDay (yearOfEra + era * 400) dayOfYear).toDay =
      era * 146097 + (365 * yearOfEra + yearOfEra / 4 - yearOfEra / 100) + dayOfYear - 719468 := by
  obtain ⟨low, high, start, -⟩ := month_of_day days.1 days.2
  unfold ofYearDay
  simp only
  generalize (5 * dayOfYear + 2) / 153 = month at *
  have whole : (yearOfEra + era * 400) / 400 = era := by omega
  have part : (yearOfEra + era * 400) % 400 = yearOfEra := by omega
  have dayNumber : (((dayOfYear - (153 * month + 2) / 5 + 1).toNat : Nat) : Int) =
      dayOfYear - (153 * month + 2) / 5 + 1 := by omega
  -- January and February, months ten and eleven from March, belong to the next civil year
  by_cases early : month < 10
  · have name : (((month + 3).toNat : Nat) : Int) = month + 3 := by omega
    have sameYear : ¬(month + 3).toNat ≤ 2 := by omega
    have notNew : ¬month + 3 ≤ 2 := by omega
    simp only [toDay, if_pos early, if_neg notNew, if_neg sameYear,
      if_pos (Nat.lt_of_not_le sameYear), name, dayNumber, whole, part, Int.add_sub_cancel]
    omega
  · have name : (((month - 9).toNat : Nat) : Int) = month - 9 := by omega
    have nextYear : (month - 9).toNat ≤ 2 := by omega
    have new : month - 9 ≤ 2 := by omega
    simp only [toDay, if_neg early, if_pos new, if_pos nextYear,
      if_neg (Nat.not_lt_of_le nextYear), name, dayNumber, whole, part, Int.add_sub_cancel,
      Int.sub_add_cancel]
    omega

/-- A day number is read back from its date. -/
theorem toDay_ofDay (day : Int) : (ofDay day).toDay = day := by
  obtain ⟨era, yearOfEra, dayOfYear, date, total, years, days, -⟩ := ofDay_eq day
  rw [date, toDay_ofYearDay years days, ← total]
  omega

private theorem ofYearDay_exists {year dayOfYear : Int} (days : 0 ≤ dayOfYear ∧ dayOfYear ≤ 365)
    (leap : dayOfYear = 365 → isLeapYear (year + 1) = true) :
    (ofYearDay year dayOfYear).Exists := by
  obtain ⟨low, high, start, stop⟩ := month_of_day days.1 days.2
  unfold ofYearDay Exists
  simp only
  generalize (5 * dayOfYear + 2) / 153 = month at *
  by_cases february : month = 11
  · subst february
    have within : (dayOfYear - 337 + 1).toNat ≤ daysInMonth (year + 1) 2 := by
      unfold daysInMonth
      by_cases long : isLeapYear (year + 1) = true
      · rw [if_pos rfl, if_pos long]
        omega
      · have short : dayOfYear ≠ 365 := fun last => long (leap last)
        rw [if_pos rfl, if_neg long]
        omega
    refine ⟨by decide, by decide, ?_, within⟩
    omega
  · have others : month = 0 ∨ month = 1 ∨ month = 2 ∨ month = 3 ∨ month = 4 ∨ month = 5 ∨
        month = 6 ∨ month = 7 ∨ month = 8 ∨ month = 9 ∨ month = 10 := by omega
    rcases others with rfl | rfl | rfl | rfl | rfl | rfl | rfl | rfl | rfl | rfl | rfl <;>
      simp [daysInMonth] <;> omega

theorem ofDay_exists (day : Int) : (ofDay day).Exists := by
  obtain ⟨era, yearOfEra, dayOfYear, date, -, -, days, leap⟩ := ofDay_eq day
  rw [date]
  exact ofYearDay_exists days leap

private theorem ofYearDay_year {year dayOfYear : Int} (days : 0 ≤ dayOfYear ∧ dayOfYear ≤ 365) :
    (ofYearDay year dayOfYear).year = if dayOfYear < 306 then year else year + 1 := by
  obtain ⟨low, high, start, stop⟩ := month_of_day days.1 days.2
  unfold ofYearDay
  simp only
  generalize (5 * dayOfYear + 2) / 153 = month at *
  by_cases early : month < 10
  · rw [if_pos early, if_neg (by omega), if_pos (by omega)]
  · rw [if_neg early, if_pos (by omega), if_neg (by omega)]

/-- The days of an instant are the days of the years that the calendar reaches. -/
theorem ofDay_year {day : Int} (low : -96465292 ≤ day) (high : day ≤ 95026236) :
    -262143 ≤ (ofDay day).year ∧ (ofDay day).year ≤ 262142 := by
  obtain ⟨era, yearOfEra, dayOfYear, date, total, years, days, -⟩ := ofDay_eq day
  have first : -656 ≤ era := by omega
  have last : era ≤ 655 := by omega
  have early : era = -656 → 256 ≤ yearOfEra := by omega
  have late : era = 655 → yearOfEra ≤ 142 := by omega
  rw [date, ofYearDay_year days]
  split <;> omega

end ArchiveCatalog.CivilDate
