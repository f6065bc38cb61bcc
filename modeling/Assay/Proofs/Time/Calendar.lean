import Assay.Time.Timestamp
import Mathlib.Tactic.IntervalCases

/-!
# The calendar

An era has 400 years that begin in March. A day of an era is a day of a year, in a group of four
years, in a century; only the last year of a group may have a 366th day, and the last group of a
century has one in the last century only. So the date of every count of days is one of its month.
-/

namespace Assay.Date

/-! ## Days of an era -/

/-- Whether a century, a group of four years in it, a year of the group and a day of the year give a
day of an era. -/
def InEra (century group year day : Nat) : Prop :=
  century ≤ 3 ∧ group ≤ 24 ∧ year ≤ 3 ∧
    (day < 365 ∨ day = 365 ∧ year = 3 ∧ (group < 24 ∨ century = 3))

theorem exists_inEra {day : Nat} (h : day < 146097) :
    ∃ c g y d, InEra c g y d ∧ day = 36524 * c + 1461 * g + 365 * y + d := by
  -- the last day of an era belongs to the fourth century, which is a day longer than the others
  obtain ⟨c, rest, century, le, within, split⟩ : ∃ c rest, c ≤ 3 ∧ rest ≤ 36524 ∧
      (rest < 36524 ∨ c = 3) ∧ day = 36524 * c + rest := by
    by_cases last : day = 146096
    · exact ⟨3, 36524, by omega, by omega, by omega, by omega⟩
    · exact ⟨day / 36524, day % 36524, by omega, by omega, by omega, by omega⟩
  obtain ⟨y, d, year, last, split'⟩ : ∃ y d, y ≤ 3 ∧ (d < 365 ∨ d = 365 ∧ y = 3) ∧
      rest % 1461 = 365 * y + d := by
    by_cases last : rest % 1461 = 1460
    · exact ⟨3, 365, by omega, by omega, by omega⟩
    · exact ⟨rest % 1461 / 365, rest % 1461 % 365, by omega, by omega, by omega⟩
  refine ⟨c, rest / 1461, y, d, ⟨century, by omega, year, ?_⟩, by omega⟩
  rcases last with early | ⟨late, fourth⟩
  · exact .inl early
  · exact .inr ⟨late, fourth, by omega⟩

variable {c g y d : Nat}

/-- The year of a day of an era, without a search for it. -/
theorem yearOfEra_eq (h : InEra c g y d) (day : Nat)
    (split : day = 36524 * c + 1461 * g + 365 * y + d) :
    (day - day / 1460 + day / 36524 - day / 146096) / 365 = 100 * c + 4 * g + y := by
  obtain ⟨century, group, year, last⟩ := h
  by_cases final : day = 146096
  · have : c = 3 ∧ g = 24 ∧ y = 3 := by omega
    obtain ⟨rfl, rfl, rfl⟩ := this
    rw [final]
  · have hundreds : day / 36524 = c := by omega
    have whole : day / 146096 = 0 := by omega
    rw [hundreds, whole]
    -- every century and year of a group has bounds of its own
    interval_cases c <;> interval_cases y <;> omega

theorem daysBefore_eq (h : InEra c g y d) :
    365 * (100 * c + 4 * g + y) + (100 * c + 4 * g + y) / 4 - (100 * c + 4 * g + y) / 100 =
      36524 * c + 1461 * g + 365 * y := by
  obtain ⟨century, group, year, last⟩ := h
  have fourths : (100 * c + 4 * g + y) / 4 = 25 * c + g := by omega
  have hundreds : (100 * c + 4 * g + y) / 100 = c := by omega
  rw [fourths, hundreds]
  omega

/-- A year with a 366th day ends in a leap year. -/
theorem isLeap_of_last (h : InEra c g y 365) (era : Int) :
    isLeap (era * 400 + ((100 * c + 4 * g + y : Nat) : Int) + 1) = true := by
  obtain ⟨century, group, year, last⟩ := h
  have third : y = 3 := by omega
  have full : g < 24 ∨ c = 3 ∧ g = 24 := by omega
  subst third
  simp only [isLeap, Bool.and_eq_true, Bool.or_eq_true, beq_iff_eq, bne_iff_ne]
  refine ⟨by omega, ?_⟩
  rcases full with inside | ⟨rfl, rfl⟩
  · exact .inl (by omega)
  · exact .inr (by omega)

/-! ## Days of a month -/

/-- A day of a year that begins in March is one of its month. -/
theorem day_le_monthLength {year : Int} {day : Nat} (h : day ≤ 365)
    (leap : day = 365 → isLeap (year + 1) = true) :
    let shifted := (5 * day + 2) / 153
    let month := if shifted < 10 then shifted + 3 else shifted - 9
    (1 ≤ month ∧ month ≤ 12) ∧ day - (153 * shifted + 2) / 5 + 1 ≤
      monthLength (year + if month ≤ 2 then 1 else 0) month := by
  intro shifted month
  obtain ⟨m, eq⟩ : ∃ m, (5 * day + 2) / 153 = m := ⟨_, rfl⟩
  have le : m ≤ 11 := by omega
  simp only [shifted, month, eq]
  refine ⟨by split <;> omega, ?_⟩
  -- February comes last; the length of every other month is a number
  by_cases february : m = 11
  · subst february
    show _ ≤ if isLeap (year + 1) then 29 else 28
    by_cases last : day = 365
    · rw [if_pos (leap last)]
      omega
    · split <;> omega
  · have others : m ≤ 10 := by omega
    interval_cases m <;> simp [monthLength] <;> omega

/-- The date of a count of days is one of the calendar. -/
theorem ofEpochDay_inMonth (days : Int) :
    (1 ≤ (ofEpochDay days).month ∧ (ofEpochDay days).month ≤ 12) ∧
      1 ≤ (ofEpochDay days).day ∧
      (ofEpochDay days).day ≤ monthLength (ofEpochDay days).year (ofEpochDay days).month := by
  obtain ⟨era, eraEq⟩ : ∃ era, (days + 719468).fdiv 146097 = era := ⟨_, rfl⟩
  obtain ⟨day, dayEq⟩ : ∃ day, (days + 719468 - era * 146097).toNat = day := ⟨_, rfl⟩
  have inside : day < 146097 := by
    rw [Int.fdiv_eq_ediv_of_nonneg _ (by decide)] at eraEq
    omega
  obtain ⟨c, g, y, d, inEra, split⟩ := exists_inEra inside
  have le : d ≤ 365 := by
    obtain ⟨-, -, -, last⟩ := inEra
    omega
  have ordinal : day - (36524 * c + 1461 * g + 365 * y) = d := by omega
  have leap (last : d = 365) :
      isLeap (era * 400 + ((100 * c + 4 * g + y : Nat) : Int) + 1) = true :=
    isLeap_of_last (last ▸ inEra) era
  obtain ⟨month, most⟩ := day_le_monthLength le leap
  simp only [ofEpochDay, eraEq, dayEq, yearOfEra_eq inEra day split, daysBefore_eq inEra, ordinal]
  exact ⟨month, Nat.succ_pos _, most⟩

/-- The year of a date is not before the first one of its era. -/
theorem era_le_year (days : Int) :
    (days + 719468).fdiv 146097 * 400 ≤ (ofEpochDay days).year := by
  simp only [ofEpochDay]
  generalize (days + 719468).fdiv 146097 = era
  split <;> omega

end Assay.Date
