import Mathlib.Data.Fin.Basic
import Mathlib.Tactic.NormNum
import Reconcile.Calendar.Date

set_option autoImplicit false

/-
Days and dates. Years are counted from March and in eras of 400, so that the year of a day is found
by a division that leap days disturb but little.
-/
namespace Reconcile.Calendar

/-- The day of an era on which a year of it begins, in March. -/
def yearStart (year : Int) : Int := 365 * year + year / 4 - year / 100

/-- The year of an era that a day of it belongs to. -/
def yearAt (day : Int) : Int := (day - day / 1460 + day / 36524 - day / 146096) / 365

theorem yearAt_mono {a b : Int} (le : a ≤ b) : yearAt a ≤ yearAt b := by
  have leap : a - a / 1460 ≤ b - b / 1460 := by omega
  have century : a / 36524 - a / 146096 ≤ b / 36524 - b / 146096 := by omega
  exact Int.ediv_le_ediv (by decide) (by omega)

/-- The division is right on the first and on the last day of each year. -/
theorem yearAt_yearStart : ∀ year : Fin 400, yearAt (yearStart year) = year ∧
    (year ≠ 0 → yearAt (yearStart year - 1) = (year : Int) - 1) := by
  decide +kernel

/-- And so it is on the days between. -/
theorem yearAt_spec {day : Int} (low : 0 ≤ day) (high : day < 146097) :
    0 ≤ yearAt day ∧ yearAt day < 400 ∧ yearStart (yearAt day) ≤ day ∧
      (yearAt day < 399 → day < yearStart (yearAt day + 1)) := by
  have first : 0 ≤ yearAt day := yearAt_mono low
  have last : yearAt day ≤ 399 := yearAt_mono (show day ≤ 146096 by omega)
  refine ⟨first, by omega, ?_, ?_⟩
  · by_contra early
    obtain ⟨year, same⟩ := Int.eq_ofNat_of_zero_le first
    obtain ⟨-, before⟩ := yearAt_yearStart ⟨year, by omega⟩
    simp only [← same] at before
    by_cases zero : year = 0
    · rw [same, zero] at early
      exact early low
    · have earlier := yearAt_mono (show day ≤ yearStart (yearAt day) - 1 by omega)
      rw [before fun none => zero (Fin.mk.inj none)] at earlier
      omega
  · intro more
    by_contra late
    obtain ⟨year, same⟩ := Int.eq_ofNat_of_zero_le (show 0 ≤ yearAt day + 1 by omega)
    obtain ⟨begins, -⟩ := yearAt_yearStart ⟨year, by omega⟩
    simp only [← same] at begins
    have later := yearAt_mono (not_lt.mp late)
    omega

/-- A year has 365 days, and one more if the next one, counted from January, is a leap year. -/
theorem yearStart_next : ∀ year : Fin 400,
    let length := if isLeap (year + 1) then 366 else 365
    (year : Int) < 399 → yearStart (year + 1) = yearStart year + length := by
  decide +kernel

def fromMarch (year day : Int) : Date :=
  let monthFromMarch := (5 * day + 2) / 153
  let month := if monthFromMarch < 10 then monthFromMarch + 3 else monthFromMarch - 9
  ⟨if month ≤ 2 then year + 1 else year, month, day - (153 * monthFromMarch + 2) / 5 + 1⟩

/-- A day of a year, both counted from March, and the years from the beginning of an era. -/
structure InYear (year day : Int) : Prop where
  first : 0 ≤ year
  last : year < 400
  low : 0 ≤ day
  high : day < if isLeap (year + 1) then 366 else 365

/-- A day of an era lies in one of its years. -/
theorem inYear_yearAt {day : Int} (low : 0 ≤ day) (high : day < 146097) :
    InYear (yearAt day) (day - yearStart (yearAt day)) := by
  obtain ⟨first, last, begins, ends⟩ := yearAt_spec low high
  refine ⟨first, last, by omega, ?_⟩
  obtain ⟨year, same⟩ := Int.eq_ofNat_of_zero_le first
  have next := yearStart_next ⟨year, by omega⟩
  simp only [← same] at next
  by_cases more : yearAt day < 399
  · have after := ends more
    rw [next more] at after
    omega
  · have final : yearAt day = 399 := by omega
    rw [final]
    exact show day - 145731 < 366 by omega

theorem ofDays_eq (days : Int) :
    ∃ era year day, InYear year day ∧ days + 719468 = era * 146097 + yearStart year + day ∧
      Date.ofDays days = fromMarch (year + era * 400) day := by
  have low := Int.emod_nonneg (days + 719468) (show (146097 : Int) ≠ 0 by decide)
  have high := Int.emod_lt_of_pos (days + 719468) (show (0 : Int) < 146097 by decide)
  have whole := Int.emod_add_mul_ediv (days + 719468) 146097
  exact ⟨(days + 719468) / 146097, _, _, inYear_yearAt low high, by omega, rfl⟩

theorem InYear.day_le {year day : Int} (inside : InYear year day) : day ≤ 365 := by
  have high := inside.high
  split at high <;> omega

theorem toDays_fromMarch {year day : Int} (inside : InYear year day) (era : Int) :
    (fromMarch (year + era * 400) day).toDays = era * 146097 + yearStart year + day - 719468 := by
  have high := inside.day_le
  obtain ⟨first, last, low, -⟩ := inside
  simp only [fromMarch, Date.toDays, yearStart]
  split <;> split <;> omega

theorem toDays_ofDays (days : Int) : (Date.ofDays days).toDays = days := by
  obtain ⟨era, year, day, inside, whole, same⟩ := ofDays_eq days
  rw [same, toDays_fromMarch inside]
  omega

theorem isLeap_era (year era : Int) : isLeap (year + era * 400) = isLeap year := by
  have four : (year + era * 400) % 4 = year % 4 := by omega
  have hundred : (year + era * 400) % 100 = year % 100 := by omega
  have all : (year + era * 400) % 400 = year % 400 := by omega
  rw [isLeap, isLeap, four, hundred, all]

theorem daysInMonth_of_ne {month : Int} (other : month ≠ 2) (first second : Int) :
    daysInMonth first month = daysInMonth second month := by
  rw [daysInMonth, daysInMonth, if_neg other, if_neg other]

/-- The months from March to January have their days in every year. -/
theorem fromMarch_valid_of_lt (year : Int) {day : Int} (low : 0 ≤ day) (high : day < 337) :
    (fromMarch year day).valid = true := by
  have valid : ∀ day : Fin 337, (fromMarch 0 day).month ≠ 2 ∧ (fromMarch 0 day).valid = true := by
    decide +kernel
  obtain ⟨n, rfl⟩ := Int.eq_ofNat_of_zero_le low
  obtain ⟨other, fits⟩ := valid ⟨n, by omega⟩
  rw [← fits, Date.valid, Date.valid, daysInMonth_of_ne other _ (fromMarch year n).year]
  rfl

theorem ofDays_valid (days : Int) : (Date.ofDays days).valid = true := by
  obtain ⟨era, year, day, inside, whole, same⟩ := ofDays_eq days
  rw [same]
  rcases lt_or_ge day 337 with early | late
  · exact fromMarch_valid_of_lt _ inside.low early
  · -- What is left are the days of February.
    have last := inside.high
    have final := inside.day_le
    have month : (5 * day + 2) / 153 = 11 := by omega
    have leap : isLeap (year + era * 400 + 1) = isLeap (year + 1) := by
      rw [show year + era * 400 + 1 = year + 1 + era * 400 by omega, isLeap_era]
    simp only [fromMarch, month, Date.valid, daysInMonth]
    norm_num
    rw [leap]
    split at last <;> rename_i kind <;> simp only [kind, if_true, Bool.false_eq_true, if_false] <;>
      omega

theorem ofDays_year {days : Int} (low : -719162 ≤ days) (high : days ≤ 2932896) :
    0 ≤ (Date.ofDays days).year ∧ (Date.ofDays days).year ≤ 9999 := by
  obtain ⟨era, year, day, inside, whole, same⟩ := ofDays_eq days
  have final := inside.day_le
  obtain ⟨first, last, start, -⟩ := inside
  rw [same]
  simp only [fromMarch, yearStart] at whole ⊢
  split <;> omega

end Reconcile.Calendar
