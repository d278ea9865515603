import Reconcile.Calendar.Printer
import Reconcile.Calendar.Reader
import Reconcile.Proofs.Calendar.Date
import Reconcile.Proofs.Decimal.Rows
import Reconcile.Proofs.Store.Columns

set_option autoImplicit false

/-
Written points in time are read again: the date, the time of day to the microsecond, and the
offset, for every clock in UTC that shows a time of the calendar.
-/
namespace Reconcile

namespace Timestamp

def paddedDigits (width : Nat) (n : Int) : List Char :=
  List.replicate (width - (Nat.toDigits 10 n.natAbs).length) '0' ++ Nat.toDigits 10 n.natAbs

theorem toList_padded (width : Nat) (n : Int) : (padded width n).toList = paddedDigits width n :=
  String.toList_ofList

section Padded

variable {width : Nat} {n : Int}

theorem paddedDigits_row (width : Nat) (n : Int) : Row (paddedDigits width n) :=
  (Row.zeros _).append (.toDigits _)

theorem paddedDigits_value (width : Nat) (low : 0 ≤ n) :
    (Nat.ofDigitChars 10 (paddedDigits width n) 0 : Int) = n := by
  rw [paddedDigits, Decimal.ofDigitChars_zeros, Nat.ofDigitChars_ten_toDigits,
    Int.natAbs_of_nonneg low]

/-- A number that is not too great fills the width. -/
theorem paddedDigits_length (wide : 0 < width) (low : 0 ≤ n) (high : n < 10 ^ width) :
    (paddedDigits width n).length = width := by
  obtain ⟨m, rfl⟩ := Int.eq_ofNat_of_zero_le low
  have short : (Nat.toDigits 10 (m : Int).natAbs).length ≤ width := by
    rw [Nat.length_toDigits_le_iff (by decide) wide]
    exact_mod_cast high
  rw [paddedDigits, List.length_append, List.length_replicate]
  omega

end Padded

end Timestamp

namespace Calendar

open Timestamp

theorem mapM_asciiDigit? {cs : List Char} (row : Row cs) :
    cs.mapM Text.asciiDigit? = some (cs.map (·.toNat - 48)) := by
  induction cs with
  | nil => rfl
  | cons c cs ih =>
    rw [List.mapM_cons, Text.asciiDigit?_of_isDigit (row c List.mem_cons_self),
      ih fun d member => row d (List.mem_cons_of_mem c member)]
    rfl

theorem takeNumber_row {cs : List Char} (row : Row cs) (rest : List Char) :
    takeNumber cs.length (cs ++ rest) = some ((Nat.ofDigitChars 10 cs 0 : Int), rest) := by
  simp only [takeNumber, List.take_left, List.drop_left, mapM_asciiDigit? row,
    Option.bind_eq_bind, Option.bind_some, List.length_map, if_true, Decimal.ofDigits_map]

theorem takeNumber_padded {width : Nat} {n : Int} (wide : 0 < width) (low : 0 ≤ n)
    (high : n < 10 ^ width) (rest : List Char) :
    takeNumber width (paddedDigits width n ++ rest) = some (n, rest) := by
  have taken := takeNumber_row (paddedDigits_row width n) rest
  rwa [paddedDigits_length wide low high, paddedDigits_value width low] at taken

theorem takeMark_cons {allowed : List Char} {c : Char} (listed : allowed.contains c = true)
    (rest : List Char) : takeMark allowed (c :: rest) = some rest := if_pos listed

theorem takeDate_dateText {date : Date} (valid : date.valid = true) (low : 0 ≤ date.year)
    (high : date.year ≤ 9999) (rest : List Char) :
    takeDate ((dateText date).toList ++ rest) = some (date, rest) := by
  have bounds := valid
  simp only [Date.valid, decide_eq_true_eq] at bounds
  obtain ⟨firstMonth, lastMonth, firstDay, lastDay⟩ := bounds
  have shortMonth : date.day ≤ 31 := by
    refine lastDay.trans ?_
    unfold daysInMonth
    split_ifs <;> decide
  have text : (dateText date).toList ++ rest = paddedDigits 4 date.year ++ '-' ::
      (paddedDigits 2 date.month ++ '-' :: (paddedDigits 2 date.day ++ rest)) := by
    simp [dateText, String.toList_append, toList_padded]
  rw [text, takeDate, takeNumber_padded (by decide) low (by omega)]
  simp only [Option.bind_eq_bind, Option.bind_some,
    takeMark_cons (show ['-'].contains '-' from rfl)]
  rw [takeNumber_padded (by decide) (by omega) (by omega)]
  simp only [Option.bind_some, takeMark_cons (show ['-'].contains '-' from rfl)]
  rw [takeNumber_padded (by decide) (by omega) (by omega)]
  simp only [Option.bind_some]
  rw [if_pos valid]

/-- The offset of a clock in UTC. -/
def utcMark : List Char := ['+', '0', '0', ':', '0', '0']

theorem takeFraction_text {fraction : Int} (low : 0 ≤ fraction) (high : fraction < second) :
    takeFraction ((if fraction = 0 then "" else "." ++ padded 6 fraction).toList ++ utcMark) =
      some (fraction, utcMark) := by
  split
  · rename_i none
    rw [none]
    rfl
  · have text : ("." ++ padded 6 fraction).toList ++ utcMark =
        '.' :: (paddedDigits 6 fraction ++ utcMark) := by
      rw [String.toList_append, toList_padded]
      rfl
    have length := @paddedDigits_length 6 fraction (by decide) low (by
      simp only [second] at high
      omega)
    have value := paddedDigits_value 6 low
    have stops : ∀ c ∈ utcMark.head?, c.isDigit = false := by
      rintro c ⟨⟩
      rfl
    have zeros : List.replicate (9 - 6) 0 = (List.replicate 3 '0').map (·.toNat - 48) := rfl
    rw [text, takeFraction, takeMark_cons (by rfl)]
    dsimp only
    rw [Decimal.takeDigits_append (paddedDigits_row 6 fraction) stops]
    simp only [List.length_map, length, zeros, ← List.map_append, Decimal.ofDigits_map,
      Nat.ofDigitChars_append, Nat.ofDigitChars_replicate_zero]
    rw [if_neg (by simp [List.isEmpty_iff, ← List.length_eq_zero_iff, length])]
    push_cast
    rw [value]
    simp

/-- The characters of a time of day from hours to the fraction of a second. -/
theorem toList_timeText (micros : Int) (rest : List Char) :
    (timeText micros).toList ++ rest =
      paddedDigits 2 (micros / second / 3600) ++ ':' ::
        (paddedDigits 2 (micros / second / 60 % 60) ++ ':' ::
          (paddedDigits 2 (micros / second % 60) ++
            ((if micros % second = 0 then "" else "." ++ padded 6 (micros % second)).toList ++
              rest))) := by
  simp only [timeText, String.toList_append, toList_padded, List.append_assoc]
  rfl

theorem takeTime_timeText {micros : Int} (low : 0 ≤ micros) (high : micros < day) :
    takeTime ((timeText micros).toList ++ utcMark) = some (micros, utcMark) := by
  have fraction : 0 ≤ micros % second ∧ micros % second < second :=
    ⟨Int.emod_nonneg _ (by decide), Int.emod_lt_of_pos _ (by decide)⟩
  have taken := takeFraction_text fraction.1 fraction.2
  rw [toList_timeText]
  have whole := Int.emod_add_mul_ediv micros second
  have bounds : 0 ≤ micros / second ∧ micros / second < 86400 := by
    simp only [day, second] at high ⊢
    omega
  generalize micros / second = seconds at *
  generalize micros % second = part at *
  have hours : 0 ≤ seconds / 3600 ∧ seconds / 3600 ≤ 23 := by omega
  have minutes : 0 ≤ seconds / 60 % 60 ∧ seconds / 60 % 60 ≤ 59 := by omega
  have rest : 0 ≤ seconds % 60 ∧ seconds % 60 ≤ 59 := by omega
  have sum : (seconds / 3600 * 60 + seconds / 60 % 60) * 60 + seconds % 60 = seconds := by omega
  rw [takeTime, takeNumber_padded (by decide) hours.1 (by omega)]
  simp only [Option.bind_eq_bind, Option.bind_some,
    takeMark_cons (show [':'].contains ':' from rfl)]
  rw [takeNumber_padded (by decide) minutes.1 (by omega)]
  simp only [Option.bind_some, takeMark_cons (show [':'].contains ':' from rfl)]
  rw [takeNumber_padded (by decide) rest.1 (by omega)]
  simp only [Option.bind_some, taken]
  rw [if_pos ⟨hours.2, minutes.2, rest.2⟩, sum, Int.mul_comm, Int.add_comm, whole]

end Calendar

namespace Timestamp

theorem read?_text {micros : Int} (inside : onCalendar micros = true) :
    Calendar.read? (utc micros).text = some (utc micros) := by
  obtain ⟨first, last⟩ := onCalendar_iff.mp inside
  simp only [firstWall, lastWall, second] at first last
  have days : -719162 ≤ micros / day ∧ micros / day ≤ 2932896 := by
    simp only [day, second]
    omega
  obtain ⟨year, year'⟩ := Calendar.ofDays_year days.1 days.2
  have characters : (utc micros).text.toList = (dateText (.ofDays (micros / day))).toList ++
      'T' :: ((timeText (micros % day)).toList ++ Calendar.utcMark) := by
    have mark : (offsetText 0).toList = Calendar.utcMark := by decide
    have letter : "T".toList = ['T'] := rfl
    simp only [text, textWith, utc, String.toList_append, List.append_assoc, Option.map_some,
      Option.getD_some, mark, letter, List.cons_append, List.nil_append]
  have time := Calendar.takeTime_timeText (Int.emod_nonneg micros (show day ≠ 0 by decide))
    (Int.emod_lt_of_pos micros (show 0 < day by decide))
  have whole := Int.emod_add_mul_ediv micros day
  unfold Calendar.read?
  rw [characters, Calendar.takeDate_dateText (Calendar.ofDays_valid _) year year']
  simp only [Option.bind_eq_bind, Option.bind_some]
  rw [Calendar.takeMark_cons (by rfl), Calendar.toDays_ofDays]
  simp only [Option.bind_some, time]
  rw [Int.mul_comm, Int.add_comm, whole]
  have offset : Calendar.readOffset Calendar.utcMark = some (some 0) := by decide
  rw [offset]
  rfl

end Timestamp

end Reconcile
