import Reconcile.Payload.Field
import Reconcile.Proofs.Text.Spacing

set_option autoImplicit false

/-
The ends of texts that are read as points in time. A date begins with a digit, and what ends a text
is a digit or the letter Z, so there is no white space around it.
-/
namespace Reconcile

open Text (isAsciiSpace)

/-- A character that is not white space is the last to be read before the rest. -/
def Consumes (cs rest : List Char) : Prop :=
  ∃ front c, cs = front ++ c :: rest ∧ isAsciiSpace c = false

namespace Consumes

variable {cs middle rest : List Char}

theorem of_visible {row : List Char} (some : row ≠ [])
    (visible : ∀ c ∈ row, isAsciiSpace c = false) : Consumes (row ++ rest) rest := by
  refine ⟨row.dropLast, row.getLast some, ?_, visible _ (List.getLast_mem some)⟩
  rw [← List.singleton_append, ← List.append_assoc, List.dropLast_concat_getLast some]

theorem after (suffix : middle <:+ cs) (later : Consumes middle rest) : Consumes cs rest := by
  obtain ⟨before, rfl⟩ := suffix
  obtain ⟨front, c, rfl, visible⟩ := later
  exact ⟨before ++ front, c, (List.append_assoc _ _ _).symm, visible⟩

theorem suffix (consumes : Consumes cs rest) : rest <:+ cs := by
  obtain ⟨front, c, rfl, -⟩ := consumes
  exact ⟨front ++ [c], by rw [List.append_assoc, List.singleton_append]⟩

theorem last (whole : Consumes cs []) : ∀ c ∈ cs.getLast?, isAsciiSpace c = false := by
  obtain ⟨front, c, rfl, visible⟩ := whole
  intro d last
  rw [List.getLast?_concat] at last
  cases last
  exact visible

end Consumes

theorem not_isAsciiSpace_of_digit {c : Char} {value : Nat}
    (digit : Text.asciiDigit? c = some value) : isAsciiSpace c = false := by
  unfold Text.asciiDigit? at digit
  split at digit
  · rename_i between
    rw [Bool.eq_false_iff]
    intro space
    simp only [isAsciiSpace, Bool.or_eq_true, Bool.and_eq_true, decide_eq_true_eq] at space
    rcases space with rfl | space
    · revert between
      decide
    · omega
  · cases digit

namespace Calendar

variable {cs rest : List Char}

theorem asciiDigit?_of_mapM {digits : List Nat} (done : cs.mapM Text.asciiDigit? = some digits) :
    digits.length = cs.length ∧ ∀ c ∈ cs, isAsciiSpace c = false := by
  induction cs generalizing digits with
  | nil =>
    cases done
    exact ⟨rfl, fun c member => absurd member List.not_mem_nil⟩
  | cons c cs ih =>
    simp only [List.mapM_cons, Option.bind_eq_bind, Option.bind_eq_some_iff] at done
    obtain ⟨digit, first, others, later, same⟩ := done
    cases same
    obtain ⟨length, visible⟩ := ih later
    exact ⟨congrArg (· + 1) length,
      List.forall_mem_cons.mpr ⟨not_isAsciiSpace_of_digit first, visible⟩⟩

theorem takeNumber_consumes {width : Nat} {n : Int} (wide : 0 < width)
    (taken : takeNumber width cs = some (n, rest)) :
    Consumes cs rest ∧ ∀ c ∈ cs.head?, isAsciiSpace c = false := by
  simp only [takeNumber, Option.bind_eq_bind, Option.bind_eq_some_iff] at taken
  obtain ⟨digits, row, taken⟩ := taken
  split at taken
  · rename_i full
    cases taken
    obtain ⟨length, visible⟩ := asciiDigit?_of_mapM row
    have some : cs.take width ≠ [] := by
      rw [← List.length_pos_iff, ← length, full]
      exact wide
    have consumes : Consumes (cs.take width ++ cs.drop width) (cs.drop width) :=
      .of_visible some visible
    rw [List.take_append_drop] at consumes
    refine ⟨consumes, fun c first => visible c ?_⟩
    · refine List.mem_of_head? ?_
      rw [List.head?_take, if_neg wide.ne']
      exact first
  · cases taken

theorem takeMark_suffix {allowed : List Char} (taken : takeMark allowed cs = some rest) :
    rest <:+ cs := by
  unfold takeMark at taken
  split at taken
  · rename_i c tail
    split at taken
    · cases taken
      exact List.suffix_cons c rest
    · cases taken
  · cases taken

theorem takeDate_consumes {date : Date} (taken : takeDate cs = some (date, rest)) :
    Consumes cs rest ∧ ∀ c ∈ cs.head?, isAsciiSpace c = false := by
  simp only [takeDate, Option.bind_eq_bind, Option.bind_eq_some_iff] at taken
  obtain ⟨⟨year, afterYear⟩, readYear, afterMark, mark, ⟨month, afterMonth⟩, readMonth,
    afterSecond, second, ⟨day, afterDay⟩, readDay, taken⟩ := taken
  split at taken
  · cases taken
    obtain ⟨first, begins⟩ := takeNumber_consumes (by decide) readYear
    refine ⟨?_, begins⟩
    have last := (takeNumber_consumes (by decide) readDay).1
    exact ((last.after (takeMark_suffix second)).after
      (takeNumber_consumes (by decide) readMonth).1.suffix).after
        ((takeMark_suffix mark).trans first.suffix)
  · cases taken

theorem takeDigits_spec (cs : List Char) {digits : List Nat}
    (taken : Decimal.takeDigits cs = (digits, rest)) :
    ∃ row : List Char, cs = row ++ rest ∧ row.length = digits.length ∧
      ∀ c ∈ row, isAsciiSpace c = false := by
  induction cs generalizing digits with
  | nil =>
    cases taken
    exact ⟨[], rfl, rfl, fun c member => absurd member List.not_mem_nil⟩
  | cons c cs ih =>
    unfold Decimal.takeDigits at taken
    split at taken
    · rename_i value digit
      cases taken
      obtain ⟨row, whole, length, visible⟩ := ih rfl
      refine ⟨c :: row, congrArg (c :: ·) whole, congrArg (· + 1) length, ?_⟩
      exact List.forall_mem_cons.mpr ⟨not_isAsciiSpace_of_digit digit, visible⟩
    · cases taken
      exact ⟨[], rfl, rfl, fun c member => absurd member List.not_mem_nil⟩

theorem takeFraction_suffix {micros : Int} (taken : takeFraction cs = some (micros, rest)) :
    rest = cs ∨ Consumes cs rest := by
  unfold takeFraction at taken
  split at taken
  · cases taken
    exact Or.inl rfl
  · rename_i tail mark
    dsimp only at taken
    split at taken
    · cases taken
    · rename_i some
      cases taken
      obtain ⟨row, whole, length, visible⟩ := takeDigits_spec tail rfl
      have nonempty : row ≠ [] := by
        rintro rfl
        simp only [Bool.or_eq_true, not_or, List.isEmpty_iff] at some
        exact some.1 (List.eq_nil_of_length_eq_zero length.symm)
      refine Or.inr (.after (takeMark_suffix mark) ?_)
      have consumes := @Consumes.of_visible (Decimal.takeDigits tail).2 row nonempty visible
      rwa [← whole] at consumes

theorem takeTime_consumes {micros : Int} (taken : takeTime cs = some (micros, rest)) :
    Consumes cs rest := by
  simp only [takeTime, Option.bind_eq_bind, Option.bind_eq_some_iff] at taken
  obtain ⟨⟨hour, afterHour⟩, readHour, afterMark, mark, ⟨minute, afterMinute⟩, readMinute,
    taken⟩ := taken
  have minutes : Consumes cs afterMinute :=
    (takeNumber_consumes (by decide) readMinute).1.after
      ((takeMark_suffix mark).trans (takeNumber_consumes (by decide) readHour).1.suffix)
  dsimp only at taken
  split at taken
  · simp only [Option.bind_some] at taken
    split at taken
    · cases taken
      exact minutes
    · cases taken
  · rename_i afterSecond second
    simp only [Option.bind_some, Option.bind_eq_some_iff] at taken
    obtain ⟨⟨seconds, afterNumber⟩, readNumber, ⟨fraction, afterFraction⟩, readFraction,
      taken⟩ := taken
    have number : Consumes cs afterNumber :=
      (takeNumber_consumes (by decide) readNumber).1.after
        ((takeMark_suffix second).trans minutes.suffix)
    split at taken
    · cases taken
      rcases takeFraction_suffix readFraction with same | later
      · exact same ▸ number
      · exact later.after number.suffix
    · cases taken

theorem readOffsetSize_consumes {seconds : Int} (read : readOffsetSize cs = some seconds) :
    Consumes cs [] := by
  simp only [readOffsetSize, Option.bind_eq_bind, Option.bind_eq_some_iff] at read
  obtain ⟨⟨hours, afterHours⟩, readHours, ⟨minutes, rest⟩, readMinutes, read⟩ := read
  split at read
  · rename_i within
    simp only [Bool.and_eq_true, List.isEmpty_iff] at within
    obtain ⟨⟨rfl, -⟩, -⟩ := within
    have suffix : (takeMark [':'] afterHours).getD afterHours <:+ afterHours := by
      cases mark : takeMark [':'] afterHours with
      | none => exact List.suffix_refl afterHours
      | some rest => exact takeMark_suffix mark
    exact (takeNumber_consumes (by decide) readMinutes).1.after
      (suffix.trans (takeNumber_consumes (by decide) readHours).1.suffix)
  · cases read

theorem readOffset_consumes {offset : Option Int} (read : readOffset cs = some offset) :
    cs = [] ∨ Consumes cs [] := by
  unfold readOffset at read
  split at read
  · exact Or.inl rfl
  · exact Or.inr ⟨[], 'Z', rfl, rfl⟩
  · exact Or.inr ⟨[], 'z', rfl, rfl⟩
  · rename_i sign tail _ _
    right
    have suffix := List.suffix_cons sign tail
    split at read
    · obtain ⟨size, sized, -⟩ := Option.map_eq_some_iff.mp read
      exact (readOffsetSize_consumes sized).after suffix
    · split at read
      · obtain ⟨size, sized, -⟩ := Option.map_eq_some_iff.mp read
        exact (readOffsetSize_consumes sized).after suffix
      · cases read

/-- What is read as a point in time has no white space around it. -/
theorem read?_trimmed {written : String} {t : Timestamp} (read : read? written = some t) :
    Text.Trimmed isAsciiSpace written.toList := by
  simp only [read?, Option.bind_eq_bind, Option.bind_eq_some_iff] at read
  obtain ⟨⟨date, afterDate⟩, readDate, read⟩ := read
  obtain ⟨dated, begins⟩ := takeDate_consumes readDate
  refine ⟨begins, ?_⟩
  dsimp only at read
  split at read
  · exact dated.last
  · simp only [Option.bind_eq_some_iff] at read
    obtain ⟨afterMark, mark, ⟨micros, afterTime⟩, readTime, offset, readZone, -⟩ := read
    have timed : Consumes written.toList afterTime :=
      (takeTime_consumes readTime).after ((takeMark_suffix mark).trans dated.suffix)
    rcases readOffset_consumes readZone with none | zoned
    · dsimp only at none
      rw [none] at timed
      exact timed.last
    · exact (zoned.after timed.suffix).last

end Calendar

namespace Payload

theorem takeSign_visible {cs : List Char}
    (visible : ∀ c ∈ (Decimal.takeSign cs).2, isAsciiSpace c = false) :
    ∀ c ∈ cs, isAsciiSpace c = false := by
  unfold Decimal.takeSign at visible
  split at visible
  · exact List.forall_mem_cons.mpr ⟨rfl, visible⟩
  · exact List.forall_mem_cons.mpr ⟨rfl, visible⟩
  · exact visible

/-- A text that is read as a number of seconds has no white space in it. -/
theorem numeralMicros?_visible {written : String} {micros : Option Int}
    (read : numeralMicros? written = some micros) :
    ∀ c ∈ written.toList, isAsciiSpace c = false := by
  unfold numeralMicros? at read
  refine takeSign_visible ?_
  dsimp only at read
  split at read
  · rename_i taken
    obtain ⟨row, whole, -, visible⟩ := Calendar.takeDigits_spec _ taken
    rw [whole, List.append_nil]
    exact visible
  · rename_i taken
    obtain ⟨row, whole, -, visible⟩ := Calendar.takeDigits_spec _ taken
    split at read
    · rename_i fraction taken
      obtain ⟨row', whole', -, visible'⟩ := Calendar.takeDigits_spec _ taken
      rw [whole, whole', List.append_nil]
      exact List.forall_mem_append.mpr ⟨visible, List.forall_mem_cons.mpr ⟨rfl, visible'⟩⟩
    · cases read
  · cases read

/-- A point in time is read only from a text without white space around it. -/
theorem moment_core {written : String} {t : Timestamp}
    (done : moment (.string written) = .ok t) : String.ofList (Text.core written) = written := by
  have trimmed : Text.Trimmed isAsciiSpace written.toList := by
    rw [moment, momentText] at done
    split at done
    · rename_i clock read
      exact Calendar.read?_trimmed read
    · split at done
      · rename_i read
        exact Text.trimmed_of_forall (numeralMicros?_visible read)
      · cases done
  rw [Text.core, Text.trimBy_eq_self trimmed, String.ofList_toList]

end Payload

end Reconcile
