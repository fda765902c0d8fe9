import DialectBridge.Proofs.Calendar.Signs
import DialectBridge.Proofs.Calendar.Totals

/-!
# Intervals of one whole number

A whole number with the name of a unit is read as so many of the unit exactly if its magnitude
is a number of 64 bits. So an interval of days has just the days that are written, and a shift
by it is a move by their seconds.
-/

namespace DialectBridge.Calendar

open Decimal (Digital maxInt64 ofDigits)
open Text (isBlank)

/-! ## Magnitudes out of range -/

/-- Digits of a number that is too large are not read. -/
theorem readInt64_eq_none {digits : List Char} (nonempty : digits ≠ []) (digital : Digital digits)
    (beyond : maxInt64 < (ofDigits digits : Int)) : Decimal.readInt64 digits = none := by
  have lost : Decimal.checked (ofDigits digits : Int) = none := by
    rw [Option.eq_none_iff_forall_ne_some]
    intro kept found
    have within := (Decimal.checked_eq_some_iff.mp found).1.2
    omega
  unfold Decimal.readInt64
  rw [Decimal.readSigned_digits nonempty digital, Option.bind_some, lost]

namespace Interval

section

variable {number : Int} (beyond : maxInt64 < (number.natAbs : Int))
include beyond

/-- No quantity is a whole number with a magnitude that is too large. -/
theorem readQuantity_number_eq_none (unit : IntervalUnit) :
    readQuantity unit (respaced (toString number).toList) = none := by
  have digital := Decimal.digital_toDigits number.natAbs
  have magnitude := Decimal.ofDigits_toDigits number.natAbs
  have nonempty : Nat.toDigits 10 number.natAbs ≠ [] := Nat.toDigits_ne_nil
  rw [Decimal.toList_toString_int]
  generalize Nat.toDigits 10 number.natAbs = digits at digital magnitude nonempty
  have unread : readComponents digits = none := by
    have inside : ∀ c ∈ digits, isSeparator c = false :=
      fun c member => isSeparator_of_isDigit (digital c member)
    have tooLarge := readInt64_eq_none nonempty digital (by rwa [magnitude])
    change (Text.pieces isSeparator _).mapM Decimal.readInt64 = none
    rw [Text.pieces_piece nonempty inside, List.mapM_cons, tooLarge]
    rfl
  have plainDigits : ∀ c ∈ digits, isBlank c = false ∧ isQuote c = false := by
    intro c member
    refine ⟨Text.isBlank_of_isDigit (digital c member), Bool.eq_false_iff.mpr fun quote => ?_⟩
    rcases isQuote_iff.mp quote with rfl | rfl <;> exact absurd (digital _ member) (by decide)
  unfold readQuantity
  by_cases negative : number < 0
  · rw [if_pos negative, List.singleton_append, trim_strip_word (List.cons_ne_nil _ _)
      (List.forall_mem_cons.mpr ⟨by decide, plainDigits⟩)]
    simp only [takeSign, unread, Option.bind_none]
  · obtain ⟨c, rest, rfl⟩ := List.exists_cons_of_ne_nil nonempty
    rw [if_neg negative, List.nil_append, trim_strip_word nonempty plainDigits,
      takeSign_of_isDigit (digital c List.mem_cons_self)]
    simp only [unread, Option.bind_none]

/-- A whole number with a magnitude that is too large is no interval with any unit. -/
theorem read_number_eq_none {unit : IntervalUnit} {name : List Char}
    (isName : Text.lower name = unit.name.toList) :
    read ("INTERVAL ".toList ++ (toString number).toList ++ ' ' :: name) = none := by
  let nothing : Blanks := ⟨[], by decide⟩
  let space : Blanks := ⟨[' '], by decide⟩
  have visible := Text.isBlank_of_mem_of_lower unit.isSmall_of_mem_name isName
  have nonempty := IntervalUnit.ne_nil_of_lower isName
  have formed : "INTERVAL ".toList ++ (toString number).toList ++ ' ' :: name =
      form nothing "INTERVAL".toList (space.chars ++ (toString number).toList) space name
        nothing := by
    simp [form, nothing, space]
  rw [formed, read_form (by decide) nothing _ (List.cons_ne_nil _ _) nonempty visible, isName,
    IntervalUnit.ofName?_name, Option.bind_some, respaced_blanks_append space.blank,
    readQuantity_number_eq_none beyond]
  split <;> rfl

end

/-- The interval of so many days, in words. -/
def daysText (days : Int) : String := "INTERVAL " ++ toString days ++ " DAY"

/-- What is read of a number of days has that number of days. -/
theorem read_daysText {days : Int} {interval : Interval}
    (found : read (daysText days).toList = some interval) :
    interval = ⟨.day, .clock days 0 0 0⟩ := by
  have isName : Text.lower "DAY".toList = IntervalUnit.day.name.toList := by decide
  have characters : (daysText days).toList =
      "INTERVAL ".toList ++ (toString days).toList ++ ' ' :: "DAY".toList := by
    unfold daysText
    rw [String.toList_append, String.toList_append]
    rfl
  rw [characters] at found
  by_cases fits : (days.natAbs : Int) ≤ maxInt64
  · have amount : IntervalUnit.day.amount [days] = .clock days 0 0 0 := by
      simp [IntervalUnit.amount, IntervalUnit.CountsMonths, IntervalUnit.fields,
        IntervalUnit.factor, Field.numberAmong]
    have read := WrittenInterval.read_single fits isName rfl (by decide)
    rw [amount, found] at read
    exact Option.some.inj read
  · rw [read_number_eq_none (Int.not_le.mp fits) isName] at found
    exact absurd found.symm (Option.some_ne_none interval)

end Interval

/-- A shift forwards by days is a move by their seconds. -/
theorem Duration.addSeconds?_of_shift?_days {days : Int} {moment later : Moment}
    (shifted : (clock days 0 0 0).shift? moment false = some later) :
    moment.addSeconds? (86400 * days) = some later := by
  have oneSign : IsOneSigned (clock days 0 0 0) := by
    unfold IsOneSigned
    omega
  obtain ⟨total, counted, moved⟩ := Option.bind_eq_some_iff.mp shifted
  rw [clockSeconds?_eq oneSign, duration?, Option.ite_none_right_eq_some] at counted
  obtain ⟨_, same⟩ := counted
  have seconds : total = 86400 * days := by
    rw [← Option.some.inj same]
    omega
  rw [← seconds]
  exact moved

end DialectBridge.Calendar
