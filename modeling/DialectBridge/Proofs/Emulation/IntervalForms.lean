import DialectBridge.Proofs.Calendar.WrittenIntervals
import DialectBridge.Proofs.Emulation.Calling

/-!
# Interval arguments

The functions that shift a date read their second argument as an interval before they look at
the date, so that a text that is no interval is a fault of every such call. Which texts are
intervals, and of how much, does not depend on how they are spaced and capitalised, or on
what their numbers are separated by.
-/

namespace DialectBridge.Emulation

open Calendar (Blanks Interval IntervalUnit Moment Numbers Separation WrittenInterval)

/-- Reads an interval argument. -/
def intervalArgument (text : String) : Except Fault Interval :=
  match Interval.read text.toList with
  | none => .error (.malformedInterval text)
  | some interval => .ok interval

/-- Shifts a date by an interval, backwards when subtracting. -/
def shiftBy (subtract : Bool) (function : String) (now : Moment) (date : String)
    (interval : Interval) : Except Fault Value :=
  (shiftBase function now date).bind fun base =>
    match base with
    | none => .ok .null
    | some (moment, dateOnly) =>
      match interval.duration.shift? moment subtract with
      | none => .error (.invalidArgument function (.shiftOutOfRange date interval.unit))
      | some shifted =>
        .ok (.text ((if dateOnly then Calendar.writeDate else Calendar.writeMoment) shifted))

/-- A shift reads its interval and shifts by it. -/
theorem shiftDate_text (subtract : Bool) (function : String) (now : Moment)
    (date text : String) : shiftDate subtract function now (.text date) (.text text) =
      (intervalArgument text).bind (shiftBy subtract function now date) := by
  unfold shiftDate intervalArgument shiftBy
  simp only [Value.asText?]
  cases Interval.read text.toList with
  | none => rfl
  | some interval =>
    simp only [bind, Except.bind]
    cases shiftBase function now date with
    | error fault => rfl
    | ok base =>
      rcases base with _ | ⟨moment, dateOnly⟩
      · rfl
      · dsimp only
        cases interval.duration.shift? moment subtract <;> rfl

/-- An interval argument is read in every form in which it can be written, as its unit with the
amount in which each field of the unit has its number: the last fields have the numbers that are
written, with the one sign in front of them, and the fields before them have zero. Only weeks
are refused, if there are so many that their days do not fit in 64 bits. And a text in which a
word behind the quantity names no unit is no interval, whatever the quantity is.

Proof: of the words behind the keyword the last one names the unit. Those in front of it are the
quantity with single spaces; without its quotation marks that begins with the sign, if there is
one, and the pieces of the rest are the digits of the numbers. -/
theorem intervals_read_in_every_form :
    (∀ written : WrittenInterval, intervalArgument (String.ofList written.chars) =
      if written.unit.TooManyWeeks written.components then
        .error (.malformedInterval (String.ofList written.chars))
      else .ok ⟨written.unit, written.unit.amount written.components⟩) ∧
    ∀ (before : Blanks) (keyword quantity : List Char) (space : Blanks) (name : List Char)
      (after : Blanks), keyword.map Char.toLower = Interval.keyword → space.chars ≠ [] →
      name ≠ [] → (∀ c ∈ name, Text.isBlank c = false) →
      (∀ unit : IntervalUnit, Text.lower name ≠ unit.name.toList) →
      let text := String.ofList (Interval.form before keyword quantity space name after)
      intervalArgument text = .error (.malformedInterval text) := by
  constructor
  · intro written
    unfold intervalArgument
    rw [String.toList_ofList, written.read_chars]
    by_cases tooMany : written.unit.TooManyWeeks written.components
    · rw [if_pos tooMany, if_pos tooMany]
    · rw [if_neg tooMany, if_neg tooMany]
  · intro before keyword quantity space name after isKeyword apart nonempty visible noUnit text
    have unnamed : IntervalUnit.ofName? (Text.lower name) = none := by
      unfold IntervalUnit.ofName?
      rw [List.find?_eq_none]
      intro unit _ named
      exact noUnit unit (beq_iff_eq.mp named).symm
    have unread : Interval.read text.toList = none := by
      rw [String.toList_ofList, Interval.read_form isKeyword before quantity apart nonempty visible,
        unnamed]
      split <;> rfl
    unfold intervalArgument
    rw [unread]

/-- Four numbers with a sign between quotation marks are read, and a word for two weeks names no
unit. -/
theorem signed_day_second_read :
    intervalArgument "\tInterval' -2 03:04:05 ' Day_Second " =
        .ok ⟨.daySecond, .clock (-2) (-3) (-4) (-5)⟩ ∧
      intervalArgument "INTERVAL 1 FORTNIGHT" =
        .error (.malformedInterval "INTERVAL 1 FORTNIGHT") := by
  let space : Blanks := ⟨[' '], by decide⟩
  let nothing : Blanks := ⟨[], by decide⟩
  let blank : Separation := ⟨[' '], by decide, by decide⟩
  let colon : Separation := ⟨[':'], by decide, by decide⟩
  let numbers : Numbers :=
    { first := ⟨['2'], by decide, by decide, by decide⟩
      further :=
        [(blank, ⟨['0', '3'], by decide, by decide, by decide⟩),
         (colon, ⟨['0', '4'], by decide, by decide, by decide⟩),
         (colon, ⟨['0', '5'], by decide, by decide, by decide⟩)] }
  let written : WrittenInterval :=
    { before := ⟨['\t'], by decide⟩
      keyword := "Interval".toList
      gap := nothing
      quantity := ⟨.single, space, .minus, numbers, space⟩
      space := space
      unit := .daySecond
      name := "Day_Second".toList
      after := space
      isKeyword := by decide
      apart := by decide
      isName := by decide
      within := by decide }
  have text : String.ofList written.chars = "\tInterval' -2 03:04:05 ' Day_Second " := by decide
  have few : ¬written.unit.TooManyWeeks written.components := by decide
  have amount : written.unit.amount written.components = .clock (-2) (-3) (-4) (-5) := by decide
  constructor
  · have read := intervals_read_in_every_form.1 written
    rw [if_neg few, text, amount] at read
    exact read
  · have unread := intervals_read_in_every_form.2 nothing "INTERVAL".toList " 1".toList space
      "FORTNIGHT".toList nothing (by decide) (by decide) (by decide) (by decide)
      (by intro unit; cases unit <;> decide)
    exact unread

end DialectBridge.Emulation
