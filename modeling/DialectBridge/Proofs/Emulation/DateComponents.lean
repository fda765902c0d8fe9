import DialectBridge.Proofs.Calendar.Written
import DialectBridge.Proofs.Emulation.Calling

/-!
# The parts of a written date

A text that is read as a moment has the parts of the moment, and is formatted as the moment
is. For a date and a time of day that are written in full, with any fraction of the second,
the parts are those that were written; formatted in the same layout, the text comes back with
six decimal places of its fraction.
-/

namespace DialectBridge.Emulation

open Calendar (Clock Date Moment Stamp fractionChars momentChars nanosOfDigits renderFormat)
open Decimal (Digital padded places)

/-! ## Texts that are read as moments -/

section

variable {text : String} {moment : Moment} (function : String)

/-- A text that is read as a moment is a date argument. -/
theorem dateArgument_of_read (read : Stamp.read text.toList = some (.at moment)) :
    dateArgument function (.text text) = .ok (some (.at moment)) := by
  unfold dateArgument
  simp only [Value.asText?, read]

/-- A part of a text that is read as a moment is that of the moment. -/
theorem datePart_of_read (part : Moment → Int)
    (read : Stamp.read text.toList = some (.at moment)) :
    datePart part function (.text text) = .ok (.ofInt (part moment)) := by
  unfold datePart
  rw [dateArgument_of_read function read]
  rfl

/-- The hour of a text that is read as a moment is that of the moment. -/
theorem hourPart_of_read (read : Stamp.read text.toList = some (.at moment)) :
    hourPart function (.text text) = .ok (.ofInt moment.clock.hour) := by
  unfold hourPart
  simp only [Value.asText?, read]

/-- A text that is read as a moment is formatted as the moment is. -/
theorem formatDate_of_read (format : String)
    (read : Stamp.read text.toList = some (.at moment)) :
    formatDate function (.text text) (.text format) =
      .ok (textValue (renderFormat moment format.toList)) := by
  unfold formatDate
  rw [dateArgument_of_read function read]
  rfl

end

/-- A function that takes a part of a date gives that of the moment. -/
theorem evaluate_part {text : String} {moment : Moment} (env : Environment)
    (function : ValueFunction) (part : Moment → Int)
    (accepted : function.arity.accepts 1 = true)
    (takes : ∀ date, function.apply env [date] = datePart part function.name date)
    (read : Stamp.read text.toList = some (.at moment)) :
    evaluate env function.name [.text text] = .ok (.ofInt (part moment)) := by
  have called : evaluate env function.name [.text text] = function.apply env [.text text] :=
    evaluate_name env function accepted
  rw [called, takes]
  exact datePart_of_read function.name part read

/-! ## Fractions of the second -/

/-- Microseconds are written as six decimal places of the second. -/
theorem padded_micros {digits : List Char} (digital : Digital digits) :
    (padded 6 (nanosOfDigits digits / 1000)).toList = places 6 digits := by
  have cut : places 9 digits = places 6 digits ++ (places 9 digits).drop 6 := by
    rw [← Decimal.take_places (by decide : 6 ≤ 9), List.take_append_drop]
  have dropped : Digital ((places 9 digits).drop 6) :=
    fun c member => Decimal.digital_places 9 digital c (List.mem_of_mem_drop member)
  have count : ((places 9 digits).drop 6).length = 3 := by
    rw [List.length_drop, Decimal.length_places]
  have micros : nanosOfDigits digits / 1000 = Decimal.ofDigits (places 6 digits) := by
    have thousand : 10 ^ 3 = 1000 := by decide
    have divided := @Decimal.ofDigits_append_div (places 6 digits) _ dropped
    rwa [← cut, count, thousand, ← Calendar.nanosOfDigits_eq] at divided
  have written := Decimal.padded_ofDigits (Decimal.digital_places 6 digital)
    (Decimal.places_ne_nil (by decide) digits)
  rwa [Decimal.length_places, ← micros] at written

/-! ## Dates and times written in full -/

/-- The text of a date and a time of day, with the digits of a fraction of the second, if there
are any. -/
def fullText (date : Date) (hour minute second : Nat) (digits : List Char) : String :=
  String.ofList (momentChars date hour minute second ++ fractionChars digits)

/-- The format in the layout of texts that are written in full. -/
def fullFormat : String := "%Y-%m-%d %H:%i:%s.%f"

variable (date : Date) {hour minute second : Nat} {digits : List Char}

/-- A time of day that has so many seconds has the parts that are counted in them. -/
theorem parts_of_seconds {clock : Clock} (minutes : minute < 60) (seconds : second < 60)
    (counted : clock.seconds = 3600 * hour + 60 * minute + second) :
    clock.hour = hour ∧ clock.minute = minute ∧ clock.second = second := by
  unfold Clock.hour Clock.minute Clock.second
  rw [counted]
  omega

/-- A moment is formatted in full with six decimal places. -/
theorem renderFormat_fullFormat {clock : Clock} (minutes : minute < 60) (seconds : second < 60)
    (digital : Digital digits) (counted : clock.seconds = 3600 * hour + 60 * minute + second)
    (nanos : clock.nanos = nanosOfDigits digits) :
    renderFormat ⟨date, clock⟩ fullFormat.toList =
      momentChars date hour minute second ++ '.' :: places 6 digits := by
  obtain ⟨hourPart, minutePart, secondPart⟩ := parts_of_seconds minutes seconds counted
  have below := Calendar.nanosOfDigits_lt digital
  have written : clock.writtenSecond = second := by
    unfold Clock.writtenSecond
    rw [secondPart, nanos, Nat.div_eq_of_lt below, Nat.add_zero]
  have fraction : clock.fraction = nanosOfDigits digits := by
    unfold Clock.fraction
    rw [nanos, Nat.mod_eq_of_lt below]
  have format : fullFormat.toList = ['%', 'Y', '-', '%', 'm', '-', '%', 'd', ' ', '%', 'H', ':',
    '%', 'i', ':', '%', 's', '.', '%', 'f'] := by decide
  rw [format]
  simp [renderFormat, Calendar.renderSpecifier, Calendar.Component.ofSpecifier?,
    Calendar.Component.render, momentChars, Calendar.timeChars, hourPart, minutePart, written,
    fraction, padded_micros digital]

/-- The parts of a date and a time of day written in full are those that were written, and
formatted in full the text comes back with six decimal places of its fraction.

Proof: the text is read as a moment that has the date, the seconds and the nanoseconds that
were written, by the first layout and with all of its digits; every function takes what it
gives from that moment. -/
theorem components_agree_with_format (env : Environment) (hours : hour < 24)
    (minutes : minute < 60) (seconds : second < 60) (digital : Digital digits) :
    let text := .text (fullText date hour minute second digits)
    evaluate env "year" [text] = .ok (.ofInt date.year) ∧
      evaluate env "month" [text] = .ok (.ofInt date.month) ∧
      evaluate env "day" [text] = .ok (.ofInt date.day) ∧
      evaluate env "hour" [text] = .ok (.ofInt hour) ∧
      evaluate env "minute" [text] = .ok (.ofInt minute) ∧
      evaluate env "second" [text] = .ok (.ofInt second) ∧
      evaluate env "date_format" [text, .text fullFormat] =
        .ok (.text (fullText date hour minute second (places 6 digits))) := by
  obtain ⟨clock, counted, nanos, readChars⟩ :=
    Calendar.read_momentChars date hours minutes seconds digital
  obtain ⟨hourPart, minutePart, secondPart⟩ := parts_of_seconds minutes seconds counted
  have read : Stamp.read (fullText date hour minute second digits).toList =
      some (.at ⟨date, clock⟩) := by
    unfold fullText
    rw [String.toList_ofList]
    exact readChars
  have parts (function : ValueFunction) (part : Moment → Int)
      (accepted : function.arity.accepts 1 = true)
      (takes : ∀ date, function.apply env [date] = datePart part function.name date) :
      evaluate env function.name [.text (fullText date hour minute second digits)] =
        .ok (.ofInt (part ⟨date, clock⟩)) :=
    evaluate_part env function part accepted takes read
  have year := parts .year (fun moment => moment.date.year) rfl fun _ => rfl
  have month := parts .month (fun moment => moment.date.month) rfl fun _ => rfl
  have day := parts .day (fun moment => moment.date.day) rfl fun _ => rfl
  have minuteGiven := parts .minute (fun moment => moment.clock.minute) rfl fun _ => rfl
  have secondGiven := parts .second (fun moment => moment.clock.second) rfl fun _ => rfl
  have hourGiven := hourPart_of_read "hour" read
  have formatted := formatDate_of_read "date_format" fullFormat read
  have sixPlaces : fractionChars (places 6 digits) = '.' :: places 6 digits :=
    Calendar.fractionChars_of_ne_nil (Decimal.places_ne_nil (by decide) digits)
  rw [renderFormat_fullFormat date minutes seconds digital counted nanos, ← sixPlaces] at formatted
  dsimp only at minuteGiven secondGiven hourGiven
  rw [minutePart] at minuteGiven
  rw [secondPart] at secondGiven
  rw [hourPart] at hourGiven
  refine ⟨year, month, day, ?_, minuteGiven, secondGiven, ?_⟩
  · exact (evaluate_name env .hour rfl).trans hourGiven
  · exact (evaluate_name env .dateFormat rfl).trans formatted

/-- The leap day of a year before year zero, with seven digits of the last second's fraction. -/
theorem leap_day_before_year_zero_agrees :
    evaluate epoch "year" [.text "-0004-02-29 23:59:59.0123456"] = .ok (.integer (-4)) ∧
      evaluate epoch "second" [.text "-0004-02-29 23:59:59.0123456"] = .ok (.integer 59) ∧
      evaluate epoch "date_format" [.text "-0004-02-29 23:59:59.0123456",
        .text "%Y-%m-%d %H:%i:%s.%f"] = .ok (.text "-0004-02-29 23:59:59.012345") := by
  let date : Date := ⟨-4, 2, 29, by decide, by decide⟩
  let digits : List Char := ['0', '1', '2', '3', '4', '5', '6']
  have digital : Digital digits := by decide
  have text : fullText date 23 59 59 digits = "-0004-02-29 23:59:59.0123456" := by
    decide
  have formatted : fullText date 23 59 59 (places 6 digits) = "-0004-02-29 23:59:59.012345" := by
    decide
  obtain ⟨year, _, _, _, _, second, format⟩ := components_agree_with_format date epoch
    (by decide : 23 < 24) (by decide : 59 < 60) (by decide : 59 < 60) digital
  rw [text] at year second format
  rw [formatted] at format
  exact ⟨year, second, format⟩

end DialectBridge.Emulation
