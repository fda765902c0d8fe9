import DialectBridge.Proofs.Calendar.Stamps
import DialectBridge.Proofs.Emulation.DateComponents

/-!
# Which texts are dates

A text is meant to be a date if it is written in one of the layouts and names a moment, or marks
the zero date, and the functions that take a part of a date refuse every other text. The zero
date is looked for at the front of a text only, though: whatever is behind it, the text is
taken for it and all of its parts are zero. Exactly where such a text does not mark the zero
date, what is read is not what is meant.
-/

namespace DialectBridge.Emulation

open Calendar (IsWritten IsZeroText Moment Stamp zeroDate)

/-- What a text without blanks around it is meant to be read as. -/
def IsMeant (text : List Char) (read : Option Stamp) : Prop :=
  (read = some .zero ↔ IsZeroText text) ∧
    ∀ moment, read = some (.at moment) ↔ IsWritten text moment

/-- A text is read as what is meant, unless it begins as the zero date does but does not mark
it. -/
theorem isMeant_read_iff (text : List Char) :
    IsMeant (Text.trim text) (Stamp.read text) ↔
      (zeroDate <+: Text.trim text → IsZeroText (Text.trim text)) := by
  constructor
  · intro meant front
    exact meant.1.mp (Stamp.read_eq_zero_iff.mpr front)
  · intro marked
    constructor
    · rw [Stamp.read_eq_zero_iff]
      exact ⟨marked, IsZeroText.zeroDate_prefix⟩
    · intro moment
      exact Stamp.read_eq_at_iff

/-- A text is read as no date if it does not begin as the zero date and names no moment. -/
theorem read_eq_none_iff (text : List Char) : Stamp.read text = none ↔
    ¬zeroDate <+: Text.trim text ∧ ∀ moment, ¬IsWritten (Text.trim text) moment := by
  rw [← Stamp.read_eq_zero_iff, Option.eq_none_iff_forall_ne_some]
  constructor
  · intro noStamp
    refine ⟨noStamp .zero, fun moment written => ?_⟩
    exact noStamp (.at moment) (Stamp.read_eq_at_iff.mpr written)
  · rintro ⟨noZero, noMoment⟩ (_ | moment)
    · exact noZero
    · exact fun read => noMoment moment (Stamp.read_eq_at_iff.mp read)

/-! ## Parts of dates -/

/-- The functions that take a part of a date. -/
def extractions : List ValueFunction := [.year, .month, .day, .hour, .minute, .second]

section

variable (function : String) {text : String}

/-- A text that is no date has no part of one. -/
theorem datePart_of_no_date (part : Moment → Int) (noDate : Stamp.read text.toList = none) :
    datePart part function (.text text) = .error (.invalidDate function text) := by
  unfold datePart dateArgument
  simp only [Value.asText?, noDate]
  rfl

/-- Every part of the zero date is zero. -/
theorem datePart_of_zero (part : Moment → Int) (zero : Stamp.read text.toList = some .zero) :
    datePart part function (.text text) = .ok (.integer 0) := by
  unfold datePart dateArgument
  simp only [Value.asText?, zero]
  rfl

/-- A part of a date is refused exactly if the text is none. -/
theorem datePart_refused_iff (part : Moment → Int) :
    datePart part function (.text text) = .error (.invalidDate function text) ↔
      Stamp.read text.toList = none := by
  constructor
  · intro refused
    rcases read : Stamp.read text.toList with _ | _ | moment
    · rfl
    · rw [datePart_of_zero function part read] at refused
      exact absurd refused (by simp)
    · rw [datePart_of_read function part read] at refused
      exact absurd refused (by simp)
  · exact datePart_of_no_date function part

/-- The hour of the zero date is zero. -/
theorem hourPart_of_zero (zero : Stamp.read text.toList = some .zero) :
    hourPart function (.text text) = .ok (.integer 0) := by
  unfold hourPart
  simp only [Value.asText?, zero]

/-- An hour is refused exactly if the text is neither a date nor a time without one. -/
theorem hourPart_refused_iff :
    hourPart function (.text text) = .error (.invalidDate function text) ↔
      Stamp.read text.toList = none ∧ bareHours text.toList = none := by
  rcases read : Stamp.read text.toList with _ | _ | moment
  · unfold hourPart
    simp only [Value.asText?, read]
    cases bareHours text.toList <;> simp
  · rw [hourPart_of_zero function read]
    simp
  · rw [hourPart_of_read function read]
    simp

end

/-- What a function that takes a part of a date refuses, and what it takes from the zero date. -/
theorem extraction_refused_iff {function : ValueFunction} (extracts : function ∈ extractions)
    (env : Environment) (text : String) :
    (function.apply env [.text text] = .error (.invalidDate function.name text) ↔
      Stamp.read text.toList = none ∧ (function = .hour → bareHours text.toList = none)) ∧
    (Stamp.read text.toList = some .zero → function.apply env [.text text] = .ok (.integer 0)) := by
  have parts (part : Moment → Int) (noHour : function ≠ .hour) :
      (datePart part function.name (.text text) = .error (.invalidDate function.name text) ↔
        Stamp.read text.toList = none ∧ (function = .hour → bareHours text.toList = none)) ∧
      (Stamp.read text.toList = some .zero →
        datePart part function.name (.text text) = .ok (.integer 0)) := by
    constructor
    · rw [datePart_refused_iff]
      exact (and_iff_left fun hour => absurd hour noHour).symm
    · exact datePart_of_zero function.name part
  simp only [extractions, List.mem_cons, List.not_mem_nil, or_false] at extracts
  rcases extracts with rfl | rfl | rfl | rfl | rfl | rfl
  · exact parts (fun moment => moment.date.year) (by decide)
  · exact parts (fun moment => moment.date.month) (by decide)
  · exact parts (fun moment => moment.date.day) (by decide)
  · constructor
    · have refused := @hourPart_refused_iff ValueFunction.hour.name text
      refine Iff.trans refused (and_congr_right fun _ => ?_)
      exact ⟨fun noHours _ => noHours, fun noHours => noHours rfl⟩
    · exact hourPart_of_zero ValueFunction.hour.name
  · exact parts (fun moment => moment.clock.minute) (by decide)
  · exact parts (fun moment => moment.clock.second) (by decide)

/-- What a text is read as is what it is meant to be, exactly if it does not begin as the zero
date does or marks it. It is read as the zero date if it begins as that does, as a moment if it
is written in one of the layouts and names the moment, and as no date otherwise; blanks around
it do not count. Then every function that takes a part of a date refuses it, but for the hour
of a time without a date. Of a text that is read as the zero date every part is zero.

Proof: a layout reads a text exactly if the text is written in it, by induction on its pieces;
any two layouts that read a text make the same parts out of it; and out of a text that begins
as the zero date does they make a month that is zero, which no moment has. -/
theorem only_dates_accepted_iff (env : Environment) (text : String) :
    let chars := Text.trim text.toList
    let stamp := Stamp.read text.toList
    (IsMeant chars stamp ↔ (zeroDate <+: chars → IsZeroText chars)) ∧
    ((stamp = some .zero ↔ zeroDate <+: chars) ∧
      (∀ moment, stamp = some (.at moment) ↔ IsWritten chars moment) ∧
      (stamp = none ↔ ¬zeroDate <+: chars ∧ ∀ moment, ¬IsWritten chars moment)) ∧
    ∀ (name : String) (function : ValueFunction), lookup name = some (.value function) →
      function ∈ extractions →
      (evaluate env name [.text text] = .error (.invalidDate function.name text) ↔
        stamp = none ∧ (function = .hour → bareHours text.toList = none)) ∧
      (stamp = some .zero → evaluate env name [.text text] = .ok (.integer 0)) := by
  intro chars stamp
  refine ⟨isMeant_read_iff text.toList, ⟨Stamp.read_eq_zero_iff, fun _ => Stamp.read_eq_at_iff,
    read_eq_none_iff text.toList⟩, ?_⟩
  intro name function found extracts
  have accepted : ∀ other ∈ extractions, other.arity.accepts 1 = true := by decide
  have called : evaluate env name [.text text] = function.apply env [.text text] :=
    evaluate_of_lookup env found (accepted function extracts)
  rw [called]
  exact extraction_refused_iff extracts env text

/-- The zero date with midnight behind it is read as the zero date, as it is meant to be, and a
day that no February has is refused. -/
theorem zero_midnight_meant :
    IsMeant "0000-00-00 00:00:00".toList (Stamp.read "0000-00-00 00:00:00".toList) ∧
      evaluate epoch "dayofmonth" [.text "2024-02-30"] =
        .error (.invalidDate "day" "2024-02-30") := by
  have midnight : Calendar.Written
      [.part .hour, .mark ':', .part .minute, .mark ':', .part .second] {} "00:00:00".toList {} :=
    Calendar.readPieces_eq_some_iff.mp (by decide)
  have marked : IsZeroText "0000-00-00 00:00:00".toList :=
    .dateTime (.inl rfl) (by decide) midnight (by decide)
  have trimmed : Text.trim "0000-00-00 00:00:00".toList = "0000-00-00 00:00:00".toList := by decide
  constructor
  · have meant := (only_dates_accepted_iff epoch "0000-00-00 00:00:00").1.mpr
    rw [trimmed] at meant
    exact meant fun _ => marked
  · have refused := (only_dates_accepted_iff epoch "2024-02-30").2.2 "dayofmonth" .day rfl
      (by decide)
    exact refused.1.mpr ⟨by decide, by decide⟩

/-- A letter behind the zero date makes a text that marks nothing, and it is read as the zero
date nevertheless: its year is zero. -/
theorem letter_behind_zero_date_accepted :
    ¬IsMeant "0000-00-00x".toList (Stamp.read "0000-00-00x".toList) ∧
      evaluate epoch "year" [.text "0000-00-00x"] = .ok (.integer 0) := by
  have zero : Stamp.read "0000-00-00x".toList = some .zero := by decide
  constructor
  · intro meant
    have marked : IsZeroText (zeroDate ++ ['x']) := meant.1.mp zero
    exact absurd marked.head?_mem (by decide)
  · exact (evaluate_name epoch .year rfl).trans (datePart_of_zero "year" _ zero)

end DialectBridge.Emulation
