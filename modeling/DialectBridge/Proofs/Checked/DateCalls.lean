import DialectBridge.Proofs.Calendar.Differences
import DialectBridge.Proofs.Checked.Conversions
import DialectBridge.Proofs.Checked.Intervals

/-!
# Checked date functions

Each function reads its arguments in its own order and by their positions. The parts of a date are
small, and so are the seconds and the days between dates, since years are bounded. Local time
is universal time, so that a moment does not leave the calendar by being told in local time.
-/

namespace DialectBridge.Checked

open Calendar (Clock Date Moment Stamp)
open Text (Utf8.width)

/-! ## Arguments -/

/-- The date in an argument; none for null. -/
def Call.date (call : Call) (index : Nat) : Run (Option Stamp) := do
  match ← call.text index with
  | none => return none
  | some text =>
    match Stamp.read text.toList with
    | some stamp => return some stamp
    | none => throw (.fault (.invalidDate call.name text))

/-- The moment of a timestamp. -/
def Call.moment (call : Call) (timestamp : Value) : Run Moment := do
  match ← asWhole timestamp with
  | none => do
    let text ← asText timestamp
    throw (.fault (.invalidArgument call.name (.notTimestamp (text.getD ""))))
  | some timestamp =>
    match Moment.ofTimestamp? timestamp with
    | some moment => return moment
    | none => throw (.fault (.invalidArgument call.name (.timestampOutOfRange timestamp)))

variable {call : Call} {value : Value}

/-- A date is read without a breach. -/
theorem Call.date_eq {index : Nat} (there : call.argument index = .ok value) :
    call.date index = unbreached (Emulation.dateArgument call.name value) := by
  unfold Call.date Emulation.dateArgument
  rw [Call.text_eq there, ok_bind]
  cases value.asText? with
  | none => rfl
  | some text =>
    dsimp only
    cases Stamp.read text.toList <;> rfl

/-- A timestamp is read without a breach. -/
theorem Call.moment_eq (call : Call) (timestamp : Value) :
    call.moment timestamp = unbreached (Emulation.momentArgument call.name timestamp) := by
  unfold Call.moment Emulation.momentArgument
  rw [asWhole_eq, ok_bind]
  cases timestamp.toInt? with
  | none =>
    dsimp only
    rw [asText_eq]
    rfl
  | some number =>
    dsimp only
    cases Moment.ofTimestamp? number <;> rfl

/-! ## Parts of dates -/

/-- A numeric part of a date. -/
def datePart (part : Moment → Int) (call : Call) : Run Value := do
  match ← call.date 0 with
  | none => return .null
  | some .zero => return .integer 0
  | some (.at moment) => integer (part moment)

/-- The hours of a bare time, which are the first of its numbers. -/
def bareHours (text : List Char) : Run (Option Int) :=
  let parts := Text.splitAt (· == ':') ((Text.trim text).dropWhile (· == '-'))
  if parts.length < 2 || parts.length > 3 then return none
  else match parts.mapM Decimal.readNat32 with
    | none => return none
    | some numbers => do
      let hours ← element numbers 0
      let kept ← whole hours
      return some kept

/-- The hour of a date, or the hours of a bare time. -/
def hour (call : Call) : Run Value := do
  match ← call.text 0 with
  | none => return .null
  | some text =>
    match Stamp.read text.toList with
    | some .zero => return .integer 0
    | some (.at moment) => integer moment.clock.hour
    | none =>
      match ← bareHours text.toList with
      | some hours => return .ofInt hours
      | none => throw (.fault (.invalidDate call.name text))

/-- The timestamp of now, or that of a date. -/
def unixTimestamp (call : Call) : Run Value :=
  if call.arguments.isEmpty then integer call.env.now.timestamp
  else datePart Moment.timestamp call

/-- A part that fits in 64 bits is read without a breach. -/
theorem datePart_eq (there : call.argument 0 = .ok value) {part : Moment → Int}
    (fits : ∀ moment, Decimal.minInt64 ≤ part moment ∧ part moment ≤ Decimal.maxInt64) :
    datePart part call = unbreached (Emulation.datePart part call.name value) := by
  unfold datePart Emulation.datePart
  rw [Call.date_eq there, unbreached_bind]
  congr 1
  funext stamp
  rcases stamp with _ | _ | moment
  · rfl
  · rfl
  · dsimp only
    rw [integer_eq (fits moment)]
    rfl

/-- The first number of a bare time is there, and is one of 32 bits. -/
theorem bareHours_eq (text : List Char) :
    bareHours text = .ok ((Emulation.bareHours text).map Int.ofNat) := by
  unfold bareHours Emulation.bareHours
  dsimp only
  generalize Text.splitAt (· == ':') ((Text.trim text).dropWhile (· == '-')) = parts
  by_cases count : (parts.length < 2 || parts.length > 3) = true
  · rw [if_pos count, if_pos count]
    rfl
  · rw [if_neg count, if_neg count]
    cases numbers : parts.mapM Decimal.readNat32 with
    | none => rfl
    | some listed =>
      cases parts with
      | nil => simp at count
      | cons part others =>
        rw [List.mapM_cons] at numbers
        obtain ⟨first, read, rest⟩ := Option.bind_eq_some_iff.mp numbers
        obtain ⟨further, _, same⟩ := Option.bind_eq_some_iff.mp rest
        obtain rfl := Option.some.inj same
        have bounded : first < 0x100000000 := by
          unfold Decimal.readNat32 at read
          simpa using (Option.filter_eq_some_iff.mp read).2
        have kept : whole (first : Int) = .ok first := by
          apply whole_natCast
          unfold Decimal.maxInt64
          omega
        dsimp only [element, List.getElem?_cons_zero]
        rw [ok_bind, kept]
        rfl

/-- The parts of a moment are small. -/
theorem parts_fit (moment : Moment) :
    (Decimal.minInt64 ≤ moment.date.year ∧ moment.date.year ≤ Decimal.maxInt64) ∧
      moment.date.month ≤ 12 ∧ moment.date.day ≤ 31 ∧ moment.clock.hour ≤ 23 ∧
      moment.clock.minute ≤ 59 ∧ moment.clock.second ≤ 59 := by
  obtain ⟨notBefore, notAfter⟩ := moment.date.inRange
  have below := moment.clock.seconds_lt
  have days := Calendar.daysInMonth_le moment.date.year moment.date.month
  have day := moment.date.onCalendar.2
  unfold Calendar.firstYear at notBefore
  unfold Calendar.lastYear at notAfter
  unfold Calendar.secondsPerDay at below
  unfold Clock.hour Clock.minute Clock.second Decimal.minInt64 Decimal.maxInt64
  exact ⟨⟨by omega, by omega⟩, moment.date.month_mem.2, by omega, by omega, by omega, by omega⟩

/-- A small number fits in 64 bits. -/
theorem natCast_fits {number : Nat} (small : number ≤ 0x100000000) :
    Decimal.minInt64 ≤ (number : Int) ∧ (number : Int) ≤ Decimal.maxInt64 := by
  unfold Decimal.minInt64 Decimal.maxInt64
  omega

/-- An hour is read without a breach. -/
theorem hour_eq (there : call.argument 0 = .ok value) :
    hour call = unbreached (Emulation.hourPart call.name value) := by
  unfold hour Emulation.hourPart
  rw [Call.text_eq there, ok_bind]
  cases value.asText? with
  | none => rfl
  | some text =>
    dsimp only
    cases Stamp.read text.toList with
    | some stamp =>
      cases stamp with
      | zero => rfl
      | «at» moment =>
        obtain ⟨_, _, _, small, _⟩ := parts_fit moment
        dsimp only
        rw [integer_eq (natCast_fits (by omega))]
        rfl
    | none =>
      dsimp only
      rw [bareHours_eq, ok_bind]
      cases Emulation.bareHours text.toList <;> rfl

/-- A timestamp is given without a breach, for one argument or none. -/
theorem unixTimestamp_eq (there : call.argument 0 = .ok value) :
    unixTimestamp call = unbreached (Emulation.timestampOf call.name value) := by
  have some : call.arguments.isEmpty = false := by
    unfold Call.argument element at there
    cases listed : call.arguments with
    | nil => simp [listed] at there
    | cons first others => rfl
  unfold unixTimestamp
  rw [some, if_neg Bool.false_ne_true]
  exact datePart_eq there Moment.timestamp_fits

/-! ## Formats -/

/-- A moment under a format. The room that is asked for is eight octets more than the format
has. -/
def render (moment : Moment) (format : String) : Run Value := do
  let _ ← size ((Utf8.width format.toList : Int) + 8)
  return Emulation.textValue (Calendar.renderFormat moment format.toList)

/-- A timestamp as canonical text, or under a format if there is one. -/
def fromUnixTime (call : Call) : Run Value := do
  match ← call.argument 0 with
  | .null => return .null
  | timestamp => do
    let moment ← call.moment timestamp
    match call.arguments[1]? with
    | none => return .text (Calendar.writeMoment moment)
    | some format =>
      match ← asText format with
      | none => return .null
      | some format => render moment format

/-- A date under a format, which is read first. -/
def dateFormat (call : Call) : Run Value := do
  match ← call.text 1 with
  | none => return .null
  | some format =>
    match ← call.date 0 with
    | some (.at moment) => render moment format
    | _ => return .null

/-- A moment is written under a format in memory without a breach. -/
theorem render_eq (moment : Moment) {format : String} (fits : FitsMemory format.toList) :
    render moment format =
      .ok (Emulation.textValue (Calendar.renderFormat moment format.toList)) := by
  have room : size ((Utf8.width format.toList : Int) + 8) =
      .ok (Utf8.width format.toList + 8) := by
    unfold FitsMemory Decimal.maxInt64 at fits
    exact if_pos (by omega)
  unfold render
  rw [room]
  rfl

/-- A timestamp is written without a breach. -/
theorem fromUnixTime_one (there : call.arguments = [value]) :
    fromUnixTime call = unbreached (Emulation.fromTimestamp call.name value) := by
  unfold fromUnixTime Emulation.fromTimestamp Call.argument
  rw [there]
  cases value with
  | null => rfl
  | _ =>
    dsimp only [element, List.getElem?_cons_zero]
    rw [ok_bind]
    dsimp only
    rw [Call.moment_eq]
    cases Emulation.momentArgument call.name _ <;> rfl

/-- A timestamp is written under a format without a breach. -/
theorem fromUnixTime_two {format : Value} (there : call.arguments = [value, format])
    (inMemory : InMemory format) :
    fromUnixTime call = unbreached (Emulation.formatTimestamp call.name value format) := by
  unfold fromUnixTime Emulation.formatTimestamp Call.argument
  rw [there]
  cases value with
  | null => rfl
  | _ =>
    dsimp only [element, List.getElem?_cons_zero]
    rw [ok_bind]
    dsimp only
    rw [Call.moment_eq, unbreached_bind]
    congr 1
    funext moment
    dsimp only [List.getElem?_cons_succ, List.getElem?_cons_zero]
    rw [asText_eq, ok_bind]
    cases written : format.asText? with
    | none => rfl
    | some text => exact render_eq moment (fitsMemory_of_asText? inMemory written)

/-- A date is written under a format without a breach. -/
theorem dateFormat_eq {format : Value} (first : call.argument 0 = .ok value)
    (second : call.argument 1 = .ok format) (inMemory : InMemory format) :
    dateFormat call = unbreached (Emulation.formatDate call.name value format) := by
  unfold dateFormat Emulation.formatDate
  rw [Call.text_eq second, ok_bind]
  cases written : format.asText? with
  | none => rfl
  | some text =>
    dsimp only
    rw [Call.date_eq first, unbreached_bind]
    congr 1
    funext stamp
    rcases stamp with _ | _ | moment
    · rfl
    · rfl
    · exact render_eq moment (fitsMemory_of_asText? inMemory written)

/-! ## Shifts and differences -/

/-- Shifts a date by an interval. Every sum and product on the way is checked and gives none if it
does not fit, which is a fault. -/
def shiftDate (subtract : Bool) (call : Call) : Run Value := do
  let date ← call.text 0
  let interval ← call.text 1
  match date, interval with
  | some date, some text => do
    let interval ← readInterval text
    unbreached (Emulation.shiftBy subtract call.name call.env.now date interval)
  | _, _ => return .null

/-- Whole days from the second date to the first. -/
def dateDiff (call : Call) : Run Value := do
  let left ← call.date 0
  let right ← call.date 1
  match left, right with
  | some (.at left), some (.at right) => integer (left.daysSince right)
  | _, _ => return .null

/-- A date is shifted without a breach. -/
theorem shiftDate_eq (subtract : Bool) {interval : Value} (first : call.argument 0 = .ok value)
    (second : call.argument 1 = .ok interval) :
    shiftDate subtract call =
      unbreached (Emulation.shiftDate subtract call.name call.env.now value interval) := by
  unfold shiftDate
  rw [Call.text_eq first, ok_bind, Call.text_eq second, ok_bind]
  cases written : value.asText? with
  | none =>
    unfold Emulation.shiftDate
    rw [written]
    rfl
  | some date =>
    cases spelt : interval.asText? with
    | none =>
      unfold Emulation.shiftDate
      rw [spelt]
      cases value.asText? <;> rfl
    | some text =>
      have texts : Emulation.shiftDate subtract call.name call.env.now value interval =
          Emulation.shiftDate subtract call.name call.env.now (.text date) (.text text) := by
        unfold Emulation.shiftDate
        rw [written, spelt]
        rfl
      dsimp only
      rw [texts, Emulation.shiftDate_text, readInterval_eq]
      exact (unbreached_bind _ _).symm

/-- The days between two dates are counted without a breach. -/
theorem dateDiff_eq {other : Value} (first : call.argument 0 = .ok value)
    (second : call.argument 1 = .ok other) :
    dateDiff call = unbreached (Emulation.dayDifference call.name value other) := by
  unfold dateDiff Emulation.dayDifference
  rw [Call.date_eq first, Call.date_eq second, unbreached_bind]
  congr 1
  funext left
  rw [unbreached_bind]
  congr 1
  funext right
  rcases left with _ | _ | left
  · rfl
  · rfl
  · rcases right with _ | _ | right
    · rfl
    · rfl
    · dsimp only
      rw [integer_eq (left.daysSince_fits right)]
      rfl

end DialectBridge.Checked
