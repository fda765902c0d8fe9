import DialectBridge.Proofs.Calendar.Stamps
import DialectBridge.Proofs.Calendar.Written
import DialectBridge.Proofs.Emulation.DateComponents

/-!
# Date functions that undo each other

Adding an interval and subtracting it, and timestamps and the texts of their moments, lead
back to where they start. The functions pass texts to each other, so what they have in
common is that the canonical text of a moment with whole seconds is read as that moment.
-/

namespace DialectBridge.Emulation

open Calendar (Interval IntervalUnit Moment Stamp writeMoment)

/-! ## Shifts by intervals -/

/-- The first character of a text in lower case, where it has no capital. -/
theorem head?_lower {c : Char} (rest : List Char) (plain : c.toNat < 65) :
    (Text.lower (c :: rest)).head? = some c := by
  have same : Text.lowerChar c = c := by
    unfold Text.lowerChar
    rw [if_pos (by omega), Text.toLower_of_not_capital (by omega)]
  unfold Text.lower Text.lowerAfter
  rw [if_neg (by omega), if_neg (by omega), same]
  rfl

/-- A text that is read as a moment is no call for the current date or time, so that moment is
what is shifted. -/
theorem shiftBase_of_read (function : String) (now : Moment) {date : String} {moment : Moment}
    (read : Stamp.read date.toList = some (.at moment)) :
    shiftBase function now date = .ok (some (moment, false)) := by
  obtain ⟨c, rest, trimmed, most⟩ := Stamp.exists_front read
  have front : (Text.lower (Text.trim date.toList)).head? = some c := by
    rw [trimmed]
    exact head?_lower rest (by omega)
  -- neither call begins with a digit or a sign
  have noCall (call : String) (letters : ∃ d, call.toList.head? = some d ∧ 57 < d.toNat) :
      (String.ofList (Text.lower (Text.trim date.toList)) == call) = false := by
    rw [beq_eq_false_iff_ne]
    rintro rfl
    obtain ⟨d, head, least⟩ := letters
    rw [String.toList_ofList, front] at head
    obtain rfl := Option.some.inj head
    omega
  unfold shiftBase
  dsimp only
  rw [noCall "curdate()" ⟨'c', rfl, by decide⟩, noCall "now()" ⟨'n', rfl, by decide⟩,
    if_neg Bool.false_ne_true, if_neg Bool.false_ne_true, read]

section

variable (subtract : Bool) (function : String) (now : Moment) {moment : Moment}
  {text : String} {interval : Interval}

/-- A text that is read as a moment is shifted as the moment is. -/
theorem shiftDate_of_read {date : String}
    (readDate : Stamp.read date.toList = some (.at moment))
    (read : Interval.read text.toList = some interval) :
    shiftDate subtract function now (.text date) (.text text) =
      match interval.duration.shift? moment subtract with
      | none => .error (.invalidArgument function (.shiftOutOfRange date interval.unit))
      | some later => .ok (.text (writeMoment later)) := by
  unfold shiftDate
  simp only [Value.asText?, read]
  rw [shiftBase_of_read function now readDate]
  simp only [bind, Except.bind]
  cases interval.duration.shift? moment subtract <;> rfl

/-- A shift of a canonical text gives a text exactly if the moment can be shifted, and then
the canonical text of the moment it is shifted to. -/
theorem shiftDate_eq_ok_iff (whole : moment.IsWhole)
    (read : Interval.read text.toList = some interval) {shifted : String} :
    shiftDate subtract function now (.text (writeMoment moment)) (.text text) =
        .ok (.text shifted) ↔
      ∃ later, interval.duration.shift? moment subtract = some later ∧
        writeMoment later = shifted := by
  rw [shiftDate_of_read subtract function now (Calendar.read_writeMoment whole) read]
  cases interval.duration.shift? moment subtract with
  | none => simp
  | some later => simp

end

/-- What a shift of a canonical text gives, the opposite shift leads back from. -/
theorem shiftDate_not {subtract : Bool} {function : String} (back : String) {now : Moment}
    {moment : Moment} (whole : moment.IsWhole) {text : String} {interval : Interval}
    (read : Interval.read text.toList = some interval)
    (early : interval.unit.CountsMonths → moment.date.day ≤ 28) {shifted : String}
    (gave : shiftDate subtract function now (.text (writeMoment moment)) (.text text) =
      .ok (.text shifted)) :
    shiftDate (!subtract) back now (.text shifted) (.text text) =
      .ok (.text (writeMoment moment)) := by
  obtain ⟨later, moved, rfl⟩ := (shiftDate_eq_ok_iff _ _ _ whole read).mp gave
  have calendar := Calendar.Interval.isCalendar_of_read read
  obtain ⟨laterWhole, returned⟩ :=
    Calendar.Duration.shift?_not whole (fun months => early (calendar.mp months)) moved
  exact (shiftDate_eq_ok_iff _ _ _ laterWhole read).mpr ⟨moment, returned, rfl⟩

/-- Adding an interval and subtracting it undo each other: if one gives a text for the
canonical text of a moment with whole seconds, the other one gives that canonical text for
it. An interval of months must start at a day that every month has.

Proof: a text that is given is the canonical text of the moment that the first one is shifted
to, which has whole seconds again; so it is read as that moment, and the opposite shift of
the moment leads back. -/
theorem date_add_date_sub_undo (env : Environment) {moment : Moment} (whole : moment.IsWhole)
    {text : String} {interval : Interval} (read : Interval.read text.toList = some interval)
    (early : interval.unit.CountsMonths → moment.date.day ≤ 28) :
    (∀ shifted, evaluate env "date_add" [.text (writeMoment moment), .text text] =
        .ok (.text shifted) →
      evaluate env "date_sub" [.text shifted, .text text] = .ok (.text (writeMoment moment))) ∧
    (∀ shifted, evaluate env "date_sub" [.text (writeMoment moment), .text text] =
        .ok (.text shifted) →
      evaluate env "date_add" [.text shifted, .text text] =
        .ok (.text (writeMoment moment))) := by
  have adds (date : String) : evaluate env "date_add" [.text date, .text text] =
      shiftDate false "date_add" env.now (.text date) (.text text) :=
    evaluate_name env .dateAdd rfl
  have subtracts (date : String) : evaluate env "date_sub" [.text date, .text text] =
      shiftDate true "date_sub" env.now (.text date) (.text text) :=
    evaluate_name env .dateSub rfl
  constructor
  · intro shifted added
    rw [adds] at added
    rw [subtracts]
    have undone := shiftDate_not "date_sub" whole read early added
    rwa [Bool.not_false] at undone
  · intro shifted subtracted
    rw [subtracts] at subtracted
    rw [adds]
    have undone := shiftDate_not "date_add" whole read early subtracted
    rwa [Bool.not_true] at undone

/-- A second that is added to the last one of year 9999 leads to a year with a sign, and is
taken back from there. -/
theorem second_past_plain_years_undone :
    evaluate epoch "date_add" [.text "9999-12-31 23:59:59", .text "INTERVAL 1 SECOND"] =
        .ok (.text "+10000-01-01 00:00:00") ∧
      evaluate epoch "date_sub" [.text "+10000-01-01 00:00:00", .text "INTERVAL 1 SECOND"] =
        .ok (.text "9999-12-31 23:59:59") := by
  let lastPlainSecond : Moment :=
    ⟨⟨9999, 12, 31, by decide, by decide⟩, ⟨86399, 0, by decide, by decide⟩⟩
  have whole : lastPlainSecond.IsWhole := rfl
  have written : writeMoment lastPlainSecond = "9999-12-31 23:59:59" := by decide
  have read : Interval.read "INTERVAL 1 SECOND".toList = some ⟨.second, .clock 0 0 0 1⟩ := by
    decide
  have clockUnit : IntervalUnit.CountsMonths .second → lastPlainSecond.date.day ≤ 28 := by
    simp [IntervalUnit.CountsMonths]
  have added : evaluate epoch "date_add" [.text (writeMoment lastPlainSecond),
      .text "INTERVAL 1 SECOND"] = .ok (.text "+10000-01-01 00:00:00") := by
    refine (evaluate_name epoch .dateAdd rfl).trans ?_
    refine (shiftDate_eq_ok_iff _ _ _ whole read).mpr ?_
    exact ⟨⟨⟨10000, 1, 1, by decide, by decide⟩, .midnight⟩, by decide, by decide⟩
  have undone := (date_add_date_sub_undo epoch whole read clockUnit).1 _ added
  rw [written] at added undone
  exact ⟨added, undone⟩

/-! ## Timestamps -/

/-- A text that is read as a moment has the timestamp of the moment. -/
theorem evaluate_unix_timestamp (env : Environment) {text : String} {moment : Moment}
    (read : Stamp.read text.toList = some (.at moment)) :
    evaluate env "unix_timestamp" [.text text] = .ok (.ofInt moment.timestamp) :=
  evaluate_part env .unixTimestamp Moment.timestamp rfl (fun _ => rfl) read

/-- A number gives the canonical text of the moment that has it as its timestamp. -/
theorem evaluate_from_unixtime (env : Environment) (timestamp : Int64) :
    evaluate env "from_unixtime" [.integer timestamp] =
      match Moment.ofTimestamp? timestamp.toInt with
      | some moment => .ok (.text (writeMoment moment))
      | none => .error (.invalidArgument "from_unixtime" (.timestampOutOfRange timestamp.toInt)) := by
  have called : evaluate env "from_unixtime" [.integer timestamp] =
      fromTimestamp "from_unixtime" (.integer timestamp) := evaluate_name env .fromUnixTime rfl
  rw [called]
  unfold fromTimestamp momentArgument
  simp only [Value.toInt?]
  cases Moment.ofTimestamp? timestamp.toInt <;> rfl

/-- Timestamps and canonical texts are in one-to-one correspondence. A whole number of 64 bits
that gives a text is the timestamp of that text, and it gives one unless no moment has it as
its timestamp; the canonical text of every moment with whole seconds has a timestamp, which
gives the text.

Proof: the moment of a timestamp is the one with whole seconds that has it, and the canonical
text of such a moment is read as the moment. -/
theorem timestamps_correspond_to_texts (env : Environment) :
    (∀ timestamp : Int64,
      (∃ text, evaluate env "from_unixtime" [.integer timestamp] = .ok (.text text) ∧
        evaluate env "unix_timestamp" [.text text] = .ok (.integer timestamp)) ∨
      ((∀ moment : Moment, moment.timestamp ≠ timestamp.toInt) ∧
        evaluate env "from_unixtime" [.integer timestamp] = .error (.invalidArgument
          "from_unixtime" (.timestampOutOfRange timestamp.toInt)))) ∧
    ∀ moment : Moment, moment.IsWhole → ∃ timestamp : Int64,
      evaluate env "unix_timestamp" [.text (writeMoment moment)] = .ok (.integer timestamp) ∧
      evaluate env "from_unixtime" [.integer timestamp] = .ok (.text (writeMoment moment)) := by
  constructor
  · intro timestamp
    rw [evaluate_from_unixtime]
    cases found : Moment.ofTimestamp? timestamp.toInt with
    | some moment =>
      obtain ⟨same, whole⟩ := Moment.ofTimestamp?_eq_some_iff.mp found
      refine .inl ⟨writeMoment moment, rfl, ?_⟩
      rw [evaluate_unix_timestamp env (Calendar.read_writeMoment whole), same]
      unfold Value.ofInt
      rw [Int64.ofInt_toInt]
    | none => exact .inr ⟨Moment.ofTimestamp?_eq_none_iff.mp found, rfl⟩
  · intro moment whole
    obtain ⟨least, most⟩ := moment.timestamp_fits
    have kept : (Int64.ofInt moment.timestamp).toInt = moment.timestamp :=
      Int64.toInt_ofInt_of_le least (Int.lt_add_one_of_le most)
    have found : Moment.ofTimestamp? moment.timestamp = some moment :=
      Moment.ofTimestamp?_eq_some_iff.mpr ⟨rfl, whole⟩
    refine ⟨Int64.ofInt moment.timestamp,
      evaluate_unix_timestamp env (Calendar.read_writeMoment whole), ?_⟩
    rw [evaluate_from_unixtime, kept, found]

/-- The timestamp of the second before year zero gives a text with a negative year, and is the
timestamp of that text. -/
theorem second_before_year_zero_corresponds :
    evaluate epoch "from_unixtime" [.integer (-62167219201)] =
        .ok (.text "-0001-12-31 23:59:59") ∧
      evaluate epoch "unix_timestamp" [.text "-0001-12-31 23:59:59"] =
        .ok (.integer (-62167219201)) := by
  let moment : Moment := ⟨⟨-1, 12, 31, by decide, by decide⟩, ⟨86399, 0, by decide, by decide⟩⟩
  have written : writeMoment moment = "-0001-12-31 23:59:59" := by decide
  have whole : moment.IsWhole := rfl
  have seconds : moment.timestamp = -62167219201 := by decide
  have number : Int64.ofInt (-62167219201) = -62167219201 := rfl
  obtain ⟨timestamp, counted, back⟩ := (timestamps_correspond_to_texts epoch).2 moment whole
  have known := evaluate_unix_timestamp epoch (Calendar.read_writeMoment whole)
  rw [seconds, counted, Value.ofInt, number] at known
  obtain rfl := Value.integer.inj (Except.ok.inj known)
  rw [written] at counted back
  exact ⟨back, counted⟩

end DialectBridge.Emulation
