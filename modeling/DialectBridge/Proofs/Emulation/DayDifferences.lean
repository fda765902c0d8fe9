import DialectBridge.Proofs.Calendar.Differences
import DialectBridge.Proofs.Calendar.NumberIntervals
import DialectBridge.Proofs.Emulation.DateRoundTrips

/-!
# Days between dates

The days from one date to another are those from the other to the one with the other sign, also
where fractions of a second or leap seconds make a day more or less complete. And they count what
adding days does: with whole seconds, a date with some days added is so many days later.
-/

namespace DialectBridge.Emulation

open Calendar (Interval Moment Stamp writeMoment)

section

variable (env : Environment) {first second : String} {left right : Moment}

/-- The difference of texts that are read as moments is that of the moments. -/
theorem evaluate_datediff (readFirst : Stamp.read first.toList = some (.at left))
    (readSecond : Stamp.read second.toList = some (.at right)) :
    evaluate env "datediff" [.text first, .text second] = .ok (.ofInt (left.daysSince right)) := by
  have called : evaluate env "datediff" [.text first, .text second] =
      dayDifference "datediff" (.text first) (.text second) :=
    evaluate_name env .dateDiff rfl
  rw [called]
  unfold dayDifference
  rw [dateArgument_of_read _ readFirst, dateArgument_of_read _ readSecond]
  rfl

/-- Whatever is made of a text that is read as a moment by adding days is the canonical text of
the moment so many days later. -/
theorem evaluate_add_days {date : String} {moment : Moment} (whole : moment.IsWhole)
    (read : Stamp.read date.toList = some (.at moment)) {days : Int} {value : Value}
    (added : evaluate env "date_add" [.text date, .text (Interval.daysText days)] = .ok value) :
    ∃ later, value = .text (writeMoment later) ∧ later.IsWhole ∧
      later.daysSince moment = days := by
  have called : evaluate env "date_add" [.text date, .text (Interval.daysText days)] =
      shiftDate false "date_add" env.now (.text date) (.text (Interval.daysText days)) :=
    evaluate_name env .dateAdd rfl
  rw [called] at added
  cases found : Interval.read (Interval.daysText days).toList with
  | none => simp [shiftDate, Value.asText?, found] at added
  | some interval =>
    obtain rfl := Interval.read_daysText found
    rw [shiftDate_of_read false "date_add" env.now read found] at added
    cases shifted : (Calendar.Duration.clock days 0 0 0).shift? moment false with
    | none => simp [shifted] at added
    | some later =>
      rw [shifted] at added
      have moved := Calendar.Duration.addSeconds?_of_shift?_days shifted
      refine ⟨later, (Except.ok.inj added).symm, ?_, Moment.daysSince_of_addSeconds? whole moved⟩
      exact (Moment.addSeconds?_neg whole moved).1

end

/-- Differences in days agree with each other and with adding days. For any two texts that are
read as moments, whatever their fractions and leap seconds, the difference from the other side
has the other sign, with no overflow. And for a text that is read as a moment with whole seconds,
in whatever layout, and every whole number, a sum with so many days is a text that is so many
days later than the text at the start.

Proof: days are counted toward zero, so that a count and its opposite are the same from both
sides; and days that are added are so many whole days of seconds, with no leap second among
them. -/
theorem day_differences_agree (env : Environment) :
    (∀ (first second : String) (left right : Moment),
      Stamp.read first.toList = some (.at left) → Stamp.read second.toList = some (.at right) →
      ∃ days : Int64,
        evaluate env "datediff" [.text first, .text second] = .ok (.integer days) ∧
        evaluate env "datediff" [.text second, .text first] = .ok (.integer (-days)) ∧
        (-days).toInt = -days.toInt) ∧
    ∀ (date : String) (moment : Moment), Stamp.read date.toList = some (.at moment) →
      moment.IsWhole → ∀ (n : Int) (value : Value),
      evaluate env "date_add" [.text date, .text ("INTERVAL " ++ toString n ++ " DAY")] =
        .ok value →
      ∃ (shifted : String) (days : Int64), value = .text shifted ∧ days.toInt = n ∧
        evaluate env "datediff" [.text shifted, .text date] = .ok (.integer days) := by
  have kept (later earlier : Moment) :
      (Int64.ofInt (later.daysSince earlier)).toInt = later.daysSince earlier := by
    obtain ⟨least, most⟩ := later.daysSince_fits earlier
    exact Int64.toInt_ofInt_of_le least (Int.lt_add_one_of_le most)
  constructor
  · intro first second left right readFirst readSecond
    have opposite : Int64.ofInt (right.daysSince left) = -Int64.ofInt (left.daysSince right) := by
      rw [Moment.daysSince_swap, Int64.ofInt_neg]
    refine ⟨Int64.ofInt (left.daysSince right), evaluate_datediff env readFirst readSecond, ?_, ?_⟩
    · rw [evaluate_datediff env readSecond readFirst, Value.ofInt, opposite]
    · rw [← opposite, kept, kept, Moment.daysSince_swap]
  · intro date moment read whole n value added
    obtain ⟨later, rfl, laterWhole, count⟩ := evaluate_add_days env whole read added
    refine ⟨writeMoment later, Int64.ofInt (later.daysSince moment), rfl, ?_, ?_⟩
    · rw [kept, count]
    · exact evaluate_datediff env (Calendar.read_writeMoment laterWhole) read

/-- The last half of a leap second is counted to the day behind it, so that one of the 366 days of
the year that begins there is not whole, from either side; and 365 days back from a noon in
February, over the end of a year, are 365 days. -/
theorem leap_second_and_february_counted :
    evaluate epoch "datediff" [.text "2015-12-31 23:59:60.5", .text "2017-01-01"] =
        .ok (.integer (-365)) ∧
      evaluate epoch "datediff" [.text "2017-01-01", .text "2015-12-31 23:59:60.5"] =
        .ok (.integer 365) ∧
      evaluate epoch "date_add" [.text "2024-02-28T12:00:00", .text "INTERVAL -365 DAY"] =
        .ok (.text "2023-02-28 12:00:00") ∧
      evaluate epoch "datediff" [.text "2023-02-28 12:00:00", .text "2024-02-28T12:00:00"] =
        .ok (.integer (-365)) := by
  let leapSecond : Moment :=
    ⟨⟨2015, 12, 31, by decide, by decide⟩, ⟨86399, 1500000000, by decide, by decide⟩⟩
  let newYear : Moment := .startOf ⟨2017, 1, 1, by decide, by decide⟩
  let noon : Moment :=
    ⟨⟨2024, 2, 28, by decide, by decide⟩, ⟨43200, 0, by decide, by decide⟩⟩
  have readLeap : Stamp.read "2015-12-31 23:59:60.5".toList = some (.at leapSecond) := by
    decide +kernel
  have readNewYear : Stamp.read "2017-01-01".toList = some (.at newYear) := by decide +kernel
  have readNoon : Stamp.read "2024-02-28T12:00:00".toList = some (.at noon) := by decide +kernel
  obtain ⟨days, there, back, _⟩ :=
    (day_differences_agree epoch).1 _ _ leapSecond newYear readLeap readNewYear
  have counted := evaluate_datediff epoch readLeap readNewYear
  have number : leapSecond.daysSince newYear = -365 := by decide +kernel
  rw [number, there] at counted
  obtain rfl := Value.integer.inj (Except.ok.inj counted)
  have added : evaluate epoch "date_add"
      [.text "2024-02-28T12:00:00", .text ("INTERVAL " ++ toString (-365 : Int) ++ " DAY")] =
        .ok (.text "2023-02-28 12:00:00") := by
    let earlier : Moment :=
      ⟨⟨2023, 2, 28, by decide, by decide⟩, ⟨43200, 0, by decide, by decide⟩⟩
    have interval : Interval.read ("INTERVAL " ++ toString (-365 : Int) ++ " DAY").toList =
        some ⟨.day, .clock (-365) 0 0 0⟩ := by decide +kernel
    have shifted : (Calendar.Duration.clock (-365) 0 0 0).shift? noon false = some earlier := by
      decide +kernel
    have written : writeMoment earlier = "2023-02-28 12:00:00" := by decide +kernel
    refine (evaluate_name epoch .dateAdd rfl).trans ?_
    refine (shiftDate_of_read false "date_add" epoch.now readNoon interval).trans ?_
    simp only [shifted, written]
  obtain ⟨shifted, days, same, length, difference⟩ :=
    (day_differences_agree epoch).2 _ noon readNoon rfl (-365) _ added
  obtain rfl := Value.text.inj same
  obtain rfl : days = -365 := Int64.toInt_inj.mp length
  exact ⟨there, back, added, difference⟩

end DialectBridge.Emulation
