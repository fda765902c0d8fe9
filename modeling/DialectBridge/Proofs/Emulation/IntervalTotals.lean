import DialectBridge.Proofs.Calendar.Totals
import DialectBridge.Proofs.Emulation.IntervalForms

/-!
# Intervals with the same total

An interval of several numbers, weeks, days, hours or minutes is one of seconds, and an interval
of years is one of months. The functions that shift a date do the same with it, down to the
dates and the totals that no result exists for.
-/

namespace DialectBridge.Emulation

open Calendar (Duration Interval Moment Stamp)

/-- What two shifts have in common that may differ in their function and unit: they give the
same text, or both null, or they are both refused for one of their arguments. -/
inductive SameResult : Except Fault Value → Except Fault Value → Prop
  | text (written : String) : SameResult (.ok (.text written)) (.ok (.text written))
  | null : SameResult (.ok .null) (.ok .null)
  | refused (first second : String) (problem other : ArgumentProblem) :
      SameResult (.error (.invalidArgument first problem))
        (.error (.invalidArgument second other))

/-- A date that is read is the base of a shift, or none, for every function. -/
theorem exists_shiftBase (now : Moment) {date : String} {stamp : Stamp}
    (dated : Stamp.read date.toList = some stamp) :
    ∃ base, ∀ function, shiftBase function now date = .ok base := by
  unfold shiftBase
  by_cases today : String.ofList (Text.lower (Text.trim date.toList)) == "curdate()"
  · exact ⟨_, fun function => if_pos today⟩
  · by_cases present : String.ofList (Text.lower (Text.trim date.toList)) == "now()"
    · exact ⟨_, fun function => (if_neg today).trans (if_pos present)⟩
    · rcases stamp with _ | moment
      · refine ⟨none, fun function => ?_⟩
        rw [if_neg today, if_neg present, dated]
      · refine ⟨some (moment, false), fun function => ?_⟩
        rw [if_neg today, if_neg present, dated]

/-- Intervals that shift every moment to the same one shift a date with the same result. -/
theorem sameResult_shiftBy (now : Moment) {date : String} {stamp : Stamp}
    (dated : Stamp.read date.toList = some stamp) {subtract backwards : Bool}
    (first second : String) {interval other : Interval}
    (same : ∀ moment, interval.duration.shift? moment subtract =
      other.duration.shift? moment backwards) :
    SameResult (shiftBy subtract first now date interval)
      (shiftBy backwards second now date other) := by
  obtain ⟨base, found⟩ := exists_shiftBase now dated
  unfold shiftBy
  rw [found, found]
  cases base with
  | none => exact .null
  | some base =>
    obtain ⟨moment, dateOnly⟩ := base
    simp only [Except.bind]
    rw [same moment]
    cases other.duration.shift? moment backwards with
    | none => exact .refused _ _ _ _
    | some shifted => exact .text _

/-- Only the total of an interval matters: an interval that is read, and whose seconds or months
are a whole number of 64 bits with either sign, is added to a date with the same result as so
many seconds or months, and it is subtracted with the same result as they are added with the
other sign. Whether there is a result depends on the total alone as well.

Proof: all numbers of an interval that is read have one sign, so no sum of some of them is out
of range where the total is not. So the interval and its total shift every moment to the same
one, or none. -/
theorem shifts_by_totals (env : Environment) {date : String} {stamp : Stamp}
    (dated : Stamp.read date.toList = some stamp) {text : String} {interval : Interval}
    (read : intervalArgument text = .ok interval)
    (within : (interval.duration.total.natAbs : Int) ≤ Decimal.maxInt64) :
    SameResult (evaluate env "date_add" [.text date, .text text])
        (evaluate env "date_add" [.text date,
          .text (interval.duration.totalText interval.duration.total)]) ∧
      SameResult (evaluate env "date_sub" [.text date, .text text])
        (evaluate env "date_add" [.text date,
          .text (interval.duration.totalText (-interval.duration.total))]) := by
  have adds (text : String) : evaluate env "date_add" [.text date, .text text] =
      (intervalArgument text).bind (shiftBy false "date_add" env.now date) :=
    (evaluate_name env .dateAdd rfl).trans (shiftDate_text false "date_add" env.now date text)
  have subtracts : evaluate env "date_sub" [.text date, .text text] =
      (intervalArgument text).bind (shiftBy true "date_sub" env.now date) :=
    (evaluate_name env .dateSub rfl).trans (shiftDate_text true "date_sub" env.now date text)
  have oneSign : interval.duration.IsOneSigned := by
    unfold intervalArgument at read
    cases found : Interval.read text.toList with
    | none => simp [found] at read
    | some other =>
      rw [found] at read
      obtain rfl := Except.ok.inj read
      exact Interval.isOneSigned_of_read found
  have written (number : Int) (fits : (number.natAbs : Int) ≤ Decimal.maxInt64) : ∃ unit,
      intervalArgument (interval.duration.totalText number) =
        .ok ⟨unit, interval.duration.ofTotal number⟩ := by
    obtain ⟨unit, total⟩ := Interval.read_totalText interval.duration fits
    refine ⟨unit, ?_⟩
    unfold intervalArgument
    rw [total]
  constructor
  · obtain ⟨unit, total⟩ := written interval.duration.total within
    rw [adds, adds, read, total]
    simp only [Except.bind]
    apply sameResult_shiftBy env.now dated
    intro moment
    exact Duration.shift?_eq_shift?_total oneSign within moment false
  · obtain ⟨unit, total⟩ := written (-interval.duration.total) (by rwa [Int.natAbs_neg])
    rw [subtracts, adds, read, total]
    simp only [Except.bind]
    apply sameResult_shiftBy env.now dated
    intro moment
    exact Duration.shift?_eq_shift?_total oneSign within moment true

/-- A day and a time before a leap day are so many seconds before it. -/
theorem day_and_time_shift_as_seconds :
    SameResult
        (evaluate epoch "date_add" [.text "2024-02-29", .text "INTERVAL '1 02:03:04' DAY_SECOND"])
        (evaluate epoch "date_add" [.text "2024-02-29", .text "INTERVAL 93784 SECOND"]) ∧
      SameResult
        (evaluate epoch "date_sub" [.text "2024-02-29", .text "INTERVAL '1 02:03:04' DAY_SECOND"])
        (evaluate epoch "date_add" [.text "2024-02-29", .text "INTERVAL -93784 SECOND"]) := by
  let leapDay : Moment := .startOf ⟨2024, 2, 29, by decide, by decide⟩
  let interval : Interval := ⟨.daySecond, .clock 1 2 3 4⟩
  have dated : Stamp.read "2024-02-29".toList = some (.at leapDay) := by decide
  have found : Interval.read "INTERVAL '1 02:03:04' DAY_SECOND".toList = some interval := by decide
  have read : intervalArgument "INTERVAL '1 02:03:04' DAY_SECOND" = .ok interval := by
    unfold intervalArgument
    rw [found]
  have total : interval.duration.total = 93784 := rfl
  have same := shifts_by_totals epoch dated read (by rw [total]; decide)
  rw [total] at same
  have forwards : interval.duration.totalText 93784 = "INTERVAL 93784 SECOND" := by decide
  have backwards : interval.duration.totalText (-93784) = "INTERVAL -93784 SECOND" := by decide
  rwa [forwards, backwards] at same

end DialectBridge.Emulation
