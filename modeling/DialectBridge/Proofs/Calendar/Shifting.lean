import DialectBridge.Calendar.Interval
import DialectBridge.Proofs.Calendar.DayNumbers
import DialectBridge.Proofs.Decimal.WholeNumbers

/-!
# Moments and their shifts

A moment is known by its timestamp and its nanoseconds, and so is the moment that lies some
seconds after it. Moved by months, a date keeps its day if every month has it. Both kinds of
shifts can be taken back: whatever leads from one moment to another by adding an interval
leads back by subtracting it, and the other way round.
-/

namespace DialectBridge.Calendar

/-! ## Timestamps -/

/-- There is a time of day with some parts exactly if they are those of a time of day. -/
theorem Clock.ofParts?_eq_some_iff {seconds nanos : Nat} {clock : Clock} :
    Clock.ofParts? seconds nanos = some clock ↔
      clock.seconds = seconds ∧ clock.nanos = nanos := by
  unfold ofParts?
  constructor
  · intro found
    split at found
    · split at found
      · obtain rfl := Option.some.inj found
        exact ⟨rfl, rfl⟩
      · simp at found
    · simp at found
  · rintro ⟨rfl, rfl⟩
    rw [dif_pos clock.seconds_lt, dif_pos clock.nanos_lt]

/-- A time of day with whole seconds is no leap second. -/
theorem Clock.isLeap_of_whole {clock : Clock} (whole : clock.nanos = 0) :
    clock.isLeap = false := by
  unfold isLeap
  rw [whole]
  rfl

namespace Moment

/-- The day and the time of day are the quotient and the remainder of a timestamp. -/
theorem timestamp_eq_iff {moment : Moment} {timestamp : Int} :
    moment.timestamp = timestamp ↔
      moment.date.toDay = timestamp / secondsPerDay ∧
        moment.clock.seconds = (timestamp % secondsPerDay).toNat := by
  have below := moment.clock.seconds_lt
  unfold Moment.timestamp
  unfold secondsPerDay at below ⊢
  constructor
  · rintro rfl
    constructor <;> omega
  · rintro ⟨day, seconds⟩
    omega

/-- The moment at a timestamp is the one that has it, with the nanoseconds that are asked
for. -/
theorem atSecond?_eq_some_iff {timestamp : Int} {nanos : Nat} {moment : Moment} :
    atSecond? timestamp nanos = some moment ↔
      moment.timestamp = timestamp ∧ moment.clock.nanos = nanos := by
  rw [timestamp_eq_iff, and_assoc, ← Clock.ofParts?_eq_some_iff, ← Date.ofDay?_eq_some_iff]
  unfold atSecond?
  constructor
  · intro found
    split at found
    · next date clock onDate atTime =>
      obtain rfl := Option.some.inj found
      exact ⟨onDate, atTime⟩
    · simp at found
  · rintro ⟨onDate, atTime⟩
    rw [onDate, atTime]

/-- Moments with the same timestamp and the same nanoseconds are the same. -/
theorem eq_of_timestamp {first second : Moment} (timestamps : first.timestamp = second.timestamp)
    (nanos : first.clock.nanos = second.clock.nanos) : first = second :=
  Option.some.inj <|
    (atSecond?_eq_some_iff.mpr ⟨rfl, rfl⟩).symm.trans
      (atSecond?_eq_some_iff.mpr ⟨timestamps.symm, nanos.symm⟩)

/-- Whether a moment has whole seconds and is in no leap second. -/
def IsWhole (moment : Moment) : Prop := moment.clock.nanos = 0

/-- The moment of a timestamp is the one with whole seconds that has it. -/
theorem ofTimestamp?_eq_some_iff {timestamp : Int} {moment : Moment} :
    ofTimestamp? timestamp = some moment ↔ moment.timestamp = timestamp ∧ moment.IsWhole :=
  atSecond?_eq_some_iff

/-- A timestamp has no moment exactly if it is that of none, whole seconds or not. -/
theorem ofTimestamp?_eq_none_iff {timestamp : Int} :
    ofTimestamp? timestamp = none ↔ ∀ moment : Moment, moment.timestamp ≠ timestamp := by
  constructor
  · rintro missing moment rfl
    let start : Moment := ⟨moment.date, moment.clock.seconds, 0, moment.clock.seconds_lt, by decide⟩
    have found : ofTimestamp? moment.timestamp = some start :=
      ofTimestamp?_eq_some_iff.mpr ⟨rfl, rfl⟩
    exact absurd (missing.symm.trans found) nofun
  · intro others
    cases found : ofTimestamp? timestamp with
    | none => rfl
    | some moment => exact absurd (ofTimestamp?_eq_some_iff.mp found).1 (others moment)

/-- A timestamp of a moment is a whole number of 64 bits. -/
theorem timestamp_fits (moment : Moment) :
    Decimal.minInt64 ≤ moment.timestamp ∧ moment.timestamp ≤ Decimal.maxInt64 := by
  obtain ⟨notBefore, notAfter⟩ := moment.date.toDay_bounds
  have below := moment.clock.seconds_lt
  have first : firstDayOfYear firstYear = -96465292 := by decide
  have last : firstDayOfYear (lastYear + 1) = 95026237 := by decide
  rw [first] at notBefore
  rw [last] at notAfter
  unfold Moment.timestamp Decimal.minInt64 Decimal.maxInt64
  unfold secondsPerDay at below ⊢
  omega

/-! ## Shifts -/

/-- Some seconds after a moment that is in no leap second is the moment with so many seconds
more. -/
theorem addSeconds?_eq_some_iff {moment later : Moment} {seconds : Int}
    (settled : moment.clock.isLeap = false) :
    moment.addSeconds? seconds = some later ↔
      later.timestamp = moment.timestamp + seconds ∧
        later.clock.nanos = moment.clock.nanos := by
  unfold addSeconds?
  by_cases still : seconds = 0
  · rw [if_pos still, still, Int.add_zero]
    constructor
    · rintro ⟨rfl⟩
      exact ⟨rfl, rfl⟩
    · rintro ⟨timestamps, nanos⟩
      rw [eq_of_timestamp timestamps nanos]
  · rw [if_neg still, settled, if_neg Bool.false_ne_true, atSecond?_eq_some_iff]

/-- As many seconds back lead back. -/
theorem addSeconds?_neg {moment later : Moment} {seconds : Int} (whole : moment.IsWhole)
    (moved : moment.addSeconds? seconds = some later) :
    later.IsWhole ∧ later.addSeconds? (-seconds) = some moment := by
  obtain ⟨timestamps, nanos⟩ :=
    (addSeconds?_eq_some_iff (Clock.isLeap_of_whole whole)).mp moved
  have laterWhole : later.IsWhole := nanos.trans whole
  refine ⟨laterWhole, ?_⟩
  rw [addSeconds?_eq_some_iff (Clock.isLeap_of_whole laterWhole)]
  exact ⟨by omega, nanos.symm⟩

/-- As many months back lead back from a day that every month has. -/
theorem addMonths?_neg {moment later : Moment} {months : Int} (early : moment.date.day ≤ 28)
    (moved : moment.addMonths? months = some later) :
    later.clock = moment.clock ∧ later.addMonths? (-months) = some moment := by
  obtain ⟨date, dateMoved, rfl⟩ := Option.map_eq_some_iff.mp moved
  refine ⟨rfl, ?_⟩
  unfold addMonths?
  rw [Date.addMonths?_neg early dateMoved]
  rfl

end Moment

/-! ## Intervals -/

/-- Whether a unit counts months, which have no fixed length. -/
def IntervalUnit.CountsMonths (unit : IntervalUnit) : Prop :=
  unit = .month ∨ unit = .year ∨ unit = .yearMonth

/-- Whether an amount is one of months. -/
def Duration.IsCalendar : Duration → Prop
  | clock .. => False
  | calendar .. => True

namespace Duration

/-- The amounts of units that count months are amounts of months, and no others are. -/
theorem isCalendar_ofComponents? {unit : IntervalUnit} {components : List Int}
    {duration : Duration} (placed : ofComponents? unit components = some duration) :
    duration.IsCalendar ↔ unit.CountsMonths := by
  unfold IntervalUnit.CountsMonths
  revert placed
  fun_cases ofComponents? unit components with
  | case5 weeks =>
    intro placed
    obtain ⟨days, _, rfl⟩ := Option.map_eq_some_iff.mp placed
    simp [IsCalendar]
  | case15 => simp
  | _ =>
    rintro ⟨⟩
    simp [IsCalendar]

/-- A shift of a whole moment is taken back by the opposite shift, if no month clamps the day.
Proof: both kinds of shifts are moves by a number, of seconds or of months, which the
opposite shift makes with the other sign; the limits on the numbers do not depend on it. -/
theorem shift?_not {duration : Duration} {moment later : Moment} {subtract : Bool}
    (whole : moment.IsWhole) (early : duration.IsCalendar → moment.date.day ≤ 28)
    (shifted : duration.shift? moment subtract = some later) :
    later.IsWhole ∧ duration.shift? later (!subtract) = some moment := by
  cases duration with
  | clock days hours minutes seconds =>
    obtain ⟨total, counted, moved⟩ := Option.bind_eq_some_iff.mp shifted
    obtain ⟨laterWhole, back⟩ := Moment.addSeconds?_neg whole moved
    refine ⟨laterWhole, Option.bind_eq_some_iff.mpr ⟨total, counted, ?_⟩⟩
    cases subtract
    · exact back
    · rw [if_pos rfl, Int.neg_neg] at back
      exact back
  | calendar years months =>
    obtain ⟨total, counted, signedMoved⟩ := Option.bind_eq_some_iff.mp shifted
    obtain ⟨signed, directed, moved⟩ := Option.bind_eq_some_iff.mp signedMoved
    split at moved
    · next short =>
      obtain ⟨sameClock, back⟩ := Moment.addMonths?_neg (early trivial) moved
      have laterWhole : later.IsWhole := by
        unfold Moment.IsWhole
        rw [sameClock]
        exact whole
      refine ⟨laterWhole, Option.bind_eq_some_iff.mpr ⟨total, counted, ?_⟩⟩
      refine Option.bind_eq_some_iff.mpr ⟨-signed, ?_, ?_⟩
      · cases subtract
        · obtain rfl := Option.some.inj directed
          have fits : Decimal.minInt64 ≤ -total ∧ -total ≤ Decimal.maxInt64 := by
            unfold Decimal.minInt64 Decimal.maxInt64
            omega
          exact Decimal.checked_eq_some_iff.mpr ⟨fits, rfl⟩
        · obtain ⟨_, rfl⟩ := Decimal.checked_eq_some_iff.mp directed
          rw [Int.neg_neg]
          rfl
      · rw [Int.natAbs_neg, if_pos short]
        exact back
    · simp at moved

end Duration

/-- The amount of an interval that is read is that of the words in front of its unit. -/
theorem Interval.exists_quantity_of_read {text : List Char} {interval : Interval}
    (read : Interval.read text = some interval) :
    ∃ words, readQuantity interval.unit words = some interval.duration := by
  obtain ⟨rest, _, cut⟩ := Option.bind_eq_some_iff.mp read
  dsimp only at cut
  split at cut
  · obtain ⟨unit, _, amount⟩ := Option.bind_eq_some_iff.mp cut
    obtain ⟨duration, quantity, rfl⟩ := Option.map_eq_some_iff.mp amount
    exact ⟨_, quantity⟩
  · simp at cut

/-- An interval that is read has an amount of months exactly if its unit counts them. -/
theorem Interval.isCalendar_of_read {text : List Char} {interval : Interval}
    (read : Interval.read text = some interval) :
    interval.duration.IsCalendar ↔ interval.unit.CountsMonths := by
  obtain ⟨words, quantity⟩ := exists_quantity_of_read read
  obtain ⟨components, _, padded⟩ := Option.bind_eq_some_iff.mp quantity
  obtain ⟨padded, _, placed⟩ := Option.bind_eq_some_iff.mp padded
  exact Duration.isCalendar_ofComponents? placed

end DialectBridge.Calendar
