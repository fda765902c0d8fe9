import DialectBridge.Proofs.Calendar.Totals

/-!
# Shifts by months

A shift by months counts months: it leads to the month with so many more, or fewer, wherever
years begin in between. Of the day no more is changed than a shorter month makes necessary, and
nothing of the time of day. Such a shift fails where the months cannot be counted, where they
are too many for one step, or where the year that they lead to is out of range.
-/

namespace DialectBridge.Calendar

/-! ## Months later -/

namespace Date

/-- The year that is reached some months after a date, in the range of years or not. -/
def yearAfter (date : Date) (months : Int) : Int := (date.monthCount + months) / 12

/-- Whether the date some months later is in the range of years. -/
def Reaches (date : Date) (months : Int) : Prop :=
  firstYear ≤ date.yearAfter months ∧ date.yearAfter months ≤ lastYear

instance (date : Date) (months : Int) : Decidable (date.Reaches months) :=
  inferInstanceAs (Decidable (_ ∧ _))

/-- Every month has a day up to that of a date, if only its first one. -/
theorem exists_addMonths? {date : Date} {months : Int} (reached : date.Reaches months) :
    ∃ later, date.addMonths? months = some later := by
  have month : 1 ≤ ((date.monthCount + months) % 12).toNat + 1 ∧
      ((date.monthCount + months) % 12).toNat + 1 ≤ 12 := by omega
  have long := le_daysInMonth (date.yearAfter months) month.1 month.2
  have day := date.onCalendar.1
  let later : Date := {
    year := date.yearAfter months
    month := ((date.monthCount + months) % 12).toNat + 1
    day := min date.day
      (daysInMonth (date.yearAfter months) (((date.monthCount + months) % 12).toNat + 1))
    inRange := reached
    onCalendar := ⟨by omega, Nat.min_le_right _ _⟩ }
  have counted : later.monthCount = date.monthCount + months := monthCount_eq_iff.mpr ⟨rfl, rfl⟩
  exact ⟨later, addMonths?_eq_some_iff.mpr ⟨counted, rfl⟩⟩

/-- There is no date some months later exactly if its year is out of range. -/
theorem addMonths?_eq_none_iff {date : Date} {months : Int} :
    date.addMonths? months = none ↔ ¬date.Reaches months := by
  constructor
  · intro missing reached
    obtain ⟨later, found⟩ := exists_addMonths? reached
    exact absurd (missing.symm.trans found) nofun
  · intro beyond
    cases found : date.addMonths? months with
    | none => rfl
    | some later =>
      obtain ⟨year, _⟩ := monthCount_eq_iff.mp (addMonths?_eq_some_iff.mp found).1
      have reached : date.Reaches months := by
        unfold Reaches yearAfter
        rw [← year]
        exact later.inRange
      exact absurd reached beyond

end Date

namespace Moment

/-- The moment some months later is on the date so many months later, at the same time of
day. -/
theorem addMonths?_eq_some_iff {moment later : Moment} {months : Int} :
    moment.addMonths? months = some later ↔
      moment.date.addMonths? months = some later.date ∧ later.clock = moment.clock := by
  unfold addMonths?
  constructor
  · intro moved
    obtain ⟨date, found, rfl⟩ := Option.map_eq_some_iff.mp moved
    exact ⟨found, rfl⟩
  · rintro ⟨found, sameClock⟩
    rw [found, ← sameClock]
    rfl

/-- There is no moment some months later exactly if its year is out of range. -/
theorem addMonths?_eq_none_iff {moment : Moment} {months : Int} :
    moment.addMonths? months = none ↔ ¬moment.date.Reaches months :=
  Option.map_eq_none_iff.trans Date.addMonths?_eq_none_iff

end Moment

/-! ## Amounts of months -/

namespace Duration

/-- The months that a shift moves by: the total of the amount, or its opposite when
subtracting. -/
def signedTotal (duration : Duration) (subtract : Bool) : Int :=
  if subtract then -duration.total else duration.total

/-- The largest number of months that one step can move by. -/
def maxStep : Nat := 0xFFFFFFFF

/-- Whether counting the months leaves 64 bits: the months of the years, the total, or the total
with the sign of the shift. -/
def CountOverflows (years months : Int) (subtract : Bool) : Prop :=
  Decimal.fitsInt64 (12 * years) = false ∨ Decimal.fitsInt64 (12 * years + months) = false ∨
    Decimal.fitsInt64 ((calendar years months).signedTotal subtract) = false

/-- A number that is kept only if it fits is gone on with exactly then. -/
theorem bind_checked_eq_some_iff {α : Type} {number : Int} {next : Int → Option α} {result : α} :
    (Decimal.checked number).bind next = some result ↔
      Decimal.fitsInt64 number = true ∧ next number = some result := by
  unfold Decimal.checked
  cases Decimal.fitsInt64 number <;> simp

variable {years months : Int} {moment later : Moment} {subtract : Bool}

/-- A shift by months is a move by the signed total, where the months can be counted and the move
be made in one step. -/
theorem shift?_calendar_eq_some_iff :
    (calendar years months).shift? moment subtract = some later ↔
      ¬CountOverflows years months subtract ∧
        ((calendar years months).signedTotal subtract).natAbs ≤ maxStep ∧
        moment.addMonths? ((calendar years months).signedTotal subtract) = some later := by
  have oneStep (signed : Int) :
      (if signed.natAbs < 0x100000000 then moment.addMonths? signed else none) = some later ↔
        signed.natAbs ≤ maxStep ∧ moment.addMonths? signed = some later := by
    rw [Option.ite_none_right_eq_some, maxStep]
    exact and_congr_left' Nat.lt_succ_iff
  unfold shift? calendarMonths? CountOverflows
  dsimp only
  rw [Option.bind_assoc, bind_checked_eq_some_iff, bind_checked_eq_some_iff, not_or, not_or,
    Bool.not_eq_false, Bool.not_eq_false, Bool.not_eq_false, and_assoc, and_assoc]
  refine and_congr_right fun _ => and_congr_right fun totalFits => ?_
  cases subtract with
  | false =>
    have signedFits : Decimal.fitsInt64 ((calendar years months).signedTotal false) = true :=
      totalFits
    rw [if_neg Bool.false_ne_true, Option.bind_some, oneStep]
    exact (and_iff_right signedFits).symm
  | true =>
    rw [if_pos rfl, bind_checked_eq_some_iff, oneStep]
    rfl

/-- A shift by months fails exactly where they cannot be counted, are too many for one step, or
lead to a year out of range. -/
theorem shift?_calendar_eq_none_iff :
    (calendar years months).shift? moment subtract = none ↔
      CountOverflows years months subtract ∨
        maxStep < ((calendar years months).signedTotal subtract).natAbs ∨
        ¬moment.date.Reaches ((calendar years months).signedTotal subtract) := by
  constructor
  · intro failed
    by_contra possible
    rw [not_or, not_or, Nat.not_lt, not_not] at possible
    obtain ⟨counted, short, reached⟩ := possible
    obtain ⟨date, found⟩ := Date.exists_addMonths? reached
    have moved : moment.addMonths? ((calendar years months).signedTotal subtract) =
        some ⟨date, moment.clock⟩ :=
      Moment.addMonths?_eq_some_iff.mpr ⟨found, rfl⟩
    have shifted := shift?_calendar_eq_some_iff.mpr ⟨counted, short, moved⟩
    exact absurd (failed.symm.trans shifted) nofun
  · intro impossible
    rw [Option.eq_none_iff_forall_ne_some]
    intro later shifted
    obtain ⟨counted, short, moved⟩ := shift?_calendar_eq_some_iff.mp shifted
    rcases impossible with overflows | long | beyond
    · exact counted overflows
    · exact absurd long (Nat.not_lt.mpr short)
    · exact absurd (moved.symm.trans (Moment.addMonths?_eq_none_iff.mpr beyond)) nofun

/-- In an amount of one sign the months that cannot be counted are too many for one step. -/
theorem maxStep_lt_of_overflows (oneSign : IsOneSigned (.calendar years months))
    (overflows : CountOverflows years months subtract) :
    maxStep < ((calendar years months).signedTotal subtract).natAbs := by
  have magnitude : ((calendar years months).signedTotal subtract).natAbs =
      (12 * years + months).natAbs := by
    unfold signedTotal total
    cases subtract
    · rfl
    · exact Int.natAbs_neg _
  have beyond {number : Int} (lost : Decimal.fitsInt64 number = false) :
      0x7FFFFFFFFFFFFFFF ≤ number.natAbs := by
    unfold Decimal.fitsInt64 Decimal.minInt64 Decimal.maxInt64 at lost
    simp at lost
    omega
  unfold IsOneSigned at oneSign
  unfold maxStep
  rcases overflows with lost | lost | lost
  all_goals
    have large := beyond lost
    omega

/-- A shift by an amount of months that is read fails exactly if the months leave 64 bits, are too
many for one step, or lead to a year out of range: all numbers that are read have one sign, so
the months of the years alone leave 64 bits only where the total is too large as well. -/
theorem shift?_read_eq_none_iff {text : List Char} {unit : IntervalUnit}
    (read : Interval.read text = some ⟨unit, calendar years months⟩) :
    (calendar years months).shift? moment subtract = none ↔
      Decimal.fitsInt64 ((calendar years months).signedTotal subtract) = false ∨
        maxStep < ((calendar years months).signedTotal subtract).natAbs ∨
        ¬moment.date.Reaches ((calendar years months).signedTotal subtract) := by
  rw [shift?_calendar_eq_none_iff]
  constructor
  · rintro (overflows | others)
    · exact .inr (.inl (maxStep_lt_of_overflows (Interval.isOneSigned_of_read read) overflows))
    · exact .inr others
  · rintro (lost | others)
    · exact .inl (.inr (.inr lost))
    · exact .inr others

end Duration

end DialectBridge.Calendar
