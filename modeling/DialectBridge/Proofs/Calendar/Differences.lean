import DialectBridge.Proofs.Calendar.Shifting

/-!
# Days between moments

Whole days between moments are counted toward zero, from the nanoseconds between them, in which
a leap second on the earlier side counts. Both the nanoseconds and the days have the other sign
when they are counted from the other side. From a moment with whole seconds to the moment some
days later it is just these days, since neither side has a leap second to count.
-/

namespace DialectBridge.Calendar

namespace Moment

/-! ## From the other side -/

/-- A leap second that is passed over in one direction is passed over in the other one. -/
theorem leapCorrection_swap (left right : Clock) :
    leapCorrection right left = -leapCorrection left right := by
  unfold leapCorrection
  by_cases later : right.seconds < left.seconds
  · have notEarlier : ¬left.seconds < right.seconds := by omega
    cases right.isLeap <;> simp [later, notEarlier]
  · cases left.isLeap <;> by_cases earlier : left.seconds < right.seconds <;>
      simp [later, earlier]

/-- The nanoseconds between two moments from the other side. -/
theorem nanosSince_swap (left right : Moment) :
    right.nanosSince left = -left.nanosSince right := by
  unfold nanosSince nanosPerSecond
  rw [leapCorrection_swap left.clock right.clock]
  omega

/-- The days between two moments from the other side: days are counted toward zero from both. -/
theorem daysSince_swap (left right : Moment) : right.daysSince left = -left.daysSince right := by
  unfold daysSince
  rw [nanosSince_swap left right, Int.neg_tdiv, Int.neg_tdiv]

/-- The days between two moments fit in 64 bits. -/
theorem daysSince_fits (left right : Moment) :
    Decimal.minInt64 ≤ left.daysSince right ∧ left.daysSince right ≤ Decimal.maxInt64 := by
  obtain ⟨leftLeast, leftMost⟩ := left.timestamp_fits
  obtain ⟨rightLeast, rightMost⟩ := right.timestamp_fits
  have leftNanos := left.clock.nanos_lt
  have rightNanos := right.clock.nanos_lt
  have corrected : -1 ≤ leapCorrection left.clock right.clock ∧
      leapCorrection left.clock right.clock ≤ 1 := by
    unfold leapCorrection
    split <;> try split
    all_goals decide
  have days : (left.daysSince right).natAbs =
      (left.nanosSince right).natAbs / 1000000000 / 86400 := by
    unfold daysSince
    rw [Int.natAbs_tdiv, Int.natAbs_tdiv]
    rfl
  have nanos : (left.nanosSince right).natAbs ≤ 20000000000000000000 * 1000000000 := by
    unfold nanosSince
    unfold Decimal.minInt64 at leftLeast rightLeast
    unfold Decimal.maxInt64 at leftMost rightMost
    unfold nanosPerSecond at leftNanos rightNanos ⊢
    omega
  unfold Decimal.minInt64 Decimal.maxInt64
  omega

/-! ## Days later -/

/-- From a moment with whole seconds to the one some days later it is so many days. -/
theorem daysSince_of_addSeconds? {moment later : Moment} (whole : moment.IsWhole) {days : Int}
    (moved : moment.addSeconds? (86400 * days) = some later) : later.daysSince moment = days := by
  have settled := Clock.isLeap_of_whole whole
  obtain ⟨timestamps, nanos⟩ := (addSeconds?_eq_some_iff settled).mp moved
  have laterSettled : later.clock.isLeap = false := Clock.isLeap_of_whole (nanos.trans whole)
  have uncorrected : leapCorrection later.clock moment.clock = 0 := by
    unfold leapCorrection
    rw [settled, laterSettled]
    simp
  have between : later.nanosSince moment = days * secondsPerDay * nanosPerSecond := by
    unfold nanosSince secondsPerDay nanosPerSecond
    rw [uncorrected, timestamps, nanos]
    omega
  unfold daysSince
  rw [between, Int.mul_tdiv_cancel _ (by decide), Int.mul_tdiv_cancel _ (by decide)]

end Moment

end DialectBridge.Calendar
