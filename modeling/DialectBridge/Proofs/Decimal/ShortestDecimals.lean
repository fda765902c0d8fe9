import DialectBridge.Decimal.Shortest
import DialectBridge.Proofs.Decimal.StoredDoubles

/-!
# What the shortest decimal is worth

The search for the shortest decimal of a double goes from a coarse grid to finer ones. On each grid
it looks at the two multiples around the value of the double, and it ends at the first grid where
one of them is in the interval that rounds to the double. It always ends at one: on the last grid
the two multiples are nearer to the value than the ends of the interval are. So the shortest
decimal is rounded to the double it was made of.

A whole number is on the grid of units, so that its decimal has no places behind the point, and a
double that has places is the only member of its interval on such grids that is written without.
A decimal without places fits in 64 bits exactly if the double does, although it may be some units
away from it.
-/

namespace DialectBridge.Decimal

/-! ## The interval -/

section

variable (parts : Binary)

/-- The interval of a double counts quarters of its last place, as fractions of one denominator. -/
theorem exists_unit : ∃ unit : ℕ, 0 < (Interval.ofBinary parts).denominator ∧
    (unit : ℚ) / (Interval.ofBinary parts).denominator = 2 ^ (parts.exponent - 2) ∧
    (Interval.ofBinary parts).low =
      (4 * parts.mantissa - gapBelow parts.mantissa parts.exponent) * unit ∧
    (Interval.ofBinary parts).value = 4 * parts.mantissa * unit ∧
    (Interval.ofBinary parts).high = (4 * parts.mantissa + 2) * unit := by
  have gap : (if parts.mantissa == 0x10000000000000 && parts.exponent != -1074 then 1 else 2) =
      gapBelow parts.mantissa parts.exponent := by
    simp [gapBelow]
  unfold Interval.ofBinary
  dsimp only
  rw [gap]
  cases parts.exponent - 2 with
  | ofNat power =>
    refine ⟨2 ^ power, Nat.one_pos, ?_, rfl, rfl, rfl⟩
    rw [Int.ofNat_eq_natCast, zpow_natCast]
    push_cast
    exact div_one _
  | negSucc power =>
    refine ⟨1, Nat.two_pow_pos _, ?_, rfl, rfl, rfl⟩
    rw [zpow_negSucc]
    change ((1 : ℕ) : ℚ) / ((2 ^ (power + 1) : ℕ) : ℚ) = _
    push_cast
    exact one_div _

/-- A fraction is compared with an end of an interval by their numerators. -/
theorem fraction_compare {count unit numerator denominator whole : ℕ} {scale : ℚ}
    (positive : 0 < denominator) (some : 0 < whole) (same : (unit : ℚ) / whole = scale) :
    (count * unit * denominator ≤ numerator * whole ↔
      (count : ℚ) * scale ≤ numerator / denominator) ∧
    (numerator * whole ≤ count * unit * denominator ↔
      (numerator / denominator : ℚ) ≤ count * scale) := by
  have first : (0 : ℚ) < denominator := by exact_mod_cast positive
  have second : (0 : ℚ) < whole := by exact_mod_cast some
  rw [← same, ← mul_div_assoc, div_le_div_iff₀ second first, div_le_div_iff₀ first second]
  exact ⟨by exact_mod_cast Iff.rfl, by exact_mod_cast Iff.rfl⟩

/-- The interval holds a fraction if it is rounded to the double. -/
theorem holds_iff {parts : Binary} (canonical : Canonical parts.mantissa parts.exponent)
    {numerator denominator : ℕ} (positive : 0 < denominator) :
    (Interval.ofBinary parts).holds numerator denominator = true ↔
      RoundsTo (numerator / denominator) parts.mantissa parts.exponent := by
  obtain ⟨unit, some, scale, low, _, high⟩ := exists_unit parts
  have closed : (Interval.ofBinary parts).closed = (parts.mantissa % 2 == 0) := rfl
  obtain ⟨above, aboveBy⟩ := @fraction_compare
    (4 * parts.mantissa - gapBelow parts.mantissa parts.exponent) unit numerator denominator _ _
    positive some scale
  obtain ⟨belowBy, below⟩ := @fraction_compare (4 * parts.mantissa + 2) unit numerator denominator
    _ _ positive some scale
  unfold Interval.holds
  dsimp only
  rw [closed, low, high]
  by_cases even : parts.mantissa % 2 = 0
  · rw [even, beq_self_eq_true, if_pos rfl, Bool.and_eq_true, decide_eq_true_eq, decide_eq_true_eq,
      above, below]
    exact ⟨fun ⟨above, below⟩ => ⟨canonical, above, below, fun odd => absurd odd (by omega)⟩,
      fun rounds => ⟨rounds.above, rounds.below⟩⟩
  · have odd : parts.mantissa % 2 = 1 := by omega
    rw [odd, if_neg (by decide), Bool.and_eq_true, decide_eq_true_eq, decide_eq_true_eq,
      ← Nat.not_le, ← Nat.not_le, aboveBy, belowBy, not_le, not_le]
    exact ⟨fun ⟨above, below⟩ => ⟨canonical, above.le, below.le, fun _ => ⟨above, below⟩⟩,
      fun rounds => rounds.inside odd⟩

end

/-! ## Grids -/

/-- The member of an interval among the two neighbours of the value on the grid of multiples of a
fraction. -/
def Interval.neighbour (interval : Interval) (exponent : ℤ) (up down : ℕ) : Option Digits :=
  let numerator := interval.value * down
  let cell := interval.denominator * up
  let below := numerator / cell
  let rest := numerator % cell
  let lower := interval.holds (below * up) down
  let upper := interval.holds ((below + 1) * up) down
  if lower && upper then
    some ⟨if 2 * rest < cell then below else below + 1, exponent⟩
  else if lower then some ⟨below, exponent⟩
  else if upper then some ⟨below + 1, exponent⟩
  else none

/-- The grid of a power of ten is that of a fraction. -/
theorem exists_fraction (interval : Interval) (exponent : ℤ) : ∃ up down : ℕ, 0 < up ∧ 0 < down ∧
    (up : ℚ) / down = 10 ^ exponent ∧
    interval.onGrid exponent = interval.neighbour exponent up down := by
  cases exponent with
  | ofNat power =>
    refine ⟨10 ^ power, 1, Nat.pow_pos (by decide), Nat.one_pos, ?_, rfl⟩
    rw [Int.ofNat_eq_natCast, zpow_natCast]
    push_cast
    exact div_one _
  | negSucc power =>
    refine ⟨1, 10 ^ (power + 1), Nat.one_pos, Nat.pow_pos (by decide), ?_, rfl⟩
    rw [zpow_negSucc]
    push_cast
    exact one_div _

/-- The one of two neighbours that is chosen is accepted, and none is chosen only where neither
is accepted. -/
theorem choice_cases (lower upper : Bool) (tie : Prop) [Decidable tie] (below : ℕ)
    (exponent : ℤ) :
    match (if lower && upper then some (Digits.mk (if tie then below else below + 1) exponent)
      else if lower then some ⟨below, exponent⟩
      else if upper then some ⟨below + 1, exponent⟩
      else none) with
    | some found => found.exponent = exponent ∧
        ((found.digits = below ∧ lower = true) ∨ (found.digits = below + 1 ∧ upper = true))
    | none => lower = false ∧ upper = false := by
  cases lower <;> cases upper
  · exact ⟨rfl, rfl⟩
  · exact ⟨rfl, .inr ⟨rfl, rfl⟩⟩
  · exact ⟨rfl, .inl ⟨rfl, rfl⟩⟩
  · by_cases half : tie
    · exact ⟨rfl, .inl ⟨if_pos half, rfl⟩⟩
    · exact ⟨rfl, .inr ⟨if_neg half, rfl⟩⟩

/-- The value of a double, in quarters of its last place. -/
def quarters (mantissa : ℕ) (exponent : ℤ) : ℚ := (4 * mantissa : ℕ) * 2 ^ (exponent - 2)

/-- The value of a double is the fraction that its interval has for it. -/
theorem quarters_eq_div (parts : Binary) : quarters parts.mantissa parts.exponent =
    (Interval.ofBinary parts).value / (Interval.ofBinary parts).denominator := by
  obtain ⟨unit, _, scale, _, value, _⟩ := exists_unit parts
  rw [quarters, ← scale, value]
  push_cast
  ring

/-- The value is between the two multiples of a grid that are around it. -/
theorem quarters_between {parts : Binary} {up down : ℕ} {step : ℚ} (upPositive : 0 < up)
    (downPositive : 0 < down) (power : (up : ℚ) / down = step) :
    (((Interval.ofBinary parts).value * down / ((Interval.ofBinary parts).denominator * up) : ℕ) *
        step : ℚ) ≤ quarters parts.mantissa parts.exponent ∧
      quarters parts.mantissa parts.exponent <
        ((Interval.ofBinary parts).value * down / ((Interval.ofBinary parts).denominator * up) + 1 :
          ℕ) * step := by
  obtain ⟨unit, some, _⟩ := exists_unit parts
  have denominator : (0 : ℚ) < (Interval.ofBinary parts).denominator := by exact_mod_cast some
  have divisor : (0 : ℚ) < down := by exact_mod_cast downPositive
  have cell := Nat.mul_pos some upPositive
  have low := Nat.div_mul_le_self ((Interval.ofBinary parts).value * down)
    ((Interval.ofBinary parts).denominator * up)
  have high := Nat.lt_mul_of_div_lt (Nat.lt_succ_self ((Interval.ofBinary parts).value * down /
    ((Interval.ofBinary parts).denominator * up))) cell
  generalize (Interval.ofBinary parts).value * down /
    ((Interval.ofBinary parts).denominator * up) = below at low high ⊢
  rw [quarters_eq_div, ← power, ← mul_div_assoc, ← mul_div_assoc, div_le_div_iff₀ divisor denominator,
    div_lt_div_iff₀ denominator divisor]
  constructor
  · have cast : (below * ((Interval.ofBinary parts).denominator * up) : ℚ) ≤
        (Interval.ofBinary parts).value * down := by exact_mod_cast low
    linarith
  · have cast : ((Interval.ofBinary parts).value * down : ℚ) <
        (below + 1 : ℕ) * ((Interval.ofBinary parts).denominator * up) := by exact_mod_cast high
    linarith

section

variable {parts : Binary} (canonical : Canonical parts.mantissa parts.exponent)
include canonical

/-- What is looked at on a grid are the two multiples around the value. If one of them is in the
interval then one that is in the interval is chosen. -/
theorem onGrid_spec (exponent : ℤ) : ∃ below : ℕ,
    (below * 10 ^ exponent : ℚ) ≤ quarters parts.mantissa parts.exponent ∧
    quarters parts.mantissa parts.exponent < (below + 1 : ℕ) * 10 ^ exponent ∧
    match (Interval.ofBinary parts).onGrid exponent with
    | some found => found.exponent = exponent ∧
        RoundsTo (found.digits * 10 ^ exponent) parts.mantissa parts.exponent
    | none => ¬RoundsTo (below * 10 ^ exponent) parts.mantissa parts.exponent ∧
        ¬RoundsTo ((below + 1 : ℕ) * 10 ^ exponent) parts.mantissa parts.exponent := by
  obtain ⟨up, down, upPositive, downPositive, power, onGrid⟩ :=
    exists_fraction (Interval.ofBinary parts) exponent
  have holds (digits : ℕ) : (Interval.ofBinary parts).holds (digits * up) down = true ↔
      RoundsTo (digits * 10 ^ exponent) parts.mantissa parts.exponent := by
    rw [holds_iff canonical downPositive, ← power]
    push_cast
    rw [mul_div_assoc]
  obtain ⟨low, high⟩ := @quarters_between parts _ _ _ upPositive downPositive power
  refine ⟨_, low, high, ?_⟩
  rw [onGrid, Interval.neighbour]
  generalize (Interval.ofBinary parts).value * down /
    ((Interval.ofBinary parts).denominator * up) = below
  have chosen := choice_cases ((Interval.ofBinary parts).holds (below * up) down)
    ((Interval.ofBinary parts).holds ((below + 1) * up) down)
    (2 * ((Interval.ofBinary parts).value * down % ((Interval.ofBinary parts).denominator * up)) <
      (Interval.ofBinary parts).denominator * up) below exponent
  split at chosen
  · obtain ⟨place, ⟨digits, held⟩ | ⟨digits, held⟩⟩ := chosen
    · exact ⟨place, digits ▸ (holds below).mp held⟩
    · exact ⟨place, digits ▸ (holds (below + 1)).mp held⟩
  · obtain ⟨notLower, notUpper⟩ := chosen
    rw [← holds, ← holds, notLower, notUpper]
    exact ⟨Bool.false_ne_true, Bool.false_ne_true⟩

/-- What is found on a grid is rounded to the double. -/
theorem rounds_of_onGrid {exponent : ℤ} {found : Digits}
    (onGrid : (Interval.ofBinary parts).onGrid exponent = some found) :
    found.exponent = exponent ∧
      RoundsTo (found.digits * 10 ^ exponent) parts.mantissa parts.exponent := by
  obtain ⟨_, _, _, chosen⟩ := onGrid_spec canonical exponent
  rw [onGrid] at chosen
  exact chosen

/-- What is strictly between the ends of the interval is rounded to the double. -/
theorem rounds_of_strict {value : ℚ}
    (above : ((4 * parts.mantissa - gapBelow parts.mantissa parts.exponent : ℕ) : ℚ) *
      2 ^ (parts.exponent - 2) < value)
    (below : value < ((4 * parts.mantissa + 2 : ℕ) : ℚ) * 2 ^ (parts.exponent - 2)) :
    RoundsTo value parts.mantissa parts.exponent :=
  ⟨canonical, above.le, below.le, fun _ => ⟨above, below⟩⟩

/-- The value itself is strictly between the ends. -/
theorem quarters_strict :
    ((4 * parts.mantissa - gapBelow parts.mantissa parts.exponent : ℕ) : ℚ) *
        2 ^ (parts.exponent - 2) < quarters parts.mantissa parts.exponent ∧
      quarters parts.mantissa parts.exponent <
        ((4 * parts.mantissa + 2 : ℕ) : ℚ) * 2 ^ (parts.exponent - 2) := by
  have positive := canonical.positive
  have gap := gapBelow_cases parts.mantissa parts.exponent
  have place : (0 : ℚ) < 2 ^ (parts.exponent - 2) := by positivity
  exact ⟨mul_lt_mul_of_pos_right (by exact_mod_cast (by omega)) place,
    mul_lt_mul_of_pos_right (by exact_mod_cast (by omega)) place⟩

/-- A value that is a multiple on a grid is found there, or another member of the interval. -/
theorem onGrid_of_multiple {exponent : ℤ} {count : ℕ}
    (multiple : quarters parts.mantissa parts.exponent = count * 10 ^ exponent) :
    (Interval.ofBinary parts).onGrid exponent ≠ none := by
  intro onGrid
  obtain ⟨below, low, high, missing⟩ := onGrid_spec canonical exponent
  rw [onGrid] at missing
  have step : (0 : ℚ) < 10 ^ exponent := by positivity
  have same : below = count := by
    rw [multiple] at low high
    have lower : (below : ℚ) ≤ count := le_of_mul_le_mul_right low step
    have upper : (count : ℚ) < (below + 1 : ℕ) := lt_of_mul_lt_mul_right high step.le
    have lowerCast : below ≤ count := by exact_mod_cast lower
    have upperCast : count < below + 1 := by exact_mod_cast upper
    omega
  rw [same, ← multiple] at missing
  exact missing.1 (rounds_of_strict canonical (quarters_strict canonical).1
    (quarters_strict canonical).2)

/-- On a grid that has sixteen places more than the value, one of the neighbours is in the
interval: the two of them are nearer than the ends are. -/
theorem onGrid_of_fine {exponent : ℤ}
    (fine : (10 : ℚ) ^ (exponent + 16) ≤ quarters parts.mantissa parts.exponent) :
    (Interval.ofBinary parts).onGrid exponent ≠ none := by
  intro onGrid
  obtain ⟨below, low, high, missing⟩ := onGrid_spec canonical exponent
  rw [onGrid] at missing
  obtain ⟨notLower, notUpper⟩ := missing
  obtain ⟨above, under⟩ := quarters_strict canonical
  have place : (0 : ℚ) < 2 ^ (parts.exponent - 2) := by positivity
  have lower := not_lt.mp fun inside =>
    notLower (rounds_of_strict canonical inside (low.trans_lt under))
  have upper := not_lt.mp fun inside =>
    notUpper (rounds_of_strict canonical (above.trans high) inside)
  -- the ends are no further apart than the neighbours are
  have wide : ((gapBelow parts.mantissa parts.exponent + 2 : ℕ) : ℚ) * 10 ^ 16 *
      2 ^ (parts.exponent - 2) ≤ (4 * parts.mantissa : ℕ) * 2 ^ (parts.exponent - 2) := by
    have gap : gapBelow parts.mantissa parts.exponent ≤ 4 * parts.mantissa := by
      have positive := canonical.positive
      have cases := gapBelow_cases parts.mantissa parts.exponent
      omega
    rw [zpow_add₀ (by norm_num)] at fine
    rw [Nat.cast_sub gap] at lower
    rw [quarters] at fine
    push_cast at lower upper fine ⊢
    norm_num at fine ⊢
    nlinarith
  have count := le_of_mul_le_mul_right wide place
  have whole : (gapBelow parts.mantissa parts.exponent + 2) * 10 ^ 16 ≤ 4 * parts.mantissa := by
    exact_mod_cast count
  have few := canonical.few
  rcases gapBelow_cases parts.mantissa parts.exponent with gap | ⟨gap, least, _⟩
  · rw [gap] at whole
    omega
  · rw [gap, least] at whole
    exact absurd whole (by decide)

omit canonical in
/-- The value of a double other than zero is positive. -/
theorem quarters_pos (positive : 0 < parts.mantissa) :
    0 < quarters parts.mantissa parts.exponent := by
  have some : (0 : ℚ) < (4 * parts.mantissa : ℕ) := by exact_mod_cast (by omega)
  exact mul_pos some (by positivity)

/-- The power of ten that the search begins above is no larger than the value. -/
theorem pow_magnitude_le : (10 : ℚ) ^ (Interval.ofBinary parts).magnitude ≤
    quarters parts.mantissa parts.exponent := by
  obtain ⟨unit, some, _⟩ := exists_unit parts
  have denominator : (0 : ℚ) < (Interval.ofBinary parts).denominator := by exact_mod_cast some
  have nonzero : 0 < (Interval.ofBinary parts).value := by
    have positive := quarters_pos canonical.positive
    rw [quarters_eq_div] at positive
    exact_mod_cast (div_pos_iff_of_pos_right denominator).mp positive
  rw [quarters_eq_div]
  unfold Interval.magnitude
  dsimp only
  generalize (Interval.ofBinary parts).value = number at nonzero ⊢
  generalize (Interval.ofBinary parts).denominator = fraction at some denominator ⊢
  by_cases large : number / fraction > 0
  · rw [if_pos large]
    have least := pow_length_toDigits_le large.ne'
    have count := @Nat.length_toDigits_pos 10 (number / fraction)
    have whole : (((Nat.toDigits 10 (number / fraction)).length : ℤ) - 1) =
        (((Nat.toDigits 10 (number / fraction)).length - 1 : ℕ) : ℤ) := by omega
    rw [whole, zpow_natCast, le_div_iff₀ denominator]
    have product := (Nat.mul_le_mul_right fraction least).trans (Nat.div_mul_le_self _ _)
    exact_mod_cast product
  · rw [if_neg large]
    have less := lt_pow_length_toDigits ((fraction + number - 1) / number - 1)
    generalize (Nat.toDigits 10 ((fraction + number - 1) / number - 1)).length = count at less ⊢
    have covers : fraction ≤ number * 10 ^ count := by
      have ceiling := Nat.lt_mul_of_div_lt
        (by omega : (fraction + number - 1) / number < 10 ^ count + 1) nonzero
      rw [Nat.succ_mul, Nat.mul_comm] at ceiling
      omega
    rw [zero_sub, zpow_neg, zpow_natCast, le_div_iff₀ denominator, inv_mul_le_iff₀ (by positivity)]
    exact_mod_cast (by rw [Nat.mul_comm]; exact covers)

omit canonical in
/-- A value of one or more has its first digit in front of the point. -/
theorem magnitude_nonneg (large : 1 ≤ quarters parts.mantissa parts.exponent) :
    0 ≤ (Interval.ofBinary parts).magnitude := by
  obtain ⟨unit, some, _⟩ := exists_unit parts
  have denominator : (0 : ℚ) < (Interval.ofBinary parts).denominator := by exact_mod_cast some
  have whole : (Interval.ofBinary parts).value / (Interval.ofBinary parts).denominator > 0 := by
    rw [quarters_eq_div, le_div_iff₀ denominator, one_mul] at large
    exact Nat.div_pos (by exact_mod_cast large) some
  have count := @Nat.length_toDigits_pos 10
    ((Interval.ofBinary parts).value / (Interval.ofBinary parts).denominator)
  unfold Interval.magnitude
  dsimp only
  rw [if_pos whole]
  omega

/-! ## The search -/

omit canonical in
/-- If there is something on a grid that is tried then the search ends there or on a coarser one. -/
theorem exists_onGrid_search {interval : Interval} {exponent grid : ℤ} {tries : ℕ}
    (within : exponent - tries < grid) (top : grid ≤ exponent)
    (found : interval.onGrid grid ≠ none) :
    ∃ place, grid ≤ place ∧ interval.onGrid place = some (interval.search exponent tries) := by
  induction tries generalizing exponent with
  | zero => omega
  | succ tries inductionHypothesis =>
    unfold Interval.search
    cases onGrid : interval.onGrid exponent with
    | some digits => exact ⟨exponent, top, onGrid⟩
    | none =>
      have finer : grid ≠ exponent := by
        rintro rfl
        exact found onGrid
      exact inductionHypothesis (by omega) (by omega)

/-- The search ends on a grid, and what it finds is rounded to the double. -/
theorem shortest_of_grid {grid : ℤ}
    (within : (Interval.ofBinary parts).magnitude - 17 < grid)
    (top : grid ≤ (Interval.ofBinary parts).magnitude + 1)
    (found : (Interval.ofBinary parts).onGrid grid ≠ none) : grid ≤ (shortest parts).exponent ∧
      RoundsTo ((shortest parts).digits * 10 ^ (shortest parts).exponent)
        parts.mantissa parts.exponent := by
  obtain ⟨place, finer, onGrid⟩ := exists_onGrid_search
    (by omega : (Interval.ofBinary parts).magnitude + 1 - (18 : ℕ) < grid) top found
  obtain ⟨same, rounds⟩ := rounds_of_onGrid canonical onGrid
  have last : (Interval.ofBinary parts).search ((Interval.ofBinary parts).magnitude + 1) 18 =
      shortest parts := rfl
  rw [last] at same rounds
  rw [same]
  exact ⟨finer, rounds⟩

/-- The last grid that is tried holds a member of the interval. -/
theorem onGrid_last :
    (Interval.ofBinary parts).onGrid ((Interval.ofBinary parts).magnitude - 16) ≠ none := by
  apply onGrid_of_fine canonical
  rw [sub_add_cancel]
  exact pow_magnitude_le canonical

/-- The shortest decimal of a double is rounded to this double. -/
theorem shortest_rounds : RoundsTo ((shortest parts).digits * 10 ^ (shortest parts).exponent)
    parts.mantissa parts.exponent :=
  (shortest_of_grid canonical (by omega) (by omega) (onGrid_last canonical)).2

/-- A shortest decimal that counts units or more is a whole number that is rounded to the double. -/
theorem shortest_rounds_natural {power : ℕ} (places : (shortest parts).exponent = power) :
    RoundsTo ((shortest parts).digits * 10 ^ power : ℕ) parts.mantissa parts.exponent := by
  have rounds := shortest_rounds canonical
  rw [places, zpow_natCast] at rounds
  push_cast
  exact rounds

/-! ## Whole numbers -/

omit canonical in
/-- The value of a whole number is its whole part. -/
theorem quarters_of_isWhole (whole : parts.isWhole = true) :
    quarters parts.mantissa parts.exponent = parts.wholePart := by
  unfold Binary.isWhole at whole
  unfold Binary.wholePart quarters
  cases place : parts.exponent with
  | ofNat power =>
    change _ = ((parts.mantissa * 2 ^ power : ℕ) : ℚ)
    rw [Int.ofNat_eq_natCast, zpow_sub₀ two_ne_zero, zpow_natCast]
    push_cast
    ring
  | negSucc power =>
    rw [place] at whole
    have none : parts.mantissa % 2 ^ (power + 1) = 0 := beq_iff_eq.mp whole
    obtain ⟨count, multiple⟩ := Nat.dvd_of_mod_eq_zero none
    change _ = ((parts.mantissa / 2 ^ (power + 1) : ℕ) : ℚ)
    rw [multiple, Nat.mul_div_cancel_left _ (Nat.two_pow_pos _), Int.negSucc_eq,
      zpow_sub₀ two_ne_zero, zpow_neg]
    push_cast
    field_simp
    exact_mod_cast mul_comm _ _

omit canonical in
/-- A whole number in the interval of a double that has places behind the point is the double. -/
theorem eq_of_rounds_natural {number places : ℕ} (fine : parts.exponent = -(places : ℤ))
    (rounds : RoundsTo number parts.mantissa parts.exponent) :
    parts.mantissa = number * 2 ^ places := by
  have same : ((number * 2 ^ places : ℕ) / (1 : ℕ) : ℚ) * 2 ^ (-(places : ℤ)) = number := by
    rw [zpow_neg, zpow_natCast]
    push_cast
    field_simp
  have digits : parts.exponent = -(places : ℤ) + (0 : ℕ) := by omega
  rw [← same, digits] at rounds
  obtain ⟨above, below, _⟩ := rounds.numerators Nat.one_pos
  have gap := gapBelow_cases parts.mantissa (-(places : ℤ) + (0 : ℕ))
  omega

/-- The shortest decimal has places behind the point exactly if the double has: zero places
are enough for a whole number, and no other whole number is in the interval of a double that has
places. -/
theorem shortest_exponent_nonneg_iff :
    0 ≤ (shortest parts).exponent ↔ parts.isWhole = true := by
  constructor
  · intro whole
    obtain ⟨power, places⟩ := Int.eq_ofNat_of_zero_le whole
    have rounds := shortest_rounds_natural canonical places
    unfold Binary.isWhole
    cases place : parts.exponent with
    | ofNat _ => rfl
    | negSucc behind =>
      have fine : parts.exponent = -((behind + 1 : ℕ) : ℤ) := by omega
      have multiple := eq_of_rounds_natural fine rounds
      exact beq_iff_eq.mpr (by rw [multiple]; exact Nat.mul_mod_left _ _)
  · intro whole
    have value := quarters_of_isWhole whole
    have some : 1 ≤ quarters parts.mantissa parts.exponent := by
      have positive := quarters_pos canonical.positive
      rw [value] at positive ⊢
      exact_mod_cast positive
    have first := magnitude_nonneg some
    by_cases large : 16 ≤ (Interval.ofBinary parts).magnitude
    · have found := shortest_of_grid canonical (by omega) (by omega) (onGrid_last canonical)
      omega
    · have units : (Interval.ofBinary parts).onGrid 0 ≠ none :=
        onGrid_of_multiple canonical (by rw [value, zpow_zero, mul_one])
      exact (shortest_of_grid canonical (by omega) (by omega) units).1

omit canonical in
/-- The shortest decimal of the least power of two that does not fit in 64 bits is larger than
this power. -/
theorem shortest_least_wide (negative : Bool) :
    (shortest ⟨negative, 2 ^ 52, 11⟩).digits = 9223372036854776 ∧
      (shortest ⟨negative, 2 ^ 52, 11⟩).exponent = 3 := by
  cases negative <;> decide +kernel

end

section

variable {mantissa written : ℕ}

/-- A whole number in the interval of a double that has places behind the point is its whole part,
and small. -/
theorem wholePart_of_places {behind : ℕ} (negative : Bool)
    (rounds : RoundsTo written mantissa (.negSucc behind)) :
    (Binary.mk negative mantissa (.negSucc behind)).wholePart = written ∧ written < 2 ^ 53 := by
  have few := rounds.few
  have multiple : mantissa = written * 2 ^ (behind + 1) :=
    @eq_of_rounds_natural ⟨negative, mantissa, .negSucc behind⟩ _ _ (Int.negSucc_eq behind) rounds
  have small : written ≤ mantissa := by
    rw [multiple]
    exact Nat.le_mul_of_pos_right _ (Nat.two_pow_pos _)
  constructor
  · change mantissa / 2 ^ (behind + 1) = written
    rw [multiple, Nat.mul_div_cancel _ (Nat.two_pow_pos _)]
  · omega

variable {ahead : ℕ} (rounds : RoundsTo written mantissa (ahead : ℤ))
include rounds

/-- A whole number in the interval of a double without places is between the ends. -/
theorem RoundsTo.bounds_of_natural :
    (4 * mantissa - gapBelow mantissa ahead) * 2 ^ ahead ≤ 4 * written ∧
      4 * written ≤ (4 * mantissa + 2) * 2 ^ ahead := by
  have value : (written : ℚ) = (written : ℕ) / (1 : ℕ) * 2 ^ (0 : ℤ) := by simp
  have place : (ahead : ℤ) = 0 + (ahead : ℤ) := (Int.zero_add _).symm
  rw [value, place] at rounds
  obtain ⟨above, below, _⟩ := rounds.numerators Nat.one_pos
  rw [Nat.one_mul, ← place] at above
  rw [Nat.one_mul] at below
  exact ⟨above, below⟩

/-- A whole number in the interval of a double without places fits in 64 bits if the double does:
the end of the interval does. -/
theorem natural_fits (small : mantissa * 2 ^ ahead < 2 ^ 63) : written < 2 ^ 63 := by
  have few := rounds.few
  have full : 2 ^ 52 ≤ mantissa :=
    rounds.full.resolve_right (fun least : (ahead : ℤ) = -1074 => by omega)
  obtain ⟨_, below⟩ := rounds.bounds_of_natural
  have near : ahead ≤ 10 := by
    by_contra far
    have large := Nat.mul_le_mul full
      (Nat.pow_le_pow_right (by decide) (by omega : 11 ≤ ahead) : 2 ^ 11 ≤ 2 ^ ahead)
    omega
  have most := Nat.mul_le_mul (by omega : 4 * mantissa + 2 ≤ 2 ^ 55 - 2)
    (Nat.pow_le_pow_right (by decide) near : 2 ^ ahead ≤ 2 ^ 10)
  omega

/-- A whole number in the interval of a double that does not fit in 64 bits is larger than any that
fit with either sign, unless the double is the least one. -/
theorem natural_exceeds (large : 2 ^ 63 ≤ mantissa * 2 ^ ahead)
    (other : ¬(mantissa = 2 ^ 52 ∧ ahead = 11)) : 2 ^ 63 < written := by
  have few := rounds.few
  have full : 2 ^ 52 ≤ mantissa :=
    rounds.full.resolve_right (fun least : (ahead : ℤ) = -1074 => by omega)
  have gap := gapBelow_cases mantissa ahead
  obtain ⟨above, _⟩ := rounds.bounds_of_natural
  have far : 11 ≤ ahead := by
    by_contra near
    have small := Nat.mul_le_mul (by omega : mantissa ≤ 2 ^ 53 - 1)
      (Nat.pow_le_pow_right (by decide) (by omega : ahead ≤ 10) : 2 ^ ahead ≤ 2 ^ 10)
    omega
  -- the lower end is beyond already: of the doubles with this last place only the least is not
  have beyond : 2 ^ 65 < (4 * mantissa - gapBelow mantissa ahead) * 2 ^ ahead := by
    by_cases second : ahead = 11
    · subst second
      omega
    · have wide := Nat.mul_le_mul
        (by omega : 2 ^ 54 - 2 ≤ 4 * mantissa - gapBelow mantissa ahead)
        (Nat.pow_le_pow_right (by decide) (by omega : 12 ≤ ahead) : 2 ^ 12 ≤ 2 ^ ahead)
      omega
  omega

end

/-- The decimal of a whole number fits in 64 bits exactly if the number does, and where it does not
it is larger than any that fit with either sign. -/
theorem whole_decimal_fits {parts : Binary} (canonical : Canonical parts.mantissa parts.exponent)
    {power : ℕ} (places : (shortest parts).exponent = power) :
    (parts.wholePart < 2 ^ 63 → (shortest parts).digits * 10 ^ power < 2 ^ 63) ∧
      (2 ^ 63 ≤ parts.wholePart → 2 ^ 63 < (shortest parts).digits * 10 ^ power) := by
  have rounds := shortest_rounds_natural canonical places
  obtain ⟨negative, mantissa, exponent⟩ := parts
  cases exponent with
  | negSucc behind =>
    obtain ⟨same, small⟩ := wholePart_of_places negative rounds
    rw [same]
    exact ⟨fun fits => fits, fun _ => by omega⟩
  | ofNat ahead =>
    refine ⟨natural_fits rounds, fun large => ?_⟩
    by_cases least : mantissa = 2 ^ 52 ∧ ahead = 11
    · obtain ⟨rfl, rfl⟩ := least
      obtain ⟨digits, exponent⟩ := shortest_least_wide negative
      have three : power = 3 := by
        exact_mod_cast places.symm.trans exponent
      rw [show (shortest ⟨negative, 2 ^ 52, Int.ofNat 11⟩).digits = _ from digits, three]
      decide
    · exact natural_exceeds rounds large least

end DialectBridge.Decimal
