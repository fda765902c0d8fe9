import DialectBridge.Proofs.Decimal.Doubles

/-!
# Rounding rational numbers to doubles

A double stands for the numbers that are rounded to it, and these fill an interval around its
value: half the distance to the next double above and to the next one below, with both ends if its
mantissa is even. What is done with doubles is done exactly and then rounded, so a product and a
quotient come out as the double in whose interval the exact value is.
-/

namespace DialectBridge.Decimal

open Float.Model Float.Model.UnpackedFloat

/-! ## The interval of a double -/

/-- The distance from a double to the lower end of its interval, in quarters of its last place.
Below a power of two the doubles are twice as dense, except at the bottom of the range. -/
def gapBelow (mantissa : ℕ) (exponent : ℤ) : ℕ :=
  if mantissa = 2 ^ 52 ∧ exponent ≠ -1074 then 1 else 2

/-- A mantissa and an exponent are those of a double other than zero: the first of 53 digits is not
zero, unless the exponent is the least one. -/
structure Canonical (mantissa : ℕ) (exponent : ℤ) : Prop where
  positive : 0 < mantissa
  few : mantissa < 2 ^ 53
  least : -1074 ≤ exponent
  full : 2 ^ 52 ≤ mantissa ∨ exponent = -1074

/-- A number is in the interval of a double. -/
structure RoundsTo (value : ℚ) (mantissa : ℕ) (exponent : ℤ) : Prop
    extends Canonical mantissa exponent where
  above : ((4 * mantissa - gapBelow mantissa exponent : ℕ) : ℚ) * 2 ^ (exponent - 2) ≤ value
  below : value ≤ ((4 * mantissa + 2 : ℕ) : ℚ) * 2 ^ (exponent - 2)
  inside : mantissa % 2 = 1 →
    ((4 * mantissa - gapBelow mantissa exponent : ℕ) : ℚ) * 2 ^ (exponent - 2) < value ∧
      value < ((4 * mantissa + 2 : ℕ) : ℚ) * 2 ^ (exponent - 2)

/-- A mantissa that is less than half a unit away is the number of units, and one that is half a
unit away if it is even. -/
theorem halfEven_eq_of_near {number unit mantissa : ℕ} (positive : 0 < unit)
    (above : 2 * (mantissa * unit) ≤ 2 * number + unit)
    (below : 2 * number ≤ 2 * (mantissa * unit) + unit)
    (inside : mantissa % 2 = 1 → 2 * (mantissa * unit) < 2 * number + unit ∧
      2 * number < 2 * (mantissa * unit) + unit) : halfEven number unit = mantissa := by
  by_cases short : number < mantissa * unit
  · obtain ⟨fewer, rfl⟩ : ∃ fewer, mantissa = fewer + 1 := by
      refine Nat.exists_eq_succ_of_ne_zero ?_
      rintro rfl
      simp at short
    have next : (fewer + 1) * unit = fewer * unit + unit := Nat.succ_mul fewer unit
    rw [next] at above below inside short
    obtain ⟨rest, rfl⟩ : ∃ rest, number = rest + fewer * unit :=
      Nat.exists_eq_add_of_le' (by omega)
    rw [halfEven_add_mul fewer (by omega)]
    split
    · omega
    · split
      · omega
      · omega
  · obtain ⟨rest, rfl⟩ : ∃ rest, number = rest + mantissa * unit :=
      Nat.exists_eq_add_of_le' (by omega)
    rw [halfEven_add_mul mantissa (by omega)]
    split
    · omega
    · split
      · omega
      · omega

section

variable {number unit count digits : ℕ} {exponent : ℤ} (positive : 0 < unit)
include positive

/-- A multiple of a quarter of a place, some places up. -/
theorem quarters_eq : (count : ℚ) * 2 ^ (exponent + digits - 2) =
    ((count * (unit * 2 ^ digits) : ℕ) / (4 * unit : ℕ) : ℚ) * 2 ^ exponent := by
  have denominator : (unit : ℚ) ≠ 0 := by exact_mod_cast positive.ne'
  rw [zpow_sub₀ two_ne_zero, zpow_add₀ two_ne_zero, zpow_natCast]
  push_cast
  field_simp

/-- A fraction, over the same denominator. -/
theorem fraction_eq : (number / unit : ℚ) * 2 ^ exponent =
    ((4 * number : ℕ) / (4 * unit : ℕ) : ℚ) * 2 ^ exponent := by
  have denominator : (unit : ℚ) ≠ 0 := by exact_mod_cast positive.ne'
  push_cast
  field_simp

/-- Fractions with one denominator are compared by their numerators. -/
theorem fraction_le_iff {first second : ℕ} :
    (first / (4 * unit : ℕ) : ℚ) * 2 ^ exponent ≤ (second / (4 * unit : ℕ) : ℚ) * 2 ^ exponent ↔
      first ≤ second := by
  have denominator : (0 : ℚ) < (4 * unit : ℕ) := by
    exact_mod_cast Nat.mul_pos (by decide) positive
  have power : (0 : ℚ) < 2 ^ exponent := by positivity
  rw [mul_le_mul_iff_left₀ power, div_le_div_iff_of_pos_right denominator, Nat.cast_le]

/-- Where a fraction is rounded to a double, its numerator is between those of the ends. -/
theorem RoundsTo.numerators {mantissa : ℕ}
    (rounds : RoundsTo (number / unit * 2 ^ exponent) mantissa (exponent + digits)) :
    (4 * mantissa - gapBelow mantissa (exponent + digits)) * (unit * 2 ^ digits) ≤ 4 * number ∧
      4 * number ≤ (4 * mantissa + 2) * (unit * 2 ^ digits) ∧
      (mantissa % 2 = 1 →
        (4 * mantissa - gapBelow mantissa (exponent + digits)) * (unit * 2 ^ digits) < 4 * number ∧
          4 * number < (4 * mantissa + 2) * (unit * 2 ^ digits)) := by
  have above := rounds.above
  have below := rounds.below
  have inside := rounds.inside
  simp only [← not_le] at inside ⊢
  rw [quarters_eq positive, fraction_eq positive, fraction_le_iff positive] at above below
  simp only [quarters_eq positive, fraction_eq positive, fraction_le_iff positive] at inside
  exact ⟨above, below, inside⟩

end

/-! ## Rounding -/

/-- The exponent to which a mantissa is shifted. -/
theorem targetExponent_max (mantissa : ℕ) (exponent : ℤ) :
    Format.binary64.targetExponent (totalExponent mantissa exponent) =
      max (mantissa.log2 + exponent - 52) (-1074) := by
  rw [targetExponent_binary64, totalExponent]
  omega

/-- Shifting a mantissa to its target exponent shifts digits out. -/
theorem shiftToTargetExponent_of_target {mantissa digits : ℕ} {exponent : ℤ}
    (accuracy : Accuracy)
    (target : max ((mantissa.log2 : ℤ) + exponent - 52) (-1074) = exponent + digits) :
    shiftToTargetExponent Format.binary64 mantissa exponent accuracy =
      (ExtendedMantissa.ofMantissaAndAccuracy mantissa accuracy >>> digits, exponent + digits) := by
  have shift : (exponent + digits - exponent).toNat = digits := by omega
  unfold shiftToTargetExponent shiftToExponent
  rw [targetExponent_max, target]
  simp only [shift]

/-- A mantissa with its accuracy is still the mantissa. -/
theorem mantissa_ofMantissaAndAccuracy (mantissa : ℕ) (accuracy : Accuracy) :
    (ExtendedMantissa.ofMantissaAndAccuracy mantissa accuracy).mantissa = mantissa := by
  unfold ExtendedMantissa.ofMantissaAndAccuracy
  split <;> rfl

section

variable {mantissa number unit rounded digits : ℕ} {exponent place : ℤ} {accuracy : Accuracy}

/-- The mantissa of a number that is given with what is left of it. -/
theorem Represents.mantissa_eq
    (represents :
      Represents (ExtendedMantissa.ofMantissaAndAccuracy mantissa accuracy) number unit) :
    mantissa = number / unit := by
  rw [← represents.mantissa, mantissa_ofMantissaAndAccuracy]

/-- A number of some units has the digits of the number of units. -/
theorem log2_div_eq {bits : ℕ} (positive : 0 < unit) (low : 2 ^ bits * unit ≤ number)
    (high : number < 2 ^ (bits + 1) * unit) : (number / unit).log2 = bits := by
  have least : 2 ^ bits ≤ number / unit := (Nat.le_div_iff_mul_le positive).mpr low
  have nonzero : number / unit ≠ 0 := (Nat.lt_of_lt_of_le (Nat.two_pow_pos _) least).ne'
  exact (Nat.log2_eq_iff nonzero).mpr ⟨least, (Nat.div_lt_iff_lt_mul positive).mpr high⟩

/-- The mantissa that is rounded to is the one that is kept, if the number was shifted to its
place. -/
theorem roundWithAccuracy_of_target (sign : Sign)
    (represents :
      Represents (ExtendedMantissa.ofMantissaAndAccuracy mantissa accuracy) number unit)
    (positive : 0 < unit)
    (target : max ((mantissa.log2 : ℤ) + exponent - 52) (-1074) = exponent + digits)
    (canonical : Canonical rounded (exponent + digits))
    (nearest : halfEven number (unit * 2 ^ digits) = rounded) :
    roundWithAccuracy Format.binary64 sign mantissa exponent accuracy =
      .finite sign rounded (exponent + digits) canonical.positive := by
  have shifted := (represents.shiftRight positive digits).roundedMantissa
  have stays : max ((rounded.log2 : ℤ) + (exponent + digits) - 52) (-1074) =
      exponent + digits + (0 : ℕ) := by
    have least := canonical.least
    rcases canonical.full with full | bottom
    · have size : rounded.log2 = 52 :=
        (Nat.log2_eq_iff canonical.positive.ne').mpr ⟨full, canonical.few⟩
      omega
    · have size : rounded.log2 < 53 :=
        (Nat.log2_lt canonical.positive.ne').mpr canonical.few
      omega
  unfold roundWithAccuracy
  rw [shiftToTargetExponent_of_target accuracy target]
  dsimp only
  rw [shifted, nearest, shiftToTargetExponent_of_target .exact stays]
  have place : exponent + digits + (0 : ℕ) = exponent + digits := Int.add_zero _
  simp only [place]
  exact dif_neg canonical.positive.ne'

/-- A number just below a power of two that is rounded up to it gets the next exponent. -/
theorem roundWithAccuracy_of_carry (sign : Sign)
    (represents :
      Represents (ExtendedMantissa.ofMantissaAndAccuracy mantissa accuracy) number unit)
    (positive : 0 < unit) (least : -1074 ≤ exponent + digits)
    (target : max ((mantissa.log2 : ℤ) + exponent - 52) (-1074) = exponent + digits)
    (carried : halfEven number (unit * 2 ^ digits) = 2 ^ 53) :
    roundWithAccuracy Format.binary64 sign mantissa exponent accuracy =
      .finite sign (2 ^ 52) (exponent + digits + 1) (by decide) := by
  have shifted := (represents.shiftRight positive digits).roundedMantissa
  have moves : max (((2 ^ 53 : ℕ).log2 : ℤ) + (exponent + digits) - 52) (-1074) =
      exponent + digits + (1 : ℕ) := by
    have size : (2 ^ 53 : ℕ).log2 = 53 := Nat.log2_two_pow
    omega
  unfold roundWithAccuracy
  rw [shiftToTargetExponent_of_target accuracy target]
  dsimp only
  rw [shifted, carried, shiftToTargetExponent_of_target .exact moves]
  rfl

/-- A number is not given with fewer digits than the double has to which it is rounded. -/
theorem RoundsTo.exponent_le (positive : 0 < unit) (whole : mantissa = number / unit)
    (fine : exponent ≤ max ((mantissa.log2 : ℤ) + exponent - 52) (-1074))
    (rounds : RoundsTo (number / unit * 2 ^ exponent) rounded place) : exponent ≤ place := by
  by_contra coarse
  have least := rounds.least
  have digits : 52 ≤ mantissa.log2 := by omega
  have nonzero : mantissa ≠ 0 := by
    rintro rfl
    simp at digits
  have long : 2 ^ 52 * unit ≤ number := by
    have power : 2 ^ 52 ≤ mantissa := (Nat.le_log2 nonzero).mp digits
    rw [whole] at power
    exact (Nat.le_div_iff_mul_le positive).mp power
  have large : (2 : ℚ) ^ 52 * 2 ^ exponent ≤ number / unit * 2 ^ exponent := by
    have denominator : (0 : ℚ) < unit := by exact_mod_cast positive
    refine mul_le_mul_of_nonneg_right ?_ (by positivity)
    rw [le_div_iff₀ denominator]
    exact_mod_cast long
  have few : ((4 * rounded + 2 : ℕ) : ℚ) < 2 ^ 55 := by
    have bounded := rounds.few
    exact_mod_cast (by omega : 4 * rounded + 2 < 2 ^ 55)
  have smaller : ((4 * rounded + 2 : ℕ) : ℚ) * 2 ^ (place - 2) < 2 ^ 52 * 2 ^ exponent := by
    calc ((4 * rounded + 2 : ℕ) : ℚ) * 2 ^ (place - 2)
        < 2 ^ 55 * 2 ^ (place - 2) := mul_lt_mul_of_pos_right few (by positivity)
      _ = 2 ^ 52 * 2 ^ (place + 1) := by
        rw [zpow_sub₀ two_ne_zero, zpow_add₀ two_ne_zero]
        norm_num
        ring
      _ ≤ 2 ^ 52 * 2 ^ exponent :=
        mul_le_mul_of_nonneg_left (zpow_le_zpow_right₀ (by norm_num) (by omega)) (by positivity)
  exact absurd (large.trans rounds.below) (not_le.mpr smaller)

/-- The interval reaches down half a place, and a quarter from a power of two. -/
theorem gapBelow_cases (mantissa : ℕ) (exponent : ℤ) : gapBelow mantissa exponent = 2 ∨
    (gapBelow mantissa exponent = 1 ∧ mantissa = 2 ^ 52 ∧ exponent ≠ -1074) := by
  unfold gapBelow
  split
  · next power => exact .inr ⟨rfl, power⟩
  · exact .inl rfl

/-- A number in the interval of a double has its mantissa for the nearest one. -/
theorem RoundsTo.halfEven_eq (positive : 0 < unit)
    (rounds : RoundsTo (number / unit * 2 ^ exponent) rounded (exponent + digits)) :
    halfEven number (unit * 2 ^ digits) = rounded := by
  obtain ⟨above, below, inside⟩ := rounds.numerators positive
  have room : 0 < unit * 2 ^ digits := Nat.mul_pos positive (Nat.two_pow_pos _)
  rw [Nat.sub_mul, Nat.mul_assoc] at above inside
  rw [Nat.add_mul, Nat.mul_assoc] at below inside
  refine halfEven_eq_of_near room ?_ ?_ fun odd => ?_
  · rcases gapBelow_cases rounded (exponent + digits) with gap | ⟨gap, _⟩ <;> rw [gap] at above <;>
      omega
  · omega
  · obtain ⟨strictAbove, strictBelow⟩ := inside odd
    rcases gapBelow_cases rounded (exponent + digits) with gap | ⟨gap, _⟩ <;>
      rw [gap] at strictAbove <;> omega

/-- A number in the interval of a double is below the next power of two. -/
theorem RoundsTo.lt_top (positive : 0 < unit)
    (rounds : RoundsTo (number / unit * 2 ^ exponent) rounded (exponent + digits)) :
    number < 2 ^ (52 + digits + 1) * unit := by
  obtain ⟨_, below, _⟩ := rounds.numerators positive
  have room : 0 < unit * 2 ^ digits := Nat.mul_pos positive (Nat.two_pow_pos _)
  have next := Nat.mul_le_mul_right (unit * 2 ^ digits) (Nat.succ_le_of_lt rounds.few)
  have power : 2 ^ (52 + digits + 1) * unit = 2 ^ 53 * (unit * 2 ^ digits) := by ring
  rw [Nat.succ_mul] at next
  rw [Nat.add_mul, Nat.mul_assoc] at below
  omega

/-- A number in the interval of a double and below the power of two from which its mantissa counts
is just below this power, unless the exponent is the least one. -/
theorem RoundsTo.below_power (positive : 0 < unit)
    (rounds : RoundsTo (number / unit * 2 ^ exponent) rounded (exponent + digits))
    (short : number < 2 ^ (52 + digits) * unit) (notLeast : exponent + digits ≠ -1074) :
    rounded = 2 ^ 52 ∧ (2 ^ 54 - 1) * (unit * 2 ^ digits) ≤ 4 * number := by
  obtain ⟨above, _, _⟩ := rounds.numerators positive
  have full : 2 ^ 52 ≤ rounded := rounds.full.resolve_right notLeast
  have power : 4 * (2 ^ (52 + digits) * unit) = 2 ^ 54 * (unit * 2 ^ digits) := by ring
  have quarters : 4 * rounded - gapBelow rounded (exponent + digits) < 2 ^ 54 := by
    have less : (4 * rounded - gapBelow rounded (exponent + digits)) * (unit * 2 ^ digits) <
        2 ^ 54 * (unit * 2 ^ digits) := by omega
    exact Nat.lt_of_mul_lt_mul_right less
  have least : rounded = 2 ^ 52 := by
    rcases gapBelow_cases rounded (exponent + digits) with gap | ⟨_, least, _⟩
    · omega
    · exact least
  have gap : gapBelow rounded (exponent + digits) = 1 := if_pos ⟨least, notLeast⟩
  rw [gap, least] at above
  exact ⟨least, above⟩

/-- A number that is given with enough digits and with what is left of it is rounded to the double
in whose interval it is. Proof: it is shifted to the place of this double, unless it is below the
power of two that it is rounded to. Then it is shifted to the place below, and carried. -/
theorem roundWithAccuracy_eq (sign : Sign) (positive : 0 < unit)
    (represents :
      Represents (ExtendedMantissa.ofMantissaAndAccuracy mantissa accuracy) number unit)
    (fine : exponent ≤ max ((mantissa.log2 : ℤ) + exponent - 52) (-1074))
    (rounds : RoundsTo (number / unit * 2 ^ exponent) rounded place) :
    roundWithAccuracy Format.binary64 sign mantissa exponent accuracy =
      .finite sign rounded place rounds.positive := by
  have whole := represents.mantissa_eq
  obtain ⟨digits, rfl⟩ := Int.le.dest (rounds.exponent_le positive whole fine)
  have least := rounds.least
  have top := rounds.lt_top positive
  have nearest := rounds.halfEven_eq positive
  by_cases long : 2 ^ (52 + digits) * unit ≤ number
  · have size : mantissa.log2 = 52 + digits := by rw [whole, log2_div_eq positive long top]
    exact roundWithAccuracy_of_target sign represents positive (by omega) rounds.toCanonical nearest
  · by_cases bottom : exponent + digits = -1074
    · have few : mantissa < 2 ^ (52 + digits) := by
        rw [whole]
        exact (Nat.div_lt_iff_lt_mul positive).mpr (Nat.lt_of_not_le long)
      have size : mantissa.log2 < 52 + digits := by
        by_cases zero : mantissa = 0
        · rw [zero, Nat.log2_zero]
          omega
        · exact (Nat.log2_lt zero).mpr few
      exact roundWithAccuracy_of_target sign represents positive (by omega) rounds.toCanonical
        nearest
    · obtain ⟨rfl, above⟩ := rounds.below_power positive (Nat.lt_of_not_le long) bottom
      have half : 2 ^ (51 + digits) * unit ≤ number := by
        have power : 4 * (2 ^ (51 + digits) * unit) = 2 ^ 53 * (unit * 2 ^ digits) := by ring
        omega
      have size : mantissa.log2 = 51 + digits := by
        rw [whole, log2_div_eq positive half (by rw [Nat.add_right_comm]; exact Nat.lt_of_not_le long)]
      obtain ⟨fewer, rfl⟩ : ∃ fewer, digits = fewer + 1 :=
        Nat.exists_eq_succ_of_ne_zero (by omega)
      have carried : halfEven number (unit * 2 ^ fewer) = 2 ^ 53 := by
        have room : 0 < unit * 2 ^ fewer := Nat.mul_pos positive (Nat.two_pow_pos _)
        have double : unit * 2 ^ (fewer + 1) = 2 * (unit * 2 ^ fewer) := by ring
        have power : 2 ^ (52 + (fewer + 1)) * unit = 2 ^ 53 * (unit * 2 ^ fewer) := by ring
        rw [double] at above
        refine halfEven_eq_of_near room ?_ ?_ fun odd => absurd odd (by decide)
        · omega
        · omega
      have target : max ((mantissa.log2 : ℤ) + exponent - 52) (-1074) = exponent + fewer := by
        omega
      have carry := roundWithAccuracy_of_carry sign represents positive (by omega) target carried
      have next : exponent + fewer + 1 = exponent + (fewer + 1 : ℕ) := by omega
      rw [carry]
      simp only [next]

end

/-! ## Products and quotients -/

/-- What is left of a division is what its accuracy says. -/
theorem represents_div (number : ℕ) {unit : ℕ} (positive : 0 < unit) :
    Represents (ExtendedMantissa.ofMantissaAndAccuracy (number / unit)
      (accuracyOfFraction (number % unit) unit)) number unit := by
  unfold accuracyOfFraction
  by_cases exact : number % unit = 0
  · rw [if_pos exact]
    constructor <;> simp [ExtendedMantissa.ofMantissaAndAccuracy, exact, positive.ne']
  · rw [if_neg exact]
    cases half : compare (2 * (number % unit)) unit with
    | lt =>
      have less := compare_lt_iff_lt.mp half
      constructor <;> simp [ExtendedMantissa.ofMantissaAndAccuracy] <;> omega
    | eq =>
      have same := compare_eq_iff_eq.mp half
      constructor <;> simp [ExtendedMantissa.ofMantissaAndAccuracy] <;> omega
    | gt =>
      have more := compare_gt_iff_gt.mp half
      constructor <;> simp [ExtendedMantissa.ofMantissaAndAccuracy] <;> omega

section

variable {first second rounded : ℕ} {place firstPlace secondPlace : ℤ}
  (firstPositive : 0 < first) (secondPositive : 0 < second)

/-- A product with enough digits is rounded to the double in whose interval it is. -/
theorem mul_eq
    (fine : firstPlace + secondPlace ≤
      max (((first * second).log2 : ℤ) + (firstPlace + secondPlace) - 52) (-1074))
    (rounds : RoundsTo (first * 2 ^ firstPlace * (second * 2 ^ secondPlace)) rounded place) :
    UnpackedFloat.mul Format.binary64 (.finite .positive first firstPlace firstPositive)
        (.finite .positive second secondPlace secondPositive) =
      .finite .positive rounded place rounds.positive := by
  have exact : ((first * second : ℕ) : ℚ) / (1 : ℕ) * 2 ^ (firstPlace + secondPlace) =
      first * 2 ^ firstPlace * (second * 2 ^ secondPlace) := by
    rw [zpow_add₀ two_ne_zero]
    push_cast
    ring
  rw [← exact] at rounds
  exact roundWithAccuracy_eq .positive Nat.one_pos (represents_exact (first * second)) fine rounds

include firstPositive secondPositive in
/-- A number is divided with enough digits, if it has 53 more than what it is divided by. -/
theorem log2_div_ge {digits : ℕ} (long : second.log2 + 53 ≤ first.log2 + digits) :
    52 ≤ (first * 2 ^ digits / second).log2 := by
  have low : 2 ^ first.log2 ≤ first := Nat.log2_self_le firstPositive.ne'
  have high : second < 2 ^ (second.log2 + 1) := Nat.lt_log2_self
  have quotient : 2 ^ 52 ≤ first * 2 ^ digits / second := by
    rw [Nat.le_div_iff_mul_le secondPositive]
    calc 2 ^ 52 * second ≤ 2 ^ 52 * 2 ^ (second.log2 + 1) := Nat.mul_le_mul_left _ high.le
      _ = 2 ^ (second.log2 + 53) := by rw [← Nat.pow_add]; congr 1; omega
      _ ≤ 2 ^ (first.log2 + digits) := Nat.pow_le_pow_right (by decide) long
      _ = 2 ^ first.log2 * 2 ^ digits := Nat.pow_add ..
      _ ≤ first * 2 ^ digits := Nat.mul_le_mul_right _ low
  exact (Nat.le_log2 (by omega)).mpr quotient

/-- A quotient is rounded to the double in whose interval it is. -/
theorem div_eq
    (rounds : RoundsTo (first * 2 ^ firstPlace / (second * 2 ^ secondPlace)) rounded place) :
    UnpackedFloat.div Format.binary64 (.finite .positive first firstPlace firstPositive)
        (.finite .positive second secondPlace secondPositive) =
      .finite .positive rounded place rounds.positive := by
  have target : Format.binary64.targetExponent
      (totalExponent first firstPlace - totalExponent second secondPlace) =
        max ((first.log2 : ℤ) + firstPlace - (second.log2 + secondPlace) - 53) (-1074) := by
    rw [targetExponent_binary64, totalExponent, totalExponent]
    omega
  unfold UnpackedFloat.div divCore
  dsimp only
  rw [target, Nat.shiftLeft_eq]
  generalize chosen : min (firstPlace - secondPlace)
    (max ((first.log2 : ℤ) + firstPlace - (second.log2 + secondPlace) - 53) (-1074)) = exponent
  obtain ⟨digits, places⟩ := Int.le.dest (by omega : exponent ≤ firstPlace - secondPlace)
  have shift : (firstPlace - secondPlace - exponent).toNat = digits := by omega
  rw [shift]
  have exact : ((first * 2 ^ digits : ℕ) : ℚ) / second * 2 ^ exponent =
      first * 2 ^ firstPlace / (second * 2 ^ secondPlace) := by
    have apart : firstPlace = exponent + digits + secondPlace := by omega
    have denominator : (second : ℚ) ≠ 0 := by exact_mod_cast secondPositive.ne'
    have power : (2 : ℚ) ^ secondPlace ≠ 0 := zpow_ne_zero _ two_ne_zero
    rw [apart, zpow_add₀ two_ne_zero, zpow_add₀ two_ne_zero, zpow_natCast]
    push_cast
    field_simp
  rw [← exact] at rounds
  have fine : exponent ≤
      max (((first * 2 ^ digits / second).log2 : ℤ) + exponent - 52) (-1074) := by
    by_cases bottom : exponent ≤ -1074
    · omega
    · have enough := log2_div_ge firstPositive secondPositive
        (by omega : second.log2 + 53 ≤ first.log2 + digits)
      omega
  exact roundWithAccuracy_eq .positive secondPositive (represents_div _ secondPositive) fine rounds

end

/-! ## Decimals -/

section

variable {value : ℚ} {rounded : ℕ} {place : ℤ} (rounds : RoundsTo value rounded place)
include rounds

/-- A number that is rounded to a double that is not too large is not too large. -/
theorem RoundsTo.value_lt (small : place ≤ 971) : value < 2 ^ (1024 : ℤ) := by
  have few : ((4 * rounded + 2 : ℕ) : ℚ) < 2 ^ (55 : ℤ) := by
    have bounded := rounds.few
    exact_mod_cast (by omega : 4 * rounded + 2 < 2 ^ 55)
  calc value ≤ ((4 * rounded + 2 : ℕ) : ℚ) * 2 ^ (place - 2) := rounds.below
    _ < 2 ^ (55 : ℤ) * 2 ^ (place - 2) := mul_lt_mul_of_pos_right few (by positivity)
    _ = 2 ^ (55 + (place - 2)) := (zpow_add₀ two_ne_zero _ _).symm
    _ ≤ 2 ^ (1024 : ℤ) := zpow_le_zpow_right₀ (by norm_num) (by omega)

/-- A number that is rounded to a double other than zero is not too small. -/
theorem RoundsTo.le_value : (2 : ℚ) ^ (-1075 : ℤ) ≤ value := by
  have some : (2 : ℚ) ≤ ((4 * rounded - gapBelow rounded place : ℕ) : ℚ) := by
    have positive := rounds.positive
    have gap := gapBelow_cases rounded place
    exact_mod_cast (by omega : 2 ≤ 4 * rounded - gapBelow rounded place)
  have least := rounds.least
  calc (2 : ℚ) ^ (-1075 : ℤ) ≤ 2 ^ (1 + (place - 2)) :=
        zpow_le_zpow_right₀ (by norm_num) (by omega)
    _ = 2 * 2 ^ (place - 2) := by rw [zpow_add₀ two_ne_zero, zpow_one]
    _ ≤ ((4 * rounded - gapBelow rounded place : ℕ) : ℚ) * 2 ^ (place - 2) :=
        mul_le_mul_of_nonneg_right some (by positivity)
    _ ≤ value := rounds.above

end

section

variable {digits rounded : ℕ} {exponent place : ℤ}
  (rounds : RoundsTo (digits * 10 ^ exponent) rounded place)
include rounds

/-- A decimal that is rounded to a double other than zero has a digit other than zero. -/
theorem RoundsTo.digits_ne_zero : digits ≠ 0 := by
  rintro rfl
  have least := rounds.le_value
  rw [Nat.cast_zero, zero_mul] at least
  exact absurd least (not_le.mpr (by positivity))

/-- A decimal that is rounded to a double has no large exponent. -/
theorem RoundsTo.exponent_lt (small : place ≤ 971) : exponent < 1024 := by
  by_contra large
  have one : (1 : ℚ) ≤ digits := by
    exact_mod_cast Nat.one_le_iff_ne_zero.mpr rounds.digits_ne_zero
  have many : (2 : ℚ) ^ (1024 : ℤ) ≤ digits * 10 ^ exponent := by
    calc (2 : ℚ) ^ (1024 : ℤ) ≤ 2 ^ exponent := zpow_le_zpow_right₀ (by norm_num) (by omega)
      _ ≤ 10 ^ exponent := zpow_le_zpow_left₀ (by omega) (by norm_num) (by norm_num)
      _ ≤ digits * 10 ^ exponent := le_mul_of_one_le_left (by positivity) one
  exact absurd (rounds.value_lt small) (not_lt.mpr many)

/-- A decimal that is rounded to a double other than zero has no exponent far below its digits. -/
theorem RoundsTo.le_exponent : -(1075 + (digits.log2 : ℤ)) ≤ exponent := by
  by_contra small
  have few : (digits : ℚ) < 2 ^ ((digits.log2 : ℤ) + 1) := by
    exact_mod_cast (Nat.lt_log2_self : digits < 2 ^ (digits.log2 + 1))
  have power : (10 : ℚ) ^ exponent ≤ 2 ^ exponent := by
    obtain ⟨places, rfl⟩ := Int.exists_eq_neg_ofNat (by omega : exponent ≤ 0)
    rw [zpow_neg, zpow_neg, zpow_natCast, zpow_natCast]
    exact inv_anti₀ (by positivity) (pow_le_pow_left₀ (by norm_num) (by norm_num) places)
  have tiny : (digits : ℚ) * 10 ^ exponent < 2 ^ (-1075 : ℤ) := by
    calc (digits : ℚ) * 10 ^ exponent ≤ digits * 2 ^ exponent :=
          mul_le_mul_of_nonneg_left power (by positivity)
      _ < 2 ^ ((digits.log2 : ℤ) + 1) * 2 ^ exponent :=
          mul_lt_mul_of_pos_right few (by positivity)
      _ = 2 ^ ((digits.log2 : ℤ) + 1 + exponent) := (zpow_add₀ two_ne_zero _ _).symm
      _ ≤ 2 ^ (-1075 : ℤ) := zpow_le_zpow_right₀ (by norm_num) (by omega)
  exact absurd rounds.le_value (not_le.mpr tiny)

/-- A decimal is rounded to the double in whose interval it is. -/
theorem ofScientific_eq (small : place ≤ 971) :
    UnpackedFloat.ofScientific Format.binary64 digits exponent =
      .finite .positive rounded place rounds.positive := by
  have nonzero := rounds.digits_ne_zero
  have most := rounds.exponent_lt small
  have least := rounds.le_exponent
  have bits : Format.binary64.mantissaBits = 53 := rfl
  have span : (2 : ℤ) ^ Format.binary64.exponentBits = 2048 := by decide
  unfold UnpackedFloat.ofScientific
  rw [dif_neg nonzero, if_neg (by omega), if_neg (by omega)]
  by_cases whole : 0 ≤ exponent
  · rw [if_pos whole]
    obtain ⟨power, rfl⟩ := Int.eq_ofNat_of_zero_le whole
    apply mul_eq
    · have long : 2 ^ 53 ≤ digits * 2 ^ 53 * 10 ^ power := by
        have some : 0 < digits * 10 ^ power :=
          Nat.mul_pos (Nat.pos_of_ne_zero nonzero) (Nat.pow_pos (by decide))
        calc 2 ^ 53 ≤ 2 ^ 53 * (digits * 10 ^ power) := Nat.le_mul_of_pos_right _ some
          _ = digits * 2 ^ 53 * 10 ^ power := by ring
      have size : 53 ≤ (digits * 2 ^ 53 * 10 ^ power).log2 :=
        (Nat.le_log2 (by omega)).mpr long
      rw [bits, Nat.shiftLeft_eq, Int.toNat_natCast]
      omega
    · have same : ((digits <<< Format.binary64.mantissaBits : ℕ) : ℚ) *
          2 ^ (-(Format.binary64.mantissaBits : ℤ)) *
            (((10 ^ (power : ℤ).toNat : ℕ) : ℚ) * 2 ^ (0 : ℤ)) = digits * 10 ^ (power : ℤ) := by
        rw [bits, Nat.shiftLeft_eq, Int.toNat_natCast, zpow_neg, zpow_natCast, zpow_natCast]
        push_cast
        field_simp
        norm_num
      rw [same]
      exact rounds
  · rw [if_neg whole]
    obtain ⟨places, rfl⟩ := Int.exists_eq_neg_ofNat (by omega : exponent ≤ 0)
    apply div_eq
    have same : (digits : ℚ) * 2 ^ (0 : ℤ) /
        (((10 ^ (- -(places : ℤ)).toNat : ℕ) : ℚ) * 2 ^ (0 : ℤ)) =
          digits * 10 ^ (-(places : ℤ)) := by
      rw [neg_neg, Int.toNat_natCast, zpow_neg, zpow_natCast]
      push_cast
      field_simp
    rw [same]
    exact rounds

end

/-- Of the powers of ten that are kept as doubles, the place of the first binary digit. -/
def powerPlace (power : ℕ) : ℕ := power * 93 / 28

/-- Of the powers of ten that are kept as doubles, the 53 digits. -/
def powerMantissa (power : ℕ) : ℕ := 10 ^ power * 2 ^ 52 / 2 ^ powerPlace power

/-- The powers of ten that are kept as doubles are exact. -/
theorem denotes_powerOfTen {power : ℕ}
    (kept : power < Float.exactlyRepresentablePowersOfTen.size) :
    Denotes Float.exactlyRepresentablePowersOfTen[power].toModel.unpack ((10 ^ power : ℕ) : ℤ) := by
  obtain ⟨low, high, small, same⟩ : 2 ^ 52 ≤ powerMantissa power ∧ powerMantissa power < 2 ^ 53 ∧
      powerPlace power ≤ 1022 ∧ powerMantissa power * 2 ^ powerPlace power = 10 ^ power * 2 ^ 52 := by
    revert power
    decide
  have stored : Float.exactlyRepresentablePowersOfTen[power].toModel.toBits.toBitVec =
      packComponents Format.binary64 .positive (BitVec.ofNat 11 (powerPlace power + 1023))
        (BitVec.ofNat 52 (powerMantissa power)) := by
    change power < 23 at kept
    interval_cases power <;> rfl
  have positive : 0 < powerMantissa power := Nat.lt_of_lt_of_le (by decide) low
  have place : ((powerPlace power + 1023 : ℕ) : ℤ) - 1075 = powerPlace power - 52 := by omega
  have read : Float.exactlyRepresentablePowersOfTen[power].toModel.unpack = _ :=
    congrArg (UnpackedFloat.unpack Format.binary64) stored
  rw [read, unpack_packComponents .positive (by omega) (by omega) positive low high]
  simp only [place]
  exact .finite .positive positive low high (by omega) same

/-- A double that denotes a natural number other than zero is positive, and has this value. -/
theorem Denotes.exists_finite {double : UnpackedFloat} {number : ℕ} (nonzero : number ≠ 0)
    (denotes : Denotes double number) :
    ∃ (mantissa : ℕ) (place : ℤ) (positive : 0 < mantissa),
      double = .finite .positive mantissa place positive ∧ 2 ^ 52 ≤ mantissa ∧
        (mantissa : ℚ) * 2 ^ place = number := by
  generalize same : (number : ℤ) = whole at denotes
  cases denotes with
  | zero sign => exact absurd same (by exact_mod_cast nonzero)
  | @finite sign mantissa power value positive low high small shifted =>
    cases sign with
    | negative =>
      have opposite : (number : ℤ) = -(value : ℤ) := same
      omega
    | positive =>
      have equal : (number : ℤ) = value := same
      obtain rfl : number = value := by exact_mod_cast equal
      refine ⟨mantissa, power - 52, positive, rfl, low, ?_⟩
      have cast : (mantissa : ℚ) * 2 ^ power = number * 2 ^ 52 := by exact_mod_cast shifted
      rw [zpow_sub₀ two_ne_zero, zpow_natCast, ← mul_div_assoc, cast]
      norm_num

/-- A short decimal is read by a table of powers of ten, one product or one quotient of doubles, as
the double in whose interval it is. -/
theorem float_ofScientific_short {digits rounded : ℕ} {exponent place : ℤ}
    (rounds : RoundsTo (digits * 10 ^ exponent) rounded place)
    (fast : digits < 2 ^ 53 ∧ exponent.natAbs ≤ 22) :
    Float.ofScientific digits (exponent < 0) exponent.natAbs =
      .ofModel (Float.Model.pack (.finite .positive rounded place rounds.positive)) := by
  have kept : exponent.natAbs < Float.exactlyRepresentablePowersOfTen.size :=
    Nat.lt_succ_of_le fast.2
  obtain ⟨first, firstPlace, firstPositive, read, firstLow, firstValue⟩ :=
    (denotes_ofUInt64 fast.1).exists_finite rounds.digits_ne_zero
  obtain ⟨second, secondPlace, secondPositive, power, secondLow, secondValue⟩ :=
    (denotes_powerOfTen kept).exists_finite (Nat.pow_pos (by decide)).ne'
  unfold Float.ofScientific
  rw [dif_pos fast]
  by_cases negative : exponent < 0
  · have same : (first : ℚ) * 2 ^ firstPlace / (second * 2 ^ secondPlace) =
        digits * 10 ^ exponent := by
      have places : exponent = -(exponent.natAbs : ℤ) := by omega
      rw [firstValue, secondValue, places, zpow_neg, zpow_natCast, Int.natAbs_neg,
        Int.natAbs_natCast]
      push_cast
      rfl
    rw [← same] at rounds
    rw [if_pos (decide_eq_true negative)]
    change Float.ofModel (Float.Model.pack (UnpackedFloat.div Format.binary64
      (Float.Model.ofUInt64 digits.toUInt64).unpack
      Float.exactlyRepresentablePowersOfTen[exponent.natAbs].toModel.unpack)) = _
    rw [read, power, div_eq firstPositive secondPositive rounds]
  · have same : (first : ℚ) * 2 ^ firstPlace * (second * 2 ^ secondPlace) =
        digits * 10 ^ exponent := by
      have places : exponent = (exponent.natAbs : ℤ) := by omega
      rw [firstValue, secondValue, places, zpow_natCast, Int.natAbs_natCast]
      push_cast
      rfl
    have long : 104 ≤ (first * second).log2 := by
      have nonzero : first * second ≠ 0 := (Nat.mul_pos firstPositive secondPositive).ne'
      have product : 2 ^ 52 * 2 ^ 52 ≤ first * second := Nat.mul_le_mul firstLow secondLow
      exact (Nat.le_log2 nonzero).mpr (le_trans (by decide) product)
    rw [← same] at rounds
    rw [if_neg (by simpa using negative)]
    change Float.ofModel (Float.Model.pack (UnpackedFloat.mul Format.binary64
      (Float.Model.ofUInt64 digits.toUInt64).unpack
      Float.exactlyRepresentablePowersOfTen[exponent.natAbs].toModel.unpack)) = _
    rw [read, power, mul_eq firstPositive secondPositive (by omega) rounds]

/-- A decimal is read as the double in whose interval it is, by the table where it is short and by
exact arithmetic elsewhere. -/
theorem float_ofScientific_eq {digits rounded : ℕ} {exponent place : ℤ}
    (rounds : RoundsTo (digits * 10 ^ exponent) rounded place) (small : place ≤ 971) :
    Float.ofScientific digits (exponent < 0) exponent.natAbs =
      .ofModel (Float.Model.pack (.finite .positive rounded place rounds.positive)) := by
  by_cases fast : digits < 2 ^ 53 ∧ exponent.natAbs ≤ 22
  · exact float_ofScientific_short rounds fast
  · have signed : (if decide (exponent < 0) = true then Int.negOfNat exponent.natAbs
        else Int.ofNat exponent.natAbs) = exponent := by
      by_cases negative : exponent < 0
      · rw [if_pos (decide_eq_true negative), Int.negOfNat_eq, Int.ofNat_eq_natCast]
        omega
      · rw [if_neg (by simpa using negative), Int.ofNat_eq_natCast]
        omega
    unfold Float.ofScientific
    rw [dif_neg fast]
    dsimp only
    rw [signed]
    unfold Float.Model.ofScientific
    rw [ofScientific_eq rounds small]

end DialectBridge.Decimal
