import Mathlib.Data.Nat.Dist
import Mathlib.Tactic.Ring

/-!
# Rounding to 53 digits

A double has 53 significant binary digits. A whole number that needs more becomes the nearest one
that does not, and from the middle between two the one whose last digit is even. A number with 53
digits or fewer stays what it is, and none becomes one of fewer digits that it is not.
-/

namespace DialectBridge.Decimal

/-! ## Multiples of a unit -/

/-- How many times a unit goes into a number, to the nearest; from the middle between two, the even
one. -/
def halfEven (number unit : Nat) : Nat :=
  if 2 * (number % unit) < unit then number / unit
  else if unit < 2 * (number % unit) then number / unit + 1
  else number / unit + number / unit % 2

/-- The number of times is rounded down if no more than half a unit is left, and up if no less. -/
theorem halfEven_cases (number unit : Nat) :
    (halfEven number unit = number / unit ∧ 2 * (number % unit) ≤ unit) ∨
      (halfEven number unit = number / unit + 1 ∧ unit ≤ 2 * (number % unit)) := by
  unfold halfEven
  split
  · exact .inl ⟨rfl, by omega⟩
  · split
    · exact .inr ⟨rfl, by omega⟩
    · by_cases even : number / unit % 2 = 0
      · exact .inl ⟨by omega, by omega⟩
      · exact .inr ⟨by omega, by omega⟩

/-- What is left over a multiple of the unit decides how it is rounded. -/
theorem halfEven_add_mul {rest unit : Nat} (count : Nat) (small : rest < unit) :
    halfEven (rest + count * unit) unit =
      if 2 * rest < unit then count else if unit < 2 * rest then count + 1
      else count + count % 2 := by
  unfold halfEven
  rw [Nat.add_mul_mod_self_right, Nat.add_mul_div_right _ _ (Nat.zero_lt_of_lt small),
    Nat.mod_eq_of_lt small, Nat.div_eq_of_lt small, Nat.zero_add]

/-- Rounding does not depend on the scale. -/
theorem halfEven_scale (number unit : Nat) {factor : Nat} (positive : 0 < factor) :
    halfEven (number * factor) (unit * factor) = halfEven number unit := by
  unfold halfEven
  rw [Nat.mul_mod_mul_right, Nat.mul_div_mul_right _ _ positive, ← Nat.mul_assoc]
  simp only [Nat.mul_lt_mul_right positive]

/-- A multiple of the unit is not rounded. -/
theorem halfEven_mul (count : Nat) {unit : Nat} (positive : 0 < unit) :
    halfEven (count * unit) unit = count := by
  have once := halfEven_scale count 1 positive
  rw [Nat.one_mul] at once
  rw [once]
  simp [halfEven, Nat.mod_one]

/-- No multiple of the unit is nearer than the one that is rounded to. -/
theorem halfEven_nearest (number : Nat) {unit : Nat} (positive : 0 < unit) (count : Nat) :
    Nat.dist number (halfEven number unit * unit) ≤ Nat.dist number (count * unit) := by
  have parts := Nat.div_add_mod' number unit
  have small := Nat.mod_lt number positive
  have side : count * unit ≤ number / unit * unit ∨
      number / unit * unit + unit ≤ count * unit := by
    by_cases below : count ≤ number / unit
    · exact .inl (Nat.mul_le_mul_right unit below)
    · right
      rw [← Nat.succ_mul]
      exact Nat.mul_le_mul_right unit (by omega)
  rcases halfEven_cases number unit with ⟨down, half⟩ | ⟨up, half⟩
  · rw [down]
    unfold Nat.dist
    omega
  · rw [up, Nat.succ_mul]
    unfold Nat.dist
    omega

/-! ## 53 digits -/

/-- What the last of 53 digits of a number counts. -/
def lastPlace (number : Nat) : Nat := 2 ^ (number.log2 - 52)

/-- The nearest natural number with 53 significant binary digits at most. -/
def nearestNatural (number : Nat) : Nat := halfEven number (lastPlace number) * lastPlace number

/-- The last digit counts. -/
theorem lastPlace_pos (number : Nat) : 0 < lastPlace number := Nat.two_pow_pos _

/-- No number with 53 digits at most is nearer than the one that is rounded to. Proof: it is a
multiple of the last digit, or smaller than the least number with 53 digits up to that one, which
is nearer and a multiple of it. -/
theorem nearestNatural_nearest (number : Nat) {mantissa : Nat} (digits : mantissa ≤ 2 ^ 53)
    (power : Nat) :
    Nat.dist number (nearestNatural number) ≤ Nat.dist number (mantissa * 2 ^ power) := by
  have nearest := halfEven_nearest number (lastPlace_pos number)
  unfold nearestNatural
  by_cases fits : number.log2 - 52 ≤ power
  · have multiple : mantissa * 2 ^ power =
        mantissa * 2 ^ (power - (number.log2 - 52)) * lastPlace number := by
      unfold lastPlace
      rw [Nat.mul_assoc, ← Nat.pow_add, Nat.sub_add_cancel fits]
    rw [multiple]
    exact nearest _
  · have nonzero : number ≠ 0 := by
      rintro rfl
      simp at fits
    have long : 52 + (number.log2 - 52) = number.log2 := by omega
    have least : 2 ^ 52 * lastPlace number ≤ number := by
      unfold lastPlace
      rw [← Nat.pow_add, long]
      exact Nat.log2_self_le nonzero
    have smaller : mantissa * 2 ^ power ≤ 2 ^ 52 * lastPlace number := by
      calc mantissa * 2 ^ power ≤ 2 ^ 53 * 2 ^ power := Nat.mul_le_mul_right _ digits
        _ = 2 ^ 52 * 2 ^ (power + 1) := by rw [Nat.pow_succ]; ring
        _ ≤ 2 ^ 52 * lastPlace number :=
          Nat.mul_le_mul_left _ (Nat.pow_le_pow_right (by decide) (by omega))
    apply Nat.le_trans (nearest (2 ^ 52))
    unfold Nat.dist
    omega

/-- A number with 53 digits at most is its own nearest. -/
theorem nearestNatural_of_digits {mantissa : Nat} (digits : mantissa ≤ 2 ^ 53) (power : Nat) :
    nearestNatural (mantissa * 2 ^ power) = mantissa * 2 ^ power := by
  have nearest := nearestNatural_nearest (mantissa * 2 ^ power) digits power
  rw [Nat.dist_self] at nearest
  exact (Nat.eq_of_dist_eq_zero (Nat.le_zero.mp nearest)).symm

/-- A number with more than 53 digits does not become one with fewer: the least number with 54
digits is nearer than any of those. -/
theorem le_nearestNatural {number : Nat} (long : 2 ^ 53 ≤ number) :
    2 ^ 53 ≤ nearestNatural number := by
  have nearest := nearestNatural_nearest number (Nat.le_refl (2 ^ 53)) 0
  unfold Nat.dist at nearest
  omega

/-! ## Whole numbers -/

/-- The nearest whole number with 53 significant binary digits at most, with the sign that the
number has. -/
def nearestDouble (number : Int) : Int := number.sign * nearestNatural number.natAbs

/-- Rounding is the same on both sides of zero. -/
theorem nearestDouble_neg (number : Int) : nearestDouble (-number) = -nearestDouble number := by
  unfold nearestDouble
  rw [Int.sign_neg, Int.natAbs_neg, Int.neg_mul]

/-- What a natural number becomes. -/
theorem nearestDouble_natCast (number : Nat) :
    nearestDouble number = nearestNatural number := by
  unfold nearestDouble
  rw [Int.natAbs_natCast]
  by_cases zero : number = 0
  · rw [zero]
    rfl
  · rw [Int.sign_natCast_of_ne_zero zero, Int.one_mul]

/-- A number with 53 digits at most stays what it is. -/
theorem nearestDouble_of_le {number : Int} (short : number.natAbs ≤ 2 ^ 53) :
    nearestDouble number = number := by
  have same := nearestNatural_of_digits short 0
  rw [Nat.pow_zero, Nat.mul_one] at same
  unfold nearestDouble
  rw [same]
  exact Int.sign_mul_natAbs number

/-- No other number becomes the same as one below the least with 54 digits. -/
theorem nearestDouble_eq_iff_of_lt {number other : Int} (short : number.natAbs < 2 ^ 53) :
    nearestDouble other = nearestDouble number ↔ other = number := by
  rw [nearestDouble_of_le (Nat.le_of_lt short)]
  by_cases fits : other.natAbs ≤ 2 ^ 53
  · rw [nearestDouble_of_le fits]
  · have long : 2 ^ 53 ≤ nearestNatural other.natAbs := le_nearestNatural (by omega)
    have size : (nearestDouble other).natAbs = nearestNatural other.natAbs := by
      have signed : other.sign.natAbs = 1 := Int.natAbs_sign_of_ne_zero (by omega)
      rw [nearestDouble, Int.natAbs_mul, signed, Int.natAbs_natCast, Nat.one_mul]
    constructor
    · intro same
      rw [same] at size
      omega
    · rintro rfl
      omega

end DialectBridge.Decimal
