import DialectBridge.Retry
import Mathlib.Algebra.Group.Nat.Defs

/-!
# Delays between attempts

A product and a sum that are saturated one after the other are the sum of what they would be
without a limit, saturated once. So a delay is the base interval doubled once for each attempt,
with a part of one interval added, up to the limit of 64 bits and up to the cap. The part is
smaller than an interval and a doubling adds at least one, so that no delay is longer than a
later one, whatever is drawn for the two.
-/

namespace DialectBridge.Retry

variable {attempt later base : Nat}

/-! ## Parts of an interval -/

/-- No part is drawn of an interval of zero. -/
@[simp] theorem jitter_zero (number : Nat) : jitter 0 number = 0 := rfl

/-- What is drawn is less than the interval. -/
theorem jitter_lt (positive : 0 < base) (number : Nat) : jitter base number < base := by
  rw [jitter, if_neg (Nat.ne_of_gt positive)]
  exact Nat.mod_lt number positive

/-- Every number below the interval is drawn, by itself for one. -/
theorem jitter_of_lt {part : Nat} (below : part < base) : jitter base part = part := by
  have positive : base ≠ 0 := Nat.ne_of_gt (Nat.zero_lt_of_lt below)
  rw [jitter, if_neg positive, Nat.mod_eq_of_lt below]

/-! ## Saturation -/

/-- Whether a summand is saturated before does not matter. -/
theorem saturated_saturated_add (number part : Nat) :
    saturated (saturated number + part) = saturated (number + part) := by
  unfold saturated
  omega

/-- From the limit on, a number is saturated to it. -/
theorem saturated_of_le {number : Nat} (beyond : limit ≤ number) : saturated number = limit :=
  Nat.min_eq_right beyond

/-- Whether the power of two is saturated before does not matter either: where it is, every
product with it that is not zero is beyond the limit, and so is that with the power itself. -/
theorem saturated_mul_doublings (base attempt : Nat) :
    saturated (base * doublings attempt) = saturated (base * 2 ^ attempt) := by
  by_cases small : attempt < 64
  · rw [doublings, if_pos small]
    rfl
  · rw [doublings, if_neg small]
    cases base with
    | zero => rw [Nat.zero_mul, Nat.zero_mul]
    | succ base =>
      have positive : 0 < base + 1 := Nat.succ_pos base
      have power : limit ≤ 2 ^ attempt :=
        calc limit ≤ 2 ^ 64 := by decide
          _ ≤ 2 ^ attempt := Nat.pow_le_pow_right (by decide) (Nat.le_of_not_lt small)
      rw [saturated_of_le (Nat.le_mul_of_pos_left limit positive),
        saturated_of_le (Nat.le_trans power (Nat.le_mul_of_pos_left _ positive))]

/-- A delay is saturated and capped once. -/
theorem delay_eq (counted : attempt < 2 ^ 32) (base cap part : Nat) :
    delay attempt base cap part = min (saturated (base * 2 ^ attempt + part)) cap := by
  have attempts : attempt % 0x100000000 = attempt := Nat.mod_eq_of_lt counted
  rw [delay, attempts, saturated_mul_doublings, saturated_saturated_add]

/-! ## Growth -/

/-- An interval doubled for an attempt, with a part of one interval, is no more than one that is
doubled for a later attempt. -/
theorem doubled_add_jitter_le (earlier : attempt < later) (base number : Nat) :
    base * 2 ^ attempt + jitter base number ≤ base * 2 ^ later := by
  cases base with
  | zero => simp
  | succ base =>
    have part : jitter (base + 1) number ≤ base + 1 :=
      Nat.le_of_lt (jitter_lt (Nat.succ_pos base) number)
    have power : 1 ≤ 2 ^ attempt := Nat.one_le_two_pow
    calc (base + 1) * 2 ^ attempt + jitter (base + 1) number
        ≤ (base + 1) * 2 ^ attempt + (base + 1) * 2 ^ attempt :=
          Nat.add_le_add_left (Nat.le_trans part (Nat.le_mul_of_pos_right _ power)) _
      _ = (base + 1) * 2 ^ (attempt + 1) := by rw [Nat.pow_succ, ← Nat.mul_add, Nat.mul_two]
      _ ≤ (base + 1) * 2 ^ later := Nat.mul_le_mul_left _ (Nat.pow_le_pow_right (by decide) earlier)

/-- A number that is no greater is no greater after saturation. -/
theorem saturated_mono {number other : Nat} (le : number ≤ other) :
    saturated number ≤ saturated other := by
  unfold saturated
  omega

/-- Whatever the base interval and the cap are and whatever is drawn, the delay after an attempt
is no longer than that after a later one, no delay is longer than the cap, and the delay after
an attempt is at least the base interval doubled once for each attempt, up to the cap and up to
the greatest number of 64 bits. -/
theorem delays_grow_to_cap (earlier : attempt < later) (counted : later < 2 ^ 32)
    (base cap first second : Nat) :
    delay attempt base cap (jitter base first) ≤ delay later base cap (jitter base second) ∧
      delay attempt base cap (jitter base first) ≤ cap ∧
      delay later base cap (jitter base second) ≤ cap ∧
      min (min cap (base * 2 ^ attempt)) limit ≤ delay attempt base cap (jitter base first) := by
  have grows : saturated (base * 2 ^ attempt + jitter base first) ≤
      saturated (base * 2 ^ later + jitter base second) :=
    saturated_mono (Nat.le_trans (doubled_add_jitter_le earlier base first) (Nat.le_add_right _ _))
  have least : saturated (base * 2 ^ attempt) ≤
      saturated (base * 2 ^ attempt + jitter base first) :=
    saturated_mono (Nat.le_add_right _ _)
  rw [delay_eq (Nat.lt_trans earlier counted), delay_eq counted]
  constructor
  · omega
  constructor
  · exact Nat.min_le_right _ _
  constructor
  · exact Nat.min_le_right _ _
  · unfold saturated at least ⊢
    omega

/-- At the limit of 64 bits, the last power of two that is not saturated and the first that is. -/
theorem delays_at_limit_grow :
    63 < 64 ∧ 64 < 2 ^ 32 ∧
      delay 63 3 limit (jitter 3 5) ≤ delay 64 3 limit (jitter 3 7) ∧
      delay 63 3 limit (jitter 3 5) ≤ limit ∧ delay 64 3 limit (jitter 3 7) ≤ limit ∧
      min (min limit (3 * 2 ^ 63)) limit ≤ delay 63 3 limit (jitter 3 5) :=
  ⟨by decide, by decide, delays_grow_to_cap (by decide) (by decide) 3 limit 5 7⟩

example : delay 10 100 500 (jitter 100 42) = 500 := by decide

end DialectBridge.Retry
