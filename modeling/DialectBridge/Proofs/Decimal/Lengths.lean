import DialectBridge.Decimal.Shortest
import DialectBridge.Proofs.Decimal.WholeNumbers

/-!
# The length of written doubles

A finite double is below the thousand and twenty-fourth power of two, and a multiple of the
thousand and seventy-fourth power of a half. So in positional notation it has no more than some
thousand characters. The bounds here are far from sharp; what matters is that there is one.
-/

namespace DialectBridge.Decimal

/-- A finite double has few bits and an exponent that is not far from zero. -/
theorem Binary.bounds {x : Float} {binary : Binary} (finite : Binary.ofFloat? x = some binary) :
    binary.mantissa < 2 ^ 53 ∧ -1074 ≤ binary.exponent ∧ binary.exponent ≤ 971 := by
  unfold Binary.ofFloat? at finite
  dsimp only at finite
  have few := x.toBits.toNat_lt
  generalize x.toBits.toNat = bits at few finite
  have fraction : bits % 0x10000000000000 < 2 ^ 52 := Nat.mod_lt _ (by decide)
  have fields : bits / 0x10000000000000 % 0x800 < 0x800 := Nat.mod_lt _ (by decide)
  generalize bits % 0x10000000000000 = part at fraction finite
  generalize bits / 0x10000000000000 % 0x800 = field at fields finite
  by_cases special : field = 2047
  · simp [special] at finite
  · by_cases subnormal : field = 0
    · obtain rfl : Binary.mk _ part (-1074) = binary := by simpa [subnormal] using finite
      have least : (-1074 : Int) ≤ -1074 := Int.le_refl _
      exact ⟨Nat.lt_trans fraction (by decide), least, Int.le_trans least (by decide)⟩
    · obtain rfl : Binary.mk _ _ _ = binary := by simpa [special, subnormal] using finite
      refine ⟨?_, ?_, ?_⟩
      · dsimp only
        omega
      · dsimp only
        omega
      · dsimp only
        omega

/-- Whether an interval is one between numbers of at most four hundred digits. -/
structure Interval.Bounded (interval : Interval) : Prop where
  value : interval.value < 10 ^ 400
  denominator : interval.denominator < 10 ^ 400

/-- The interval around a finite double is one between such numbers. -/
theorem Interval.bounded_ofBinary {binary : Binary} (mantissa : binary.mantissa < 2 ^ 53)
    (least : -1074 ≤ binary.exponent) (most : binary.exponent ≤ 971) :
    (Interval.ofBinary binary).Bounded := by
  have powers : 2 ^ 55 * 2 ^ 969 < 10 ^ 400 ∧ 2 ^ 1076 < 10 ^ 400 ∧ 1 < 10 ^ 400 := by
    decide +kernel
  have power {k limit : Nat} (few : k ≤ limit) : 2 ^ k ≤ 2 ^ limit :=
    Nat.pow_le_pow_right Nat.two_pos few
  have mantissas : 4 * binary.mantissa ≤ 2 ^ 55 := by omega
  have scaled (k : Nat) (few : k ≤ 969) : 4 * binary.mantissa * Nat.pow 2 k < 10 ^ 400 :=
    Nat.lt_of_le_of_lt (Nat.mul_le_mul mantissas (power few)) powers.1
  have divided (k : Nat) (few : k ≤ 1076) : Nat.pow 2 k < 10 ^ 400 :=
    Nat.lt_of_le_of_lt (power few) powers.2.1
  unfold Interval.ofBinary
  cases scale : binary.exponent - 2 with
  | ofNat k =>
    have few : k ≤ 969 := by
      rw [Int.ofNat_eq_natCast] at scale
      omega
    exact ⟨scaled k few, powers.2.2⟩
  | negSucc k =>
    have few : k + 1 ≤ 1076 := by omega
    exact ⟨scaled 0 (by decide), divided (k + 1) few⟩

/-- Whether digits and their exponent are those of a number with at most a thousand digits. -/
structure Digits.Bounded (x : Digits) : Prop where
  digits : x.digits < 10 ^ 1000
  least : -500 ≤ x.exponent
  most : x.exponent ≤ 500

/-- Of two neighbours the one that is chosen is at most the upper one. -/
theorem of_choice {lower upper : Bool} {tie : Prop} [Decidable tie] {below : Nat} {exponent : Int}
    {found : Digits} (chosen : (if lower && upper then
        some (Digits.mk (if tie then below else below + 1) exponent)
      else if lower then some ⟨below, exponent⟩
      else if upper then some ⟨below + 1, exponent⟩
      else none) = some found) : found.digits ≤ below + 1 ∧ exponent = found.exponent := by
  cases lower <;> cases upper
  · simp at chosen
  · obtain rfl := Option.some.inj chosen
    exact ⟨Nat.le_refl _, rfl⟩
  · obtain rfl := Option.some.inj chosen
    exact ⟨Nat.le_succ _, rfl⟩
  · obtain rfl := Option.some.inj chosen
    refine ⟨?_, rfl⟩
    dsimp only
    split
    · exact Nat.le_succ _
    · exact Nat.le_refl _

namespace Interval

variable {interval : Interval} (bounded : interval.Bounded)

include bounded

/-- The first digit is not far from the point. -/
theorem magnitude_bounds : -401 ≤ interval.magnitude ∧ interval.magnitude ≤ 400 := by
  obtain ⟨value, denominator⟩ := bounded
  unfold magnitude
  dsimp only
  by_cases large : interval.value / interval.denominator > 0
  · have below : interval.value / interval.denominator < 10 ^ 400 :=
      Nat.lt_of_le_of_lt (Nat.div_le_self _ _) value
    have few := (Nat.length_toDigits_le_iff (by decide) (by decide)).mpr below
    rw [if_pos large]
    omega
  · have twice : 10 ^ 400 + 10 ^ 400 < 10 ^ 401 := by decide +kernel
    have below : (interval.denominator + interval.value - 1) / interval.value - 1 < 10 ^ 401 := by
      have quotient := Nat.div_le_self (interval.denominator + interval.value - 1) interval.value
      omega
    have few := (Nat.length_toDigits_le_iff (by decide) (by decide)).mpr below
    rw [if_neg large]
    omega

/-- What is found on a grid is a number that is not much longer than the grid is fine. -/
theorem bounded_of_onGrid {exponent : Int} (least : -500 ≤ exponent) (most : exponent ≤ 500)
    {found : Digits} (onGrid : interval.onGrid exponent = some found) : found.Bounded := by
  have enough : 10 ^ 400 * 10 ^ 500 + 1 < 10 ^ 1000 := by decide +kernel
  have short (down up : Nat) (fine : down ≤ 10 ^ 500) :
      interval.value * down / (interval.denominator * up) + 1 < 10 ^ 1000 := by
    have quotient := Nat.div_le_self (interval.value * down) (interval.denominator * up)
    have product := Nat.mul_le_mul (Nat.le_of_lt bounded.value) fine
    exact Nat.lt_of_le_of_lt (Nat.add_le_add_right (Nat.le_trans quotient product) 1) enough
  have power {k limit : Nat} (few : k ≤ limit) : 10 ^ k ≤ 10 ^ limit :=
    Nat.pow_le_pow_right (by decide) few
  unfold Interval.onGrid at onGrid
  cases exponent with
  | ofNat k =>
    obtain ⟨digits, same⟩ := of_choice onGrid
    rw [same] at least most
    have coarse : 10 ^ 0 ≤ 10 ^ 500 := power (Nat.zero_le 500)
    exact ⟨Nat.lt_of_le_of_lt digits (short (10 ^ 0) (10 ^ k) coarse), least, most⟩
  | negSucc k =>
    obtain ⟨digits, same⟩ := of_choice onGrid
    have few : k + 1 ≤ 500 := by omega
    have fine : 10 ^ (k + 1) ≤ 10 ^ 500 := power few
    rw [same] at least most
    exact ⟨Nat.lt_of_le_of_lt digits (short (10 ^ (k + 1)) 1 fine), least, most⟩

/-- What a search finds is bounded, if no grid of it is too fine. -/
theorem bounded_search {exponent : Int} {tries : Nat} (least : -500 + tries ≤ exponent)
    (most : exponent ≤ 500) : (interval.search exponent tries).Bounded := by
  induction tries generalizing exponent with
  | zero =>
    have shorter : 10 ^ 400 < 10 ^ 1000 := by decide +kernel
    have quotient := Nat.div_le_self interval.value interval.denominator
    have digits : interval.value / interval.denominator < 10 ^ 1000 :=
      Nat.lt_trans (Nat.lt_of_le_of_lt quotient bounded.value) shorter
    unfold search
    exact ⟨digits, (by decide : (-500 : Int) ≤ 0), (by decide : (0 : Int) ≤ 500)⟩
  | succ tries inductionHypothesis =>
    unfold search
    split
    · next found onGrid => exact bounded_of_onGrid bounded (by omega) most onGrid
    · exact inductionHypothesis (by omega) (by omega)

end Interval

/-- Positional notation has little more characters than there are digits and places. -/
theorem Digits.length_positional_le {x : Digits} (bounded : x.Bounded) :
    x.positional.toList.length ≤ 3000 := by
  obtain ⟨digits, least, most⟩ := bounded
  have few := (Nat.length_toDigits_le_iff (by decide) (by decide)).mpr digits
  unfold positional
  dsimp only
  split
  · next k exponent =>
    rw [exponent, Int.ofNat_eq_natCast] at most
    rw [String.toList_ofList, List.length_append, List.length_replicate]
    omega
  · next k exponent =>
    simp only [String.toList_ofList, List.length_append, List.length_cons, List.length_take,
      List.length_drop, List.length_replicate]
    omega

/-- A double has at most some thousand characters in positional notation. -/
theorem length_plain_le (x : Float) : (plain x).toList.length ≤ 4000 := by
  unfold plain
  split
  · next binary finite =>
    obtain ⟨mantissa, least, most⟩ := Binary.bounds finite
    have interval := Interval.bounded_ofBinary mantissa least most
    have magnitude := Interval.magnitude_bounds interval
    have bounded : (shortest binary).Bounded := by
      unfold shortest
      exact Interval.bounded_search interval (by omega) (by omega)
    have written := Digits.length_positional_le bounded
    have short :
        (if binary.mantissa == 0 then "0" else (shortest binary).positional).toList.length ≤
          3000 := by
      split
      · decide
      · exact written
    dsimp only
    generalize (if binary.mantissa == 0 then "0" else (shortest binary).positional) = text at short
    split
    · rw [String.toList_append, List.length_append]
      have sign : "-".toList.length = 1 := rfl
      omega
    · omega
  · split
    · decide
    · split <;> decide

end DialectBridge.Decimal
