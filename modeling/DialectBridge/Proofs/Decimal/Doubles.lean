import DialectBridge.Proofs.Decimal.Rounding
import Mathlib

/-!
# Whole numbers as doubles

Whole numbers of 64 bits are the same as doubles exactly if rounding to 53 digits makes the same
number of them. A double has a sign, a mantissa and an exponent. The conversion shifts digits out
of a mantissa one by one, and keeps of them whether they are less than a half, a half or more; so
it rounds to the nearest. What it gives has the one form in which the mantissa has 53 digits, and
this form is kept when it is stored in 64 bits.
-/

namespace DialectBridge.Decimal

open Float.Model Float.Model.UnpackedFloat

/-- Digits that are moved up by some places are as many more. -/
theorem log2_mul_two_pow {number : Nat} (nonzero : number ≠ 0) (places : Nat) :
    (number * 2 ^ places).log2 = number.log2 + places := by
  induction places with
  | zero => rw [Nat.pow_zero, Nat.mul_one, Nat.add_zero]
  | succ places inductionHypothesis =>
    have moved : number * 2 ^ places ≠ 0 := Nat.mul_ne_zero nonzero (Nat.two_pow_pos _).ne'
    rw [Nat.pow_succ, ← Nat.mul_assoc, Nat.mul_comm, Nat.log2_two_mul moved,
      inductionHypothesis, Nat.add_assoc]

/-! ## Digits shifted out -/

/-- A mantissa with what is left of a number beside the times that a unit goes into it: whether it
is half a unit or more, and whether there is anything else. -/
structure Represents (extended : ExtendedMantissa) (number unit : Nat) : Prop where
  mantissa : extended.mantissa = number / unit
  roundBit : extended.roundBit = true ↔ unit ≤ 2 * (number % unit)
  stickyBit : extended.stickyBit = true ↔ number % unit ≠ 0 ∧ 2 * (number % unit) ≠ unit

/-- A mantissa of which nothing was shifted out. -/
theorem represents_exact (number : Nat) :
    Represents (ExtendedMantissa.ofMantissaAndAccuracy number .exact) number 1 := by
  constructor <;> simp [ExtendedMantissa.ofMantissaAndAccuracy, Nat.mod_one]

/-- Shifting a digit out doubles the unit. -/
theorem Represents.shiftRightOne {extended : ExtendedMantissa} {number unit : Nat}
    (represents : Represents extended number unit) (positive : 0 < unit) :
    Represents extended.shiftRightOne number (unit * 2) := by
  have small := Nat.mod_lt number positive
  have left : number % (unit * 2) = number % unit + unit * (number / unit % 2) := Nat.mod_mul
  have digit : number / unit % 2 = 0 ∨ number / unit % 2 = 1 := by omega
  constructor
  · rw [ExtendedMantissa.shiftRightOne, represents.mantissa, Nat.div_div_eq_div_mul]
  · rw [left, ExtendedMantissa.shiftRightOne, represents.mantissa, bne_iff_ne]
    rcases digit with zero | one
    · rw [zero, Nat.mul_zero]
      omega
    · rw [one, Nat.mul_one]
      omega
  · rw [left, ExtendedMantissa.shiftRightOne, Bool.or_eq_true, represents.roundBit,
      represents.stickyBit]
    rcases digit with zero | one
    · rw [zero, Nat.mul_zero]
      omega
    · rw [one, Nat.mul_one]
      omega

/-- Shifting digits out multiplies the unit by a power of two. -/
theorem Represents.shiftRight {extended : ExtendedMantissa} {number unit : Nat}
    (represents : Represents extended number unit) (positive : 0 < unit) (digits : Nat) :
    Represents (extended >>> digits) number (unit * 2 ^ digits) := by
  induction digits with
  | zero =>
    rw [Nat.pow_zero, Nat.mul_one]
    exact represents
  | succ digits inductionHypothesis =>
    rw [Nat.pow_succ, ← Nat.mul_assoc]
    exact inductionHypothesis.shiftRightOne (Nat.mul_pos positive (Nat.two_pow_pos _))

/-- What is left decides which way the mantissa is rounded. -/
theorem Represents.roundedMantissa {extended : ExtendedMantissa} {number unit : Nat}
    (represents : Represents extended number unit) :
    extended.roundedMantissa = halfEven number unit := by
  obtain ⟨mantissa, roundBit, stickyBit⟩ := extended
  obtain ⟨whole, round, sticky⟩ := represents
  dsimp only at whole round sticky
  unfold halfEven
  rw [← whole]
  cases roundBit with
  | false =>
    have less : 2 * (number % unit) < unit := by simpa using round
    rw [if_pos less]
    cases stickyBit <;> rfl
  | true =>
    have half : unit ≤ 2 * (number % unit) := by simpa using round
    rw [if_neg (Nat.not_lt.mpr half)]
    cases stickyBit with
    | false =>
      have nothingElse : ¬(number % unit ≠ 0 ∧ 2 * (number % unit) ≠ unit) := by simpa using sticky
      rw [if_neg (by omega)]
      rfl
    | true =>
      have more : number % unit ≠ 0 ∧ 2 * (number % unit) ≠ unit := by simpa using sticky
      rw [if_pos (by omega)]
      rfl

/-! ## Numbers in binary64 -/

/-- The exponent that leaves 53 digits, if it is not too small. -/
theorem targetExponent_binary64 (total : Int) :
    Format.binary64.targetExponent total = max (total - 53) (-1074) := by
  have least : Format.binary64.minExponent = -1074 := rfl
  have bits : Format.binary64.mantissaBits = 53 := rfl
  unfold Format.targetExponent
  rw [least, bits]
  omega

/-- The exponent that leaves 53 digits of a mantissa, if it is not too small. -/
theorem targetExponent_eq {mantissa : Nat} {exponent : Int}
    (large : -1074 ≤ mantissa.log2 + exponent - 52) :
    Format.binary64.targetExponent (totalExponent mantissa exponent) =
      mantissa.log2 + exponent - 52 := by
  rw [targetExponent_binary64, totalExponent]
  omega

/-- A mantissa with 53 digits or more is shifted to 53 digits. -/
theorem shiftToTargetExponent_eq {mantissa digits : Nat} (size : mantissa.log2 = 52 + digits)
    {exponent : Int} (large : -1074 ≤ exponent + digits) :
    shiftToTargetExponent Format.binary64 mantissa exponent .exact =
      (ExtendedMantissa.ofMantissaAndAccuracy mantissa .exact >>> digits, exponent + digits) := by
  have shift : (mantissa.log2 + exponent - 52 - exponent).toNat = digits := by omega
  unfold shiftToTargetExponent shiftToExponent
  rw [targetExponent_eq (by omega)]
  simp only [shift]

/-- A number with some digits more than 53 comes to 53 digits, or just over. -/
theorem halfEven_bounds {mantissa digits : Nat} (size : mantissa.log2 = 52 + digits) :
    2 ^ 52 ≤ halfEven mantissa (2 ^ digits) ∧ halfEven mantissa (2 ^ digits) ≤ 2 ^ 53 := by
  have nonzero : mantissa ≠ 0 := by
    rintro rfl
    simp at size
    omega
  obtain ⟨low, high⟩ := (Nat.log2_eq_iff nonzero).mp size
  have least : 2 ^ 52 ≤ mantissa / 2 ^ digits := by
    rw [Nat.le_div_iff_mul_le (Nat.two_pow_pos _), ← Nat.pow_add]
    exact low
  have most : mantissa / 2 ^ digits < 2 ^ 53 := by
    rw [Nat.div_lt_iff_lt_mul (Nat.two_pow_pos _), ← Nat.pow_add]
    rwa [Nat.add_right_comm] at high
  rcases halfEven_cases mantissa (2 ^ digits) with ⟨down, _⟩ | ⟨up, _⟩ <;> omega

/-- Rounding a mantissa with 53 digits or more gives one with 53 digits: the number of units, or
half of it with the next exponent if it has come to 54 digits. -/
theorem roundWithAccuracy_cases (sign : Sign) {mantissa digits : Nat}
    (size : mantissa.log2 = 52 + digits) {exponent : Int} (large : -1074 ≤ exponent + digits) :
    ∃ (rounded : Nat) (place : Int) (positive : 0 < rounded),
      roundWithAccuracy Format.binary64 sign mantissa exponent .exact =
          .finite sign rounded place positive ∧
        2 ^ 52 ≤ rounded ∧ rounded < 2 ^ 53 ∧
        ((rounded = halfEven mantissa (2 ^ digits) ∧ place = exponent + digits) ∨
          (2 * rounded = halfEven mantissa (2 ^ digits) ∧ place = exponent + digits + 1)) := by
  obtain ⟨low, high⟩ := halfEven_bounds size
  have represented := (represents_exact mantissa).shiftRight Nat.one_pos digits
  rw [Nat.one_mul] at represented
  have rounded := represented.roundedMantissa
  unfold roundWithAccuracy
  rw [shiftToTargetExponent_eq size large]
  dsimp only
  rw [rounded]
  by_cases full : halfEven mantissa (2 ^ digits) = 2 ^ 53
  · have again : (2 ^ 53).log2 = 52 + 1 := Nat.log2_two_pow
    rw [full, shiftToTargetExponent_eq again (by omega)]
    exact ⟨2 ^ 52, exponent + digits + 1, by decide, rfl, by decide, by decide,
      .inr ⟨rfl, rfl⟩⟩
  · have again : (halfEven mantissa (2 ^ digits)).log2 = 52 + 0 :=
      (Nat.log2_eq_iff (by omega)).mpr ⟨low, by omega⟩
    rw [shiftToTargetExponent_eq again (by omega)]
    have positive : halfEven mantissa (2 ^ digits) ≠ 0 := by omega
    exact ⟨halfEven mantissa (2 ^ digits), exponent + digits + (0 : Nat), by omega,
      dif_neg positive, low, by omega, .inl ⟨rfl, Int.add_zero _⟩⟩

/-! ## The form of whole numbers -/

/-- A double is a whole number: zero with either sign, or a mantissa with 53 digits, the first of
which counts a power of two. -/
inductive Denotes : UnpackedFloat → Int → Prop where
  | zero (sign : Sign) : Denotes (.zero sign) 0
  | finite (sign : Sign) {mantissa power value : Nat} (positive : 0 < mantissa)
      (low : 2 ^ 52 ≤ mantissa) (high : mantissa < 2 ^ 53) (small : power ≤ 1023)
      (same : mantissa * 2 ^ power = value * 2 ^ 52) :
      Denotes (.finite sign mantissa (power - 52) positive) (sign.apply value)

/-- Numbers of 53 digits are different if their digits or their places are. -/
theorem mantissa_unique {mantissa power other place : Nat} (low : 2 ^ 52 ≤ mantissa)
    (high : mantissa < 2 ^ 53) (otherLow : 2 ^ 52 ≤ other) (otherHigh : other < 2 ^ 53)
    (same : mantissa * 2 ^ power = other * 2 ^ place) : mantissa = other ∧ power = place := by
  have notBelow {first second near far : Nat} (high : first < 2 ^ 53) (low : 2 ^ 52 ≤ second)
      (same : first * 2 ^ near = second * 2 ^ far) : far ≤ near := by
    by_contra below
    have less : first * 2 ^ near < second * 2 ^ far := by
      calc first * 2 ^ near < 2 ^ 53 * 2 ^ near :=
            Nat.mul_lt_mul_of_pos_right high (Nat.two_pow_pos _)
        _ = 2 ^ 52 * 2 ^ (near + 1) := by rw [← Nat.pow_add, ← Nat.pow_add]; congr 1; omega
        _ ≤ second * 2 ^ far :=
            Nat.mul_le_mul low (Nat.pow_le_pow_right (by decide) (by omega))
    omega
  have powers : power = place :=
    Nat.le_antisymm (notBelow otherHigh low same.symm) (notBelow high otherLow same)
  rw [powers] at same
  exact ⟨Nat.eq_of_mul_eq_mul_right (Nat.two_pow_pos _) same, powers⟩

/-- A double other than zero has a value other than zero. -/
theorem value_pos {mantissa power value : Nat} (low : 2 ^ 52 ≤ mantissa)
    (same : mantissa * 2 ^ power = value * 2 ^ 52) : 0 < value := by
  by_contra none
  have zero : value = 0 := by omega
  rw [zero, Nat.zero_mul] at same
  have positive : 0 < mantissa * 2 ^ power := Nat.mul_pos (by omega) (Nat.two_pow_pos _)
  omega

/-- Numbers other than zero are the same with their signs only if the signs are the same too. -/
theorem apply_eq_iff {sign other : Sign} {value otherValue : Nat} (positive : 0 < value) :
    sign.apply value = other.apply otherValue ↔ sign = other ∧ value = otherValue := by
  cases sign <;> cases other <;> simp [Sign.apply] <;> omega

/-- Doubles that are whole numbers are equal exactly if the numbers are. -/
theorem Denotes.beq_iff {first second : UnpackedFloat} {number other : Int}
    (denotes : Denotes first number) (denotesOther : Denotes second other) :
    first.beq second = true ↔ number = other := by
  rw [beq_iff_ne_notANumber_and_eq]
  cases denotes with
  | zero sign =>
    cases denotesOther with
    | zero otherSign => cases sign <;> cases otherSign <;> simp
    | finite otherSign positive low high small same =>
      have value := value_pos low same
      cases otherSign <;> simp [Sign.apply] <;> omega
  | @finite sign _ power _ positive low high small same =>
    have value := value_pos low same
    cases denotesOther with
    | zero otherSign => cases sign <;> simp [Sign.apply] <;> omega
    | @finite otherSign _ otherPower _ otherPositive otherLow otherHigh otherSmall otherSame =>
      rw [apply_eq_iff value]
      simp only [ne_eq, reduceCtorEq, not_false_eq_true, true_and, false_and, or_false,
        UnpackedFloat.finite.injEq]
      constructor
      · rintro ⟨signs, mantissas, places⟩
        have powers : power = otherPower := by omega
        rw [mantissas, powers, otherSame] at same
        exact ⟨signs, Nat.eq_of_mul_eq_mul_right (Nat.two_pow_pos _) same.symm⟩
      · rintro ⟨signs, values⟩
        rw [values, ← otherSame] at same
        obtain ⟨mantissas, powers⟩ := mantissa_unique low high otherLow otherHigh same
        exact ⟨signs, mantissas, by rw [powers]⟩

/-- The first of 53 digits is not stored, and comes back when the others are read. -/
theorem toNat_digits {mantissa : Nat} (low : 2 ^ 52 ≤ mantissa) (high : mantissa < 2 ^ 53) :
    (1#1 ++ BitVec.ofNat 52 mantissa).toNat = mantissa := by
  rw [BitVec.toNat_append, ← Nat.shiftLeft_add_eq_or_of_lt (BitVec.isLt _),
    BitVec.toNat_ofNat, BitVec.toNat_ofNat, Nat.shiftLeft_eq]
  omega

/-- A sign, an exponent that is neither the first nor the last, and 53 digits are read back from 64
bits. -/
theorem unpack_packComponents (sign : Sign) {field mantissa : Nat} (behind : 0 < field)
    (before : field < 2047) (positive : 0 < mantissa) (low : 2 ^ 52 ≤ mantissa)
    (high : mantissa < 2 ^ 53) :
    UnpackedFloat.unpack Format.binary64
        (packComponents Format.binary64 sign (BitVec.ofNat 11 field) (BitVec.ofNat 52 mantissa)) =
      .finite sign mantissa (field - 1075) positive := by
  have stored : (BitVec.ofNat 11 field).toNat = field := by
    rw [BitVec.toNat_ofNat]
    omega
  have notLast : BitVec.ofNat 11 field ≠ -1#11 := by
    intro last
    rw [last] at stored
    have most : (-1#11 : BitVec 11).toNat = 2047 := by decide
    omega
  have notFirst : BitVec.ofNat 11 field ≠ 0#11 := by
    intro first
    rw [first, BitVec.toNat_ofNat] at stored
    omega
  have bias : Format.binary64.exponentBias = 1023 := rfl
  unfold UnpackedFloat.unpack
  simp only [unpackMantissa_packComponents, unpackExponent_packComponents,
    unpackSign_packComponents, Sign.ofBitVec_toBitVec]
  rw [if_neg notLast, if_neg notFirst]
  simp only [UnpackedFloat.finite.injEq, true_and]
  refine ⟨toNat_digits low high, ?_⟩
  rw [stored, bias]
  omega

/-- Whole numbers are stored in 64 bits and read back as they are. -/
theorem Denotes.unpack_pack {double : UnpackedFloat} {number : Int}
    (denotes : Denotes double number) :
    UnpackedFloat.unpack Format.binary64 (UnpackedFloat.pack Format.binary64 double) = double := by
  cases denotes with
  | zero sign => exact unpack_packedZero
  | @finite sign mantissa power value positive low high small same =>
    have size : mantissa.log2 + 1 = Format.binary64.mantissaBits :=
      congrArg (· + 1) ((Nat.log2_eq_iff (by omega)).mpr ⟨low, high⟩)
    have bias : Format.binary64.exponentBias = 1023 := rfl
    have biased : ((power - 52 : Int) + Format.binary64.exponentBias +
        Format.binary64.mantissaBitsWithoutImplicit).toNat = power + 1023 := by
      rw [bias]
      dsimp only
      omega
    have place : ((power + 1023 : Nat) : Int) - 1075 = power - 52 := by omega
    unfold UnpackedFloat.pack
    dsimp only
    rw [biased, if_neg (by omega), if_pos size,
      unpack_packComponents sign (by omega) (by omega) positive low high]
    simp only [place]

/-- The other sign belongs to the other number. -/
theorem Denotes.neg {double : UnpackedFloat} {number : Int} (denotes : Denotes double number) :
    Denotes double.neg (-number) := by
  cases denotes with
  | zero sign => exact .zero (-sign)
  | @finite sign mantissa power value positive low high small same =>
    have negated : (-sign).apply value = -sign.apply value := by
      cases sign
      · exact (Int.neg_neg _).symm
      · rfl
    rw [← negated]
    exact .finite (-sign) positive low high small same

/-- A mantissa with 53 digits or more denotes what it is rounded to. -/
theorem denotes_round (sign : Sign) {mantissa digits : Nat} (size : mantissa.log2 = 52 + digits)
    {exponent : Int} {power : Nat} (place : exponent + digits + 52 = power) (small : power ≤ 1022)
    {value : Nat} (same : halfEven mantissa (2 ^ digits) * 2 ^ power = value * 2 ^ 52) :
    Denotes (roundWithAccuracy Format.binary64 sign mantissa exponent .exact)
      (sign.apply value) := by
  have large : -1074 ≤ exponent + digits := by omega
  obtain ⟨rounded, final, positive, result, low, high, kept | carried⟩ :=
    roundWithAccuracy_cases sign size large
  · obtain ⟨units, rfl⟩ := kept
    have behind : exponent + digits = (power : Int) - 52 := by omega
    rw [result]
    simp only [behind]
    exact .finite sign positive low high (by omega) (by rw [units, same])
  · obtain ⟨units, rfl⟩ := carried
    have behind : exponent + digits + 1 = ((power + 1 : Nat) : Int) - 52 := by omega
    rw [result]
    simp only [behind]
    apply Denotes.finite sign positive low high (by omega)
    rw [Nat.pow_succ, ← same, ← units]
    ring

/-- The number one, as it is stored. -/
theorem unpack_one : (Float.ofBits 0x3FF0000000000000).toModel.unpack =
    .finite .positive (2 ^ 52) (-52) (by decide) := by
  rfl

/-- A number times one is the same number. -/
theorem Denotes.mul_one {double : UnpackedFloat} {number : Int} (denotes : Denotes double number) :
    Denotes (UnpackedFloat.mul Format.binary64 double
      (.finite .positive (2 ^ 52) (-52) (by decide))) number := by
  cases denotes with
  | zero sign => exact .zero _
  | @finite sign mantissa power value positive low high small same =>
    have size : (mantissa * 2 ^ 52).log2 = 52 + 52 := by
      have nonzero : mantissa ≠ 0 := by omega
      rw [log2_mul_two_pow nonzero, (Nat.log2_eq_iff nonzero).mpr ⟨low, high⟩]
    have signs : sign * .positive = sign := by cases sign <;> rfl
    have large : -1074 ≤ (power - 52 : Int) + -52 + (52 : Nat) := by omega
    obtain ⟨rounded, place, _, result, least, _, ⟨units, placed⟩ | ⟨units, _⟩⟩ :=
      roundWithAccuracy_cases sign size large
    · rw [halfEven_mul mantissa (by decide)] at units
      have behind : place = (power : Int) - 52 := by omega
      unfold UnpackedFloat.mul
      dsimp only
      rw [signs, result]
      simp only [units, behind]
      exact .finite sign positive low high small same
    · rw [halfEven_mul mantissa (by decide)] at units
      omega

/-- What is stored denotes the same number. -/
theorem Denotes.packed {double : UnpackedFloat} {number : Int} (denotes : Denotes double number) :
    Denotes (Float.Model.pack double).unpack number := by
  have same : (Float.Model.pack double).unpack = double := denotes.unpack_pack
  rw [same]
  exact denotes

/-- A natural number with 53 digits at most is stored as it is: its digits are moved up until
there are 53 of them. -/
theorem denotes_ofUInt64 {number : Nat} (short : number < 2 ^ 53) :
    Denotes (Float.Model.ofUInt64 number.toUInt64).unpack number := by
  have stays : number.toUInt64.toNat = number := by
    rw [Nat.toUInt64, UInt64.toNat_ofNat']
    omega
  apply Denotes.packed
  unfold UnpackedFloat.ofUInt64 UnpackedFloat.ofNat UnpackedFloat.ofInt UnpackedFloat.normalize
  rw [stays]
  by_cases zero : number = 0
  · rw [zero]
    exact .zero _
  · have positive : compare (number : Int) 0 = .gt := compare_gt_iff_gt.mpr (by omega)
    rw [positive]
    dsimp only
    have place : number.log2 ≤ 52 := by
      have bounded : number.log2 < 53 := (Nat.log2_lt zero).mpr short
      omega
    have shift : (0 - ((number.log2 : Int) + 0 - 52)).toNat = 52 - number.log2 := by omega
    unfold UnpackedFloat.round decreaseExponent
    rw [Int.toNat_natCast, targetExponent_eq (by omega)]
    dsimp only
    rw [shift, Nat.shiftLeft_eq]
    have size : (number * 2 ^ (52 - number.log2)).log2 = 52 + 0 := by
      rw [log2_mul_two_pow zero, Nat.add_sub_cancel' place]
    have behind : (0 - (52 - number.log2 : Nat) + (0 : Nat) + 52 : Int) = number.log2 := by omega
    apply denotes_round .positive size behind
    · omega
    · rw [Nat.pow_zero, ← Nat.mul_one (number * 2 ^ (52 - number.log2)), halfEven_mul _ Nat.one_pos,
        Nat.mul_assoc, ← Nat.pow_add, Nat.sub_add_cancel place]

/-- A natural number with more digits is rounded: it is moved up by 53 digits, so that some are
shifted out. -/
theorem denotes_ofScientific {number : Nat} (long : 2 ^ 53 ≤ number) (small : number < 2 ^ 64) :
    Denotes (Float.Model.ofScientific number 0).unpack (nearestNatural number) := by
  have zero : number ≠ 0 := by omega
  have place : 53 ≤ number.log2 := (Nat.le_log2 zero).mpr long
  have bounded : number.log2 < 64 := (Nat.log2_lt zero).mpr small
  apply Denotes.packed
  have notTiny : ¬(0 : Int) < -((2 : Int) ^ Format.binary64.exponentBits + number.log2) := by
    have positive : (0 : Int) < 2 ^ Format.binary64.exponentBits := by decide
    omega
  have bits : Format.binary64.mantissaBits = 53 := rfl
  have size : (number * 2 ^ 53).log2 = 52 + (number.log2 + 1) := by
    rw [log2_mul_two_pow zero]
    omega
  unfold UnpackedFloat.ofScientific
  rw [dif_neg zero, if_neg (by decide), if_neg notTiny, if_pos (by decide)]
  unfold UnpackedFloat.mul
  dsimp only
  rw [bits, Nat.shiftLeft_eq, Int.toNat_zero, Nat.pow_zero, Nat.mul_one]
  have behind : (-(53 : Nat) + 0 + (number.log2 + 1 : Nat) + 52 : Int) = number.log2 := by omega
  apply denotes_round .positive size behind
  · omega
  · have kept : 2 ^ (number.log2 + 1) = lastPlace number * 2 ^ 53 := by
      unfold lastPlace
      rw [← Nat.pow_add]
      congr 1
      omega
    have whole : lastPlace number * 2 ^ 52 = 2 ^ number.log2 := by
      unfold lastPlace
      rw [← Nat.pow_add]
      congr 1
      omega
    rw [kept, halfEven_scale _ _ (by decide), nearestNatural, Nat.mul_assoc, whole]

/-- A natural number is stored as the nearest one with 53 digits. -/
theorem denotes_ofNat {number : Nat} (small : number < 2 ^ 64) :
    Denotes (Float.ofNat number).toModel.unpack (nearestNatural number) := by
  by_cases short : number < 2 ^ 53
  · have product : Float.ofNat number =
        number.toUInt64.toFloat * Float.ofBits 0x3FF0000000000000 := by
      have fast : number < 2 ^ 53 ∧ 0 ≤ 22 := ⟨short, by decide⟩
      change Float.ofScientific number false 0 = _
      unfold Float.ofScientific
      rw [dif_pos fast]
      rfl
    have same := nearestNatural_of_digits (Nat.le_of_lt short) 0
    rw [Nat.pow_zero, Nat.mul_one] at same
    have denotes := (denotes_ofUInt64 short).mul_one
    rw [← unpack_one] at denotes
    rw [product, same]
    exact denotes.packed
  · have slow : ¬(number < 2 ^ 53 ∧ 0 ≤ 22) := fun fast => short fast.1
    have rounded : Float.ofNat number = Float.ofModel (Float.Model.ofScientific number 0) := by
      change Float.ofScientific number false 0 = _
      unfold Float.ofScientific
      rw [dif_neg slow]
      rfl
    rw [rounded]
    exact denotes_ofScientific (Nat.le_of_not_lt short) small

/-- A whole number of 64 bits is stored as the nearest one with 53 digits. -/
theorem denotes_ofInt {number : Int} (small : number.natAbs < 2 ^ 64) :
    Denotes (Float.ofInt number).toModel.unpack (nearestDouble number) := by
  cases number with
  | ofNat number =>
    rw [Int.ofNat_eq_natCast, nearestDouble_natCast]
    exact denotes_ofNat small
  | negSucc number =>
    rw [Int.negSucc_eq, ← Nat.cast_succ, nearestDouble_neg, nearestDouble_natCast]
    exact (denotes_ofNat small).neg.packed

/-- Whole numbers of 64 bits are the same as doubles exactly if they are rounded to the same
number. -/
theorem ofInt_beq_iff {number other : Int} (small : number.natAbs < 2 ^ 64)
    (otherSmall : other.natAbs < 2 ^ 64) :
    (Float.ofInt number == Float.ofInt other) = true ↔
      nearestDouble number = nearestDouble other :=
  (denotes_ofInt small).beq_iff (denotes_ofInt otherSmall)

end DialectBridge.Decimal
