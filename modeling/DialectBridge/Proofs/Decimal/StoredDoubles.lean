import DialectBridge.Proofs.Decimal.NearestDoubles
import DialectBridge.Decimal.Binary
import DialectBridge.Decimal.Reading
import DialectBridge.Proofs.Decimal.WholeNumbers

/-!
# Doubles as they are stored
-/

namespace DialectBridge.Decimal

open Float.Model Float.Model.UnpackedFloat

/-- The bits of a sign. -/
def signBit (negative : Bool) : Sign := if negative then .negative else .positive

/-- The number that 64 bits of a sign, an exponent and a fraction are. -/
theorem toNat_packComponents (negative : Bool) {field fraction : ℕ} (few : field < 2048)
    (short : fraction < 2 ^ 52) :
    (packComponents Format.binary64 (signBit negative) (BitVec.ofNat 11 field)
        (BitVec.ofNat 52 fraction)).toNat =
      negative.toNat * 2 ^ 63 + field * 2 ^ 52 + fraction := by
  unfold packComponents
  rw [BitVec.toNat_append, BitVec.toNat_append, ← Nat.shiftLeft_add_eq_or_of_lt (BitVec.isLt _),
    ← Nat.shiftLeft_add_eq_or_of_lt (BitVec.isLt _), Nat.shiftLeft_eq, Nat.shiftLeft_eq,
    BitVec.toNat_ofNat, BitVec.toNat_ofNat, Nat.mod_eq_of_lt few, Nat.mod_eq_of_lt short]
  have sign : (signBit negative).toBitVec.toNat = negative.toNat := by cases negative <;> rfl
  rw [sign]
  ring

/-! ## Doubles and their parts -/

/-- The bits of a finite double are its sign, a field for the exponent and a fraction. The first of
53 digits is not stored, and is one unless the field is zero. -/
theorem ofFloat?_cases {x : Float} {parts : Binary} (finite : Binary.ofFloat? x = some parts) :
    ∃ field fraction, field < 2047 ∧ fraction < 2 ^ 52 ∧
      x.toBits.toNat = parts.negative.toNat * 2 ^ 63 + field * 2 ^ 52 + fraction ∧
      ((field = 0 ∧ parts.mantissa = fraction ∧ parts.exponent = -1074) ∨
        (0 < field ∧ parts.mantissa = 2 ^ 52 + fraction ∧ parts.exponent = field - 1075)) := by
  have few := x.toBits.toNat_lt
  unfold Binary.ofFloat? at finite
  dsimp only at finite
  generalize x.toBits.toNat = bits at few finite ⊢
  have sign : (bits / 0x8000000000000000 == 1).toNat = bits / 0x8000000000000000 := by
    have bounded : bits / 0x8000000000000000 = 0 ∨ bits / 0x8000000000000000 = 1 := by omega
    rcases bounded with zero | one
    · rw [zero]
      rfl
    · rw [one]
      rfl
  generalize read : bits / 0x10000000000000 % 0x800 = field at finite
  generalize left : bits % 0x10000000000000 = fraction at finite
  refine ⟨field, fraction, ?_⟩
  by_cases special : field = 2047
  · simp [special] at finite
  · by_cases subnormal : field = 0
    · obtain rfl : Binary.mk (bits / 0x8000000000000000 == 1) fraction (-1074) = parts := by
        simpa [subnormal] using finite
      refine ⟨by omega, by omega, ?_, .inl ⟨subnormal, rfl, rfl⟩⟩
      rw [sign]
      omega
    · obtain rfl : Binary.mk (bits / 0x8000000000000000 == 1) (0x10000000000000 + fraction)
          ((field : ℤ) - 1075) = parts := by
        simpa [special, subnormal] using finite
      refine ⟨by omega, by omega, ?_, .inr ⟨by omega, rfl, rfl⟩⟩
      rw [sign]
      omega

/-- The parts of a double are read from the sign, the exponent and the fraction in its bits. -/
theorem ofFloat?_of_fields {x : Float} {negative : Bool} {field fraction : ℕ}
    (few : field < 2047) (short : fraction < 2 ^ 52)
    (bits : x.toBits.toNat = negative.toNat * 2 ^ 63 + field * 2 ^ 52 + fraction) :
    Binary.ofFloat? x = some (if field = 0 then ⟨negative, fraction, -1074⟩
      else ⟨negative, 2 ^ 52 + fraction, (field : ℤ) - 1075⟩) := by
  have sign : negative.toNat ≤ 1 := Bool.toNat_le negative
  have first : x.toBits.toNat / 0x8000000000000000 = negative.toNat := by omega
  have second : x.toBits.toNat / 0x10000000000000 % 0x800 = field := by omega
  have third : x.toBits.toNat % 0x10000000000000 = fraction := by omega
  have signed : (negative.toNat == 1) = negative := by cases negative <;> rfl
  have notLast : (field == 2047) = false := by
    rw [beq_eq_false_iff_ne]
    omega
  unfold Binary.ofFloat?
  dsimp only
  rw [first, second, third, signed, notLast, if_neg Bool.false_ne_true]
  by_cases subnormal : field = 0
  · rw [subnormal]
    rfl
  · rw [beq_eq_false_iff_ne.mpr subnormal, if_neg Bool.false_ne_true, if_neg subnormal]
    rfl

/-- The field that says the exponent of a double: zero where the first of 53 digits is zero. -/
def exponentField (mantissa : ℕ) (exponent : ℤ) : ℕ :=
  if 2 ^ 52 ≤ mantissa then (exponent + 1075).toNat else 0

/-- The field for the exponent of a finite double is not the last one. -/
theorem exponentField_lt {exponent : ℤ} (small : exponent ≤ 971) (mantissa : ℕ) :
    exponentField mantissa exponent < 2047 := by
  unfold exponentField
  split <;> omega

/-- The bits of a finite double are those of its parts. -/
theorem toNat_toBits_of_ofFloat? {x : Float} {parts : Binary}
    (finite : Binary.ofFloat? x = some parts) :
    x.toBits.toNat = parts.negative.toNat * 2 ^ 63 +
      exponentField parts.mantissa parts.exponent * 2 ^ 52 + parts.mantissa % 2 ^ 52 := by
  obtain ⟨field, fraction, _, short, bits, ⟨rfl, digits, place⟩ | ⟨some, digits, place⟩⟩ :=
    ofFloat?_cases finite
  · rw [bits, digits, exponentField, if_neg (Nat.not_le_of_lt short), Nat.mod_eq_of_lt short]
  · have full : 2 ^ 52 ≤ 2 ^ 52 + fraction := Nat.le_add_right _ _
    have read : (((field : ℤ) - 1075) + 1075).toNat = field := by omega
    rw [bits, digits, place, exponentField, if_pos full, read, Nat.add_mod_left,
      Nat.mod_eq_of_lt short]

/-- Finite doubles with the same parts are the same. -/
theorem ofFloat?_injective {x y : Float} {parts : Binary}
    (finite : Binary.ofFloat? x = some parts) (same : Binary.ofFloat? y = some parts) : x = y := by
  have bits : x.toBits.toNat = y.toBits.toNat := by
    rw [toNat_toBits_of_ofFloat? finite, toNat_toBits_of_ofFloat? same]
  obtain ⟨⟨first, valid⟩⟩ := x
  obtain ⟨⟨second, validToo⟩⟩ := y
  obtain rfl : first = second := UInt64.toNat_inj.mp bits
  rfl

/-- The parts of a finite double other than zero are those of one, and not too large. -/
theorem canonical_of_ofFloat? {x : Float} {parts : Binary}
    (finite : Binary.ofFloat? x = some parts) (nonzero : parts.mantissa ≠ 0) :
    Canonical parts.mantissa parts.exponent ∧ parts.exponent ≤ 971 := by
  obtain ⟨field, fraction, few, short, _, ⟨rfl, digits, place⟩ | ⟨some, digits, place⟩⟩ :=
    ofFloat?_cases finite
  · exact ⟨⟨Nat.pos_of_ne_zero nonzero, by omega, by omega, .inr place⟩, by omega⟩
  · exact ⟨⟨Nat.pos_of_ne_zero nonzero, by omega, by omega, .inl (by omega)⟩, by omega⟩

/-! ## Storing and reading back -/

/-- Where the field for the exponent is zero, the fraction is all of the digits. -/
theorem unpack_packComponents_zero (sign : Sign) {fraction : ℕ} (positive : 0 < fraction)
    (short : fraction < 2 ^ 52) :
    UnpackedFloat.unpack Format.binary64
        (packComponents Format.binary64 sign (BitVec.ofNat 11 0) (BitVec.ofNat 52 fraction)) =
      .finite sign fraction (-1074) positive := by
  have stored : (BitVec.ofNat 52 fraction).toNat = fraction := by
    rw [BitVec.toNat_ofNat, Nat.mod_eq_of_lt short]
  have some : BitVec.ofNat 52 fraction ≠ 0#52 := by
    intro none
    rw [none, BitVec.toNat_ofNat] at stored
    omega
  unfold UnpackedFloat.unpack
  simp only [unpackMantissa_packComponents, unpackExponent_packComponents,
    unpackSign_packComponents, Sign.ofBitVec_toBitVec]
  rw [if_neg (by decide), if_pos trivial, dif_neg some]
  simp only [stored, UnpackedFloat.finite.injEq, true_and]
  rfl

section

variable {mantissa : ℕ} {exponent : ℤ} (canonical : Canonical mantissa exponent)
  (small : exponent ≤ 971)
include canonical small

/-- A double is stored as its sign, the field for its exponent, and its digits but the first. -/
theorem pack_finite (sign : Sign) :
    UnpackedFloat.pack Format.binary64 (.finite sign mantissa exponent canonical.positive) =
      packComponents Format.binary64 sign (BitVec.ofNat 11 (exponentField mantissa exponent))
        (BitVec.ofNat 52 (mantissa % 2 ^ 52)) := by
  have bias : Format.binary64.exponentBias = 1023 := rfl
  have bits : Format.binary64.mantissaBits = 53 := rfl
  have least := canonical.least
  have nonzero := canonical.positive.ne'
  have digits : BitVec.ofNat 52 (mantissa % 2 ^ 52) = BitVec.ofNat 52 mantissa := by
    apply BitVec.eq_of_toNat_eq
    simp only [BitVec.toNat_ofNat, Nat.mod_mod]
  have field : (exponent + (Format.binary64.exponentBias : ℤ) +
      (Format.binary64.mantissaBitsWithoutImplicit : ℤ)).toNat = (exponent + 1075).toNat := by
    rw [bias]
    dsimp only
    omega
  unfold UnpackedFloat.pack
  dsimp only
  rw [field, if_neg (by omega), bits, digits, exponentField]
  by_cases full : 2 ^ 52 ≤ mantissa
  · have size : mantissa.log2 = 52 := (Nat.log2_eq_iff nonzero).mpr ⟨full, canonical.few⟩
    rw [if_pos (by omega), if_pos full]
  · have size : mantissa.log2 < 52 := (Nat.log2_lt nonzero).mpr (Nat.lt_of_not_le full)
    rw [if_neg (by omega), if_neg full]

/-- What is stored has the parts that it was made of. -/
theorem ofFloat?_pack (negative : Bool) :
    Binary.ofFloat? (.ofModel (Float.Model.pack
        (.finite (signBit negative) mantissa exponent canonical.positive))) =
      some ⟨negative, mantissa, exponent⟩ := by
  have few := exponentField_lt small mantissa
  have short : mantissa % 2 ^ 52 < 2 ^ 52 := Nat.mod_lt _ (by decide)
  have bits : (Float.ofModel (Float.Model.pack
      (.finite (signBit negative) mantissa exponent canonical.positive))).toBits.toNat =
        negative.toNat * 2 ^ 63 + exponentField mantissa exponent * 2 ^ 52 +
          mantissa % 2 ^ 52 := by
    rw [← toNat_packComponents negative (Nat.lt_trans few (by decide)) short,
      ← pack_finite canonical small]
    rfl
  have least := canonical.least
  have digits := canonical.few
  rw [ofFloat?_of_fields few short bits]
  by_cases full : 2 ^ 52 ≤ mantissa
  · have field : exponentField mantissa exponent = (exponent + 1075).toNat := if_pos full
    have place : ((exponentField mantissa exponent : ℕ) : ℤ) - 1075 = exponent := by omega
    have whole : 2 ^ 52 + mantissa % 2 ^ 52 = mantissa := by omega
    rw [if_neg (by omega), place, whole]
  · have field : exponentField mantissa exponent = 0 := if_neg full
    have bottom : exponent = -1074 := canonical.full.resolve_left full
    have whole : mantissa % 2 ^ 52 = mantissa := Nat.mod_eq_of_lt (Nat.lt_of_not_le full)
    rw [if_pos field, whole, bottom]

/-- A double is read from what is stored as it was. -/
theorem unpack_pack_finite (sign : Sign) :
    (Float.Model.pack (.finite sign mantissa exponent canonical.positive)).unpack =
      .finite sign mantissa exponent canonical.positive := by
  have stored : (Float.Model.pack
      (.finite sign mantissa exponent canonical.positive)).unpack = _ :=
    congrArg (UnpackedFloat.unpack Format.binary64) (pack_finite canonical small sign)
  rw [stored]
  have least := canonical.least
  by_cases full : 2 ^ 52 ≤ mantissa
  · have digits : BitVec.ofNat 52 (mantissa % 2 ^ 52) = BitVec.ofNat 52 mantissa := by
      apply BitVec.eq_of_toNat_eq
      simp only [BitVec.toNat_ofNat, Nat.mod_mod]
    have field : exponentField mantissa exponent = (exponent + 1075).toNat := if_pos full
    have place : (((exponent + 1075).toNat : ℕ) : ℤ) - 1075 = exponent := by omega
    rw [digits, field, unpack_packComponents sign (by omega) (by omega) canonical.positive full
      canonical.few]
    simp only [place]
  · have short : mantissa < 2 ^ 52 := Nat.lt_of_not_le full
    have field : exponentField mantissa exponent = 0 := if_neg full
    have bottom : exponent = -1074 := canonical.full.resolve_left full
    rw [field, Nat.mod_eq_of_lt short,
      unpack_packComponents_zero sign canonical.positive short]
    simp only [bottom]

end

/-! ## Reading decimals -/

section

variable {digits mantissa : ℕ} {exponent place : ℤ}
  (rounds : RoundsTo (digits * 10 ^ exponent) mantissa place) (small : place ≤ 971)
include rounds small

/-- The first digit of a decimal that is rounded to a double is not far from the point. -/
theorem magnitude_of_rounds : -330 ≤ exponent + (Nat.toDigits 10 digits).length ∧
    exponent + (Nat.toDigits 10 digits).length ≤ 310 := by
  have nonzero := rounds.digits_ne_zero
  have some := @Nat.length_toDigits_pos 10 digits
  have less := lt_pow_length_toDigits digits
  have least := pow_length_toDigits_le nonzero
  generalize (Nat.toDigits 10 digits).length = count at some less least ⊢
  constructor
  · by_contra tiny
    have cast : (digits : ℚ) < 10 ^ (count : ℤ) := by exact_mod_cast less
    have smallest : (digits : ℚ) * 10 ^ exponent < 2 ^ (-1075 : ℤ) := by
      calc (digits : ℚ) * 10 ^ exponent
          < 10 ^ (count : ℤ) * 10 ^ exponent := mul_lt_mul_of_pos_right cast (by positivity)
        _ = 10 ^ (exponent + count) := by rw [zpow_add₀ (by norm_num), mul_comm]
        _ ≤ 10 ^ (-331 : ℤ) := zpow_le_zpow_right₀ (by norm_num) (by omega)
        _ ≤ 2 ^ (-1075 : ℤ) := by
          rw [zpow_neg, zpow_neg]
          exact inv_anti₀ (by positivity) (by exact_mod_cast (by decide +kernel : 2 ^ 1075 ≤ 10 ^ 331))
    exact absurd rounds.le_value (not_le.mpr smallest)
  · by_contra huge
    have cast : (10 : ℚ) ^ ((count : ℤ) - 1) ≤ digits := by
      have whole : ((count : ℤ) - 1) = ((count - 1 : ℕ) : ℤ) := by omega
      rw [whole]
      exact_mod_cast least
    have largest : (2 : ℚ) ^ (1024 : ℤ) ≤ digits * 10 ^ exponent := by
      calc (2 : ℚ) ^ (1024 : ℤ) ≤ 10 ^ (310 : ℤ) := by
            exact_mod_cast (by decide +kernel : 2 ^ 1024 ≤ 10 ^ 310)
        _ ≤ 10 ^ (((count : ℤ) - 1) + exponent) := zpow_le_zpow_right₀ (by norm_num) (by omega)
        _ = 10 ^ ((count : ℤ) - 1) * 10 ^ exponent := zpow_add₀ (by norm_num) _ _
        _ ≤ digits * 10 ^ exponent := mul_le_mul_of_nonneg_right cast (by positivity)
    exact absurd (rounds.value_lt small) (not_lt.mpr largest)

/-- A decimal is read as the double in whose interval it is: where its first digit decides that it
lies beyond every double, it is in the interval of none. -/
theorem toFloat_eq : Scientific.toFloat ⟨digits, exponent⟩ =
    .ofModel (Float.Model.pack (.finite .positive mantissa place rounds.positive)) := by
  have nonzero := rounds.digits_ne_zero
  obtain ⟨least, most⟩ := magnitude_of_rounds rounds small
  unfold Scientific.toFloat
  dsimp only
  rw [if_neg (by simpa using nonzero), if_neg (by omega), if_neg (by omega)]
  exact float_ofScientific_eq rounds small

/-- The parts of the double that a decimal is read as. -/
theorem ofFloat?_toFloat :
    Binary.ofFloat? (Scientific.toFloat ⟨digits, exponent⟩) = some ⟨false, mantissa, place⟩ := by
  rw [toFloat_eq rounds small]
  exact ofFloat?_pack rounds.toCanonical small false

/-- The parts of the double that a decimal behind a minus sign is read as. -/
theorem ofFloat?_neg_toFloat :
    Binary.ofFloat? (Scientific.toFloat ⟨digits, exponent⟩).neg = some ⟨true, mantissa, place⟩ := by
  have opposite : (Scientific.toFloat ⟨digits, exponent⟩).neg =
      .ofModel (Float.Model.pack (.finite .negative mantissa place rounds.positive)) := by
    rw [toFloat_eq rounds small]
    change Float.ofModel (Float.Model.pack (Float.Model.pack _).unpack.neg) = _
    rw [unpack_pack_finite rounds.toCanonical small]
    rfl
  rw [opposite]
  exact ofFloat?_pack rounds.toCanonical small true

end

end DialectBridge.Decimal
