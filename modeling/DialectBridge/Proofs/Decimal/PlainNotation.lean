import DialectBridge.Decimal.Reading
import DialectBridge.Proofs.Decimal.ShortestDecimals

/-!
# Reading plain notation

A double is written in digits with at most one point among them and a minus sign in front if it is
negative. Reading such a text gives the number that its digits denote, rounded to a double. Since
the shortest decimal of a double is rounded to the double itself, every finite double other than a
zero is read back as it was.
-/

namespace DialectBridge.Decimal

/-! ## Unsigned numbers -/

/-- The unsigned numbers that are written without an exponent, with what they denote: digits alone,
or digits with a point among them. -/
inductive Notation : List Char → Scientific → Prop
  | whole {digits : List Char} (digital : Digital digits) (nonempty : digits ≠ []) :
      Notation digits ⟨ofDigits digits, 0⟩
  | pointed {front behind : List Char} (digital : Digital front) (nonempty : front ≠ [])
      (places : Digital behind) :
      Notation (front ++ '.' :: behind) ⟨ofDigits (front ++ behind), -(behind.length : ℤ)⟩

/-- A written number begins with a digit. -/
theorem Notation.begins {text : List Char} {number : Scientific} (written : Notation text number) :
    ∃ c more, text = c :: more ∧ c.isDigit = true := by
  cases written with
  | whole digital nonempty =>
    obtain ⟨c, more, rfl⟩ := List.exists_cons_of_ne_nil nonempty
    exact ⟨c, more, rfl, digital c List.mem_cons_self⟩
  | pointed digital nonempty _ =>
    obtain ⟨c, more, rfl⟩ := List.exists_cons_of_ne_nil nonempty
    exact ⟨c, _, rfl, digital c List.mem_cons_self⟩

/-- Digits are cut off at the end of a text. -/
theorem takeWhile_dropWhile_digits {digits : List Char} (digital : Digital digits) :
    digits.takeWhile Char.isDigit = digits ∧ digits.dropWhile Char.isDigit = [] :=
  ⟨List.takeWhile_eq_self_iff.mpr digital, List.dropWhile_eq_nil_iff.mpr digital⟩

/-- A written number is read as what it denotes. -/
theorem readScientific_of_written {text : List Char} {number : Scientific}
    (written : Notation text number) : readScientific text = some number := by
  cases written with
  | @whole digits digital nonempty =>
    obtain ⟨taken, left⟩ := takeWhile_dropWhile_digits digital
    simp [readScientific, taken, left, nonempty, readExponent]
  | @pointed front behind digital nonempty places =>
    obtain ⟨taken, left⟩ := @Text.takeWhile_dropWhile_append Char.isDigit front ('.' :: behind)
      digital (by rintro c ⟨rfl⟩; rfl)
    obtain ⟨takenToo, leftToo⟩ := takeWhile_dropWhile_digits places
    simp [readScientific, taken, left, takenToo, leftToo, nonempty, readExponent]

/-- What begins with a digit is none of the words for infinity or for no number. -/
theorem no_word {c : Char} (digit : c.isDigit = true) (more : List Char) (word : String)
    (noDigit : ∀ first, word.toList.head? = some first → first.isDigit = false) :
    (String.ofList ((c :: more).map Char.toLower) == word) = false := by
  refine beq_eq_false_iff_ne.mpr ?_
  rintro rfl
  have code := Text.isDigit_iff.mp digit
  have same : c.toLower = c := Text.toLower_of_not_capital (by omega)
  have first := noDigit c (by rw [String.toList_ofList, List.map_cons, same]; rfl)
  rw [digit] at first
  exact nomatch first

/-- A written number is read as the double that is nearest to what it denotes. -/
theorem readMagnitude_of_written {text : List Char} {number : Scientific}
    (written : Notation text number) : readMagnitude text = some number.toFloat := by
  have scientific := readScientific_of_written written
  obtain ⟨c, more, rfl, digit⟩ := written.begins
  have noInf := no_word digit more "inf" (by rintro first ⟨rfl⟩; rfl)
  have noInfinity := no_word digit more "infinity" (by rintro first ⟨rfl⟩; rfl)
  have noNaN := no_word digit more "nan" (by rintro first ⟨rfl⟩; rfl)
  unfold readMagnitude
  dsimp only
  rw [noInf, noInfinity, noNaN, scientific]
  rfl

/-- A written number without a sign is read as the double nearest to it. -/
theorem readFloat_of_written {text : List Char} {number : Scientific}
    (written : Notation text number) : readFloat text = some number.toFloat := by
  have magnitude := readMagnitude_of_written written
  obtain ⟨c, more, rfl, digit⟩ := written.begins
  have noMinus : c ≠ '-' := by rintro rfl; exact nomatch digit
  have noPlus : c ≠ '+' := by rintro rfl; exact nomatch digit
  unfold readFloat
  split
  · next same => exact absurd (List.cons.inj same).1 noMinus
  · next same => exact absurd (List.cons.inj same).1 noPlus
  · exact magnitude

/-- A minus sign in front negates the double. -/
theorem readFloat_minus {text : List Char} {number : Scientific} (written : Notation text number) :
    readFloat ('-' :: text) = some number.toFloat.neg := by
  change (readMagnitude text).map Float.neg = _
  rw [readMagnitude_of_written written]
  rfl

/-! ## Positional notation -/

/-- Digits that count units or more are written with zeros behind them. -/
theorem positional_whole {decimal : Digits} {power : ℕ} (places : decimal.exponent = power) :
    Digital decimal.positional.toList ∧ decimal.positional.toList ≠ [] ∧
      ofDigits decimal.positional.toList = decimal.digits * 10 ^ power := by
  have text : decimal.positional.toList =
      Nat.toDigits 10 decimal.digits ++ List.replicate power '0' := by
    unfold Digits.positional
    rw [places]
    exact String.toList_ofList
  rw [text]
  refine ⟨digital_append.mpr ⟨digital_toDigits _, digital_zeros _⟩,
    List.append_ne_nil_of_left_ne_nil Nat.toDigits_ne_nil _, ?_⟩
  rw [ofDigits_append, ofDigits_zeros, ofDigits_toDigits, List.length_replicate, Nat.add_zero,
    Nat.mul_comm]

/-- Digits that count less than units are written with a point among them, and with zeros in front
if they are too few. -/
theorem positional_pointed {decimal : Digits} {below : ℕ}
    (places : decimal.exponent = -(below + 1 : ℕ)) :
    ∃ front behind, decimal.positional.toList = front ++ '.' :: behind ∧ Digital front ∧
      front ≠ [] ∧ Digital behind ∧ behind.length = below + 1 ∧
      ofDigits (front ++ behind) = decimal.digits := by
  have padding := digital_append.mpr ⟨digital_zeros
    (below + 1 + 1 - (Nat.toDigits 10 decimal.digits).length), digital_toDigits decimal.digits⟩
  have many : below + 1 < (List.replicate
      (below + 1 + 1 - (Nat.toDigits 10 decimal.digits).length) '0' ++
        Nat.toDigits 10 decimal.digits).length := by
    rw [List.length_append, List.length_replicate]
    omega
  have number : ofDigits (List.replicate
      (below + 1 + 1 - (Nat.toDigits 10 decimal.digits).length) '0' ++
        Nat.toDigits 10 decimal.digits) = decimal.digits := by
    rw [ofDigits_append, ofDigits_zeros, ofDigits_toDigits, Nat.mul_zero, Nat.zero_add]
  unfold Digits.positional
  rw [places]
  change ∃ front behind, (String.ofList _).toList = _ ∧ _
  simp only [String.toList_ofList]
  generalize List.replicate (below + 1 + 1 - (Nat.toDigits 10 decimal.digits).length) '0' ++
    Nat.toDigits 10 decimal.digits = padded at padding many number ⊢
  refine ⟨_, _, rfl, fun c member => padding c (List.mem_of_mem_take member), ?_,
    fun c member => padding c (List.mem_of_mem_drop member), ?_, ?_⟩
  · exact List.ne_nil_of_length_pos (by rw [List.length_take]; omega)
  · rw [List.length_drop]
    omega
  · rw [List.take_append_drop, number]

/-- Digits are written as the number that they stand for. -/
theorem exists_written (decimal : Digits) : ∃ number,
    Notation decimal.positional.toList number ∧
      (number.digits * 10 ^ number.exponent : ℚ) = decimal.digits * 10 ^ decimal.exponent := by
  cases places : decimal.exponent with
  | ofNat power =>
    obtain ⟨digital, nonempty, value⟩ := positional_whole places
    refine ⟨_, .whole digital nonempty, ?_⟩
    rw [value, Int.ofNat_eq_natCast, zpow_natCast, zpow_zero]
    push_cast
    ring
  | negSucc below =>
    obtain ⟨front, behind, text, digital, nonempty, placesDigital, count, value⟩ :=
      positional_pointed (places.trans (Int.negSucc_eq below))
    rw [text]
    refine ⟨_, .pointed digital nonempty placesDigital, ?_⟩
    rw [value, count, Int.negSucc_eq]
    rfl

/-! ## Doubles -/

/-- The text of the magnitude of a double. -/
def magnitudeText (parts : Binary) : List Char :=
  if parts.mantissa = 0 then ['0'] else (shortest parts).positional.toList

/-- The whole number that the digits of a magnitude are, with the sign of the double. -/
def signedDigits (parts : Binary) : ℤ :=
  if parts.negative then -(ofDigits (magnitudeText parts) : ℤ) else ofDigits (magnitudeText parts)

/-- A finite double is written as its magnitude, behind a minus sign if it is negative. -/
theorem toList_plain {x : Float} {parts : Binary} (finite : Binary.ofFloat? x = some parts) :
    (plain x).toList = (if parts.negative then ['-'] else []) ++ magnitudeText parts := by
  have magnitude : (if parts.mantissa == 0 then "0" else (shortest parts).positional).toList =
      magnitudeText parts := by
    unfold magnitudeText
    by_cases zero : parts.mantissa = 0 <;> simp [zero]
  unfold plain
  rw [finite]
  dsimp only
  cases parts.negative
  · exact magnitude
  · rw [if_pos rfl, if_pos rfl, String.toList_append, magnitude]
    rfl

/-- The parts of zero and of its negative. -/
theorem ofFloat?_zero : Binary.ofFloat? (Scientific.toFloat ⟨0, 0⟩) = some ⟨false, 0, -1074⟩ ∧
    Binary.ofFloat? (Scientific.toFloat ⟨0, 0⟩).neg = some ⟨true, 0, -1074⟩ :=
  ⟨rfl, rfl⟩

/-- Zero has no fractional part and no whole part, whatever its exponent is. -/
theorem whole_of_zero {parts : Binary} (zero : parts.mantissa = 0) :
    parts.isWhole = true ∧ parts.wholePart = 0 := by
  obtain ⟨negative, mantissa, exponent⟩ := parts
  obtain rfl : mantissa = 0 := zero
  cases exponent <;> simp [Binary.isWhole, Binary.wholePart]

/-- A natural number is rounded to a double in the same way as the digits that denote it. -/
theorem toFloat_natural {number : ℕ} (small : number < 2 ^ 63) :
    Scientific.toFloat ⟨number, 0⟩ = Float.ofNat number := by
  by_cases zero : number = 0
  · rw [zero]
    rfl
  · have short : (Nat.toDigits 10 number).length ≤ 19 :=
      (Nat.length_toDigits_le_iff (by decide) (by decide)).mpr (by omega)
    unfold Scientific.toFloat
    dsimp only
    rw [if_neg (by simpa using zero), if_neg (by omega), if_neg (by omega)]
    rfl

section

variable {x : Float} {parts : Binary} (finite : Binary.ofFloat? x = some parts)
include finite

/-- Zero is stored at the bottom of the range. -/
theorem exponent_of_zero (zero : parts.mantissa = 0) : parts.exponent = -1074 := by
  obtain ⟨_, fraction, _, _, _, ⟨_, _, place⟩ | ⟨_, digits, _⟩⟩ := ofFloat?_cases finite
  · exact place
  · omega

/-- The magnitude of a double is written as a number that is rounded to it, with either sign. -/
theorem exists_magnitude : ∃ number, Notation (magnitudeText parts) number ∧
    Binary.ofFloat? number.toFloat = some ⟨false, parts.mantissa, parts.exponent⟩ ∧
    Binary.ofFloat? number.toFloat.neg = some ⟨true, parts.mantissa, parts.exponent⟩ := by
  unfold magnitudeText
  by_cases zero : parts.mantissa = 0
  · rw [if_pos zero, zero, exponent_of_zero finite zero]
    exact ⟨⟨0, 0⟩, .whole (by decide) (by simp), ofFloat?_zero⟩
  · obtain ⟨canonical, small⟩ := canonical_of_ofFloat? finite zero
    obtain ⟨number, written, value⟩ := exists_written (shortest parts)
    have rounds := shortest_rounds canonical
    rw [← value] at rounds
    rw [if_neg zero]
    exact ⟨number, written, ofFloat?_toFloat rounds small, ofFloat?_neg_toFloat rounds small⟩

/-- Every finite double is read back from plain notation. -/
theorem readFloat_plain : readFloat (plain x).toList = some x := by
  obtain ⟨number, written, positive, negative⟩ := exists_magnitude finite
  rw [toList_plain finite]
  obtain ⟨sign, mantissa, exponent⟩ := parts
  cases sign with
  | false =>
    change readFloat (magnitudeText _) = some x
    rw [readFloat_of_written written, ofFloat?_injective positive finite]
  | true =>
    change readFloat ('-' :: magnitudeText _) = some x
    rw [readFloat_minus written, ofFloat?_injective negative finite]

/-- The magnitude of a double without a fractional part is written in digits alone. They fit in 64
bits exactly if the double does, and else denote more than any number that fits with either sign. -/
theorem magnitude_whole (whole : parts.isWhole = true) : Digital (magnitudeText parts) ∧
    (parts.wholePart < 2 ^ 63 → ofDigits (magnitudeText parts) < 2 ^ 63) ∧
    (2 ^ 63 ≤ parts.wholePart → 2 ^ 63 < ofDigits (magnitudeText parts)) := by
  unfold magnitudeText
  by_cases zero : parts.mantissa = 0
  · rw [if_pos zero, (whole_of_zero zero).2]
    decide
  · obtain ⟨canonical, _⟩ := canonical_of_ofFloat? finite zero
    obtain ⟨power, places⟩ :=
      Int.eq_ofNat_of_zero_le ((shortest_exponent_nonneg_iff canonical).mpr whole)
    obtain ⟨digital, _, value⟩ := positional_whole places
    rw [if_neg zero, value]
    exact ⟨digital, whole_decimal_fits canonical places⟩

/-- The digits of a double without a fractional part fit in 64 bits exactly if the double does. -/
theorem signedDigits_fits_iff (whole : parts.isWhole = true) :
    (minInt64 ≤ signedDigits parts ∧ signedDigits parts ≤ maxInt64) ↔
      parts.wholePart < 2 ^ 63 := by
  obtain ⟨_, fits, exceeds⟩ := magnitude_whole finite whole
  unfold signedDigits minInt64 maxInt64
  by_cases small : parts.wholePart < 2 ^ 63
  · have few := fits small
    refine iff_of_true ?_ small
    split <;> omega
  · have many := exceeds (Nat.le_of_not_lt small)
    refine iff_of_false ?_ small
    split <;> omega

/-- The whole number that a double without a fractional part is written as is the same as the
double. -/
theorem ofInt_signedDigits (whole : parts.isWhole = true) (small : parts.wholePart < 2 ^ 63) :
    (Float.ofInt (signedDigits parts) == x) = true := by
  obtain ⟨digital, fits, _⟩ := magnitude_whole finite whole
  have few := fits small
  obtain ⟨number, written, positive, negative⟩ := exists_magnitude finite
  obtain ⟨c, more, begins, _⟩ := written.begins
  -- digits alone are one notation only, so what is known of the number is known of them
  have digits : Notation (magnitudeText parts) ⟨ofDigits (magnitudeText parts), 0⟩ :=
    .whole digital (by simp [begins])
  have same := (readScientific_of_written written).symm.trans (readScientific_of_written digits)
  rw [Option.some.inj same, toFloat_natural few] at positive negative
  unfold signedDigits
  generalize ofDigits (magnitudeText parts) = count at few positive negative ⊢
  obtain ⟨sign, mantissa, exponent⟩ := parts
  have reflexive {number : ℤ} (small : number.natAbs < 2 ^ 63) :
      (Float.ofInt number == Float.ofInt number) = true :=
    (ofInt_beq_iff (by omega) (by omega)).mpr rfl
  cases sign with
  | false =>
    obtain rfl : Float.ofInt count = x := ofFloat?_injective positive finite
    exact reflexive (by omega)
  | true =>
    obtain rfl : (Float.ofNat count).neg = x := ofFloat?_injective negative finite
    cases count with
    | zero =>
      change (Float.ofInt 0 == (Float.ofNat 0).neg) = true
      decide +kernel
    | succ less => exact @reflexive (-((less + 1 : ℕ) : ℤ)) (by omega)

/-- A finite double is a number. -/
theorem isNaN_of_finite : x.isNaN = false := by
  obtain ⟨negative, mantissa, exponent⟩ := parts
  by_cases zero : mantissa = 0
  · obtain rfl : exponent = -1074 := exponent_of_zero finite zero
    subst zero
    cases negative with
    | false => rw [← ofFloat?_injective ofFloat?_zero.1 finite]; rfl
    | true => rw [← ofFloat?_injective ofFloat?_zero.2 finite]; rfl
  · obtain ⟨canonical, small⟩ := canonical_of_ofFloat? finite zero
    rw [← ofFloat?_injective (ofFloat?_pack canonical small negative) finite]
    change (Float.Model.pack _).unpack.isNaN = false
    rw [unpack_pack_finite canonical small]
    rfl

/-- The magnitude of a double with a fractional part is written with a point. -/
theorem magnitude_pointed (fractional : parts.isWhole = false) :
    ∃ front behind, magnitudeText parts = front ++ '.' :: behind ∧ Digital front ∧ front ≠ [] ∧
      Digital behind := by
  have nonzero : parts.mantissa ≠ 0 := by
    intro zero
    rw [(whole_of_zero zero).1] at fractional
    exact nomatch fractional
  obtain ⟨canonical, _⟩ := canonical_of_ofFloat? finite nonzero
  have negative := mt (shortest_exponent_nonneg_iff canonical).mp (by simp [fractional])
  have places : (shortest parts).exponent =
      -(((-(shortest parts).exponent).toNat - 1 + 1 : ℕ) : ℤ) := by omega
  obtain ⟨front, behind, text, digital, nonempty, placesDigital, _⟩ := positional_pointed places
  exact ⟨front, behind, (if_neg nonzero).trans text, digital, nonempty, placesDigital⟩

end

end DialectBridge.Decimal
