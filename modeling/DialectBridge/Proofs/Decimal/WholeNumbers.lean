import DialectBridge.Decimal.Integer
import DialectBridge.Proofs.Characters
import Mathlib.Algebra.Group.Nat.Defs

/-!
# Digits and the numbers they denote

A stretch of digits denotes a number below the power of ten that has as many zeros, and no
other stretch of the same length denotes the same number. Padding writes a number as the one
stretch of the width that denotes it, so what is padded is read back, and what was read in
so many digits is written again with the same digits.
-/

namespace DialectBridge.Decimal

/-- Whether all characters of a text are digits. -/
def Digital (text : List Char) : Prop := ∀ c ∈ text, c.isDigit = true

instance (text : List Char) : Decidable (Digital text) :=
  decidable_of_iff (text.all Char.isDigit = true) List.all_eq_true

/-- The parts of a text of digits are digits. -/
theorem digital_append {first second : List Char} :
    Digital (first ++ second) ↔ Digital first ∧ Digital second := List.forall_mem_append

/-- Zeros are digits. -/
theorem digital_zeros (count : Nat) : Digital (List.replicate count '0') := by
  intro c member
  rw [List.eq_of_mem_replicate member]
  rfl

/-! ## The number of a stretch of digits -/

/-- Digits after others move them to the left by as many places. -/
theorem ofDigits_append (first second : List Char) :
    ofDigits (first ++ second) = 10 ^ second.length * ofDigits first + ofDigits second := by
  change Nat.ofDigitChars 10 (first ++ second) 0 = _
  rw [Nat.ofDigitChars_append, Nat.ofDigitChars_eq_ofDigitChars_zero]
  rfl

/-- Zeros denote zero. -/
theorem ofDigits_zeros (count : Nat) : ofDigits (List.replicate count '0') = 0 := by
  change Nat.ofDigitChars 10 (List.replicate count '0') 0 = 0
  rw [Nat.ofDigitChars_replicate_zero, Nat.mul_zero]

/-- The digits of a number denote the number. -/
theorem ofDigits_toDigits (n : Nat) : ofDigits (Nat.toDigits 10 n) = n :=
  Nat.ofDigitChars_ten_toDigits

/-- A digit stands for less than ten. -/
theorem digitValue_lt {c : Char} (digit : c.isDigit = true) : digitValue c < 10 := by
  have code := Text.isDigit_iff.mp digit
  change c.toNat - 48 < 10
  omega

/-- Digits that stand for the same number are the same. -/
theorem digitValue_injective {c d : Char} (first : c.isDigit = true) (second : d.isDigit = true)
    (same : digitValue c = digitValue d) : c = d := by
  have firstCode := Text.isDigit_iff.mp first
  have secondCode := Text.isDigit_iff.mp second
  change c.toNat - 48 = d.toNat - 48 at same
  have codes : c.toNat = d.toNat := by omega
  exact Char.toNat_inj.mp codes

/-- The number of one digit. -/
theorem ofDigits_singleton (c : Char) : ofDigits [c] = digitValue c := by
  simp [ofDigits]

/-- The first of some digits counts as many tens as there are digits after it. -/
theorem ofDigits_cons (c : Char) (rest : List Char) :
    ofDigits (c :: rest) = 10 ^ rest.length * digitValue c + ofDigits rest := by
  rw [← ofDigits_singleton, ← ofDigits_append]
  rfl

/-- Digits denote less than the power of ten with as many zeros. -/
theorem ofDigits_lt {digits : List Char} (digital : Digital digits) :
    ofDigits digits < 10 ^ digits.length := by
  induction digits with
  | nil => decide
  | cons c rest inductionHypothesis =>
    obtain ⟨digit, others⟩ := List.forall_mem_cons.mp digital
    have lower := inductionHypothesis others
    have upper : 10 ^ rest.length * (digitValue c + 1) ≤ 10 ^ rest.length * 10 :=
      Nat.mul_le_mul_left _ (digitValue_lt digit)
    rw [ofDigits_cons, List.length_cons, Nat.pow_succ]
    rw [Nat.mul_add] at upper
    omega

/-- Equally many digits that denote the same number are the same digits. -/
theorem ofDigits_injective {first second : List Char} (digital : Digital first)
    (others : Digital second) (lengths : first.length = second.length)
    (same : ofDigits first = ofDigits second) : first = second := by
  induction first generalizing second with
  | nil => exact (List.length_eq_zero_iff.mp lengths.symm).symm
  | cons c rest inductionHypothesis =>
    cases second with
    | nil => simp at lengths
    | cons d more =>
      obtain ⟨digit, digitalRest⟩ := List.forall_mem_cons.mp digital
      obtain ⟨other, digitalMore⟩ := List.forall_mem_cons.mp others
      have equallyMany : rest.length = more.length := Nat.succ.inj lengths
      have restLt := ofDigits_lt digitalRest
      have moreLt := ofDigits_lt digitalMore
      rw [ofDigits_cons, ofDigits_cons] at same
      rw [← equallyMany] at same moreLt
      -- The first digit is the quotient by the power of ten, the rest the remainder.
      have values : digitValue c = digitValue d := by
        have quotient := congrArg (· / 10 ^ rest.length) same
        have positive : 0 < 10 ^ rest.length := Nat.pow_pos (by decide)
        simpa [Nat.mul_add_div positive, Nat.div_eq_of_lt restLt, Nat.div_eq_of_lt moreLt]
          using quotient
      rw [values] at same
      rw [digitValue_injective digit other values,
        inductionHypothesis digitalRest digitalMore equallyMany (Nat.add_left_cancel same)]

/-- Dropping the last digits divides by the power of ten with as many zeros. -/
theorem ofDigits_append_div {first second : List Char} (digital : Digital second) :
    ofDigits (first ++ second) / 10 ^ second.length = ofDigits first := by
  have positive : 0 < 10 ^ second.length := Nat.pow_pos (by decide)
  rw [ofDigits_append, Nat.mul_add_div positive, Nat.div_eq_of_lt (ofDigits_lt digital),
    Nat.add_zero]

/-! ## The digits of a number -/

/-- The digits of a magnitude. -/
theorem digital_toDigits (magnitude : Nat) : Digital (Nat.toDigits 10 magnitude) :=
  fun _ member => Nat.isDigit_of_mem_toDigits (by decide) (by decide) member

/-- A number is below the power of ten for its digits. -/
theorem lt_pow_length_toDigits (n : Nat) : n < 10 ^ (Nat.toDigits 10 n).length :=
  (Nat.length_toDigits_le_iff (by decide) Nat.length_toDigits_pos).mp (Nat.le_refl _)

/-- A number other than zero is no smaller than the power of ten for its digits but one. -/
theorem pow_length_toDigits_le {n : Nat} (nonzero : n ≠ 0) :
    10 ^ ((Nat.toDigits 10 n).length - 1) ≤ n := by
  have some := @Nat.length_toDigits_pos 10 n
  by_cases one : (Nat.toDigits 10 n).length - 1 = 0
  · rw [one, Nat.pow_zero]
    exact Nat.pos_of_ne_zero nonzero
  · refine Nat.le_of_not_lt fun less => ?_
    have shorter := (Nat.length_toDigits_le_iff (by decide) (Nat.pos_of_ne_zero one)).mpr less
    omega

/-- The first digit of a number is no zero, unless it is the only one. -/
theorem length_toDigits_of_leading_zero {n : Nat}
    (zero : (Nat.toDigits 10 n).head? = some '0') : (Nat.toDigits 10 n).length = 1 := by
  have digital := digital_toDigits n
  have number := ofDigits_toDigits n
  cases digits : Nat.toDigits 10 n with
  | nil => exact absurd digits Nat.toDigits_ne_nil
  | cons c rest =>
    rw [digits] at digital number zero
    obtain rfl : c = '0' := Option.some.inj zero
    have none : digitValue '0' = 0 := rfl
    rw [ofDigits_cons, none, Nat.mul_zero, Nat.zero_add] at number
    have below := ofDigits_lt (List.forall_mem_cons.mp digital).2
    rw [number] at below
    by_cases alone : rest = []
    · rw [alone]
      rfl
    · -- without the zero there would be enough digits for the number
      have count := (Nat.length_toDigits_le_iff (by decide) (List.length_pos_iff.mpr alone)).mpr
        below
      rw [digits, List.length_cons] at count
      omega

/-- Digits of which the first is no zero, unless it is the only one, are those of the number that
they denote. -/
theorem toDigits_ofDigits {digits : List Char} (digital : Digital digits) (nonempty : digits ≠ [])
    (leading : digits.head? = some '0' → digits.length = 1) :
    Nat.toDigits 10 (ofDigits digits) = digits := by
  have positive := List.length_pos_iff.mpr nonempty
  have few := (Nat.length_toDigits_le_iff (by decide) positive).mpr (ofDigits_lt digital)
  have many : digits.length ≤ (Nat.toDigits 10 (ofDigits digits)).length := by
    obtain ⟨c, rest, rfl⟩ := List.exists_cons_of_ne_nil nonempty
    by_cases alone : rest = []
    · rw [alone]
      exact Nat.length_toDigits_pos
    · have counted : 0 < digitValue c := by
        rw [Nat.pos_iff_ne_zero]
        intro zero
        have first : c = '0' := digitValue_injective (digital c List.mem_cons_self) rfl zero
        have single := leading (congrArg some first)
        simp [alone] at single
      have large : 10 ^ rest.length * 1 ≤ 10 ^ rest.length * digitValue c :=
        Nat.mul_le_mul_left _ counted
      have notFewer : ¬(Nat.toDigits 10 (ofDigits (c :: rest))).length ≤ rest.length := by
        rw [Nat.length_toDigits_le_iff (by decide) (List.length_pos_iff.mpr alone), ofDigits_cons]
        omega
      exact Nat.lt_of_not_le notFewer
  exact ofDigits_injective (digital_toDigits _) digital (Nat.le_antisymm few many)
    (ofDigits_toDigits _)

/-! ## Decimal places -/

/-- So many decimal places of the digits after a point: further digits are cut off, and
missing ones are zeros. -/
def places (width : Nat) (digits : List Char) : List Char :=
  (digits ++ List.replicate width '0').take width

/-- There are as many decimal places as are asked for. -/
theorem length_places (width : Nat) (digits : List Char) :
    (places width digits).length = width := by
  unfold places
  rw [List.length_take, List.length_append, List.length_replicate]
  omega

/-- There are decimal places if some are asked for. -/
theorem places_ne_nil {width : Nat} (positive : 0 < width) (digits : List Char) :
    places width digits ≠ [] := by
  have count := length_places width digits
  exact List.ne_nil_of_length_pos (by omega)

/-- Decimal places of digits are digits. -/
theorem digital_places (width : Nat) {digits : List Char} (digital : Digital digits) :
    Digital (places width digits) := by
  intro c member
  exact digital_append.mpr ⟨digital, digital_zeros width⟩ c (List.mem_of_mem_take member)

/-- Decimal places are the first digits, and zeros for those that are missing. -/
theorem places_eq (width : Nat) (digits : List Char) :
    places width digits = digits.take width ++ List.replicate (width - digits.length) '0' := by
  unfold places
  rw [List.take_append, List.take_replicate, Nat.min_eq_left (Nat.sub_le _ _)]

/-- Fewer decimal places are the first ones of more. -/
theorem take_places {few many : Nat} (le : few ≤ many) (digits : List Char) :
    (places many digits).take few = places few digits := by
  unfold places
  rw [List.take_take, Nat.min_eq_left le, List.take_append, List.take_append, List.take_replicate,
    List.take_replicate, Nat.min_eq_left (by omega), Nat.min_eq_left (by omega)]

/-! ## Padding -/

variable (width n : Nat)

/-- The characters of a padded number. -/
theorem toList_padded : (padded width n).toList =
    List.replicate (width - (Nat.toDigits 10 n).length) '0' ++ Nat.toDigits 10 n :=
  String.toList_ofList

/-- A padded number consists of digits. -/
theorem digital_padded : Digital (padded width n).toList := by
  rw [toList_padded, digital_append]
  refine ⟨digital_zeros _, fun c member => ?_⟩
  exact Nat.isDigit_of_mem_toDigits (by decide) (by decide) member

/-- The digits of a padded number denote it. -/
theorem ofDigits_padded : ofDigits (padded width n).toList = n := by
  rw [toList_padded, ofDigits_append, ofDigits_zeros, Nat.mul_zero, Nat.zero_add,
    ofDigits_toDigits]

/-- A padded number has a digit. -/
theorem padded_ne_nil : (padded width n).toList ≠ [] := by
  rw [toList_padded]
  exact List.append_ne_nil_of_right_ne_nil _ Nat.toDigits_ne_nil

variable {width n}

/-- A number below the power of ten fills the width. -/
theorem length_padded (positive : 0 < width) (below : n < 10 ^ width) :
    (padded width n).toList.length = width := by
  have fits : (Nat.toDigits 10 n).length ≤ width :=
    (Nat.length_toDigits_le_iff (by decide) positive).mpr below
  rw [toList_padded, List.length_append, List.length_replicate]
  omega

/-- The number that digits denote is written with the same digits when it is padded to as
many. -/
theorem padded_ofDigits {digits : List Char} (digital : Digital digits)
    (nonempty : digits ≠ []) : (padded digits.length (ofDigits digits)).toList = digits :=
  ofDigits_injective (digital_padded _ _) digital
    (length_padded (List.length_pos_iff.mpr nonempty) (ofDigits_lt digital))
    (ofDigits_padded _ _)

/-! ## Written numbers -/

/-- The digits of a whole number, which has a minus sign if it is negative. -/
theorem toList_toString_int (number : Int) : (toString number).toList =
    (if number < 0 then ['-'] else []) ++ Nat.toDigits 10 number.natAbs := by
  rw [Int.toString_eq_repr, Int.repr_eq_if]
  by_cases negative : number < 0
  · have magnitude : (-number).toNat = number.natAbs := by omega
    rw [if_neg (by omega), if_pos negative, magnitude, Nat.repr_eq_ofList_toDigits]
    simp only [String.toList_append, String.toList_ofList]
    rfl
  · have magnitude : number.toNat = number.natAbs := by omega
    rw [if_pos (by omega), if_neg negative, magnitude, Nat.repr_eq_ofList_toDigits,
      String.toList_ofList, List.nil_append]

/-! ## Read numbers -/

/-- Digits are read as their number. -/
theorem readNatural_digits {digits : List Char} (nonempty : digits ≠ [])
    (digital : Digital digits) : readNatural digits = some (ofDigits digits) := by
  have all : digits.all Char.isDigit = true := List.all_eq_true.mpr digital
  unfold readNatural
  rw [if_neg (by simp [nonempty, all])]

/-- Only digits are read, and as their number. -/
theorem readNatural_eq_some_iff {text : List Char} {n : Nat} :
    readNatural text = some n ↔ text ≠ [] ∧ Digital text ∧ ofDigits text = n := by
  constructor
  · intro read
    unfold readNatural at read
    split at read
    · exact nomatch read
    · next full =>
      have form : text ≠ [] ∧ Digital text := by
        simpa [Digital] using full
      exact ⟨form.1, form.2, Option.some.inj read⟩
  · rintro ⟨nonempty, digital, rfl⟩
    exact readNatural_digits nonempty digital

/-- A number is read from its digits with any number of zeros in front, and from no other
text. -/
theorem readNatural_eq_some_iff_zeros {text : List Char} {n : Nat} :
    readNatural text = some n ↔
      ∃ zeros, text = List.replicate zeros '0' ++ Nat.toDigits 10 n := by
  rw [readNatural_eq_some_iff]
  constructor
  · rintro ⟨nonempty, digital, rfl⟩
    have padding := padded_ofDigits digital nonempty
    rw [toList_padded] at padding
    exact ⟨_, padding.symm⟩
  · rintro ⟨zeros, rfl⟩
    have number := ofDigits_append (List.replicate zeros '0') (Nat.toDigits 10 n)
    rw [ofDigits_zeros, Nat.mul_zero, Nat.zero_add, ofDigits_toDigits] at number
    exact ⟨List.append_ne_nil_of_right_ne_nil _ Nat.toDigits_ne_nil,
      digital_append.mpr ⟨digital_zeros zeros, digital_toDigits n⟩, number⟩

/-- Digits without a sign are read as their number. -/
theorem readSigned_digits {digits : List Char} (nonempty : digits ≠ [])
    (digital : Digital digits) : readSigned digits = some (ofDigits digits : Int) := by
  unfold readSigned
  split
  · next rest =>
    have dash : '-'.isDigit = true := digital '-' List.mem_cons_self
    exact absurd dash (by decide)
  · next rest =>
    have plus : '+'.isDigit = true := digital '+' List.mem_cons_self
    exact absurd plus (by decide)
  · rw [readNatural_digits nonempty digital]
    rfl

/-! ## Bounds -/

/-- A number is kept as it is exactly if it fits in 64 bits. -/
theorem checked_eq_some_iff {number kept : Int} :
    checked number = some kept ↔ (minInt64 ≤ number ∧ number ≤ maxInt64) ∧ number = kept := by
  unfold checked fitsInt64
  simp [Option.ite_none_right_eq_some]

end DialectBridge.Decimal
