import DialectBridge.Proofs.Checked.Steps
import DialectBridge.Proofs.Decimal.Lengths

/-!
# Checked conversions

Where values are turned into texts and into whole numbers, a number is converted only if it fits
in its bits: a real is written as a whole number only if it is small, and one that is read as
one is first moved into the range. Texts in memory have fewer octets than the greatest signed
number, so that every position in them is one; the texts of numbers are short by themselves.
-/

namespace DialectBridge.Checked

open Text (Utf8.width)

/-! ## Texts of values -/

/-- The text of a real, which is that of a whole number if it is small and has no fraction. -/
def realText (x : Float) : Run String :=
  match Decimal.Binary.ofFloat? x with
  | some binary =>
    if binary.isWhole && binary.wholePart < Value.wholeLimit then do
      let number ← whole binary.truncate
      return toString number
    else return Decimal.plain x
  | none => return Decimal.plain x

/-- The text of a value; null has none. -/
def asText (value : Value) : Run (Option String) :=
  match value with
  | .real x => do
    let text ← realText x
    return some text
  | value => return value.asText?

/-- A real that is written as a whole number is one of 64 bits. -/
theorem truncate_fits {binary : Decimal.Binary}
    (small : (binary.isWhole && binary.wholePart < Value.wholeLimit) = true) :
    Decimal.minInt64 ≤ binary.truncate ∧ binary.truncate ≤ Decimal.maxInt64 := by
  have below : binary.wholePart < Value.wholeLimit := by
    simpa using (Bool.and_eq_true_iff.mp small).2
  unfold Value.wholeLimit at below
  unfold Decimal.Binary.truncate Decimal.minInt64 Decimal.maxInt64
  split <;> omega

/-- A real has its text. -/
theorem realText_eq (x : Float) : realText x = .ok (Value.realText x) := by
  unfold realText Value.realText
  cases Decimal.Binary.ofFloat? x with
  | none => rfl
  | some binary =>
    dsimp only
    by_cases small : (binary.isWhole && binary.wholePart < Value.wholeLimit) = true
    · rw [if_pos small, if_pos small, whole_eq (truncate_fits small)]
      rfl
    · rw [if_neg small, if_neg small]
      rfl

/-- Every value has its text. -/
theorem asText_eq (value : Value) : asText value = .ok value.asText? := by
  cases value with
  | real x =>
    unfold asText
    dsimp only
    rw [realText_eq]
    rfl
  | _ => rfl

/-- The text of an argument. -/
def Call.text (call : Call) (index : Nat) : Run (Option String) := do
  asText (← call.argument index)

/-- An argument that is there has its text. -/
theorem Call.text_eq {call : Call} {index : Nat} {value : Value}
    (there : call.argument index = .ok value) : call.text index = .ok value.asText? := by
  unfold Call.text
  rw [there, ok_bind, asText_eq]

/-! ## Whole numbers -/

/-- A whole number as a value. -/
def integer (number : Int) : Run Value := do
  let kept ← whole number
  return .ofInt kept

/-- A number within the range is a value. -/
theorem integer_eq {number : Int}
    (fits : Decimal.minInt64 ≤ number ∧ number ≤ Decimal.maxInt64) :
    integer number = .ok (.ofInt number) := by
  unfold integer
  rw [whole_eq fits]
  rfl

/-- The value as a whole number of 64 bits; a real is moved into the range before. -/
def asWhole (value : Value) : Run (Option Int) :=
  match value.toInt? with
  | none => return none
  | some number => do
    let kept ← whole number
    return some kept

/-- A number that a value is converted to fits in 64 bits. -/
theorem toInt?_fits {value : Value} {number : Int} (read : value.toInt? = some number) :
    Decimal.minInt64 ≤ number ∧ number ≤ Decimal.maxInt64 := by
  have clamped {x : Float} {number : Int} (cut : Value.truncated x = some number) :
      Decimal.minInt64 ≤ number ∧ number ≤ Decimal.maxInt64 := by
    obtain ⟨binary, _, rfl⟩ := Option.map_eq_some_iff.mp cut
    unfold Decimal.minInt64 Decimal.maxInt64
    omega
  cases value with
  | null => simp [Value.toInt?] at read
  | blob octets => simp [Value.toInt?] at read
  | integer n =>
    obtain rfl := Option.some.inj read
    exact ⟨Int64.le_toInt n, Int64.toInt_le n⟩
  | real x => exact clamped read
  | text s =>
    rcases Option.or_eq_some_iff.mp read with digits | ⟨_, real⟩
    · obtain ⟨signed, _, kept⟩ := Option.bind_eq_some_iff.mp digits
      obtain ⟨fits, rfl⟩ := Decimal.checked_eq_some_iff.mp kept
      exact fits
    · obtain ⟨x, _, cut⟩ := Option.bind_eq_some_iff.mp real
      exact clamped cut

/-- Every value has its whole number, or none. -/
theorem asWhole_eq (value : Value) : asWhole value = .ok value.toInt? := by
  unfold asWhole
  cases read : value.toInt? with
  | none => rfl
  | some number =>
    dsimp only
    rw [whole_eq (toInt?_fits read)]
    rfl

/-! ## Comparisons -/

/-- Equality of texts up to letter case; null equals nothing. -/
def textuallyEqual (a b : Value) : Run Bool := do
  let first ← asText a
  let second ← asText b
  match first, second with
  | some x, some y => return Text.lower x.toList == Text.lower y.toList
  | _, _ => return false

/-- Loose equality: by number when either side is a number and both convert, otherwise by text up
to letter case. -/
def looselyEqual (a b : Value) : Run Bool :=
  if a.isNumeric || b.isNumeric then
    match a.toFloat?, b.toFloat? with
    | some x, some y => return x == y
    | _, _ => textuallyEqual a b
  else textuallyEqual a b

/-- Texts are compared without a breach. -/
theorem textuallyEqual_eq (a b : Value) : textuallyEqual a b = .ok (a.textuallyEqual b) := by
  unfold textuallyEqual Value.textuallyEqual
  rw [asText_eq, asText_eq, ok_bind, ok_bind]
  cases a.asText? with
  | none => rfl
  | some x => cases b.asText? <;> rfl

/-- Values are compared without a breach. -/
theorem looselyEqual_eq (a b : Value) : looselyEqual a b = .ok (a.looselyEqual b) := by
  unfold looselyEqual Value.looselyEqual
  by_cases numeric : (a.isNumeric || b.isNumeric) = true
  · rw [if_pos numeric, if_pos numeric]
    cases a.toFloat? with
    | none => exact textuallyEqual_eq a b
    | some x =>
      cases b.toFloat? with
      | none => exact textuallyEqual_eq a b
      | some y => rfl
  · rw [if_neg numeric, if_neg numeric]
    exact textuallyEqual_eq a b

/-! ## Memory -/

/-- Whether a text has fewer octets than the greatest signed number, as every text in memory. -/
def FitsMemory (text : List Char) : Prop := (Utf8.width text : Int) < Decimal.maxInt64

/-- Whether the text that a value holds, or that its octets are read as, fits in memory. Texts
of numbers always do. -/
def InMemory : Value → Prop
  | .text text => FitsMemory text.toList
  | .blob octets => FitsMemory (Text.Utf8.decodeLossy octets).toList
  | _ => True

/-- A text of some thousand characters fits in memory. -/
theorem fitsMemory_of_length_le {text : List Char} (short : text.length ≤ 4000) :
    FitsMemory text := by
  have wide : Utf8.width text ≤ 4 * text.length := by
    clear short
    induction text with
    | nil => exact Nat.le_refl 0
    | cons c rest inductionHypothesis =>
      have octets := Char.utf8Size_le_four c
      rw [width_cons, List.length_cons]
      omega
  unfold FitsMemory Decimal.maxInt64
  omega

/-- A whole number of 64 bits has a short text. -/
theorem length_toString_le {number : Int}
    (fits : Decimal.minInt64 ≤ number ∧ number ≤ Decimal.maxInt64) :
    (toString number).toList.length ≤ 21 := by
  unfold Decimal.minInt64 Decimal.maxInt64 at fits
  have below : number.natAbs < 10 ^ 20 := by omega
  have few := (Nat.length_toDigits_le_iff (by decide) (by decide)).mpr below
  rw [Decimal.toList_toString_int, List.length_append]
  split
  · rw [List.length_singleton]
    omega
  · rw [List.length_nil]
    omega

/-- The text of a value in memory fits there. -/
theorem fitsMemory_of_asText? {value : Value} (inMemory : InMemory value) {text : String}
    (written : value.asText? = some text) : FitsMemory text.toList := by
  cases value with
  | null => simp [Value.asText?] at written
  | integer n =>
    obtain rfl := Option.some.inj written
    have short := length_toString_le ⟨Int64.le_toInt n, Int64.toInt_le n⟩
    exact fitsMemory_of_length_le (by omega)
  | real x =>
    obtain rfl := Option.some.inj written
    apply fitsMemory_of_length_le
    unfold Value.realText
    split
    · next binary _ =>
      split
      · next small => exact Nat.le_trans (length_toString_le (truncate_fits small)) (by decide)
      · exact Decimal.length_plain_le x
    · exact Decimal.length_plain_le x
  | text s =>
    obtain rfl := Option.some.inj written
    exact inMemory
  | blob octets =>
    obtain rfl := Option.some.inj written
    exact inMemory

end DialectBridge.Checked
