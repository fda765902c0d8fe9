import DialectBridge.Proofs.Calendar.Respacing
import DialectBridge.Proofs.Calendar.Written

/-!
# Written quantities

A quantity is written as a sign, or none, and numbers with separators between them, and it may
stand between quotes. Blanks may be wherever the words of an interval may be set apart. What
is read of it are the numbers, whatever the separators are, and the sign counts for all of
them.
-/

namespace DialectBridge.Calendar

open Decimal (Digital maxInt64 ofDigits)
open Text (isBlank)

/-! ## Forms -/

/-- Blanks, or none. -/
structure Blanks where
  chars : List Char
  blank : ∀ c ∈ chars, isBlank c = true

/-- What may stand in front of the first number. -/
inductive Sign where
  | unsigned
  | plus
  | minus
  deriving DecidableEq, Repr

namespace Sign

/-- The characters of a sign. -/
def chars : Sign → List Char
  | unsigned => []
  | plus => ['+']
  | minus => ['-']

/-- What a sign multiplies with. -/
def factor : Sign → Int
  | unsigned => 1
  | plus => 1
  | minus => -1

end Sign

/-- Digits of a number from zero to the greatest of 64 bits; zeros in front do not count. -/
structure Numeral where
  digits : List Char
  nonempty : digits ≠ []
  digital : Digital digits
  fits : (ofDigits digits : Int) ≤ maxInt64

/-- The digits of a number. -/
def Numeral.ofNat (n : Nat) (fits : (n : Int) ≤ maxInt64) : Numeral where
  digits := Nat.toDigits 10 n
  nonempty := Nat.toDigits_ne_nil
  digital := Decimal.digital_toDigits n
  fits := by rwa [Decimal.ofDigits_toDigits]

/-- What may stand between two numbers: colons, dashes and blanks, at least one of them. -/
structure Separation where
  chars : List Char
  nonempty : chars ≠ []
  separate : ∀ c ∈ chars, c = ':' ∨ c = '-' ∨ isBlank c = true

/-- What a quantity may stand between. -/
inductive Quotation where
  | unquoted
  | single
  | double
  deriving DecidableEq, Repr

/-- The characters of a quotation mark. -/
def Quotation.chars : Quotation → List Char
  | unquoted => []
  | single => ['\'']
  | double => ['"']

/-- One or more numbers with separators between them. -/
structure Numbers where
  first : Numeral
  further : List (Separation × Numeral)

namespace Numbers

/-- The characters of numbers and the separators between them. -/
def chars (numbers : Numbers) : List Char :=
  numbers.first.digits ++
    numbers.further.flatMap fun (separation, numeral) => separation.chars ++ numeral.digits

/-- What the numbers are. -/
def values (numbers : Numbers) : List Int :=
  (numbers.first :: numbers.further.map Prod.snd).map fun numeral => ofDigits numeral.digits

end Numbers

/-- A quantity as it is written: its quotation marks with blanks inside of them, its sign and
its numbers. -/
structure WrittenQuantity where
  quotation : Quotation
  left : Blanks
  sign : Sign
  numbers : Numbers
  right : Blanks

namespace WrittenQuantity

/-- What stands between the quotation marks. -/
def body (quantity : WrittenQuantity) : List Char :=
  quantity.sign.chars ++ quantity.numbers.chars

/-- The numbers of a quantity with its sign, behind zeros for the numbers that a unit has in
front of them. -/
def components (quantity : WrittenQuantity) (unit : IntervalUnit) : List Int :=
  List.replicate (unit.components - quantity.numbers.values.length) 0 ++
    quantity.numbers.values.map (quantity.sign.factor * ·)

/-- The characters of a quantity. -/
def chars (quantity : WrittenQuantity) : List Char :=
  quantity.quotation.chars ++ (quantity.left.chars ++ quantity.body ++ quantity.right.chars) ++
    quantity.quotation.chars

end WrittenQuantity

/-! ## Numbers -/

/-- The digits of a numeral begin with one. -/
theorem Numeral.exists_digits_eq_cons (numeral : Numeral) :
    ∃ c rest, numeral.digits = c :: rest ∧ c.isDigit = true := by
  obtain ⟨c, rest, same⟩ := List.exists_cons_of_ne_nil numeral.nonempty
  refine ⟨c, rest, same, ?_⟩
  apply numeral.digital
  rw [same]
  exact List.mem_cons_self

/-- The number of a numeral is kept. -/
theorem Numeral.checked_ofDigits (numeral : Numeral) :
    Decimal.checked (ofDigits numeral.digits) = some (ofDigits numeral.digits : Int) := by
  have least : Decimal.minInt64 ≤ (ofDigits numeral.digits : Int) :=
    Int.le_trans (by decide) (Int.natCast_nonneg _)
  rw [Decimal.checked_eq_some_iff]
  exact ⟨⟨least, numeral.fits⟩, rfl⟩

/-- A numeral is read as its number. -/
theorem Numeral.readInt64_digits (numeral : Numeral) :
    Decimal.readInt64 numeral.digits = some (ofDigits numeral.digits : Int) := by
  unfold Decimal.readInt64
  rw [Decimal.readSigned_digits numeral.nonempty numeral.digital, Option.bind_some,
    numeral.checked_ofDigits]

namespace Interval

/-- A separator is a colon, a dash or a blank. -/
theorem isSeparator_iff {c : Char} :
    isSeparator c = true ↔ c = ':' ∨ c = '-' ∨ isBlank c = true := by
  unfold isSeparator
  simp [or_assoc]

/-- No digit separates numbers. -/
theorem isSeparator_of_isDigit {c : Char} (digit : c.isDigit = true) : isSeparator c = false := by
  rw [Bool.eq_false_iff]
  intro separates
  rcases isSeparator_iff.mp separates with rfl | rfl | blank
  · exact absurd digit (by decide)
  · exact absurd digit (by decide)
  · exact Bool.false_ne_true ((Text.isBlank_of_isDigit digit).symm.trans blank)

/-- The pieces of written numbers are their digits. -/
theorem pieces_chars (numbers : Numbers) : Text.pieces isSeparator numbers.chars =
    (numbers.first :: numbers.further.map Prod.snd).map Numeral.digits := by
  obtain ⟨first, further⟩ := numbers
  have none (numeral : Numeral) : ∀ c ∈ numeral.digits, isSeparator c = false :=
    fun c member => isSeparator_of_isDigit (numeral.digital c member)
  induction further generalizing first with
  | nil =>
    unfold Numbers.chars
    rw [List.flatMap_nil, List.append_nil, Text.pieces_piece first.nonempty (none first)]
    rfl
  | cons next others inductionHypothesis =>
    obtain ⟨separation, second⟩ := next
    have separate : ∀ c ∈ separation.chars, isSeparator c = true :=
      fun c member => isSeparator_iff.mpr (separation.separate c member)
    have behind := inductionHypothesis second
    unfold Numbers.chars at behind ⊢
    rw [List.flatMap_cons, List.append_assoc,
      Text.pieces_piece_append first.nonempty (none first) separation.nonempty separate, behind]
    rfl

/-- The components that are read of written numbers, however they are spaced. -/
theorem readComponents_respaced (numbers : Numbers) :
    readComponents (respaced numbers.chars) = some numbers.values := by
  have wide : ∀ c, isBlank c = true → isSeparator c = true :=
    fun c blank => isSeparator_iff.mpr (.inr (.inr blank))
  have cut : readComponents (respaced numbers.chars) =
      (Text.pieces isSeparator (respaced numbers.chars)).mapM Decimal.readInt64 := rfl
  have each (numerals : List Numeral) :
      (numerals.map Numeral.digits).mapM Decimal.readInt64 =
        some (numerals.map fun numeral => (ofDigits numeral.digits : Int)) := by
    induction numerals with
    | nil => rfl
    | cons numeral others inductionHypothesis =>
      rw [List.map_cons, List.mapM_cons, numeral.readInt64_digits, inductionHypothesis]
      rfl
  rw [cut, pieces_respaced wide, pieces_chars, each]
  rfl

/-! ## Signs and quotation marks -/

/-- Numbers begin with a digit. -/
theorem exists_chars_eq_cons (numbers : Numbers) :
    ∃ c rest, numbers.chars = c :: rest ∧ c.isDigit = true := by
  obtain ⟨c, digits, same, digit⟩ := numbers.first.exists_digits_eq_cons
  refine ⟨c, ?_, ?_, digit⟩
  · exact digits ++ numbers.further.flatMap fun (separation, numeral) =>
      separation.chars ++ numeral.digits
  · unfold Numbers.chars
    rw [same, List.cons_append]

/-- The sign of a quantity is taken off, however the numbers behind it are spaced. -/
theorem takeSign_respaced (quantity : WrittenQuantity) : takeSign (respaced quantity.body) =
    (quantity.sign == .minus, respaced quantity.numbers.chars) := by
  obtain ⟨c, rest, numbers, digit⟩ := exists_chars_eq_cons quantity.numbers
  have visible := Text.isBlank_of_isDigit digit
  have kept : Text.words quantity.numbers.chars ≠ [] :=
    words_ne_nil_of_mem (by simp [numbers]) visible
  have noSpace : spaceBefore quantity.numbers.chars = [] := by
    rw [numbers, spaceBefore_of_visible visible]
  unfold WrittenQuantity.body
  cases quantity.sign with
  | unsigned =>
    obtain ⟨others, same⟩ := exists_respaced_cons visible rest
    change takeSign (respaced quantity.numbers.chars) = _
    rw [numbers, same]
    unfold takeSign
    split
    · next front =>
      rw [(List.cons.inj front).1] at digit
      exact absurd digit (by decide)
    · next front =>
      rw [(List.cons.inj front).1] at digit
      exact absurd digit (by decide)
    · rfl
  | plus =>
    change takeSign (respaced ('+' :: quantity.numbers.chars)) = _
    rw [respaced_cons (by decide) kept, noSpace]
    rfl
  | minus =>
    change takeSign (respaced ('-' :: quantity.numbers.chars)) = _
    rw [respaced_cons (by decide) kept, noSpace]
    rfl

/-- Dropping characters of a class from both ends of a stretch that has none leaves the
stretch. -/
theorem strip_append {drop : Char → Bool} {front middle back : List Char}
    (dropFront : ∀ c ∈ front, drop c = true) (keep : ∀ c ∈ middle, drop c = false)
    (nonempty : middle ≠ []) (dropBack : ∀ c ∈ back, drop c = true) :
    strip drop (front ++ middle ++ back) = middle := by
  have head {stretch : List Char} (keep : ∀ c ∈ stretch, drop c = false)
      (nonempty : stretch ≠ []) (rest : List Char) :
      ∀ c, (stretch ++ rest).head? = some c → drop c = false := by
    intro c first
    rw [List.head?_append, List.head?_eq_some_head nonempty, Option.some_or] at first
    obtain rfl := Option.some.inj first
    exact keep _ (List.head_mem nonempty)
  have reversed : ∀ c ∈ middle.reverse, drop c = false := by simpa using keep
  have reversedBack : ∀ c ∈ back.reverse, drop c = true := by simpa using dropBack
  have dropped := (Text.takeWhile_dropWhile_append dropFront (head keep nonempty back)).2
  have droppedBack := (Text.takeWhile_dropWhile_append reversedBack
    (head reversed (by simpa using nonempty) [])).2
  unfold strip
  rw [List.append_assoc, dropped, List.reverse_append]
  rw [List.append_nil] at droppedBack
  rw [droppedBack, List.reverse_reverse]

/-- The quotation marks are the two characters that are dropped as such. -/
theorem isQuote_iff {c : Char} : isQuote c = true ↔ c = '\'' ∨ c = '"' := by
  simp [isQuote]

/-- No character of a quantity between its quotation marks is one. -/
theorem isQuote_of_mem_body {quantity : WrittenQuantity} {c : Char}
    (member : c ∈ quantity.body) : isQuote c = false := by
  have plain : ¬(c = '\'' ∨ c = '"') := by
    rcases List.mem_append.mp member with inSign | inNumbers
    · have signs : ∀ sign : Sign, ∀ d ∈ sign.chars, ¬(d = '\'' ∨ d = '"') := by
        intro sign
        cases sign <;> decide
      exact signs _ c inSign
    · have digits (numeral : Numeral) (inside : c ∈ numeral.digits) : ¬(c = '\'' ∨ c = '"') := by
        have digit := numeral.digital c inside
        rintro (rfl | rfl) <;> exact absurd digit (by decide)
      rcases List.mem_append.mp inNumbers with inFirst | inFurther
      · exact digits _ inFirst
      · obtain ⟨⟨separation, numeral⟩, _, inside⟩ := List.mem_flatMap.mp inFurther
        rcases List.mem_append.mp inside with inSeparation | inNumeral
        · have separates := separation.separate c inSeparation
          rintro (rfl | rfl) <;> exact absurd separates (by decide)
        · exact digits numeral inNumeral
  exact Bool.eq_false_iff.mpr fun quote => plain (isQuote_iff.mp quote)

/-- A quantity has words. -/
theorem words_body_ne_nil (quantity : WrittenQuantity) : Text.words quantity.body ≠ [] := by
  obtain ⟨c, rest, numbers, digit⟩ := exists_chars_eq_cons quantity.numbers
  have member : c ∈ quantity.body := by simp [WrittenQuantity.body, numbers]
  exact words_ne_nil_of_mem member (Text.isBlank_of_isDigit digit)

/-- The quotation marks around a text and the blanks inside of them are left out. -/
theorem trim_strip_enclosed {mark : Char} (quote : isQuote mark = true) {text : List Char}
    (nonempty : Text.words text ≠ []) (noQuote : ∀ c ∈ respaced text, isQuote c = false) :
    Text.trim (strip isQuote (respaced ([mark] ++ text ++ [mark]))) = respaced text := by
  have visible : isBlank mark = false := by
    rcases isQuote_iff.mp quote with rfl | rfl <;> rfl
  have hasWords {whole : List Char} (last : mark ∈ whole) : Text.words whole ≠ [] :=
    words_ne_nil_of_mem last visible
  obtain ⟨gap, spaces, ended⟩ := respaced_append visible nonempty
  have blankGap : ∀ c ∈ gap, isBlank c = true := fun c member => spaces c member ▸ rfl
  have blankFront : ∀ c ∈ spaceBefore (text ++ [mark]), isBlank c = true :=
    fun c member => of_mem_spaceBefore member ▸ rfl
  have kept : ∀ c ∈ spaceBefore (text ++ [mark]) ++ respaced text ++ gap, isQuote c = false := by
    intro c member
    rcases List.mem_append.mp member with front | inGap
    · rcases List.mem_append.mp front with space | inside
      · exact of_mem_spaceBefore space ▸ rfl
      · exact noQuote c inside
    · exact spaces c inGap ▸ rfl
  have stripped := strip_append (List.forall_mem_singleton.mpr quote) kept
    (by simp [respaced_ne_nil nonempty]) (List.forall_mem_singleton.mpr quote)
  rw [List.singleton_append, List.cons_append] at stripped
  rw [List.append_assoc, List.singleton_append, respaced_cons visible (hasWords (by simp)), ended,
    ← List.append_assoc, ← List.append_assoc, stripped,
    Text.trim_append (trimmed_respaced _) blankFront blankGap]

/-- The quotation marks of a quantity and the blanks inside of them are left out. -/
theorem trim_strip_respaced (quantity : WrittenQuantity) :
    Text.trim (strip isQuote (respaced quantity.chars)) = respaced quantity.body := by
  have inner : respaced (quantity.left.chars ++ quantity.body ++ quantity.right.chars) =
      respaced quantity.body := by
    rw [respaced_append_blanks quantity.right.blank, respaced_blanks_append quantity.left.blank]
  have innerWords :
      Text.words (quantity.left.chars ++ quantity.body ++ quantity.right.chars) ≠ [] := by
    intro none
    refine words_body_ne_nil quantity (words_eq_nil_iff.mpr fun c member => ?_)
    exact words_eq_nil_iff.mp none c (by simp [member])
  have noQuote : ∀ c ∈ respaced quantity.body, isQuote c = false := by
    intro c member
    rcases of_mem_respaced member with rfl | inside
    · rfl
    · exact isQuote_of_mem_body inside
  have enclosed (mark : Char) (quote : isQuote mark = true) :=
    trim_strip_enclosed quote innerWords (inner ▸ noQuote)
  rw [inner] at enclosed
  unfold WrittenQuantity.chars
  cases quantity.quotation with
  | unquoted =>
    have stripped : strip isQuote ([] ++ respaced quantity.body ++ []) =
        respaced quantity.body :=
      strip_append (by simp) noQuote (respaced_ne_nil (words_body_ne_nil quantity)) (by simp)
    rw [List.nil_append, List.append_nil] at stripped
    change Text.trim (strip isQuote (respaced ([] ++ _ ++ []))) = _
    rw [List.nil_append, List.append_nil, inner, stripped,
      Text.trim_of_trimmed (trimmed_respaced _)]
  | single => exact enclosed '\'' rfl
  | double => exact enclosed '"' rfl

/-- The duration that a written quantity of a unit has: missing numbers are zeros in front, and
the sign counts for all. -/
theorem readQuantity_respaced (unit : IntervalUnit) (quantity : WrittenQuantity)
    (within : quantity.numbers.values.length ≤ unit.components) :
    readQuantity unit (respaced quantity.chars) =
      Duration.ofComponents? unit (quantity.components unit) := by
  have padded : padComponents unit.components quantity.numbers.values =
      some (List.replicate (unit.components - quantity.numbers.values.length) 0 ++
        quantity.numbers.values) := by
    unfold padComponents
    rw [if_neg]
    rw [Bool.or_eq_true, List.isEmpty_iff, decide_eq_true_eq]
    rintro (none | more)
    · exact List.cons_ne_nil _ _ none
    · omega
  unfold readQuantity
  rw [trim_strip_respaced, takeSign_respaced]
  dsimp only
  rw [readComponents_respaced, Option.bind_some, padded, Option.bind_some]
  unfold WrittenQuantity.components
  cases quantity.sign <;> simp [Sign.factor]

end Interval

end DialectBridge.Calendar
