import Mathlib.Algebra.BigOperators.Group.List.Basic
import Mathlib.Algebra.Ring.Int.Parity
import DialectBridge.Proofs.Calendar.WrittenIntervals

/-!
# Signs in front of a number

Only the first sign in front of the number of an interval is taken for its sign. A minus behind
it is a separator like any other, and separators in front of a number make no difference, so
such a minus is lost. A plus is kept as a part of what follows it, which is a number only if it
has digits next: a plus in front of another sign makes the text no interval. So of a text with
several signs that is an interval the amount has the product of the signs exactly when the
minuses behind the first sign are an even number.
-/

namespace DialectBridge.Calendar

open Decimal (ofDigits)
open Text (isBlank)

/-- What a sign multiplies with. -/
def signFactor (c : Char) : Int := if c = '-' then -1 else 1

/-- Pluses and minuses, any number of them. -/
structure Signs where
  chars : List Char
  signs : ∀ c ∈ chars, c = '+' ∨ c = '-'

namespace Signs

/-- The product of signs. -/
def factor (signs : Signs) : Int := (signs.chars.map signFactor).prod

/-- What the first sign multiplies with, if there is one. -/
def leadingFactor (signs : Signs) : Int :=
  match signs.chars with
  | [] => 1
  | c :: _ => signFactor c

/-- The first sign leaves a number as it is or changes its sign. -/
theorem leadingFactor_eq (signs : Signs) :
    signs.leadingFactor = 1 ∨ signs.leadingFactor = -1 := by
  unfold leadingFactor signFactor
  split
  · exact .inl rfl
  · split
    · exact .inr rfl
    · exact .inl rfl

/-- The signs behind the first one. -/
def behind (signs : Signs) : List Char := signs.chars.tail

/-- Every minus changes the product of signs. -/
theorem prod_signFactor (signs : List Char) :
    (signs.map signFactor).prod = (-1) ^ signs.count '-' := by
  induction signs with
  | nil => rfl
  | cons c rest inductionHypothesis =>
    rw [List.map_cons, List.prod_cons, inductionHypothesis]
    by_cases minus : c = '-'
    · rw [minus, List.count_cons_self, pow_succ']
      rfl
    · rw [List.count_cons_of_ne minus, signFactor, if_neg minus, one_mul]

/-- An even number of minuses makes no difference, and an odd number changes the sign. -/
theorem factor_eq (signs : Signs) :
    signs.factor = if Even (signs.chars.count '-') then 1 else -1 := by
  unfold factor
  rw [prod_signFactor]
  split
  · next even => exact even.neg_one_pow
  · next notEven => exact (Nat.not_even_iff_odd.mp notEven).neg_one_pow

/-- Signs have the product of their first one exactly when the minuses behind it are an even
number. -/
theorem leadingFactor_eq_factor_iff (signs : Signs) :
    signs.leadingFactor = signs.factor ↔ Even (signs.behind.count '-') := by
  unfold leadingFactor factor behind
  cases signs.chars with
  | nil => simp
  | cons c rest =>
    have nonzero : signFactor c ≠ 0 := by
      unfold signFactor
      split <;> decide
    have one : signFactor c = signFactor c * 1 := (mul_one _).symm
    simp only [List.map_cons, List.prod_cons, List.tail_cons]
    nth_rewrite 1 [one]
    rw [mul_right_inj' nonzero, prod_signFactor, eq_comm, neg_one_pow_eq_one_iff_even (by decide)]

end Signs

/-! ## Reading -/

/-- A plus is taken off in front of what must be digits then. -/
theorem readInt64_plus (rest : List Char) : Decimal.readInt64 ('+' :: rest) =
    ((Decimal.readNatural rest).map Int.ofNat).bind Decimal.checked := rfl

/-- A plus in front of digits makes no difference to their number. -/
theorem Numeral.readInt64_plus_digits (numeral : Numeral) :
    Decimal.readInt64 ('+' :: numeral.digits) = some (ofDigits numeral.digits : Int) := by
  rw [readInt64_plus, Decimal.readNatural_digits numeral.nonempty numeral.digital]
  exact numeral.checked_ofDigits

/-- No number has a plus with nothing or no digit behind it. -/
theorem readInt64_plus_eq_none {rest : List Char}
    (noDigit : ∀ c, rest.head? = some c → c.isDigit = false) :
    Decimal.readInt64 ('+' :: rest) = none := by
  have natural : Decimal.readNatural rest = none := by
    unfold Decimal.readNatural
    rw [if_pos]
    cases rest with
    | nil => rfl
    | cons c others => simp [noDigit c rfl]
  rw [readInt64_plus, natural]
  rfl

namespace Interval

/-- No numbers are read of a text that begins with a plus in front of another sign. -/
theorem readComponents_plus_eq_none {c : Char} (sign : c = '+' ∨ c = '-') (rest : List Char) :
    readComponents ('+' :: c :: rest) = none := by
  have plus : isSeparator '+' = false := by decide
  have unread : Decimal.readInt64 ('+' :: (c :: rest).takeWhile (!isSeparator ·)) = none := by
    apply readInt64_plus_eq_none
    intro d head
    rw [List.takeWhile_cons] at head
    rcases sign with rfl | rfl
    · obtain rfl := Option.some.inj head
      rfl
    · exact absurd head (by simp [isSeparator])
  change (Text.pieces isSeparator _).mapM Decimal.readInt64 = none
  rw [Text.pieces_cons_of_inside plus, List.mapM_cons, unread]
  rfl

/-- What is read of signs in front of the digits of a number, where none is taken off: the
number, unless a plus is in front of another sign. -/
theorem readComponents_signs {signs : List Char} (all : ∀ c ∈ signs, c = '+' ∨ c = '-')
    (numeral : Numeral) : readComponents (signs ++ numeral.digits) =
      if '+' ∈ signs.dropLast then none else some [(ofDigits numeral.digits : Int)] := by
  have inside : ∀ c ∈ numeral.digits, isSeparator c = false :=
    fun c member => isSeparator_of_isDigit (numeral.digital c member)
  have cut (text : List Char) : readComponents text =
      (Text.pieces isSeparator text).mapM Decimal.readInt64 := rfl
  induction signs with
  | nil =>
    rw [List.nil_append, cut, Text.pieces_piece numeral.nonempty inside]
    simp [numeral.readInt64_digits]
  | cons c rest inductionHypothesis =>
    obtain ⟨first, others⟩ := List.forall_mem_cons.mp all
    rcases first with rfl | rfl
    · cases rest with
      | nil =>
        have whole : Text.pieces isSeparator ('+' :: numeral.digits) = ['+' :: numeral.digits] :=
          Text.pieces_piece (List.cons_ne_nil _ _) (List.forall_mem_cons.mpr ⟨by decide, inside⟩)
        rw [List.singleton_append, cut, whole]
        simp [numeral.readInt64_plus_digits]
      | cons d more =>
        rw [List.cons_append, List.cons_append,
          readComponents_plus_eq_none (others d List.mem_cons_self)]
        simp
    · have behind : Text.pieces isSeparator ('-' :: (rest ++ numeral.digits)) =
          Text.pieces isSeparator (rest ++ numeral.digits) :=
        Text.pieces_append_of_separators (List.forall_mem_singleton.mpr rfl) _
      rw [List.cons_append, cut, behind, ← cut, inductionHypothesis others]
      cases rest <;> simp

/-- Nothing is taken off in front of a digit. -/
theorem takeSign_of_isDigit {c : Char} (digit : c.isDigit = true) (rest : List Char) :
    takeSign (c :: rest) = (false, c :: rest) := by
  unfold takeSign
  split
  · next same => exact absurd ((List.cons.inj same).1 ▸ digit) (by decide)
  · next same => exact absurd ((List.cons.inj same).1 ▸ digit) (by decide)
  · rfl

/-- The first sign is taken off. -/
theorem takeSign_signs (signs : Signs) (numeral : Numeral) :
    takeSign (signs.chars ++ numeral.digits) =
      (decide (signs.leadingFactor = -1), signs.behind ++ numeral.digits) := by
  unfold Signs.leadingFactor Signs.behind
  cases front : signs.chars with
  | nil =>
    obtain ⟨c, rest, digits, digit⟩ := numeral.exists_digits_eq_cons
    rw [digits]
    exact takeSign_of_isDigit digit rest
  | cons c rest =>
    rcases signs.signs c (by simp [front]) with rfl | rfl <;> rfl

/-- A word is respaced as it is. -/
theorem respaced_word {word : List Char} (nonempty : word ≠ [])
    (visible : ∀ c ∈ word, isBlank c = false) : respaced word = word := by
  unfold respaced
  rw [Text.words_eq, Text.pieces_piece nonempty visible]
  rfl

/-- A word without quotation marks is a quantity as it is. -/
theorem trim_strip_word {word : List Char} (nonempty : word ≠ [])
    (plain : ∀ c ∈ word, isBlank c = false ∧ isQuote c = false) :
    Text.trim (strip isQuote (respaced word)) = word := by
  have same := respaced_word nonempty fun c member => (plain c member).1
  have stripped : strip isQuote ([] ++ word ++ []) = word :=
    strip_append (by simp) (fun c member => (plain c member).2) nonempty (by simp)
  rw [List.nil_append, List.append_nil] at stripped
  rw [same, stripped, ← same, Text.trim_of_trimmed (trimmed_respaced _), same]

/-- The first sign of a number counts, and a plus in front of another sign behind it is
refused. -/
theorem readQuantity_signs {unit : IntervalUnit} (one : unit.components = 1)
    (noWeeks : unit ≠ .week) (signs : Signs) (numeral : Numeral) :
    readQuantity unit (respaced (signs.chars ++ numeral.digits)) =
      if '+' ∈ signs.behind.dropLast then none
      else some (unit.amount [signs.leadingFactor * ofDigits numeral.digits]) := by
  have plain : ∀ c ∈ signs.chars ++ numeral.digits, isBlank c = false ∧ isQuote c = false := by
    intro c member
    rcases List.mem_append.mp member with sign | inDigits
    · rcases signs.signs c sign with rfl | rfl <;> decide
    · have digit := numeral.digital c inDigits
      refine ⟨Text.isBlank_of_isDigit digit, Bool.eq_false_iff.mpr fun quote => ?_⟩
      rcases isQuote_iff.mp quote with rfl | rfl <;> exact absurd digit (by decide)
  have nonempty : signs.chars ++ numeral.digits ≠ [] := by simp [numeral.nonempty]
  have behind : ∀ c ∈ signs.behind, c = '+' ∨ c = '-' :=
    fun c member => signs.signs c (List.mem_of_mem_tail member)
  have placed (number : Int) :
      Duration.ofComponents? unit [number] = some (unit.amount [number]) := by
    have count : [number].length = unit.components := one.symm
    rw [Duration.ofComponents?_eq count, if_neg]
    exact fun tooMany => noWeeks tooMany.1
  unfold readQuantity
  rw [trim_strip_word nonempty plain, takeSign_signs]
  dsimp only
  rw [readComponents_signs behind]
  split
  · rfl
  · have padded : padComponents unit.components [(ofDigits numeral.digits : Int)] =
        some [(ofDigits numeral.digits : Int)] := by
      simp [padComponents, one]
    rw [Option.bind_some, padded, Option.bind_some, ← placed]
    rcases signs.leadingFactor_eq with leading | leading <;> simp [leading]

/-- Every sign in front of the number of an interval counts exactly when the minuses behind the
first sign are an even number. Of any signs, directly in front of a positive number of a unit
that has one field and is no week, only the first one counts: the text is an interval of so
many units with that sign, unless a plus behind the first sign is in front of another sign, and
then it is none. So where it is an interval, its amount is the number times the product of all
signs exactly when an even number of minuses is behind the first sign.

Proof: by induction on the signs behind the first one. A minus is a separator with nothing in
front of it, and a plus is the first character of a piece, which is a number only if the
digits are next. -/
theorem signs_counted_iff {keyword : List Char}
    (isKeyword : keyword.map Char.toLower = Interval.keyword) (before gap : Blanks)
    (signs : Signs) (numeral : Numeral) (positive : 0 < ofDigits numeral.digits)
    {space : Blanks} (apart : space.chars ≠ []) {unit : IntervalUnit}
    (one : unit.components = 1) (noWeeks : unit ≠ .week) {name : List Char}
    (isName : Text.lower name = unit.name.toList) (after : Blanks) :
    let text :=
      form before keyword (gap.chars ++ (signs.chars ++ numeral.digits)) space name after
    let number : Int := ofDigits numeral.digits
    (read text = if '+' ∈ signs.behind.dropLast then none
      else some ⟨unit, unit.amount [signs.leadingFactor * number]⟩) ∧
    ∀ interval, read text = some interval →
      (interval = ⟨unit, unit.amount [signs.factor * number]⟩ ↔
        Even (signs.behind.count '-')) := by
  intro text number
  have visible := Text.isBlank_of_mem_of_lower unit.isSmall_of_mem_name isName
  have nonempty := IntervalUnit.ne_nil_of_lower isName
  have hasWords : Text.words (gap.chars ++ (signs.chars ++ numeral.digits)) ≠ [] := by
    obtain ⟨c, rest, digits, digit⟩ := numeral.exists_digits_eq_cons
    exact words_ne_nil_of_mem (by simp [digits]) (Text.isBlank_of_isDigit digit)
  have result : read text = if '+' ∈ signs.behind.dropLast then none
      else some ⟨unit, unit.amount [signs.leadingFactor * number]⟩ := by
    rw [read_form isKeyword before _ apart nonempty visible after, if_neg hasWords, isName,
      IntervalUnit.ofName?_name, Option.bind_some, respaced_blanks_append gap.blank,
      readQuantity_signs one noWeeks]
    split <;> rfl
  refine ⟨result, fun interval found => ?_⟩
  rw [result] at found
  split at found
  · exact absurd found (Option.some_ne_none interval).symm
  · obtain rfl := Option.some.inj found
    have nonzero : number ≠ 0 := by omega
    rw [Interval.mk.injEq, IntervalUnit.amount_singleton_inj one, mul_left_inj' nonzero,
      ← signs.leadingFactor_eq_factor_iff]
    exact and_iff_right rfl

/-- A minus with a plus behind it changes the sign, as their product does. -/
theorem minus_plus_read :
    let signs : Signs := ⟨['-', '+'], by decide⟩
    read "INTERVAL -+90 MINUTE".toList =
      some ⟨.minute, IntervalUnit.minute.amount [signs.factor * 90]⟩ := by
  intro signs
  let nothing : Blanks := ⟨[], by decide⟩
  let space : Blanks := ⟨[' '], by decide⟩
  let ninety : Numeral := ⟨['9', '0'], by decide, by decide, by decide⟩
  have isKeyword : "INTERVAL".toList.map Char.toLower = keyword := by decide
  have apart : space.chars ≠ [] := by decide
  have isName : Text.lower "MINUTE".toList = IntervalUnit.minute.name.toList := by decide
  obtain ⟨amount, product⟩ := signs_counted_iff isKeyword nothing space signs ninety (by decide)
    apart rfl (by decide) isName nothing
  have accepted := amount.trans (if_neg (by decide))
  have counted := (product _ accepted).mpr (by decide)
  rw [counted] at accepted
  exact accepted

/-- The second of two minuses is lost: the text is an interval of minus five days, and the
product of the signs is one. -/
theorem second_minus_lost :
    let signs : Signs := ⟨['-', '-'], by decide⟩
    read "INTERVAL --5 DAY".toList = some ⟨.day, .clock (-5) 0 0 0⟩ ∧
      IntervalUnit.day.amount [signs.factor * 5] = .clock 5 0 0 0 := by
  decide

end Interval

end DialectBridge.Calendar
