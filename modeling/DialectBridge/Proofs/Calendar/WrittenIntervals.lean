import DialectBridge.Proofs.Calendar.Quantities
import DialectBridge.Proofs.Calendar.Shifting
import DialectBridge.Proofs.LowerCase

/-!
# Written intervals

An interval is written as the keyword, a quantity and the name of a unit, in letters of any
case and with blanks around them. Every such text is read as the unit with the amount that its
fields get from the last numbers; only weeks can be too many. With a word behind the quantity
that names no unit, no text is an interval.
-/

namespace DialectBridge.Calendar

open Text (isBlank)

/-! ## Amounts -/

/-- The fields of an amount. -/
inductive Field where
  | year
  | month
  | day
  | hour
  | minute
  | second
  deriving DecidableEq, Repr

/-- The number that a field has among some, which is zero for a field that has none. -/
def Field.numberAmong (field : Field) : List Field → List Int → Int
  | other :: fields, number :: numbers =>
    if other = field then number else field.numberAmong fields numbers
  | _, _ => 0

namespace IntervalUnit

instance : DecidablePred CountsMonths := fun _ => inferInstanceAs (Decidable (_ ∨ _ ∨ _))

/-- The fields that the numbers of a unit are for, in their order. Weeks are counted in days. -/
def fields : IntervalUnit → List Field
  | second => [.second]
  | minute => [.minute]
  | hour => [.hour]
  | day => [.day]
  | week => [.day]
  | month => [.month]
  | year => [.year]
  | minuteSecond => [.minute, .second]
  | hourSecond => [.hour, .minute, .second]
  | hourMinute => [.hour, .minute]
  | daySecond => [.day, .hour, .minute, .second]
  | dayMinute => [.day, .hour, .minute]
  | dayHour => [.day, .hour]
  | yearMonth => [.year, .month]

/-- How many of its field a unit is. -/
def factor : IntervalUnit → Int
  | week => 7
  | _ => 1

/-- The amount in which every field of a unit has its number, and all others are zero. -/
def amount (unit : IntervalUnit) (components : List Int) : Duration :=
  let count (field : Field) : Int := unit.factor * field.numberAmong unit.fields components
  if unit.CountsMonths then .calendar (count .year) (count .month)
  else .clock (count .day) (count .hour) (count .minute) (count .second)

/-- Whether numbers are too many weeks: seven times as many days do not fit in 64 bits. -/
def TooManyWeeks (unit : IntervalUnit) (components : List Int) : Prop :=
  unit = week ∧ ∃ component ∈ components, Decimal.fitsInt64 (7 * component) = false

instance (unit : IntervalUnit) (components : List Int) :
    Decidable (unit.TooManyWeeks components) :=
  inferInstanceAs (Decidable (_ ∧ _))

/-- A unit has a number for each of its fields. -/
theorem length_fields (unit : IntervalUnit) : unit.fields.length = unit.components := by
  cases unit <;> rfl

/-- Every unit has a field. -/
theorem one_le_components (unit : IntervalUnit) : 1 ≤ unit.components := by
  cases unit <;> decide

/-- The name of a unit is found. -/
theorem ofName?_name (unit : IntervalUnit) : ofName? unit.name.toList = some unit := by
  cases unit <;> decide

/-- Names of units are words of small letters and low lines. -/
theorem isSmall_of_mem_name (unit : IntervalUnit) :
    ∀ c ∈ unit.name.toList, Text.isSmall c = true := by
  cases unit <;> decide

/-- The name of a unit is not empty, in letters of any case. -/
theorem ne_nil_of_lower {unit : IntervalUnit} {name : List Char}
    (isName : Text.lower name = unit.name.toList) : name ≠ [] := by
  intro empty
  rw [empty] at isName
  revert isName
  cases unit <;> decide

/-- Different numbers of a unit with one field are different amounts. -/
theorem amount_singleton_inj {unit : IntervalUnit} (one : unit.components = 1)
    {first second : Int} : unit.amount [first] = unit.amount [second] ↔ first = second := by
  constructor
  · intro same
    cases unit with
    | second | minute | hour | day | week | month | year =>
      simp [amount, CountsMonths, fields, factor, Field.numberAmong] at same
      omega
    | minuteSecond | hourSecond | hourMinute | daySecond | dayMinute | dayHour | yearMonth =>
      exact absurd one (by decide)
  · rintro rfl
    rfl

end IntervalUnit

/-- Numbers are placed in the fields of their unit, unless they are too many weeks. -/
theorem Duration.ofComponents?_eq {unit : IntervalUnit} {components : List Int}
    (count : components.length = unit.components) : ofComponents? unit components =
      if unit.TooManyWeeks components then none else some (unit.amount components) := by
  cases unit with
  | week =>
    obtain ⟨weeks, rfl⟩ := List.length_eq_one_iff.mp count
    unfold ofComponents? Decimal.checked IntervalUnit.TooManyWeeks
    cases fits : Decimal.fitsInt64 (7 * weeks) with
    | false => simp [fits]
    | true =>
      simp [fits]
      rfl
  | second | minute | hour | day | month | year =>
    obtain ⟨component, rfl⟩ := List.length_eq_one_iff.mp count
    simp [ofComponents?, IntervalUnit.TooManyWeeks, IntervalUnit.amount, IntervalUnit.CountsMonths,
      IntervalUnit.fields, IntervalUnit.factor, Field.numberAmong]
  | minuteSecond | hourMinute | dayHour | yearMonth =>
    obtain ⟨first, second, rfl⟩ := List.length_eq_two.mp count
    simp [ofComponents?, IntervalUnit.TooManyWeeks, IntervalUnit.amount, IntervalUnit.CountsMonths,
      IntervalUnit.fields, IntervalUnit.factor, Field.numberAmong]
  | hourSecond | dayMinute =>
    obtain ⟨first, second, third, rfl⟩ := List.length_eq_three.mp count
    simp [ofComponents?, IntervalUnit.TooManyWeeks, IntervalUnit.amount, IntervalUnit.CountsMonths,
      IntervalUnit.fields, IntervalUnit.factor, Field.numberAmong]
  | daySecond =>
    obtain ⟨first, rest, rfl⟩ := List.exists_cons_of_length_eq_add_one count
    obtain ⟨second, third, fourth, rfl⟩ := List.length_eq_three.mp (Nat.succ.inj count)
    simp [ofComponents?, IntervalUnit.TooManyWeeks, IntervalUnit.amount, IntervalUnit.CountsMonths,
      IntervalUnit.fields, IntervalUnit.factor, Field.numberAmong]

/-! ## Forms -/

/-- An interval as it is written: the keyword, a quantity and the name of a unit that has a
field for each number, with blanks around them. Only between the quantity and the name there
must be some. -/
structure WrittenInterval where
  before : Blanks
  keyword : List Char
  gap : Blanks
  quantity : WrittenQuantity
  space : Blanks
  unit : IntervalUnit
  name : List Char
  after : Blanks
  isKeyword : keyword.map Char.toLower = Interval.keyword
  apart : space.chars ≠ []
  isName : Text.lower name = unit.name.toList
  within : quantity.numbers.values.length ≤ unit.components

namespace Interval

/-- The characters of an interval with any text for its quantity. -/
def form (before : Blanks) (keyword quantity : List Char) (space : Blanks) (name : List Char)
    (after : Blanks) : List Char :=
  before.chars ++ (keyword ++ (quantity ++ (space.chars ++ name))) ++ after.chars

section

variable {keyword : List Char} (isKeyword : keyword.map Char.toLower = Interval.keyword)

include isKeyword

/-- The keyword begins with no blank, whatever the case of its letters. -/
theorem exists_keyword_eq_cons : ∃ c rest, keyword = c :: rest ∧ isBlank c = false := by
  cases keyword with
  | nil => exact absurd isKeyword (by decide)
  | cons c rest =>
    have letter : c.toLower = 'i' := (List.cons.inj isKeyword).1
    refine ⟨c, rest, rfl, ?_⟩
    by_cases capital : 65 ≤ c.toNat ∧ c.toNat ≤ 90
    · exact Text.isBlank_of_visible (by omega)
    · rw [Text.toLower_of_not_capital capital] at letter
      rw [letter]
      decide

/-- What follows the keyword. -/
theorem afterKeyword?_append (rest : List Char) : afterKeyword? (keyword ++ rest) = some rest := by
  have length : keyword.length = Interval.keyword.length := by
    rw [← isKeyword, List.length_map]
  unfold afterKeyword?
  rw [← length, List.take_left, List.drop_left, if_pos isKeyword]

/-- A text of the form of an interval, with a word for its last one, is read by that word and by
the words in front of it. -/
theorem read_form (before : Blanks) (quantity : List Char) {space : Blanks}
    (apart : space.chars ≠ []) {name : List Char} (nonempty : name ≠ [])
    (visible : ∀ c ∈ name, isBlank c = false) (after : Blanks) :
    read (form before keyword quantity space name after) =
      if Text.words quantity = [] then none
      else (IntervalUnit.ofName? (Text.lower name)).bind fun unit =>
        (readQuantity unit (respaced quantity)).map fun duration => ⟨unit, duration⟩ := by
  have trimmed : Text.Trimmed (keyword ++ (quantity ++ (space.chars ++ name))) := by
    obtain ⟨c, rest, cut, front⟩ := exists_keyword_eq_cons isKeyword
    constructor
    · intro d head
      rw [cut] at head
      obtain rfl := Option.some.inj head
      exact front
    · intro d last
      rw [← List.append_assoc, ← List.append_assoc, List.getLast?_append,
        List.getLast?_eq_some_getLast nonempty, Option.some_or] at last
      obtain rfl := Option.some.inj last
      exact visible _ (List.getLast_mem nonempty)
  have split : Text.words (quantity ++ (space.chars ++ name)) = Text.words quantity ++ [name] := by
    obtain ⟨c, others, spaces⟩ := List.exists_cons_of_ne_nil apart
    obtain ⟨blank, blanks⟩ := List.forall_mem_cons.mp (spaces ▸ space.blank)
    rw [spaces, List.cons_append, Text.words_eq, Text.pieces_append_cons blank,
      Text.pieces_append_of_separators blanks, Text.pieces_piece nonempty visible]
    rfl
  unfold read form
  rw [Text.trim_append trimmed before.blank after.blank, afterKeyword?_append isKeyword,
    Option.bind_some]
  dsimp only
  rw [split, List.getLast?_append, List.dropLast_concat, List.getLast?_singleton, Option.some_or]
  cases front : Text.words quantity with
  | nil => rfl
  | cons first others =>
    unfold respaced
    rw [if_neg (List.cons_ne_nil first others), front]

end

end Interval

namespace WrittenInterval

variable (written : WrittenInterval)

/-- The characters of an interval. -/
def chars : List Char :=
  Interval.form written.before written.keyword (written.gap.chars ++ written.quantity.chars)
    written.space written.name written.after

/-- The numbers of an interval, one for each field of its unit. -/
def components : List Int := written.quantity.components written.unit

/-- There is a number for each field. -/
theorem length_components : written.components.length = written.unit.components := by
  have within := written.within
  unfold components WrittenQuantity.components
  rw [List.length_append, List.length_replicate, List.length_map]
  omega

/-- A written interval is read as its unit with the amount of its numbers, unless they are too
many weeks. -/
theorem read_chars : Interval.read written.chars =
    if written.unit.TooManyWeeks written.components then none
    else some ⟨written.unit, written.unit.amount written.components⟩ := by
  have visible := Text.isBlank_of_mem_of_lower written.unit.isSmall_of_mem_name written.isName
  have nonempty := IntervalUnit.ne_nil_of_lower written.isName
  have hasWords : Text.words (written.gap.chars ++ written.quantity.chars) ≠ [] := by
    intro none
    refine Interval.words_body_ne_nil written.quantity (Interval.words_eq_nil_iff.mpr ?_)
    intro c member
    exact Interval.words_eq_nil_iff.mp none c (by simp [WrittenQuantity.chars, member])
  unfold chars
  rw [Interval.read_form written.isKeyword _ _ written.apart nonempty visible, if_neg hasWords,
    written.isName, IntervalUnit.ofName?_name, Option.bind_some,
    Interval.respaced_blanks_append written.gap.blank,
    Interval.readQuantity_respaced _ _ written.within]
  change (Duration.ofComponents? written.unit written.components).map _ = _
  rw [Duration.ofComponents?_eq written.length_components]
  split <;> rfl

end WrittenInterval

end DialectBridge.Calendar
