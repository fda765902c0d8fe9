import DialectBridge.Proofs.Calendar.WrittenIntervals

/-!
# Totals of intervals

All numbers of an interval have one sign. So the sums that a shift makes of them only grow, and
none of them leaves the range of durations, or of 64 bits, unless the total does: a shift by an
interval is a shift by so many seconds, or so many months, wherever either of them ends.
-/

namespace DialectBridge.Calendar

/-! ## Amounts of one sign -/

namespace Duration

/-- Whether the numbers of an amount are all positive or all negative, zeros apart. -/
def IsOneSigned : Duration → Prop
  | clock days hours minutes seconds =>
    (0 ≤ days ∧ 0 ≤ hours ∧ 0 ≤ minutes ∧ 0 ≤ seconds) ∨
      (days ≤ 0 ∧ hours ≤ 0 ∧ minutes ≤ 0 ∧ seconds ≤ 0)
  | calendar years months => (0 ≤ years ∧ 0 ≤ months) ∨ (years ≤ 0 ∧ months ≤ 0)

/-- The seconds or the months of an amount. -/
def total : Duration → Int
  | clock days hours minutes seconds => 86400 * days + 3600 * hours + 60 * minutes + seconds
  | calendar years months => 12 * years + months

/-- So many seconds, or so many months if the amount is one of months. -/
def ofTotal : Duration → Int → Duration
  | clock .., total => clock 0 0 0 total
  | calendar .., total => calendar 0 total

/-- Numbers of one sign are placed in an amount of one sign. -/
theorem isOneSigned_of_ofComponents? {unit : IntervalUnit} {components : List Int}
    {duration : Duration} (placed : ofComponents? unit components = some duration)
    (oneSign : (∀ n ∈ components, 0 ≤ n) ∨ ∀ n ∈ components, n ≤ 0) : duration.IsOneSigned := by
  revert placed
  fun_cases ofComponents? unit components with
  | case5 weeks =>
    intro placed
    obtain ⟨days, counted, rfl⟩ := Option.map_eq_some_iff.mp placed
    obtain ⟨_, rfl⟩ := Decimal.checked_eq_some_iff.mp counted
    simp only [List.forall_mem_singleton] at oneSign
    simp only [IsOneSigned]
    omega
  | case15 => simp
  | _ =>
    rintro ⟨⟩
    simp only [List.forall_mem_cons] at oneSign
    simp only [IsOneSigned]
    omega

end Duration

namespace Interval

/-- A number without a minus sign is not negative, and it fits in 64 bits. -/
theorem bounds_of_readInt64 {piece : List Char} (noMinus : '-' ∉ piece) {number : Int}
    (read : Decimal.readInt64 piece = some number) : 0 ≤ number ∧ number ≤ Decimal.maxInt64 := by
  obtain ⟨signed, readSigned, kept⟩ := Option.bind_eq_some_iff.mp read
  obtain ⟨⟨_, most⟩, rfl⟩ := Decimal.checked_eq_some_iff.mp kept
  refine ⟨?_, most⟩
  unfold Decimal.readSigned at readSigned
  split at readSigned
  · exact absurd List.mem_cons_self noMinus
  all_goals
    obtain ⟨natural, _, rfl⟩ := Option.map_eq_some_iff.mp readSigned
    exact Int.natCast_nonneg natural

/-- The components of a quantity are not negative: no minus sign is left between separators. -/
theorem bounds_of_readComponents {text : List Char} {components : List Int}
    (read : readComponents text = some components) :
    ∀ n ∈ components, 0 ≤ n ∧ n ≤ Decimal.maxInt64 := by
  have cut : (Text.pieces isSeparator text).mapM Decimal.readInt64 = some components := read
  have noMinus : ∀ piece ∈ Text.pieces isSeparator text, '-' ∉ piece := by
    intro piece listed member
    exact Bool.false_ne_true (Text.of_mem_pieces listed member).2.symm
  clear read
  generalize Text.pieces isSeparator text = pieces at cut noMinus
  induction pieces generalizing components with
  | nil =>
    obtain rfl := Option.some.inj cut
    exact fun n member => absurd member List.not_mem_nil
  | cons piece others inductionHypothesis =>
    obtain ⟨none, noneBehind⟩ := List.forall_mem_cons.mp noMinus
    rw [List.mapM_cons] at cut
    obtain ⟨first, readFirst, cut⟩ := Option.bind_eq_some_iff.mp cut
    obtain ⟨rest, readRest, cut⟩ := Option.bind_eq_some_iff.mp cut
    obtain rfl := Option.some.inj cut
    have firstBounds := bounds_of_readInt64 none readFirst
    exact List.forall_mem_cons.mpr ⟨firstBounds, inductionHypothesis readRest noneBehind⟩

/-- A quantity that is read is an amount of one sign. -/
theorem isOneSigned_of_readQuantity {unit : IntervalUnit} {text : List Char} {duration : Duration}
    (read : readQuantity unit text = some duration) : duration.IsOneSigned := by
  unfold readQuantity at read
  generalize takeSign (Text.trim (strip isQuote text)) = signed at read
  obtain ⟨negative, body⟩ := signed
  obtain ⟨components, listed, read⟩ := Option.bind_eq_some_iff.mp read
  obtain ⟨padded, zeros, placed⟩ := Option.bind_eq_some_iff.mp read
  have nonneg : ∀ n ∈ padded, 0 ≤ n := by
    intro n member
    unfold padComponents at zeros
    split at zeros
    · simp at zeros
    · obtain rfl := Option.some.inj zeros
      rcases List.mem_append.mp member with zero | component
      · exact Int.le_of_eq (List.eq_of_mem_replicate zero).symm
      · exact (bounds_of_readComponents listed n component).1
  refine Duration.isOneSigned_of_ofComponents? placed ?_
  cases negative with
  | false => exact .inl nonneg
  | true =>
    right
    intro n member
    obtain ⟨opposite, inPadded, rfl⟩ := List.mem_map.mp member
    have bound := nonneg opposite inPadded
    omega

/-- An interval that is read has an amount of one sign. -/
theorem isOneSigned_of_read {text : List Char} {interval : Interval}
    (read : Interval.read text = some interval) : interval.duration.IsOneSigned := by
  obtain ⟨words, quantity⟩ := exists_quantity_of_read read
  exact isOneSigned_of_readQuantity quantity

end Interval

/-! ## Shifts by totals -/

/-- A number of seconds is a duration exactly if its opposite is. -/
theorem duration?_neg (seconds : Int) : duration? (-seconds) = (duration? seconds).map (- ·) := by
  unfold duration?
  by_cases within : -maxDurationSeconds ≤ seconds ∧ seconds ≤ maxDurationSeconds
  · rw [if_pos within, if_pos (by omega)]
    rfl
  · rw [if_neg within, if_neg (by omega)]
    rfl

namespace Duration

/-- The sum of two durations of one sign is a duration if it is one at all, whether or not its
parts are looked at first. -/
theorem addWithin_eq {first second : Int}
    (oneSign : (0 ≤ first ∧ 0 ≤ second) ∨ (first ≤ 0 ∧ second ≤ 0)) :
    (duration? first).bind (addWithin · second) = duration? (first + second) := by
  unfold addWithin duration?
  by_cases within : -maxDurationSeconds ≤ first + second ∧ first + second ≤ maxDurationSeconds
  · rw [if_pos within, if_pos (by omega), Option.bind_some, if_pos (by omega), Option.bind_some,
      if_pos within]
  · rw [if_neg within]
    by_cases firstWithin : -maxDurationSeconds ≤ first ∧ first ≤ maxDurationSeconds
    · rw [if_pos firstWithin, Option.bind_some]
      by_cases secondWithin : -maxDurationSeconds ≤ second ∧ second ≤ maxDurationSeconds
      · rw [if_pos secondWithin, Option.bind_some, if_neg within]
      · rw [if_neg secondWithin]
        rfl
    · rw [if_neg firstWithin]
      rfl

/-- The seconds of an amount of one sign are its total, wherever that is a duration. -/
theorem clockSeconds?_eq {days hours minutes seconds : Int}
    (oneSign : IsOneSigned (.clock days hours minutes seconds)) :
    clockSeconds? days hours minutes seconds =
      duration? (86400 * days + 3600 * hours + 60 * minutes + seconds) := by
  unfold IsOneSigned at oneSign
  have firstTwo := @addWithin_eq (86400 * days) (3600 * hours) (by omega)
  have firstThree := @addWithin_eq (86400 * days + 3600 * hours) (60 * minutes) (by omega)
  have all := @addWithin_eq (86400 * days + 3600 * hours + 60 * minutes) seconds (by omega)
  rw [← all, ← firstThree, ← firstTwo]
  unfold clockSeconds?
  simp only [bind, Option.bind_assoc]

/-- The months of an amount of one sign are its total, wherever that fits in 64 bits. -/
theorem calendarMonths?_eq {years months : Int} (oneSign : IsOneSigned (.calendar years months)) :
    calendarMonths? years months = Decimal.checked (12 * years + months) := by
  unfold IsOneSigned at oneSign
  unfold calendarMonths?
  by_cases within : Decimal.minInt64 ≤ 12 * years + months ∧
      12 * years + months ≤ Decimal.maxInt64
  · have first : Decimal.checked (12 * years) = some (12 * years) := by
      unfold Decimal.minInt64 Decimal.maxInt64 at within
      refine Decimal.checked_eq_some_iff.mpr ⟨?_, rfl⟩
      unfold Decimal.minInt64 Decimal.maxInt64
      omega
    rw [first, Option.bind_some]
  · have beyond : Decimal.checked (12 * years + months) = none := by
      rw [Option.eq_none_iff_forall_ne_some]
      intro kept found
      exact within (Decimal.checked_eq_some_iff.mp found).1
    rw [beyond]
    cases first : Decimal.checked (12 * years) with
    | none => rfl
    | some kept =>
      obtain ⟨_, rfl⟩ := Decimal.checked_eq_some_iff.mp first
      rw [Option.bind_some, beyond]

/-- A shift by an amount of one sign is a shift by its total, and a shift backwards one by its
total with the other sign. -/
theorem shift?_eq_shift?_total {duration : Duration} (oneSign : duration.IsOneSigned)
    (within : (duration.total.natAbs : Int) ≤ Decimal.maxInt64) (moment : Moment)
    (subtract : Bool) : duration.shift? moment subtract =
      (duration.ofTotal (if subtract then -duration.total else duration.total)).shift? moment
        false := by
  cases duration with
  | clock days hours minutes seconds =>
    have single (number : Int) : clockSeconds? 0 0 0 number = duration? number := by
      have oneSigned : IsOneSigned (.clock 0 0 0 number) := by
        unfold IsOneSigned
        omega
      rw [clockSeconds?_eq oneSigned]
      simp
    unfold shift? ofTotal total
    dsimp only
    rw [clockSeconds?_eq oneSign, single]
    cases subtract with
    | false => rfl
    | true =>
      rw [if_pos rfl, duration?_neg, Option.bind_map]
      rfl
  | calendar years months =>
    have kept (number : Int) (fits : (number.natAbs : Int) ≤ Decimal.maxInt64) :
        Decimal.checked number = some number := by
      refine Decimal.checked_eq_some_iff.mpr ⟨?_, rfl⟩
      unfold Decimal.minInt64 Decimal.maxInt64 at *
      omega
    have single (number : Int) : calendarMonths? 0 number = Decimal.checked number := by
      have oneSigned : IsOneSigned (.calendar 0 number) := by
        unfold IsOneSigned
        omega
      rw [calendarMonths?_eq oneSigned]
      simp
    unfold total at within
    unfold shift? ofTotal total
    dsimp only at within ⊢
    rw [calendarMonths?_eq oneSign, single, kept _ within, Option.bind_some]
    cases subtract with
    | false => simp only [Bool.false_eq_true, if_false, kept _ within, Option.bind_some]
    | true =>
      have opposite := kept (-(12 * years + months)) (by rwa [Int.natAbs_neg])
      simp only [Bool.false_eq_true, if_true, if_false, opposite, Option.bind_some]

end Duration

/-! ## Written totals -/

/-- The interval of so many seconds, or of so many months for an amount of months. -/
def Duration.totalText (duration : Duration) (number : Int) : String :=
  match duration with
  | clock .. => "INTERVAL " ++ toString number ++ " SECOND"
  | calendar .. => "INTERVAL " ++ toString number ++ " MONTH"

namespace WrittenQuantity

/-- A whole number of 64 bits, other than the least. -/
def single (number : Int) (fits : (number.natAbs : Int) ≤ Decimal.maxInt64) :
    WrittenQuantity where
  quotation := .unquoted
  left := ⟨[], by decide⟩
  sign := if number < 0 then .minus else .unsigned
  numbers := ⟨.ofNat number.natAbs fits, []⟩
  right := ⟨[], by decide⟩

variable {number : Int} (fits : (number.natAbs : Int) ≤ Decimal.maxInt64)

/-- A whole number is written with its digits, behind a minus sign if it is negative. -/
theorem chars_single : (single number fits).chars = (toString number).toList := by
  rw [Decimal.toList_toString_int]
  unfold single chars body Numbers.chars Numeral.ofNat
  by_cases negative : number < 0
  · simp [negative, Quotation.chars, Sign.chars]
  · simp [negative, Quotation.chars, Sign.chars]

/-- The only number is the magnitude. -/
theorem values_single : (single number fits).numbers.values = [(number.natAbs : Int)] := by
  simp [single, Numbers.values, Numeral.ofNat, Decimal.ofDigits_toDigits]

/-- The sign is that of the number. -/
theorem factor_single : (single number fits).sign.factor * (number.natAbs : Int) = number := by
  unfold single
  by_cases negative : number < 0
  · simp only [negative, if_true, Sign.factor]
    omega
  · simp only [negative, if_false, Sign.factor]
    omega

/-- A unit with one field has the number for it. -/
theorem components_single {unit : IntervalUnit} (one : unit.components = 1) :
    (single number fits).components unit = [number] := by
  unfold components
  rw [values_single, one, List.map_singleton, factor_single]
  rfl

end WrittenQuantity

namespace WrittenInterval

variable {number : Int} (fits : (number.natAbs : Int) ≤ Decimal.maxInt64) {unit : IntervalUnit}
  {name : List Char} (isName : Text.lower name = unit.name.toList)

/-- A whole number with the name of a unit. -/
def single : WrittenInterval where
  before := ⟨[], by decide⟩
  keyword := "INTERVAL".toList
  gap := ⟨[' '], by decide⟩
  quantity := .single number fits
  space := ⟨[' '], by decide⟩
  unit := unit
  name := name
  after := ⟨[], by decide⟩
  isKeyword := by decide
  apart := by decide
  isName := isName
  within := by
    rw [WrittenQuantity.values_single]
    exact unit.one_le_components

/-- The characters of a number with a unit. -/
theorem chars_single : (single fits isName).chars =
    "INTERVAL ".toList ++ (toString number).toList ++ ' ' :: name := by
  unfold single chars Interval.form
  dsimp only
  rw [WrittenQuantity.chars_single, List.append_nil, List.nil_append, List.append_assoc]
  rfl

include fits isName in
/-- A number of a unit with one field that is the unit itself is read as that. -/
theorem read_single (one : unit.components = 1) (noWeeks : unit ≠ .week) :
    Interval.read ("INTERVAL ".toList ++ (toString number).toList ++ ' ' :: name) =
      some ⟨unit, unit.amount [number]⟩ := by
  have few : ¬unit.TooManyWeeks [number] := fun tooMany => noWeeks tooMany.1
  have components : (single fits isName).components = [number] :=
    WrittenQuantity.components_single fits one
  have read := (single fits isName).read_chars
  rw [chars_single fits isName, components] at read
  exact read.trans (if_neg few)

end WrittenInterval

/-- So many seconds or months are read as they are written. -/
theorem Interval.read_totalText (duration : Duration) {number : Int}
    (fits : (number.natAbs : Int) ≤ Decimal.maxInt64) :
    ∃ unit, Interval.read (duration.totalText number).toList =
      some ⟨unit, duration.ofTotal number⟩ := by
  cases duration with
  | clock days hours minutes seconds =>
    have isName : Text.lower "SECOND".toList = IntervalUnit.second.name.toList := by decide
    have read := WrittenInterval.read_single fits isName rfl (by decide)
    have amount : IntervalUnit.second.amount [number] = .clock 0 0 0 number := by
      simp [IntervalUnit.amount, IntervalUnit.CountsMonths, IntervalUnit.fields,
        IntervalUnit.factor, Field.numberAmong]
    rw [amount] at read
    refine ⟨.second, Eq.trans (congrArg Interval.read ?_) read⟩
    unfold Duration.totalText
    rw [String.toList_append, String.toList_append]
    rfl
  | calendar years months =>
    have isName : Text.lower "MONTH".toList = IntervalUnit.month.name.toList := by decide
    have read := WrittenInterval.read_single fits isName rfl (by decide)
    have amount : IntervalUnit.month.amount [number] = .calendar 0 number := by
      simp [IntervalUnit.amount, IntervalUnit.CountsMonths, IntervalUnit.fields,
        IntervalUnit.factor, Field.numberAmong]
    rw [amount] at read
    refine ⟨.month, Eq.trans (congrArg Interval.read ?_) read⟩
    unfold Duration.totalText
    rw [String.toList_append, String.toList_append]
    rfl

end DialectBridge.Calendar
