import DialectBridge.Calendar.Date
import Mathlib.Data.List.GetD

/-!
# Dates and their day numbers

The first days of the years are a strictly increasing sequence, so every day number falls
in exactly one year, and the months cut a year into stretches of days without a gap. Hence
a day number of the range is that of exactly one date. Months are counted without a gap as
well, so a date moved by some months is the one date that is so many months away with the
same day, or with the last day of a shorter month.
-/

namespace DialectBridge.Calendar

/-! ## Years -/

/-- The number of days of a year. -/
def yearLength (year : Int) : Nat := if isLeapYear year then 366 else 365

/-- The next year starts after the days of a year. -/
theorem firstDayOfYear_succ (year : Int) :
    firstDayOfYear (year + 1) = firstDayOfYear year + yearLength year := by
  have leap : isLeapYear year = true ↔
      (year % 4 = 0 ∧ year % 100 ≠ 0) ∨ year % 400 = 0 := by simp [isLeapYear]
  unfold firstDayOfYear yearLength
  by_cases long : isLeapYear year = true
  · rw [if_pos long]
    rw [leap] at long
    dsimp only
    omega
  · rw [if_neg long]
    rw [leap] at long
    dsimp only
    omega

/-- Later years start later. -/
theorem firstDayOfYear_mono {first second : Int} (le : first ≤ second) :
    firstDayOfYear first ≤ firstDayOfYear second := by
  unfold firstDayOfYear
  dsimp only
  omega

/-- The mean length of a year locates a day to within one year. -/
theorem guess_near (day : Int) :
    firstDayOfYear (400 * (day + 719162) / 146097) ≤ day ∧
      day < firstDayOfYear (400 * (day + 719162) / 146097 + 3) := by
  unfold firstDayOfYear
  dsimp only
  omega

/-- A day falls in the year that has started and whose next year has not. -/
theorem yearOfDay_bounds (day : Int) :
    firstDayOfYear (yearOfDay day) ≤ day ∧ day < firstDayOfYear (yearOfDay day + 1) := by
  obtain ⟨started, open_⟩ := guess_near day
  unfold yearOfDay
  generalize 400 * (day + 719162) / 146097 = past at started open_ ⊢
  dsimp only
  split
  · next early => exact ⟨by simpa using started, by simpa using early⟩
  · split
    · next notEarly late => exact ⟨late, by simpa [Int.add_assoc] using open_⟩
    · next notEarly notLate => exact ⟨Int.not_lt.mp notEarly, Int.not_le.mp notLate⟩

/-- A day falls in exactly one year. -/
theorem yearOfDay_eq_iff {day year : Int} : yearOfDay day = year ↔
    firstDayOfYear year ≤ day ∧ day < firstDayOfYear (year + 1) := by
  obtain ⟨started, notOver⟩ := yearOfDay_bounds day
  constructor
  · rintro rfl
    exact ⟨started, notOver⟩
  · rintro ⟨otherStarted, otherNotOver⟩
    -- Of two different years the later one starts when the earlier one is over.
    rcases Int.lt_trichotomy (yearOfDay day) year with less | same | greater
    · have order := firstDayOfYear_mono (Int.add_one_le_of_lt less)
      omega
    · exact same
    · have order := firstDayOfYear_mono (Int.add_one_le_of_lt greater)
      omega

/-! ## Months -/

/-- A position is in the month that starts so many days before it: the months before it are
walked over. -/
theorem monthAndDay_of_lt {lengths : List Nat} {index position : Nat} (month : Nat)
    (inside : position < lengths.getD index 0) :
    monthAndDay month lengths (((lengths.take index).foldr (· + ·) 0) + position) =
      (month + index, position + 1) := by
  induction lengths generalizing index month with
  | nil => simp at inside
  | cons length rest inductionHypothesis =>
    cases index with
    | zero =>
      have within : position < length := by simpa using inside
      simp [monthAndDay, within]
    | succ index =>
      have within : position < rest.getD index 0 := by simpa using inside
      have beyond : ¬length + (rest.take index).foldr (· + ·) 0 + position < length := by omega
      have left : length + (rest.take index).foldr (· + ·) 0 + position - length =
          (rest.take index).foldr (· + ·) 0 + position := by omega
      rw [List.take_succ_cons, List.foldr_cons, monthAndDay, if_neg beyond, left,
        inductionHypothesis (month + 1) within, Nat.add_right_comm, Nat.add_assoc]

/-- Every position before the end of the months is in one of them. -/
theorem exists_month {lengths : List Nat} {position : Nat}
    (inside : position < lengths.foldr (· + ·) 0) :
    ∃ index rest, rest < lengths.getD index 0 ∧
      position = (lengths.take index).foldr (· + ·) 0 + rest := by
  induction lengths generalizing position with
  | nil => simp at inside
  | cons length rest inductionHypothesis =>
    by_cases first : position < length
    · exact ⟨0, position, by simpa using first, by simp⟩
    · rw [List.foldr_cons] at inside
      have beyond : position - length < rest.foldr (· + ·) 0 := by omega
      obtain ⟨index, left, within, cut⟩ := inductionHypothesis beyond
      refine ⟨index + 1, left, by simpa using within, ?_⟩
      rw [List.take_succ_cons, List.foldr_cons]
      omega

/-- A month ends no later than all the months do. -/
theorem sum_take_add_getD_le {lengths : List Nat} {index : Nat} (listed : index < lengths.length) :
    (lengths.take index).foldr (· + ·) 0 + lengths.getD index 0 ≤ lengths.foldr (· + ·) 0 := by
  induction lengths generalizing index with
  | nil => simp at listed
  | cons length rest inductionHypothesis =>
    cases index with
    | zero => simp
    | succ index =>
      have others := inductionHypothesis (Nat.lt_of_succ_lt_succ listed)
      rw [List.take_succ_cons, List.foldr_cons, List.foldr_cons, List.getD_cons_succ]
      omega

/-- The months of a year make up the year. -/
theorem sum_monthLengths (year : Int) :
    (monthLengths year).foldr (· + ·) 0 = yearLength year := by
  unfold monthLengths yearLength
  split <;> rfl

/-- There are twelve months. -/
theorem month_bounds {year : Int} {month day : Nat}
    (onCalendar : 1 ≤ day ∧ day ≤ daysInMonth year month) : 1 ≤ month ∧ month ≤ 12 := by
  cases month with
  | zero =>
    have none : day ≤ 0 := onCalendar.2
    omega
  | succ index =>
    by_cases listed : index < 12
    · omega
    · have none : (monthLengths year).getD index 0 = 0 :=
        List.getD_eq_default _ _ (Nat.not_lt.mp listed)
      have within : day ≤ (monthLengths year).getD index 0 := onCalendar.2
      omega

/-- The length of a month is the one at its place in the list. -/
theorem daysInMonth_mem {year : Int} {month : Nat} (first : 1 ≤ month) (last : month ≤ 12) :
    daysInMonth year month ∈ monthLengths year := by
  cases month with
  | zero => simp at first
  | succ index =>
    have listed : index < (monthLengths year).length := Nat.lt_of_succ_le last
    change (monthLengths year).getD index 0 ∈ monthLengths year
    rw [List.getD_eq_getElem _ _ listed]
    exact List.getElem_mem listed

/-- Months have at least 28 days. -/
theorem le_daysInMonth (year : Int) {month : Nat} (first : 1 ≤ month) (last : month ≤ 12) :
    28 ≤ daysInMonth year month := by
  have all : ∀ length ∈ monthLengths year, 28 ≤ length := by
    unfold monthLengths
    split <;> decide
  exact all _ (daysInMonth_mem first last)

/-- Months have at most 31 days. -/
theorem daysInMonth_le (year : Int) (month : Nat) : daysInMonth year month ≤ 31 := by
  have all : ∀ length ∈ monthLengths year, length ≤ 31 := by
    unfold monthLengths
    split <;> decide
  by_cases listed : 1 ≤ month ∧ month ≤ 12
  · exact all _ (daysInMonth_mem listed.1 listed.2)
  · by_cases long : 1 ≤ daysInMonth year month
    · exact absurd (month_bounds ⟨Nat.le_refl 1, long⟩) listed
    · omega

/-! ## Dates -/

namespace Date

/-- There is a date with some parts exactly if the calendar has it. -/
theorem ofParts?_eq_some_iff {year : Int} {month day : Nat} {date : Date} :
    ofParts? year month day = some date ↔
      date.year = year ∧ date.month = month ∧ date.day = day := by
  unfold ofParts?
  constructor
  · intro found
    split at found
    · split at found
      · obtain rfl := Option.some.inj found
        exact ⟨rfl, rfl, rfl⟩
      · simp at found
    · simp at found
  · rintro ⟨rfl, rfl, rfl⟩
    rw [dif_pos date.inRange, dif_pos date.onCalendar]

/-- The date with the parts of a date is that date. -/
theorem ofParts?_self (date : Date) : ofParts? date.year date.month date.day = some date :=
  ofParts?_eq_some_iff.mpr ⟨rfl, rfl, rfl⟩

/-- The month of a date is one of twelve. -/
theorem month_mem (date : Date) : 1 ≤ date.month ∧ date.month ≤ 12 :=
  month_bounds date.onCalendar

/-- The date of a day number has the month that its position in the year is in. -/
theorem ofDay?_of_position {day : Int} {index position : Nat}
    (within : position < (monthLengths (yearOfDay day)).getD index 0)
    (cut : (dayOfYear day).toNat =
      ((monthLengths (yearOfDay day)).take index).foldr (· + ·) 0 + position) :
    ofDay? day = ofParts? (yearOfDay day) (1 + index) (position + 1) := by
  unfold ofDay?
  dsimp only
  rw [cut, monthAndDay_of_lt 1 within]

/-- The day number of a date is found in its year and its month. -/
theorem ofDay?_toDay (date : Date) : ofDay? date.toDay = some date := by
  obtain ⟨firstMonth, lastMonth⟩ := date.month_mem
  obtain ⟨firstDay, lastDay⟩ := date.onCalendar
  obtain ⟨index, place⟩ : ∃ index, date.month = index + 1 := ⟨date.month - 1, by omega⟩
  have within : date.day - 1 < (monthLengths date.year).getD index 0 := by
    rw [place] at lastDay
    change date.day ≤ (monthLengths date.year).getD index 0 at lastDay
    omega
  have before : daysBeforeMonth date.year date.month =
      ((monthLengths date.year).take index).foldr (· + ·) 0 := by
    rw [daysBeforeMonth, place, Nat.add_sub_cancel]
  have inYear : daysBeforeMonth date.year date.month + (date.day - 1) < yearLength date.year := by
    have listed : index < (monthLengths date.year).length := by
      change index < 12
      omega
    have ended := sum_take_add_getD_le listed
    rw [sum_monthLengths] at ended
    omega
  have year : yearOfDay date.toDay = date.year := by
    rw [yearOfDay_eq_iff, firstDayOfYear_succ]
    unfold toDay
    omega
  have cut : (dayOfYear date.toDay).toNat =
      ((monthLengths date.year).take index).foldr (· + ·) 0 + (date.day - 1) := by
    unfold dayOfYear
    rw [year, ← before]
    unfold toDay
    omega
  rw [← year] at within cut
  rw [ofDay?_of_position within cut, ofParts?_eq_some_iff]
  exact ⟨year.symm, by omega, by omega⟩

/-- The date that is found for a day number has it. -/
theorem toDay_of_ofDay? {day : Int} {date : Date} (found : ofDay? day = some date) :
    date.toDay = day := by
  obtain ⟨started, notOver⟩ := yearOfDay_bounds day
  rw [firstDayOfYear_succ] at notOver
  have inside : (dayOfYear day).toNat < (monthLengths (yearOfDay day)).foldr (· + ·) 0 := by
    rw [sum_monthLengths]
    unfold dayOfYear
    omega
  obtain ⟨index, position, within, cut⟩ := exists_month inside
  rw [ofDay?_of_position within cut] at found
  obtain ⟨year, month, dayOfMonth⟩ := ofParts?_eq_some_iff.mp found
  unfold toDay daysBeforeMonth
  rw [year, month, dayOfMonth, Nat.add_sub_cancel_left]
  unfold dayOfYear at cut
  omega

/-- A date is found for a day number exactly if the number is that of the date. -/
theorem ofDay?_eq_some_iff {day : Int} {date : Date} :
    ofDay? day = some date ↔ date.toDay = day := by
  constructor
  · exact toDay_of_ofDay?
  · rintro rfl
    exact ofDay?_toDay date

/-- The day number of a date falls in its year. -/
theorem yearOfDay_toDay (date : Date) : yearOfDay date.toDay = date.year :=
  (ofParts?_eq_some_iff.mp (ofDay?_toDay date)).1.symm

/-- The day number of a date is between those of the first and the last year. -/
theorem toDay_bounds (date : Date) :
    firstDayOfYear firstYear ≤ date.toDay ∧ date.toDay < firstDayOfYear (lastYear + 1) := by
  obtain ⟨notBefore, notAfter⟩ := date.inRange
  obtain ⟨started, notOver⟩ := yearOfDay_eq_iff.mp (yearOfDay_toDay date)
  have first := firstDayOfYear_mono notBefore
  have last := firstDayOfYear_mono (Int.add_le_add_right notAfter 1)
  exact ⟨by omega, by omega⟩

/-! ## Months later -/

/-- A count of months is that of one year and one month. -/
theorem monthCount_eq_iff {date : Date} {count : Int} : date.monthCount = count ↔
    date.year = count / 12 ∧ date.month = (count % 12).toNat + 1 := by
  obtain ⟨first, last⟩ := date.month_mem
  unfold monthCount
  constructor
  · rintro rfl
    constructor <;> omega
  · rintro ⟨year, month⟩
    omega

/-- The date some months later is the one with so many months more and with the same day,
or with the last day of its month where that is earlier. -/
theorem addMonths?_eq_some_iff {date later : Date} {months : Int} :
    date.addMonths? months = some later ↔
      later.monthCount = date.monthCount + months ∧
        later.day = min date.day (daysInMonth later.year later.month) := by
  unfold addMonths?
  rw [ofParts?_eq_some_iff, monthCount_eq_iff, and_assoc]
  constructor
  · rintro ⟨year, month, day⟩
    exact ⟨year, month, by rw [year, month, day]⟩
  · rintro ⟨year, month, day⟩
    exact ⟨year, month, by rw [day, year, month]⟩

/-- A day that every month has is kept. -/
theorem day_of_addMonths? {date later : Date} {months : Int} (early : date.day ≤ 28)
    (moved : date.addMonths? months = some later) : later.day = date.day := by
  obtain ⟨first, last⟩ := later.month_mem
  have long := le_daysInMonth later.year first last
  have clamped := (addMonths?_eq_some_iff.mp moved).2
  omega

/-- Going back as many months leads back from a day that every month has. -/
theorem addMonths?_neg {date later : Date} {months : Int} (early : date.day ≤ 28)
    (moved : date.addMonths? months = some later) : later.addMonths? (-months) = some date := by
  have kept := day_of_addMonths? early moved
  have count := (addMonths?_eq_some_iff.mp moved).1
  obtain ⟨first, last⟩ := date.month_mem
  have long := le_daysInMonth date.year first last
  refine addMonths?_eq_some_iff.mpr ⟨?_, ?_⟩ <;> omega

end Date

end DialectBridge.Calendar
