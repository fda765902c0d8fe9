/-!
# Dates of the proleptic calendar

A date is a year, a month and a day that the calendar has; year zero exists and
years before it are negative. Days are numbered from the first day of 1970, so
arithmetic on days is arithmetic on integers. Dates span a fixed range of years;
day numbers do not, and the year, the weekday and the week of a day number are
defined for every integer.
-/

namespace DialectBridge.Calendar

/-- Every fourth year, less the centuries, plus every fourth century. -/
def isLeapYear (year : Int) : Bool :=
  (year % 4 == 0 && year % 100 != 0) || year % 400 == 0

/-- The lengths of the months in order. -/
def monthLengths (year : Int) : List Nat :=
  [31, if isLeapYear year then 29 else 28, 31, 30, 31, 30, 31, 31, 30, 31, 30, 31]

/-- The length of a month counted from one; zero for a month that does not exist. -/
def daysInMonth (year : Int) (month : Nat) : Nat :=
  match month with
  | 0 => 0
  | index + 1 => (monthLengths year).getD index 0

/-- The first year of the range. -/
def firstYear : Int := -262143

/-- The last year of the range. -/
def lastYear : Int := 262142

/-- A date that exists, in the range of years. -/
structure Date where
  year : Int
  month : Nat
  day : Nat
  inRange : firstYear ≤ year ∧ year ≤ lastYear
  onCalendar : 1 ≤ day ∧ day ≤ daysInMonth year month
  deriving DecidableEq

namespace Date

/-- The date with the given parts, if the calendar has it. -/
def ofParts? (year : Int) (month day : Nat) : Option Date :=
  if inRange : firstYear ≤ year ∧ year ≤ lastYear then
    if onCalendar : 1 ≤ day ∧ day ≤ daysInMonth year month then
      some ⟨year, month, day, inRange, onCalendar⟩
    else none
  else none

end Date

/-- The number of the first day of a year, counted from the first day of 1970. -/
def firstDayOfYear (year : Int) : Int :=
  let past := year - 1
  365 * past + past / 4 - past / 100 + past / 400 - 719162

/-- The year that a day number falls in: the mean length of a year locates it to
within one year, and the first days of the neighbouring years decide. -/
def yearOfDay (day : Int) : Int :=
  let guess := (400 * (day + 719162)) / 146097 + 1
  if day < firstDayOfYear guess then guess - 1
  else if firstDayOfYear (guess + 1) ≤ day then guess + 1
  else guess

/-- The zero-based position of a day number in its year. -/
def dayOfYear (day : Int) : Int := day - firstDayOfYear (yearOfDay day)

/-- Walks the month lengths: the month, counted from `month`, and the day in it,
counted from one, of a zero-based position. -/
def monthAndDay (month : Nat) : List Nat → Nat → Nat × Nat
  | [], position => (month, position + 1)
  | length :: rest, position =>
    if position < length then (month, position + 1)
    else monthAndDay (month + 1) rest (position - length)

/-- Weekday with Sunday as zero. The first day of 1970 was a Thursday. -/
def weekday (day : Int) : Nat := ((day + 4) % 7).toNat

/-- Weekday with Monday as zero. -/
def weekdayFromMonday (day : Int) : Nat := ((day + 3) % 7).toNat

/-- The week of the year that starts on Sundays; days before the first Sunday are
in week zero. -/
def sundayWeek (day : Int) : Nat := ((dayOfYear day + 7 - weekday day) / 7).toNat

/-- The week of the year that starts on Mondays; days before the first Monday are
in week zero. -/
def mondayWeek (day : Int) : Nat := ((dayOfYear day + 7 - weekdayFromMonday day) / 7).toNat

/-- The Thursday of the Monday-started week: the year that holds it owns the week. -/
def weekThursday (day : Int) : Int := day - weekdayFromMonday day + 3

/-- The year that owns the Monday-started week. -/
def weekYear (day : Int) : Int := yearOfDay (weekThursday day)

/-- The number of the Monday-started week in the year that owns it, from one. -/
def weekOfWeekYear (day : Int) : Nat := (dayOfYear (weekThursday day) / 7).toNat + 1

/-- The number of days of a year before the first day of a month. -/
def daysBeforeMonth (year : Int) (month : Nat) : Nat :=
  ((monthLengths year).take (month - 1)).foldr (· + ·) 0

namespace Date

/-- The day number of a date. -/
def toDay (date : Date) : Int :=
  firstDayOfYear date.year + daysBeforeMonth date.year date.month + (date.day - 1)

/-- The date of a day number, if its year is in range. -/
def ofDay? (day : Int) : Option Date :=
  let year := yearOfDay day
  let (month, dayOfMonth) := monthAndDay 1 (monthLengths year) (dayOfYear day).toNat
  ofParts? year month dayOfMonth

/-- The months of a date counted from the start of year zero. -/
def monthCount (date : Date) : Int := 12 * date.year + (date.month - 1)

/-- The date some months later or, if negative, earlier. A day beyond the end of
the target month becomes its last day. -/
def addMonths? (date : Date) (months : Int) : Option Date :=
  let count := date.monthCount + months
  let year := count / 12
  let month := (count % 12).toNat + 1
  ofParts? year month (min date.day (daysInMonth year month))

end Date

end DialectBridge.Calendar
