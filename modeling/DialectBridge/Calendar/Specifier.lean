import DialectBridge.Calendar.Moment

/-!
# Format specifiers

A format text is copied except for specifiers: a percent sign and the character
after it. Each known character selects one component of the moment; `%%` is a
percent sign, and an unknown character is copied with its percent sign.
-/

namespace DialectBridge.Calendar

/-- A year in at least four digits; outside four digits it carries its sign. -/
def writeYear (year : Int) : String :=
  if 0 ≤ year ∧ year ≤ 9999 then Decimal.padded 4 year.toNat
  else (if year < 0 then "-" else "+") ++ Decimal.padded 4 year.natAbs

/-- Month names, in order. -/
def monthNames : List String :=
  ["January", "February", "March", "April", "May", "June", "July", "August", "September",
   "October", "November", "December"]

/-- Weekday names from Sunday on. -/
def weekdayNames : List String :=
  ["Sunday", "Monday", "Tuesday", "Wednesday", "Thursday", "Friday", "Saturday"]

/-- The first three letters of a name. -/
def shortName (name : String) : String := String.ofList (name.toList.take 3)

/-- The components that a specifier can select. -/
inductive Component where
  | shortWeekday
  | shortMonth
  | month
  | paddedDay
  | day
  | micros
  | paddedHour
  | paddedHour12
  | paddedMinute
  | paddedDayOfYear
  | hour
  | hour12
  | monthName
  | paddedMonth
  | dayHalf
  | time12
  | paddedSecond
  | time
  | sundayWeek
  | mondayWeek
  | weekOfWeekYear
  | weekdayName
  | weekdayNumber
  | year
  | weekYear
  | yearOfCentury
  deriving DecidableEq, Repr

namespace Component

/-- The hour on a twelve-hour dial. -/
def dialHour (clock : Clock) : Nat := if clock.hour % 12 = 0 then 12 else clock.hour % 12

/-- Whether noon has passed. -/
def halfName (clock : Clock) : String := if clock.hour < 12 then "AM" else "PM"

/-- Minutes and seconds between colons, after an hour. -/
def afterHour (clock : Clock) : String :=
  ":" ++ Decimal.padded 2 clock.minute ++ ":" ++ Decimal.padded 2 clock.writtenSecond

/-- The text of a component. -/
def render (component : Component) (moment : Moment) : String :=
  let date := moment.date
  let clock := moment.clock
  let day := date.toDay
  match component with
  | shortWeekday => shortName (weekdayNames.getD (weekday day) "")
  | shortMonth => shortName (monthNames.getD (date.month - 1) "")
  | month => Decimal.padded 1 date.month
  | paddedDay => Decimal.padded 2 date.day
  | Component.day => Decimal.padded 1 date.day
  | micros => Decimal.padded 6 (clock.fraction / 1000)
  | paddedHour => Decimal.padded 2 clock.hour
  | paddedHour12 => Decimal.padded 2 (dialHour clock)
  | paddedMinute => Decimal.padded 2 clock.minute
  | paddedDayOfYear => Decimal.padded 3 ((dayOfYear day).toNat + 1)
  | hour => Decimal.padded 1 clock.hour
  | hour12 => Decimal.padded 1 (dialHour clock)
  | monthName => monthNames.getD (date.month - 1) ""
  | paddedMonth => Decimal.padded 2 date.month
  | dayHalf => halfName clock
  | time12 => Decimal.padded 2 (dialHour clock) ++ afterHour clock ++ " " ++ halfName clock
  | paddedSecond => Decimal.padded 2 clock.writtenSecond
  | time => Decimal.padded 2 clock.hour ++ afterHour clock
  | sundayWeek => Decimal.padded 2 (Calendar.sundayWeek day)
  | mondayWeek => Decimal.padded 2 (Calendar.mondayWeek day)
  | weekOfWeekYear => Decimal.padded 2 (Calendar.weekOfWeekYear day)
  | weekdayName => weekdayNames.getD (weekday day) ""
  | weekdayNumber => Decimal.padded 1 (weekday day)
  | year => writeYear date.year
  | weekYear => writeYear (Calendar.weekYear day)
  | yearOfCentury => Decimal.padded 2 (date.year % 100).toNat

/-- The directive that names the component in time formatting libraries; a dash
drops the padding and a digit fixes the width. -/
def directive : Component → String
  | shortWeekday => "%a"
  | shortMonth => "%b"
  | month => "%-m"
  | paddedDay => "%d"
  | day => "%-d"
  | micros => "%6f"
  | paddedHour => "%H"
  | paddedHour12 => "%I"
  | paddedMinute => "%M"
  | paddedDayOfYear => "%j"
  | hour => "%-H"
  | hour12 => "%-I"
  | monthName => "%B"
  | paddedMonth => "%m"
  | dayHalf => "%p"
  | time12 => "%I:%M:%S %p"
  | paddedSecond => "%S"
  | time => "%H:%M:%S"
  | sundayWeek => "%U"
  | mondayWeek => "%W"
  | weekOfWeekYear => "%V"
  | weekdayName => "%A"
  | weekdayNumber => "%w"
  | year => "%Y"
  | weekYear => "%G"
  | yearOfCentury => "%y"

/-- The component that a specifier character selects. -/
def ofSpecifier? : Char → Option Component
  | 'a' => some shortWeekday
  | 'b' => some shortMonth
  | 'c' => some month
  | 'd' => some paddedDay
  | 'e' => some day
  | 'f' => some micros
  | 'H' => some paddedHour
  | 'h' => some paddedHour12
  | 'I' => some paddedHour12
  | 'i' => some paddedMinute
  | 'j' => some paddedDayOfYear
  | 'k' => some hour
  | 'l' => some hour12
  | 'M' => some monthName
  | 'm' => some paddedMonth
  | 'p' => some dayHalf
  | 'r' => some time12
  | 'S' => some paddedSecond
  | 's' => some paddedSecond
  | 'T' => some time
  | 'U' => some sundayWeek
  | 'u' => some mondayWeek
  | 'V' => some sundayWeek
  | 'v' => some weekOfWeekYear
  | 'W' => some weekdayName
  | 'w' => some weekdayNumber
  | 'X' => some year
  | 'x' => some weekYear
  | 'Y' => some year
  | 'y' => some yearOfCentury
  | _ => none

end Component

/-- The ending of an English ordinal. -/
def ordinalSuffix (n : Nat) : String :=
  if 11 ≤ n % 100 ∧ n % 100 ≤ 13 then "th"
  else match n % 10 with
    | 1 => "st"
    | 2 => "nd"
    | 3 => "rd"
    | _ => "th"

/-- The text of a percent sign followed by a character. -/
def renderSpecifier (moment : Moment) (c : Char) : List Char :=
  if c = '%' then ['%']
  else if c = 'D' then
    (Decimal.padded 1 moment.date.day ++ ordinalSuffix moment.date.day).toList
  else match Component.ofSpecifier? c with
    | some component => (component.render moment).toList
    | none => ['%', c]

/-- Renders a format text; a percent sign at the end stands for itself. -/
def renderFormat (moment : Moment) : List Char → List Char
  | [] => []
  | ['%'] => ['%']
  | '%' :: c :: rest => renderSpecifier moment c ++ renderFormat moment rest
  | c :: rest => c :: renderFormat moment rest

/-- The date of a moment: year, month and day between dashes. -/
def writeDate (moment : Moment) : String :=
  writeYear moment.date.year ++ "-" ++ Decimal.padded 2 moment.date.month ++ "-" ++
    Decimal.padded 2 moment.date.day

/-- The time of a moment: hour, minute and second between colons. -/
def writeTime (moment : Moment) : String := Component.time.render moment

/-- The canonical text of a moment, which drops fractions of a second. -/
def writeMoment (moment : Moment) : String := writeDate moment ++ " " ++ writeTime moment

end DialectBridge.Calendar
