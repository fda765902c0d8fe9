import DialectBridge.Calendar.Moment
import DialectBridge.Text.Lowercase
import DialectBridge.Text.Blank

/-!
# Intervals

An interval is written as the keyword, a quantity and a unit. The quantity has one
sign and up to as many components as the unit, the last ones given first in
meaning: missing leading components are zero. Units of fixed length give an amount
of seconds, calendar units an amount of months.
-/

namespace DialectBridge.Calendar

/-- The units; compound units join a first and a last component. -/
inductive IntervalUnit where
  | second
  | minute
  | hour
  | day
  | week
  | month
  | year
  | minuteSecond
  | hourSecond
  | hourMinute
  | daySecond
  | dayMinute
  | dayHour
  | yearMonth
  deriving DecidableEq, Repr

namespace IntervalUnit

/-- Every unit. -/
def all : List IntervalUnit :=
  [second, minute, hour, day, week, month, year, minuteSecond, hourSecond, hourMinute,
   daySecond, dayMinute, dayHour, yearMonth]

/-- The written name in lower case. -/
def name : IntervalUnit → String
  | second => "second"
  | minute => "minute"
  | hour => "hour"
  | day => "day"
  | week => "week"
  | month => "month"
  | year => "year"
  | minuteSecond => "minute_second"
  | hourSecond => "hour_second"
  | hourMinute => "hour_minute"
  | daySecond => "day_second"
  | dayMinute => "day_minute"
  | dayHour => "day_hour"
  | yearMonth => "year_month"

/-- The unit with a name. -/
def ofName? (word : List Char) : Option IntervalUnit :=
  all.find? fun unit => unit.name.toList == word

/-- The number of components of a quantity. -/
def components : IntervalUnit → Nat
  | daySecond => 4
  | hourSecond => 3
  | dayMinute => 3
  | minuteSecond => 2
  | hourMinute => 2
  | dayHour => 2
  | yearMonth => 2
  | _ => 1

end IntervalUnit

/-- The amount of an interval: fixed-length units, or calendar units. -/
inductive Duration where
  | clock (days hours minutes seconds : Int)
  | calendar (years months : Int)
  deriving DecidableEq, Repr

/-- A unit with its amount. -/
structure Interval where
  unit : IntervalUnit
  duration : Duration
  deriving DecidableEq, Repr

namespace Duration

/-- Places the components of a quantity in the fields of its unit. A week is seven
days, which must fit in 64 bits. -/
def ofComponents? : IntervalUnit → List Int → Option Duration
  | .second, [s] => some (clock 0 0 0 s)
  | .minute, [m] => some (clock 0 0 m 0)
  | .hour, [h] => some (clock 0 h 0 0)
  | .day, [d] => some (clock d 0 0 0)
  | .week, [w] => (Decimal.checked (7 * w)).map fun d => clock d 0 0 0
  | .month, [m] => some (calendar 0 m)
  | .year, [y] => some (calendar y 0)
  | .minuteSecond, [m, s] => some (clock 0 0 m s)
  | .hourSecond, [h, m, s] => some (clock 0 h m s)
  | .hourMinute, [h, m] => some (clock 0 h m 0)
  | .daySecond, [d, h, m, s] => some (clock d h m s)
  | .dayMinute, [d, h, m] => some (clock d h m 0)
  | .dayHour, [d, h] => some (clock d h 0 0)
  | .yearMonth, [y, m] => some (calendar y m)
  | _, _ => none

/-- Adds two durations in seconds, within the limit of a duration. -/
def addWithin (total seconds : Int) : Option Int :=
  (duration? seconds).bind fun seconds => duration? (total + seconds)

/-- The seconds of a clock amount; every component and every partial sum is a
possible duration. -/
def clockSeconds? (days hours minutes seconds : Int) : Option Int := do
  let total ← duration? (86400 * days)
  let total ← addWithin total (3600 * hours)
  let total ← addWithin total (60 * minutes)
  addWithin total seconds

/-- The months of a calendar amount, within 64 bits at every step. -/
def calendarMonths? (years months : Int) : Option Int :=
  (Decimal.checked (12 * years)).bind fun total => Decimal.checked (total + months)

/-- Shifts a moment forwards, or backwards when subtracting. -/
def shift? (duration : Duration) (moment : Moment) (subtract : Bool) : Option Moment :=
  match duration with
  | clock days hours minutes seconds =>
    (clockSeconds? days hours minutes seconds).bind fun total =>
      moment.addSeconds? (if subtract then -total else total)
  | calendar years months =>
    (calendarMonths? years months).bind fun total =>
      (if subtract then Decimal.checked (-total) else some total).bind fun signed =>
        if signed.natAbs < 0x100000000 then moment.addMonths? signed else none

end Duration

namespace Interval

/-- The keyword that starts an interval. -/
def keyword : List Char := ['i', 'n', 't', 'e', 'r', 'v', 'a', 'l']

/-- The text after the keyword, whose letters may have either case. -/
def afterKeyword? (text : List Char) : Option (List Char) :=
  if (text.take keyword.length).map Char.toLower = keyword then some (text.drop keyword.length)
  else none

/-- Drops characters of a class from both ends. -/
def strip (drop : Char → Bool) (text : List Char) : List Char :=
  ((text.dropWhile drop).reverse.dropWhile drop).reverse

/-- Either quote may enclose a quantity. -/
def isQuote (c : Char) : Bool := c == '\'' || c == '"'

/-- What separates the components of a quantity. -/
def isSeparator (c : Char) : Bool := c == ':' || c == '-' || Text.isBlank c

/-- One sign in front of a quantity: whether it is a minus, and what follows. -/
def takeSign : List Char → Bool × List Char
  | '-' :: rest => (true, rest)
  | '+' :: rest => (false, rest)
  | text => (false, text)

/-- The components of a quantity without its sign. -/
def readComponents (text : List Char) : Option (List Int) :=
  ((Text.splitAt isSeparator text).filter (!·.isEmpty)).mapM Decimal.readInt64

/-- Pads components with zeros on the left up to a count. -/
def padComponents (count : Nat) (components : List Int) : Option (List Int) :=
  if components.isEmpty || components.length > count then none
  else some (List.replicate (count - components.length) 0 ++ components)

/-- Reads the quantity of a unit. -/
def readQuantity (unit : IntervalUnit) (quantity : List Char) : Option Duration :=
  let (negative, body) := takeSign (Text.trim (strip isQuote quantity))
  (readComponents body).bind fun components =>
    (padComponents unit.components components).bind fun padded =>
      Duration.ofComponents? unit (if negative then padded.map (- ·) else padded)

/-- Joins words with single spaces. -/
def joinWords : List (List Char) → List Char
  | [] => []
  | [word] => word
  | word :: rest => word ++ ' ' :: joinWords rest

/-- Reads an interval: after the keyword the last word is the unit and the words
before it, at least one, are the quantity. -/
def read (text : List Char) : Option Interval :=
  (afterKeyword? (Text.trim text)).bind fun rest =>
    let words := Text.words rest
    match words.getLast?, words.dropLast with
    | some unitWord, first :: others =>
      (IntervalUnit.ofName? (Text.lower unitWord)).bind fun unit =>
        (readQuantity unit (joinWords (first :: others))).map fun duration => ⟨unit, duration⟩
    | _, _ => none

end Interval

end DialectBridge.Calendar
