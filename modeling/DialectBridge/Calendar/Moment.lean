import DialectBridge.Calendar.Date
import DialectBridge.Decimal.Integer

/-!
# Moments

A moment is a date with a time of day. A minute may end in a leap second, which is
kept as the second before it with a full extra second of nanoseconds. Moments are
shifted by whole seconds and by months, and subtracted.
-/

namespace DialectBridge.Calendar

/-- The nanoseconds of a second. -/
def nanosPerSecond : Nat := 1000000000

/-- The seconds of a day. -/
def secondsPerDay : Nat := 86400

/-- A time of day: whole seconds since midnight and nanoseconds, which exceed one
second exactly during a leap second. -/
structure Clock where
  seconds : Nat
  nanos : Nat
  seconds_lt : seconds < secondsPerDay
  nanos_lt : nanos < 2 * nanosPerSecond
  deriving DecidableEq

namespace Clock

/-- The time with the given parts, if they are in bounds. -/
def ofParts? (seconds nanos : Nat) : Option Clock :=
  if seconds_lt : seconds < secondsPerDay then
    if nanos_lt : nanos < 2 * nanosPerSecond then some ⟨seconds, nanos, seconds_lt, nanos_lt⟩
    else none
  else none

/-- The start of the day. -/
def midnight : Clock := ⟨0, 0, by decide, by decide⟩

/-- Whether the time falls in a leap second. -/
def isLeap (clock : Clock) : Bool := nanosPerSecond ≤ clock.nanos

def hour (clock : Clock) : Nat := clock.seconds / 3600

def minute (clock : Clock) : Nat := clock.seconds / 60 % 60

/-- The second of the minute, which a leap second does not advance. -/
def second (clock : Clock) : Nat := clock.seconds % 60

/-- The second of the minute as written: a leap second is written 60. -/
def writtenSecond (clock : Clock) : Nat := clock.second + clock.nanos / nanosPerSecond

/-- The nanoseconds within the written second. -/
def fraction (clock : Clock) : Nat := clock.nanos % nanosPerSecond

end Clock

/-- A date and a time of day. -/
structure Moment where
  date : Date
  clock : Clock
  deriving DecidableEq

/-- The greatest whole number of seconds that a duration can have, either sign: the
64-bit limit in milliseconds. -/
def maxDurationSeconds : Int := Decimal.maxInt64 / 1000

/-- Keeps a number of seconds that a duration can have. -/
def duration? (seconds : Int) : Option Int :=
  if -maxDurationSeconds ≤ seconds ∧ seconds ≤ maxDurationSeconds then some seconds else none

namespace Moment

/-- Midnight at the start of a date. -/
def startOf (date : Date) : Moment := ⟨date, .midnight⟩

/-- Seconds since the start of 1970; fractions and leap seconds do not count. -/
def timestamp (moment : Moment) : Int :=
  moment.date.toDay * secondsPerDay + moment.clock.seconds

/-- The moment of a timestamp, with the given nanoseconds. -/
def atSecond? (timestamp : Int) (nanos : Nat) : Option Moment :=
  match Date.ofDay? (timestamp / secondsPerDay),
      Clock.ofParts? (timestamp % secondsPerDay).toNat nanos with
  | some date, some clock => some ⟨date, clock⟩
  | _, _ => none

/-- The moment of a timestamp. -/
def ofTimestamp? (timestamp : Int) : Option Moment := atSecond? timestamp 0

/-- The moment a number of seconds later. Leaving a leap second forwards starts
from the second it extends, and backwards from the second after it. -/
def addSeconds? (moment : Moment) (seconds : Int) : Option Moment :=
  if seconds = 0 then some moment
  else if moment.clock.isLeap then
    let start := if seconds < 0 then moment.timestamp + 1 else moment.timestamp
    atSecond? (start + seconds) (moment.clock.nanos - nanosPerSecond)
  else atSecond? (moment.timestamp + seconds) moment.clock.nanos

/-- The moment some months later, at the same time of day. -/
def addMonths? (moment : Moment) (months : Int) : Option Moment :=
  (moment.date.addMonths? months).map fun date => ⟨date, moment.clock⟩

/-- The leap second that a difference of times of day passes over: one when the
right one is a leap second before the left one, minus one in the mirrored case. -/
def leapCorrection (left right : Clock) : Int :=
  if right.seconds < left.seconds ∧ right.isLeap then 1
  else if left.seconds < right.seconds ∧ left.isLeap then -1
  else 0

/-- Nanoseconds from one moment to another. -/
def nanosSince (moment other : Moment) : Int :=
  (moment.timestamp - other.timestamp + leapCorrection moment.clock other.clock) *
    nanosPerSecond + ((moment.clock.nanos : Int) - other.clock.nanos)

/-- Whole days from one moment to another, toward zero. -/
def daysSince (moment other : Moment) : Int :=
  ((moment.nanosSince other).tdiv nanosPerSecond).tdiv secondsPerDay

end Moment

end DialectBridge.Calendar
