import DialectBridge.Emulation.Dates
import DialectBridge.Emulation.Numbers
import DialectBridge.Emulation.Strings

/-!
# The emulated functions

An emulated function either computes a value or is rewritten to a native expression
of the engine. A function has one canonical name, by which its faults call it, and
may have further names.
-/

namespace DialectBridge.Emulation

/-- The functions that compute a value. -/
inductive ValueFunction where
  | month
  | year
  | day
  | hour
  | minute
  | second
  | unixTimestamp
  | now
  | currentDate
  | utcDate
  | utcTime
  | utcTimestamp
  | fromUnixTime
  | dateFormat
  | dateAdd
  | dateSub
  | dateDiff
  | charLength
  | md5
  | concat
  | field
  | locate
  | regexp
  | inetNtoa
  | inetAton
  | rand
  | log
  | isNull
  | choose
  | version
  deriving DecidableEq, Repr

namespace ValueFunction

/-- The canonical name. -/
def name : ValueFunction → String
  | month => "month"
  | year => "year"
  | day => "day"
  | hour => "hour"
  | minute => "minute"
  | second => "second"
  | unixTimestamp => "unix_timestamp"
  | now => "now"
  | currentDate => "curdate"
  | utcDate => "utc_date"
  | utcTime => "utc_time"
  | utcTimestamp => "utc_timestamp"
  | fromUnixTime => "from_unixtime"
  | dateFormat => "date_format"
  | dateAdd => "date_add"
  | dateSub => "date_sub"
  | dateDiff => "datediff"
  | charLength => "char_length"
  | md5 => "md5"
  | concat => "concat"
  | field => "field"
  | locate => "locate"
  | regexp => "regexp"
  | inetNtoa => "inet_ntoa"
  | inetAton => "inet_aton"
  | rand => "rand"
  | log => "log"
  | isNull => "isnull"
  | choose => "_if"
  | version => "version"

/-- The accepted numbers of arguments. -/
def arity : ValueFunction → Arity
  | month | year | day | hour | minute | second => .exactly 1
  | unixTimestamp => .between 0 1
  | now | currentDate | utcDate | utcTime | utcTimestamp => .exactly 0
  | fromUnixTime => .between 1 2
  | dateFormat | dateAdd | dateSub | dateDiff => .exactly 2
  | charLength | md5 => .exactly 1
  | concat | field => .atLeast 0
  | locate => .between 2 3
  | regexp => .exactly 2
  | inetNtoa | inetAton => .exactly 1
  | rand => .exactly 0
  | log => .atLeast 0
  | isNull => .exactly 1
  | choose => .exactly 3
  | version => .exactly 0

/-- Whether equal arguments always give equal results, so that the engine may reuse
them. -/
def isDeterministic : ValueFunction → Bool
  | unixTimestamp | now | currentDate | utcDate | utcTime | utcTimestamp | fromUnixTime
  | dateAdd | dateSub | rand => false
  | _ => true

/-- The result on arguments. Argument counts that the arity does not accept are
faults. -/
def apply (function : ValueFunction) (env : Environment) (arguments : List Value) :
    Except Fault Value :=
  match function, arguments with
  | month, [date] => datePart (·.date.month) function.name date
  | year, [date] => datePart (·.date.year) function.name date
  | day, [date] => datePart (·.date.day) function.name date
  | hour, [date] => hourPart function.name date
  | minute, [date] => datePart (·.clock.minute) function.name date
  | second, [date] => datePart (·.clock.second) function.name date
  | unixTimestamp, [] => .ok (.ofInt env.now.timestamp)
  | unixTimestamp, [date] => timestampOf function.name date
  | now, [] => .ok (.text (Calendar.writeMoment env.now))
  | currentDate, [] => .ok (.text (Calendar.writeDate env.now))
  | utcDate, [] => .ok (.text (Calendar.writeDate env.now))
  | utcTime, [] => .ok (.text (Calendar.writeTime env.now))
  | utcTimestamp, [] => .ok (.text (Calendar.writeMoment env.now))
  | fromUnixTime, [timestamp] => fromTimestamp function.name timestamp
  | fromUnixTime, [timestamp, format] => formatTimestamp function.name timestamp format
  | dateFormat, [date, format] => formatDate function.name date format
  | dateAdd, [date, interval] => shiftDate false function.name env.now date interval
  | dateSub, [date, interval] => shiftDate true function.name env.now date interval
  | dateDiff, [left, right] => dayDifference function.name left right
  | charLength, [text] => .ok (Emulation.charLength text)
  | md5, [message] => .ok (digestOf message)
  | concat, values => .ok (concatenate values)
  | field, values => .ok (fieldPosition env.catalog values)
  | locate, [needle, text] => Emulation.locate function.name needle text none
  | locate, [needle, text, start] => Emulation.locate function.name needle text (some start)
  | regexp, [text, pattern] => matchesPattern text pattern
  | inetNtoa, [address] => .ok (writeAddress address)
  | inetAton, [address] => .ok (readAddress address)
  | rand, [] => .ok (.integer (if env.coin then 1 else 0))
  | log, values => .ok (logarithm values)
  | isNull, [value] => .ok (Emulation.isNull value)
  | choose, [condition, yes, no] => .ok (Emulation.choose condition yes no)
  | version, [] => .ok (.text env.version)
  | _, _ => .error (.arity function.name function.arity arguments.length)

end ValueFunction

/-- The functions that are rewritten. -/
inductive RewriteFunction where
  | substring
  | ucase
  | lcase
  | least
  | greatest
  | getLock
  | releaseLock
  deriving DecidableEq, Repr

namespace RewriteFunction

/-- The canonical name. -/
def name : RewriteFunction → String
  | substring => "substring"
  | ucase => "ucase"
  | lcase => "lcase"
  | least => "least"
  | greatest => "greatest"
  | getLock => "get_lock"
  | releaseLock => "release_lock"

/-- The accepted numbers of arguments. -/
def arity : RewriteFunction → Arity
  | substring => .between 2 3
  | ucase => .exactly 1
  | lcase => .exactly 1
  | least => .atLeast 2
  | greatest => .atLeast 2
  | getLock => .exactly 2
  | releaseLock => .exactly 1

/-- The engine's function that takes the arguments as they are; locks have none. -/
def native? : RewriteFunction → Option String
  | substring => some "substr"
  | ucase => some "upper"
  | lcase => some "lower"
  | least => some "min"
  | greatest => some "max"
  | getLock => none
  | releaseLock => none

/-- What stands for a lock: a condition that always holds. -/
def lockCondition : String := "1=1"

/-- The native expression on arguments in the query language. -/
def fragment (function : RewriteFunction) (arguments : List String) : String :=
  match function.native? with
  | none => lockCondition
  | some native => native ++ "(" ++ ", ".intercalate arguments ++ ")"

end RewriteFunction

/-- An emulated function of either kind. -/
inductive Function where
  | value (function : ValueFunction)
  | rewrite (function : RewriteFunction)
  deriving DecidableEq, Repr

namespace Function

/-- The canonical name. -/
def name : Function → String
  | value function => function.name
  | rewrite function => function.name

/-- The accepted numbers of arguments. -/
def arity : Function → Arity
  | value function => function.arity
  | rewrite function => function.arity

/-- Whether equal arguments always give equal results. -/
def isDeterministic : Function → Bool
  | value function => function.isDeterministic
  | rewrite _ => true

/-- Whether the function is rewritten. -/
def isRewrite : Function → Bool
  | value _ => false
  | rewrite _ => true

end Function

end DialectBridge.Emulation
