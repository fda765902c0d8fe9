import DialectBridge.Emulation.Function

/-!
# The function table

Functions are looked up by name, whatever the case of its letters. A call of a value
function gives its value; a call of a rewritten function gives its native expression
on the literals of the arguments.
-/

namespace DialectBridge.Emulation

/-- Every name, in order of code points, with its function. -/
def table : List (String × Function) :=
  [("_if", .value .choose),
   ("adddate", .value .dateAdd),
   ("char_length", .value .charLength),
   ("concat", .value .concat),
   ("curdate", .value .currentDate),
   ("date_add", .value .dateAdd),
   ("date_format", .value .dateFormat),
   ("date_sub", .value .dateSub),
   ("datediff", .value .dateDiff),
   ("day", .value .day),
   ("dayofmonth", .value .day),
   ("field", .value .field),
   ("from_unixtime", .value .fromUnixTime),
   ("get_lock", .rewrite .getLock),
   ("greatest", .rewrite .greatest),
   ("hour", .value .hour),
   ("if", .value .choose),
   ("inet_aton", .value .inetAton),
   ("inet_ntoa", .value .inetNtoa),
   ("isnull", .value .isNull),
   ("lcase", .rewrite .lcase),
   ("least", .rewrite .least),
   ("localtime", .value .now),
   ("localtimestamp", .value .now),
   ("locate", .value .locate),
   ("log", .value .log),
   ("md5", .value .md5),
   ("minute", .value .minute),
   ("month", .value .month),
   ("now", .value .now),
   ("rand", .value .rand),
   ("regexp", .value .regexp),
   ("regexpp", .value .regexp),
   ("release_lock", .rewrite .releaseLock),
   ("second", .value .second),
   ("subdate", .value .dateSub),
   ("substring", .rewrite .substring),
   ("ucase", .rewrite .ucase),
   ("unix_timestamp", .value .unixTimestamp),
   ("utc_date", .value .utcDate),
   ("utc_time", .value .utcTime),
   ("utc_timestamp", .value .utcTimestamp),
   ("version", .value .version),
   ("year", .value .year)]

/-- Every name, in order. -/
def names : List String := table.map Prod.fst

/-- The names of rewritten functions, in order. -/
def rewriteNames : List String := (table.filter (·.2.isRewrite)).map Prod.fst

/-- The value functions with each of their names, in order. -/
def valueFunctions : List (String × Function) := table.filter (!·.2.isRewrite)

/-- The function with a name. -/
def lookup (name : String) : Option Function := table.lookup (Text.lowercased name)

/-- The function with a name, or the fault that there is none. -/
def resolve (name : String) : Except Fault Function :=
  match lookup name with
  | some function => .ok function
  | none => .error (.unsupported name names)

/-- Refuses a number of arguments that a function does not accept. -/
def checkArity (function : Function) (count : Nat) : Except Fault Unit :=
  if function.arity.accepts count then .ok ()
  else .error (.arity function.name function.arity count)

/-- What a call gives. -/
inductive Outcome where
  | value (value : Value)
  | fragment (sql : String)

/-- Calls a function of either kind. -/
def call (env : Environment) (name : String) (arguments : List Value) : Except Fault Outcome := do
  let function ← resolve name
  checkArity function arguments.length
  match function with
  | .value function => return .value (← function.apply env arguments)
  | .rewrite function => return .fragment (function.fragment (arguments.map Value.sqlLiteral))

/-- Calls a value function; a rewritten function has no value. -/
def evaluate (env : Environment) (name : String) (arguments : List Value) :
    Except Fault Value := do
  match ← call env name arguments with
  | .value value => return value
  | .fragment _ => throw (.invalidArgument (← resolve name).name .notEvaluable)

/-- The native expression of a rewritten function on arguments in the query language;
none if the name is not that of a rewritten function. -/
def fragment (name : String) (arguments : List String) : Except Fault (Option String) :=
  match lookup name with
  | some (.rewrite function) => do
    checkArity (.rewrite function) arguments.length
    return some (function.fragment arguments)
  | _ => .ok none

end DialectBridge.Emulation
