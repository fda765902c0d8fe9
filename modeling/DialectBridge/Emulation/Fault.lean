import DialectBridge.Emulation.Arity
import DialectBridge.Calendar.Interval
import DialectBridge.Diagnostic.Report

/-!
# What can go wrong in a call

A fault is the cause of a failed call. Each has a message, and a coded report that
hosts can inspect.
-/

namespace DialectBridge.Emulation

open Diagnostic (Report Code)

/-- What is wrong with an argument. -/
inductive ArgumentProblem where
  | positionNotInteger
  | notTimestamp (text : String)
  | timestampOutOfRange (timestamp : Int)
  | shiftOutOfRange (date : String) (unit : Calendar.IntervalUnit)
  | notEvaluable
  deriving DecidableEq, Repr

/-- The wording of a problem. -/
def ArgumentProblem.message : ArgumentProblem → String
  | positionNotInteger => "position must be an integer"
  | notTimestamp text => "'" ++ text ++ "' is not a unix timestamp"
  | timestampOutOfRange timestamp => "timestamp " ++ toString timestamp ++ " is out of range"
  | shiftOutOfRange date unit =>
    "'" ++ date ++ "' shifted by " ++ unit.name ++ " is out of range"
  | notEvaluable => "syntax-rewrite function cannot be evaluated to a value"

/-- The cause of a failed call. -/
inductive Fault where
  | unsupported (name : String) (known : List String)
  | arity (function : String) (expected : Arity) (actual : Nat)
  | malformedInterval (text : String)
  | invalidDate (function value : String)
  | invalidPattern
  | invalidArgument (function : String) (problem : ArgumentProblem)
  | unreadableFragment
  deriving DecidableEq, Repr

namespace Fault

/-- The message on a wrong number of arguments. -/
def arityMessage (function : String) (expected : Arity) (actual : Nat) : String :=
  function ++ "() expects " ++ expected.text ++ " argument(s), got " ++ toString actual

/-- The message of a fault. -/
def message : Fault → String
  | unsupported name _ => Report.unsupportedMessage name
  | arity function expected actual => arityMessage function expected actual
  | malformedInterval text => "Malformed interval expression '" ++ text ++ "'"
  | invalidDate function value =>
    "Invalid date value '" ++ value ++ "' passed to " ++ function ++ "()"
  | invalidPattern => "Invalid regular expression"
  | invalidArgument function problem =>
    "Invalid argument for " ++ function ++ "(): " ++ problem.message
  | unreadableFragment => "SQL Parser error"

/-- The coded report on a fault. The reasons that a pattern or a fragment cannot be
read are not part of it. -/
def report (fault : Fault) : Report :=
  match fault with
  | unsupported name known => Report.unsupportedFunction name known
  | arity function expected actual =>
    { code := .arityMismatch
      message := fault.message
      context := some (.arity function expected.text (UInt64.ofNat actual)) }
  | malformedInterval text =>
    { code := .malformedInterval
      message := fault.message
      context := some (.interval text)
      hint := some "Expected INTERVAL <quantity> <unit> with a SECOND..YEAR or compound unit" }
  | invalidDate _ _ =>
    { code := .invalidDateValue
      message := fault.message
      hint := some "Dates are expected as 'YYYY-MM-DD' or 'YYYY-MM-DD HH:MM:SS'" }
  | invalidPattern => { code := .invalidPattern, message := fault.message ++ ":" }
  | invalidArgument _ _ => { code := .invalidArgument, message := fault.message }
  | unreadableFragment =>
    { code := .rewriteFailed
      message := "Rewritten fragment failed to parse:"
      hint := some "A syntax-rewrite function produced SQL the parser rejected" }

end Fault

end DialectBridge.Emulation
