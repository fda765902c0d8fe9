import DialectBridge.Decimal.Integer

/-!
# Error codes

Every failure carries a stable number; its thousands select the category. The
written form is a fixed stem and the number.
-/

namespace DialectBridge.Diagnostic

/-- Which part of the system a failure belongs to. -/
inductive Category where
  | function
  | schema
  | config
  | engine
  | internal
  deriving DecidableEq, Repr

/-- The name of a category. -/
def Category.name : Category → String
  | function => "Function"
  | schema => "Schema"
  | config => "Config"
  | engine => "Engine"
  | internal => "Internal"

/-- The failures that have a code. -/
inductive Code where
  | unsupportedFunction
  | arityMismatch
  | malformedInterval
  | invalidDateValue
  | invalidPattern
  | invalidArgument
  | statementFailed
  | contentionExhausted
  | rewriteFailed
  | emptyBatch
  | invalidConfig
  | invalidDatabasePath
  | engineFailure
  | engineBusy
  | connectionFailed
  | serializationFailed
  | internalPanic
  | unknown
  deriving DecidableEq, Repr, Inhabited

namespace Code

/-- Every code, by number. -/
def all : List Code :=
  [unsupportedFunction, arityMismatch, malformedInterval, invalidDateValue, invalidPattern,
   invalidArgument, statementFailed, contentionExhausted, rewriteFailed, emptyBatch,
   invalidConfig, invalidDatabasePath, engineFailure, engineBusy, connectionFailed,
   serializationFailed, internalPanic, unknown]

/-- The number of a code. -/
def number : Code → Nat
  | unsupportedFunction => 1001
  | arityMismatch => 1002
  | malformedInterval => 1003
  | invalidDateValue => 1004
  | invalidPattern => 1005
  | invalidArgument => 1006
  | statementFailed => 2001
  | contentionExhausted => 2002
  | rewriteFailed => 2003
  | emptyBatch => 2004
  | invalidConfig => 3001
  | invalidDatabasePath => 3002
  | engineFailure => 4001
  | engineBusy => 4002
  | connectionFailed => 4003
  | serializationFailed => 5002
  | internalPanic => 5003
  | unknown => 9999

/-- The documented name of a code. -/
def name : Code → String
  | unsupportedFunction => "UnsupportedFunction"
  | arityMismatch => "ArityMismatch"
  | malformedInterval => "MalformedInterval"
  | invalidDateValue => "InvalidDateValue"
  | invalidPattern => "InvalidPattern"
  | invalidArgument => "InvalidArgument"
  | statementFailed => "StatementFailed"
  | contentionExhausted => "ContentionExhausted"
  | rewriteFailed => "RewriteFailed"
  | emptyBatch => "EmptyBatch"
  | invalidConfig => "InvalidConfig"
  | invalidDatabasePath => "InvalidDatabasePath"
  | engineFailure => "EngineFailure"
  | engineBusy => "EngineBusy"
  | connectionFailed => "ConnectionFailed"
  | serializationFailed => "SerializationFailed"
  | internalPanic => "InternalPanic"
  | unknown => "Unknown"

/-- The category that the number selects; numbers outside the four public ranges are
internal. -/
def category (code : Code) : Category :=
  match code.number / 1000 with
  | 1 => .function
  | 2 => .schema
  | 3 => .config
  | 4 => .engine
  | _ => .internal

/-- What precedes the number in a written code. -/
def stem : List Char := "MYLITE-".toList

/-- The written form: the stem and the number in at least four digits. -/
def text (code : Code) : String :=
  String.ofList stem ++ Decimal.padded 4 code.number

/-- Why a text or a number is no code. -/
inductive Problem where
  | badForm
  | unknownText
  | unknownNumber (number : Nat)
  deriving DecidableEq, Repr

/-- The wording of a problem. -/
def Problem.message : Problem → String
  | badForm => "Invalid format"
  | unknownText => "Unknown code"
  | unknownNumber number => "Unknown error code: " ++ toString number

/-- The code with a number. -/
def ofNumber (number : Nat) : Except Problem Code :=
  match all.find? (·.number == number) with
  | some code => .ok code
  | none => .error (.unknownNumber number)

/-- Reads a number of sixteen bits, which a plus sign may precede. -/
def readNumber (text : List Char) : Option Nat :=
  let digits := match text with
    | '+' :: rest => rest
    | _ => text
  (Decimal.readNatural digits).filter (· < 0x10000)

/-- Reads a written code. -/
def ofText (text : String) : Except Problem Code :=
  if stem.isPrefixOf text.toList then
    match readNumber (text.toList.drop stem.length) with
    | none => .error .badForm
    | some number =>
      match ofNumber number with
      | .ok code => .ok code
      | .error _ => .error .unknownText
  else .error .badForm

end Code

end DialectBridge.Diagnostic
