import DialectBridge.Calendar.Interval
import DialectBridge.Calendar.Layout
import DialectBridge.Calendar.Specifier
import DialectBridge.Emulation.Environment
import DialectBridge.Emulation.Fault
import DialectBridge.Value

/-!
# Date functions

Dates arrive as text. Null arguments give null, and the zero date stands for no
moment: its parts are zero, and anything computed from it is null. Every function
takes the name that its faults mention.
-/

namespace DialectBridge.Emulation

open Calendar (Stamp Moment Interval)

/-- A text from characters. -/
def textValue (chars : List Char) : Value := .text (String.ofList chars)

/-- Reads a date argument; none for null. -/
def dateArgument (function : String) (value : Value) : Except Fault (Option Stamp) :=
  match value.asText? with
  | none => .ok none
  | some text =>
    match Stamp.read text.toList with
    | some stamp => .ok (some stamp)
    | none => .error (.invalidDate function text)

/-- A numeric part of a date. -/
def datePart (part : Moment → Int) (function : String) (value : Value) : Except Fault Value := do
  match ← dateArgument function value with
  | none => return .null
  | some .zero => return .integer 0
  | some (.at moment) => return .ofInt (part moment)

/-- The hours of a bare time: two or three numbers between colons, whatever dashes
precede them. -/
def bareHours (text : List Char) : Option Nat :=
  let parts := Text.splitAt (· == ':') ((Text.trim text).dropWhile (· == '-'))
  if parts.length < 2 || parts.length > 3 then none
  else (parts.mapM Decimal.readNat32).bind List.head?

/-- The hour of a date, or the hours of a bare time. -/
def hourPart (function : String) (value : Value) : Except Fault Value :=
  match value.asText? with
  | none => .ok .null
  | some text =>
    match Stamp.read text.toList with
    | some .zero => .ok (.integer 0)
    | some (.at moment) => .ok (.ofInt moment.clock.hour)
    | none =>
      match bareHours text.toList with
      | some hours => .ok (.ofInt hours)
      | none => .error (.invalidDate function text)

/-- The timestamp of a date. -/
def timestampOf (function : String) (value : Value) : Except Fault Value :=
  datePart Moment.timestamp function value

/-- The moment of a timestamp argument. -/
def momentArgument (function : String) (value : Value) : Except Fault Moment :=
  match value.toInt? with
  | none => .error (.invalidArgument function (.notTimestamp (value.asText?.getD "")))
  | some timestamp =>
    match Moment.ofTimestamp? timestamp with
    | some moment => .ok moment
    | none => .error (.invalidArgument function (.timestampOutOfRange timestamp))

/-- A timestamp as canonical text. -/
def fromTimestamp (function : String) (value : Value) : Except Fault Value :=
  match value with
  | .null => .ok .null
  | value => (momentArgument function value).map fun moment => .text (Calendar.writeMoment moment)

/-- A timestamp under a format; null for a null format. -/
def formatTimestamp (function : String) (value format : Value) : Except Fault Value :=
  match value with
  | .null => .ok .null
  | value => do
    let moment ← momentArgument function value
    match format.asText? with
    | none => return .null
    | some format => return textValue (Calendar.renderFormat moment format.toList)

/-- A date under a format. -/
def formatDate (function : String) (date format : Value) : Except Fault Value :=
  match format.asText? with
  | none => .ok .null
  | some format => do
    match ← dateArgument function date with
    | some (.at moment) => return textValue (Calendar.renderFormat moment format.toList)
    | _ => return .null

/-- A date to be shifted: what it reads as, and whether only its date is written. The
calls for the current date and time are recognised as text. -/
def shiftBase (function : String) (now : Moment) (date : String) :
    Except Fault (Option (Moment × Bool)) :=
  let word := String.ofList (Text.lower (Text.trim date.toList))
  if word == "curdate()" then .ok (some (.startOf now.date, true))
  else if word == "now()" then .ok (some (now, false))
  else match Stamp.read date.toList with
    | some (.at moment) => .ok (some (moment, false))
    | some .zero => .ok none
    | none => .error (.invalidDate function date)

/-- Shifts a date by an interval, backwards when subtracting. -/
def shiftDate (subtract : Bool) (function : String) (now : Moment) (date interval : Value) :
    Except Fault Value :=
  match date.asText?, interval.asText? with
  | some date, some text =>
    match Interval.read text.toList with
    | none => .error (.malformedInterval text)
    | some interval => do
      match ← shiftBase function now date with
      | none => return .null
      | some (base, dateOnly) =>
        match interval.duration.shift? base subtract with
        | none => throw (.invalidArgument function (.shiftOutOfRange date interval.unit))
        | some shifted =>
          let write := if dateOnly then Calendar.writeDate else Calendar.writeMoment
          return .text (write shifted)
  | _, _ => .ok .null

/-- Whole days from the second date to the first. -/
def dayDifference (function : String) (left right : Value) : Except Fault Value := do
  let left ← dateArgument function left
  let right ← dateArgument function right
  match left, right with
  | some (.at left), some (.at right) => return .ofInt (left.daysSince right)
  | _, _ => return .null

end DialectBridge.Emulation
