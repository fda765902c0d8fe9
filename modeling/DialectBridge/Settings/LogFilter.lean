import DialectBridge.Decimal.Integer
import DialectBridge.Text.Blank
import DialectBridge.Text.Category

/-!
# Log filters

A filter is a list of directives with commas between them. A directive gives a level
for everything, or names a target, a span and fields of the span and gives a level
for those; without one it asks for the finest.
-/

namespace DialectBridge.Settings

/-- How much is logged, from nothing to everything. -/
inductive LogLevel where
  | off
  | error
  | warn
  | info
  | debug
  | trace
  deriving DecidableEq, Repr

namespace LogLevel

/-- The levels by number, with their names. -/
def all : List (String × LogLevel) :=
  [("off", off), ("error", error), ("warn", warn), ("info", info), ("debug", debug),
   ("trace", trace)]

/-- Reads a level: its number, or its name in any case. -/
def read? (text : List Char) : Option LogLevel :=
  let digits := match text with
    | '+' :: rest => rest
    | _ => text
  match Decimal.readNatural digits with
  | some n => all[n]?.map (·.2)
  | none => all.lookup (String.ofList (text.map Char.toLower))

end LogLevel

/-- What a filter says about a part of the log. -/
structure LogDirective where
  target : Option (List Char)
  span : Option (List Char)
  fields : List (List Char)
  level : LogLevel

namespace LogDirective

/-- The marks around the fields of a span. -/
def openFields : Char := Char.ofNat 0x7B

/-- The mark after the fields of a span. -/
def closeFields : Char := Char.ofNat 0x7D

/-- Whether a target may start with a character. -/
def startsTarget (c : Char) : Bool := Text.isAlphanumeric c || c == '-' || c == ':' || c == '_'

/-- Reads the fields of a span after their opening mark. None may be empty, and the
closing mark has to be the last in the brackets. -/
def readFields (text : List Char) : Option (List (List Char) × List Char) :=
  let inside := text.takeWhile (· != closeFields)
  match text.dropWhile (· != closeFields) with
  | _ :: ']' :: rest =>
    let fields := Text.splitAt (· == ',') inside
    if fields.any List.isEmpty then none else some (fields, rest)
  | _ => none

/-- Reads a span after its opening bracket: its name, its fields and what follows the
closing bracket. -/
def readSpan (text : List Char) :
    Option (Option (List Char) × List (List Char) × List Char) :=
  let name := text.takeWhile fun c => c != ']' && c != openFields
  match text.drop name.length with
  | [] => none
  | mark :: rest =>
    if mark == ']' then some (some name, [], rest)
    else (readFields rest).map fun (fields, rest) =>
      (if name.isEmpty then none else some name, fields, rest)

/-- Reads what follows an equals sign. No level at all is the finest. -/
def readLevel (text : List Char) : Option LogLevel :=
  if text.isEmpty then some .trace else LogLevel.read? text

/-- Reads a directive without blanks around it. -/
def readTight (text : List Char) : Option LogDirective :=
  let target := text.takeWhile fun c => c != '=' && c != '['
  if !(text.head? == some '[' || target.head?.any startsTarget) then none
  else
    let target? := if target.isEmpty then none else some target
    match text.drop target.length with
    | [] =>
      match LogLevel.read? text with
      | some level => some ⟨none, none, [], level⟩
      | none => some ⟨some text, none, [], .trace⟩
    | '=' :: level => (readLevel level).map (⟨target?, none, [], ·⟩)
    | _ :: rest => do
      let (span, fields, rest) ← readSpan rest
      match rest with
      | [] => some ⟨target?, span, fields, .trace⟩
      | '=' :: level => (readLevel level).map (⟨target?, span, fields, ·⟩)
      | _ => none

/-- Reads a directive. Blanks around it do no harm unless it gives a level, which has
to be its very end. -/
def read? (text : List Char) : Option LogDirective :=
  let tight := Text.trim text
  if text != tight && tight.contains '=' then none else readTight tight

end LogDirective

/-- Reads a filter; empty directives are passed over. -/
def readLogFilter (text : String) : Option (List LogDirective) :=
  ((Text.splitAt (· == ',') text.toList).filter (!·.isEmpty)).mapM LogDirective.read?

/-- The filter in force: that of the environment if it reads as one, and otherwise
that of the settings. -/
def logFilter (environment : Option String) (level : String) : Option (List LogDirective) :=
  (environment.bind readLogFilter).or (readLogFilter level)

/-- What is said about a filter that cannot be read. -/
def invalidLevelMessage (level : String) : String :=
  "Invalid log level directive '" ++ level ++ "'"

end DialectBridge.Settings
