import DialectBridge.Diagnostic.Code
import DialectBridge.Diagnostic.Suggestion
import DialectBridge.Json.Basic
import DialectBridge.Text.Lowercase

/-!
# Error reports

A report is a code and a message, with an optional context that a program can
inspect, an optional hint and an optional trace identifier. Its text form shows the
code, the message and the hint; its JSON form shows every part that is present.
-/

namespace DialectBridge.Diagnostic

/-- The phases of a schema installation. -/
inductive Phase where
  | rewrite
  | tables
  | indexes
  deriving DecidableEq, Repr

/-- The name of a phase. -/
def Phase.name : Phase → String
  | rewrite => "rewrite"
  | tables => "tables"
  | indexes => "indexes"

/-- Facts about a failure, by kind. -/
inductive Context where
  | unsupportedFunction (function : String) (known : List String)
  | arity (function expected : String) (actual : UInt64)
  | interval (text : String)
  | statement (phase : Phase) (statement diagnostic : String)
  | contention (attempts : UInt32) (statement : String)
  | config (filePath field : Option String)
  | generic (data : List (String × Json))

/-- A coded error. -/
structure Report where
  code : Code
  message : String
  context : Option Context := none
  hint : Option String := none
  traceId : Option String := none

/-- An optional text as a JSON value. -/
def nullable : Option String → Json
  | none => .null
  | some s => .text s

namespace Context

/-- The tag of a kind of context. -/
def tag : Context → String
  | unsupportedFunction .. => "unsupported_function"
  | arity .. => "arity"
  | interval .. => "interval"
  | statement .. => "statement"
  | contention .. => "contention"
  | config .. => "config"
  | generic .. => "generic"

/-- The facts, in order, as members of an object. -/
def members : Context → List (String × Json)
  | unsupportedFunction function known =>
    [("function", .text function), ("known_functions", .list (known.map .text))]
  | arity function expected actual =>
    [("function", .text function), ("expected", .text expected),
     ("actual", .whole actual.toNat)]
  | interval text => [("text", .text text)]
  | statement phase sql diagnostic =>
    [("phase", .text phase.name), ("statement", .text sql), ("diagnostic", .text diagnostic)]
  | contention attempts sql =>
    [("attempts", .whole attempts.toNat), ("statement", .text sql)]
  | config filePath field => [("file_path", nullable filePath), ("field", nullable field)]
  | generic data => data

/-- The JSON form: the tag and then the facts. -/
def toJson (context : Context) : Json := .object (("type", .text context.tag) :: context.members)

end Context

namespace Report

/-- A member for a part that may be absent. -/
def optionalMember (key : String) : Option Json → List (String × Json)
  | none => []
  | some value => [(key, value)]

/-- The JSON form. -/
def toJson (report : Report) : Json :=
  .object ([("code", .text report.code.text), ("message", .text report.message)] ++
    optionalMember "context" (report.context.map Context.toJson) ++
    optionalMember "hint" (report.hint.map .text) ++
    optionalMember "trace_id" (report.traceId.map .text))

/-- What separates a message from its hint in the text form. -/
def hintOpening : String := " (Hint: "

/-- The text form: the code in brackets, the message, and the hint if there is one. -/
def text (report : Report) : String :=
  "[" ++ report.code.text ++ "] " ++ report.message ++
    match report.hint with
    | none => ""
    | some hint => hintOpening ++ hint ++ ")"

/-- Whether the engine was merely busy. -/
def isContention (report : Report) : Bool := report.code == .engineBusy

/-- Sorted by code point. -/
def sortedNames (names : List String) : List String := names.mergeSort fun a b => !(b < a)

/-- The message for a function that has no emulation. -/
def unsupportedMessage (function : String) : String := "Unsupported function '" ++ function ++ "'"

/-- The hint when no known function has a similar name. -/
def noEmulationHint : String := "The statement rewriter emitted a function with no emulation"

/-- The report on a function that has no emulation. It suggests the known function
with the closest name, the first in order if there are several. -/
def unsupportedFunction (function : String) (known : List String) : Report :=
  let known := sortedNames known
  { code := .unsupportedFunction
    message := unsupportedMessage function
    context := some (.unsupportedFunction function known)
    hint := some (match closest (Text.lowercased function) known with
      | some name => "Did you mean '" ++ name ++ "'?"
      | none => noEmulationHint) }

end Report

end DialectBridge.Diagnostic
