import DialectBridge.Diagnostic.Report
import DialectBridge.Json.Reader

/-!
# Reports from JSON

Decoding accepts what encoding writes and somewhat more: members in any order,
unknown members, null for an absent part, and the parts of a report or of a context
as a list in order. A member that occurs twice is refused. Facts of no certain kind
are kept in the order of their names.
-/

namespace DialectBridge.Diagnostic

/-- A member that may be absent; none if it occurs twice. -/
def lookup (members : List (String × Json)) (key : String) : Option (Option Json) :=
  match members.filter (·.1 == key) with
  | [] => some none
  | [(_, value)] => some (some value)
  | _ => none

/-- A member that has to be present, decoded. -/
def required (members : List (String × Json)) (key : String) (decode : Json → Option α) :
    Option α := do
  decode (← ← lookup members key)

/-- A text, or none for null. -/
def decodeNullable : Json → Option (Option String)
  | .null => some none
  | .text s => some (some s)
  | _ => none

/-- A text that may be absent or null. -/
def optionalText (members : List (String × Json)) (key : String) : Option (Option String) := do
  match ← lookup members key with
  | none => return none
  | some value => decodeNullable value

/-- A list of texts. -/
def decodeTexts : Json → Option (List String)
  | .list items => items.mapM Json.text?
  | _ => none

/-- A whole number below a limit. -/
def decodeBelow (limit : Nat) : Json → Option Nat
  | .whole n => if 0 ≤ n ∧ n < limit then some n.toNat else none
  | _ => none

/-- A count of 64 bits. -/
def decodeCount (value : Json) : Option UInt64 :=
  (decodeBelow 0x10000000000000000 value).map UInt64.ofNat

/-- A number of attempts, of 32 bits. -/
def decodeAttempts (value : Json) : Option UInt32 :=
  (decodeBelow 0x100000000 value).map UInt32.ofNat

/-- The phase with a name. -/
def Phase.ofName? : String → Option Phase
  | "rewrite" => some .rewrite
  | "tables" => some .tables
  | "indexes" => some .indexes
  | _ => none

/-- A phase: its name, or an object with the name as its only member and nothing in
it. -/
def decodePhase : Json → Option Phase
  | .text name => Phase.ofName? name
  | .object [(name, .null)] => Phase.ofName? name
  | .object [(name, .object [])] => Phase.ofName? name
  | _ => none

namespace Context

/-- The facts of a tagged object. -/
def ofMembers? (tag : String) (members : List (String × Json)) : Option Context :=
  match tag with
  | "unsupported_function" => do
    return unsupportedFunction (← required members "function" Json.text?)
      (← required members "known_functions" decodeTexts)
  | "arity" => do
    return arity (← required members "function" Json.text?)
      (← required members "expected" Json.text?) (← required members "actual" decodeCount)
  | "interval" => do
    return interval (← required members "text" Json.text?)
  | "statement" => do
    return statement (← required members "phase" decodePhase)
      (← required members "statement" Json.text?) (← required members "diagnostic" Json.text?)
  | "contention" => do
    return contention (← required members "attempts" decodeAttempts)
      (← required members "statement" Json.text?)
  | "config" => do
    return config (← optionalText members "file_path") (← optionalText members "field")
  | "generic" => some (generic (Json.sortedMembers members))
  | _ => none

/-- The facts of a tagged list. -/
def ofItems? (tag : String) (items : List Json) : Option Context :=
  match tag, items with
  | "unsupported_function", [function, known] => do
    return unsupportedFunction (← function.text?) (← decodeTexts known)
  | "arity", [function, expected, actual] => do
    return arity (← function.text?) (← expected.text?) (← decodeCount actual)
  | "interval", [value] => do
    return interval (← value.text?)
  | "statement", [phase, value, diagnostic] => do
    return statement (← decodePhase phase) (← value.text?) (← diagnostic.text?)
  | "contention", [attempts, value] => do
    return contention (← decodeAttempts attempts) (← value.text?)
  | "config", [filePath, field] => do
    return config (← decodeNullable filePath) (← decodeNullable field)
  | _, _ => none

/-- Decodes a context: an object with a tag member, or a list that starts with the
tag. -/
def ofJson? : Json → Option Context
  | .object members => do
    let tag ← required members "type" Json.text?
    ofMembers? tag (members.filter (·.1 != "type"))
  | .list (.text tag :: items) => ofItems? tag items
  | _ => none

end Context

namespace Report

/-- A written code. -/
def decodeCode (value : Json) : Option Code := do
  match Code.ofText (← value.text?) with
  | .ok code => some code
  | .error _ => none

/-- A context, or none for null. -/
def decodeContext : Json → Option (Option Context)
  | .null => some none
  | value => (Context.ofJson? value).map some

/-- Decodes a report. -/
def ofJson? : Json → Option Report
  | .object members => do
    let code ← required members "code" decodeCode
    let message ← required members "message" Json.text?
    let context ← match ← lookup members "context" with
      | none => some none
      | some value => decodeContext value
    let hint ← optionalText members "hint"
    let traceId ← optionalText members "trace_id"
    return { code, message, context, hint, traceId }
  | .list [code, message, context, hint, traceId] => do
    return { code := ← decodeCode code, message := ← message.text?,
             context := ← decodeContext context, hint := ← decodeNullable hint,
             traceId := ← decodeNullable traceId }
  | _ => none

/-- Reads a report from a JSON document. -/
def read (document : String) : Option Report := (Json.read document).bind ofJson?

end Report

end DialectBridge.Diagnostic
