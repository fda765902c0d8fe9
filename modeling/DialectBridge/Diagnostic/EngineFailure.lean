import DialectBridge.Diagnostic.Report
import DialectBridge.Text.Blank
import DialectBridge.Text.Category

/-!
# Failures of the engine

The engine reports a result code with or without a message. Contention and a
database that cannot be opened are told from the code. Any other message is
inspected: it may name a function that does not exist, or it may be the text form of
a report that an emulated function raised, which is then taken apart again.
-/

namespace DialectBridge.Diagnostic

/-- How an engine call can fail. -/
inductive EngineFailure where
  | failed (code : Int) (message : Option String)
  | badStatement (code : Int) (message : String)
  | functionRaised (report : Report)
  | functionFailed (message : String)
  | parameterCount (given needed : Nat)
  | noRows
  | notReadOnly
  | returnedRows
  | badColumnName (name : String)
  | io (message : String)

/-- The engine's text for a result code. -/
def resultText : Int → String
  | 0 => "Successful result"
  | 1 => "SQL error or missing database"
  | 2 => "Internal logic error in SQLite"
  | 3 => "Access permission denied"
  | 4 => "Callback routine requested an abort"
  | 5 => "The database file is locked"
  | 6 => "A table in the database is locked"
  | 7 => "A malloc() failed"
  | 8 => "Attempt to write a readonly database"
  | 9 => "Operation terminated by sqlite3_interrupt()"
  | 10 => "Some kind of disk I/O error occurred"
  | 11 => "The database disk image is malformed"
  | 12 => "Unknown opcode in sqlite3_file_control()"
  | 13 => "Insertion failed because database is full"
  | 14 => "Unable to open the database file"
  | 15 => "Database lock protocol error"
  | 16 => "Database is empty"
  | 17 => "The database schema changed"
  | 18 => "String or BLOB exceeds size limit"
  | 19 => "Abort due to constraint violation"
  | 20 => "Data type mismatch"
  | 21 => "Library used incorrectly"
  | 22 => "Uses OS features not supported on host"
  | 23 => "Authorization denied"
  | 24 => "Auxiliary database format error"
  | 25 => "2nd parameter to sqlite3_bind out of range"
  | 26 => "File opened that is not a database file"
  | 27 => "Notifications from sqlite3_log()"
  | 28 => "Warnings from sqlite3_log()"
  | 100 => "sqlite3_step() has another row ready"
  | 101 => "sqlite3_step() has finished executing"
  | _ => "Unknown error code"

/-- Whether the primary part of a result code says busy or locked. -/
def isBusyCode (code : Int) : Bool := code % 256 == 5 || code % 256 == 6

/-- Whether the primary part of a result code says that the database cannot be
opened. -/
def isCannotOpenCode (code : Int) : Bool := code % 256 == 14

/-- The text before and after the last occurrence of a stretch. -/
def cutAtLast (pattern : List Char) : List Char → Option (List Char × List Char)
  | [] => none
  | c :: rest =>
    match cutAtLast pattern rest with
    | some (before, after) => some (c :: before, after)
    | none =>
      if pattern.isPrefixOf (c :: rest) then some ([], (c :: rest).drop pattern.length) else none

/-- What the engine writes in front of the name of a function it does not know. -/
def unknownFunctionMark : List Char := "no such function: ".toList

/-- A report on an engine message that carries no code. -/
def plainFailure (message : String) : Report := { code := .engineFailure, message }

/-- The report on a function that the engine does not know: the longest name at the
start of the text. -/
def unknownFunction (text : List Char) : Report :=
  let name := String.ofList (text.takeWhile fun c => Text.isAlphanumeric c || c == '_')
  { code := .unsupportedFunction
    message := Report.unsupportedMessage name
    context := some (.unsupportedFunction name []) }

/-- Takes a message and its hint apart at the last hint opening. A hint without its
closing parenthesis is dropped. -/
def splitHint (text : List Char) : List Char × Option (List Char) :=
  match cutAtLast Report.hintOpening.toList text with
  | none => (text, none)
  | some (message, hint) =>
    if hint.getLast? = some ')' then (message, some hint.dropLast) else (message, none)

/-- Takes the text form of a report apart; none if it does not start with a code in
brackets. -/
def ofReportText? (text : List Char) : Option Report :=
  match text with
  | '[' :: rest =>
    match Text.cutAtFirst [']', ' '] rest with
    | none => none
    | some (code, rest) =>
      match Code.ofText (String.ofList code) with
      | .error _ => none
      | .ok code =>
        let (message, hint) := splitHint rest
        some { code, message := String.ofList message, hint := hint.map String.ofList }
  | _ => none

/-- The report that an engine message stands for. -/
def ofDiagnostic (message : String) : Report :=
  match Text.cutAtFirst unknownFunctionMark message.toList with
  | some (_, name) => unknownFunction name
  | none => (ofReportText? message.toList).getD (plainFailure message)

/-- The report on a failure. -/
def Report.ofFailure : EngineFailure → Report
  | .failed code message =>
    let diagnostic := message.getD ("Error code " ++ toString code ++ ": " ++ resultText code)
    if isBusyCode code then
      { code := .engineBusy
        message := diagnostic
        hint := some "Another connection holds a lock on the database" }
    else if isCannotOpenCode code then { code := .connectionFailed, message := diagnostic }
    else ofDiagnostic diagnostic
  | .badStatement code message =>
    if isBusyCode code then { code := .engineBusy, message } else ofDiagnostic message
  | .functionRaised report => report
  | .functionFailed message => ofDiagnostic message
  | .parameterCount given needed =>
    plainFailure ("Wrong number of parameters passed to query. Got " ++ toString given ++
      ", needed " ++ toString needed)
  | .noRows => plainFailure "Query returned no rows"
  | .notReadOnly => plainFailure "Query is not read-only"
  | .returnedRows => plainFailure "Execute returned results - did you mean to call query?"
  | .badColumnName name => plainFailure ("Invalid column name: " ++ name)
  | .io message => plainFailure message

end DialectBridge.Diagnostic
