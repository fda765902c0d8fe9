import DialectBridge.Database.Connection
import DialectBridge.Schema.Installer
import DialectBridge.Settings.Location
import DialectBridge.Statement.Rewriting

/-!
# Sessions

A session is an open database together with what emulated functions can read and how
schemas are installed. Statements are rewritten before the engine sees them. What the
engine reports is turned into a report of this library; a fault of the rewriting
itself keeps its context, while one that passed through the engine is known only by
its text.
-/

namespace DialectBridge

open Diagnostic (Report EngineFailure)

/-- A session. -/
structure Session where
  environment : Emulation.Environment
  installer : Schema.Installer
  connection : Database.Connection := {}

namespace Session

/-! ## Opening -/

/-- The parts of a path, without those that say nothing. -/
def parts (path : List Char) : List (List Char) :=
  (Text.splitAt (· == '/') path).filter fun part => !part.isEmpty && part != ['.']

/-- The path of the directory of a file, as it is written. -/
def directoryOf (path : List Char) : List Char :=
  let bare := (path.reverse.dropWhile (· == '/')).dropWhile (· != '/')
  (bare.dropWhile (· == '/')).reverse

/-- The failure to make the directory of a database when a regular file is in the way:
where the directory should be, or above it. -/
def directoryFault? (files : List String) (location : String) : Option Report :=
  let directory := directoryOf location.toList
  let blocked (cause : String) : Report :=
    { code := .connectionFailed
      message := "Cannot create database directory " ++ String.ofList directory ++ ": " ++ cause }
  let wanted := parts directory
  let others := files.map fun file => parts file.toList
  if directory.isEmpty then none
  else if others.contains wanted then some (blocked "File exists (os error 17)")
  else if others.any (·.isPrefixOf wanted) then some (blocked "Not a directory (os error 20)")
  else none

/-- The location of the database that settings name, among regular files that are
there already. -/
def locate (settings : Settings.DatabaseSettings) (files : List String) :
    Except Report String :=
  match settings.location with
  | .error fault => .error fault.report
  | .ok location =>
    match directoryFault? files location with
    | some report => .error report
    | none => .ok location

/-! ## Reports -/

/-- The report on an engine failure. One about a function that is unknown lists those
that are known and suggests the closest. -/
def reportOf (failure : EngineFailure) : Report :=
  let report := Report.ofFailure failure
  match report.context with
  | some (.unsupportedFunction function []) =>
    if function.isEmpty then report else Report.unsupportedFunction function Emulation.names
  | _ => report

/-- The report on a statement that the engine refuses. -/
def reportOn (problem : Database.Problem) : Report := reportOf problem.failure

/-! ## Statements -/

/-- The statement that the engine is given for a statement, if it is another one. -/
def rewritten (sql : String) : Except Report (Option String) :=
  match Statement.rewrite sql with
  | .ok result => .ok result
  | .error fault => .error fault.report

variable (session : Session)

/-- Prepares a statement for a number of values: it is rewritten, read and looked up,
and has to have as many parameters. Surplus values are counted up to the first. -/
def prepared (sql : String) (values : List Value) : Except Report Database.Statement := do
  let sql := (← rewritten sql).getD sql
  match session.connection.prepare sql with
  | .error problem => throw (reportOn problem)
  | .ok prepared =>
    let given := min values.length (prepared.parameters + 1)
    if given = prepared.parameters then return prepared.statement
    else throw (reportOf (.parameterCount given prepared.parameters))

/-- What statements of the session are evaluated in. -/
def frame (values : List Value) : Database.Frame :=
  { environment := session.environment, parameters := values }

/-- Runs a statement that has been prepared. -/
def run (values : List Value) (statement : Database.Statement) :
    Except Report Database.Outcome × Session :=
  match session.connection.perform (session.frame values) statement with
  | (.ok outcome, connection) => (.ok outcome, { session with connection })
  | (.error problem, connection) => (.error (reportOn problem), { session with connection })

/-- Executes a statement that gives no rows. The result is the number of rows that the
last change of rows changed. -/
def execute (sql : String) (values : List Value) : Except Report Nat × Session :=
  match session.prepared sql values with
  | .error report => (.error report, session)
  | .ok statement =>
    if statement.isQuery then (.error (reportOf .returnedRows), session)
    else
      match session.run values statement with
      | (.ok (.changed count), session) => (.ok count, session)
      | (.ok (.answered _), session) => (.error (reportOf .returnedRows), session)
      | (.error report, session) => (.error report, session)

/-- The answer to a query. What is no query is run, and has no rows. -/
def answer (sql : String) (values : List Value) : Except Report Database.Answer × Session :=
  match session.prepared sql values with
  | .error report => (.error report, session)
  | .ok statement =>
    match session.run values statement with
    | (.ok (.answered answer), session) => (.ok answer, session)
    | (.ok (.changed _), session) => (.ok { columns := 0, rows := [] }, session)
    | (.error report, session) => (.error report, session)

/-- All rows of a query. -/
def queryRows (sql : String) (values : List Value) : Except Report (List (List Value)) × Session :=
  match session.answer sql values with
  | (.ok { rows, failure := none, .. }, session) => (.ok rows, session)
  | (.ok { failure := some problem, .. }, session) => (.error (reportOn problem), session)
  | (.error report, session) => (.error report, session)

/-- The first value of the first row of a query; later rows are not computed. -/
def queryScalar (sql : String) (values : List Value) : Except Report Value × Session :=
  match session.answer sql values with
  | (.ok { rows := row :: _, .. }, session) => (.ok (row.headD .null), session)
  | (.ok { rows := [], failure := some problem, .. }, session) =>
    (.error (reportOn problem), session)
  | (.ok { rows := [], failure := none, .. }, session) => (.error (reportOf .noRows), session)
  | (.error report, session) => (.error report, session)

/-! ## Installing -/

/-- An open database as an engine for installations. A rollback without a transaction
does nothing. -/
def engine (environment : Emulation.Environment) : Schema.Engine Database.Connection
  | .begin, connection => single .begin connection
  | .commit, connection => single .commit connection
  | .rollback, connection =>
    match connection.saved with
    | none => (.ok (), connection)
    | some _ => single .rollback connection
  | .execute statement, connection =>
    match connection.executeAll environment statement with
    | (.ok _, connection) => (.ok (), connection)
    | (.error problem, connection) => (.error (Report.ofFailure problem.failure), connection)
where
  /-- Runs a statement of a transaction. -/
  single (statement : Database.Statement) (connection : Database.Connection) :
      Except Report Unit × Database.Connection :=
    match connection.perform { environment, parameters := [] } statement with
    | (.ok _, connection) => (.ok (), connection)
    | (.error problem, connection) => (.error (Report.ofFailure problem.failure), connection)

/-- Installs a batch of definitions, with numbers drawn for indexes that have to be
renamed. -/
def install (draws : List Nat) (batch : String) :
    Except Schema.Fault Schema.InstallReport × Session :=
  match session.installer.install (engine session.environment) draws batch session.connection with
  | (result, progress) => (result, { session with connection := progress.engine })

end Session

end DialectBridge
