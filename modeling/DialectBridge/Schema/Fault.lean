import DialectBridge.Diagnostic.Report

/-!
# What can go wrong in an installation

A fault is the cause of a failed installation. Each has a message, and a coded report
that hosts can inspect.
-/

namespace DialectBridge.Schema

open Diagnostic (Report Phase)

/-- Why a statement has no form in the engine's dialect. -/
inductive TranslationFault where
  | unsupported (text : String)
  | failed (text : String)
  deriving DecidableEq, Repr

/-- The wording of the reason. -/
def TranslationFault.message : TranslationFault → String
  | unsupported text => "Unsupported statement: " ++ text
  | failed text => "Rewrite failed: " ++ text

/-- The cause of a failed installation. -/
inductive Fault where
  | emptyBatch
  | translation (statement : String) (fault : TranslationFault)
  | statement (phase : Phase) (statement : String) (source : Report)
  | contention (phase : Phase) (attempts : Nat) (statement : String)

namespace Fault

/-- The message of a fault. -/
def message : Fault → String
  | emptyBatch => "Schema batch contains no statements"
  | translation _ fault => "Failed to rewrite statement: " ++ fault.message
  | statement phase _ source =>
    "Statement failed during " ++ phase.name ++ " phase: " ++ source.message
  | contention phase attempts _ =>
    "Commit of " ++ phase.name ++ " phase still contended after " ++ toString attempts ++
      " attempts"

/-- The coded report on a fault. -/
def report (fault : Fault) : Report :=
  match fault with
  | emptyBatch =>
    { code := .emptyBatch
      message := fault.message
      hint := some "Check that the schema definition was loaded" }
  | translation sql reason =>
    { code := .rewriteFailed
      message := fault.message
      context := some (.statement .rewrite sql reason.message)
      hint := some "The statement rewriter does not support this DDL shape" }
  | statement phase sql source =>
    { code := .statementFailed
      message := fault.message
      context := some (.statement phase sql source.message)
      hint := some
        "Installation was rolled back; no statement of this phase was applied" }
  | contention _ attempts sql =>
    { code := .contentionExhausted
      message := fault.message
      context := some (.contention (UInt32.ofNat attempts) sql)
      hint := some ("Another connection holds the database lock; " ++
        "raise installer.retry.max_attempts or database.busy_timeout_ms") }

end Fault

end DialectBridge.Schema
