import DialectBridge.Retry
import DialectBridge.Schema.IndexRegistry
import DialectBridge.Schema.Plan

/-!
# Installing a schema

A batch is applied in two transactions: every table is committed before any index is
created. Contention where a transaction begins or commits is tried again a bounded
number of times; any other failure rolls the transaction back and ends the run.
-/

namespace DialectBridge.Schema

open Diagnostic (Report Phase)

/-- What is asked of an engine. -/
inductive Request where
  | begin
  | execute (statement : String)
  | commit
  | rollback
  deriving DecidableEq, Repr

/-- An engine answers a request in a state, and is in a state after it. -/
abbrev Engine (σ : Type) := Request → σ → Except Report Unit × σ

/-- How far an installation has come. -/
inductive InstallState where
  | notStarted
  | tablesApplied
  | indexesApplied
  | done
  | failed
  deriving DecidableEq, Repr

/-- Whether an installation is over. -/
def InstallState.isTerminal : InstallState → Bool
  | notStarted | tablesApplied | indexesApplied => false
  | done | failed => true

/-- An installation under way: how far it has come, and the state of its engine. -/
structure Progress (σ : Type) where
  reached : InstallState
  engine : σ

/-- What an installation did: how many statements of each phase it executed, which
indexes it renamed, and how often it had to try again. -/
structure InstallReport where
  tablesExecuted : Nat
  indexesExecuted : Nat
  renamed : List (String × String)
  retries : Nat
  deriving DecidableEq, Repr

/-- How installations run. -/
structure Installer where
  translate : Translator
  maxAttempts : Nat

namespace Installer

variable {σ : Type}

/-- The fault of a request that was tried again and failed. -/
def retryFault (phase : Phase) (statement : String) (failure : Retry.Failure Report) : Fault :=
  if failure.exhausted then .contention phase failure.attempts statement
  else .statement phase statement failure.error

/-- Asks for the start or the end of a transaction, again while there is contention. The
result is the number of times it was asked again. -/
def boundary (installer : Installer) (engine : Engine σ) (phase : Phase) (request : Request)
    (statement : String) (state : σ) : Except Fault Nat × σ :=
  match Retry.run installer.maxAttempts Report.isContention (engine request) state with
  | (.ok (_, retries), state) => (.ok retries, state)
  | (.error failure, state) => (.error (retryFault phase statement failure), state)

/-- Executes statements in order up to the first that fails. -/
def executeAll (engine : Engine σ) (phase : Phase) :
    List String → σ → Except Fault Unit × σ
  | [], state => (.ok (), state)
  | statement :: rest, state =>
    match engine (.execute statement) state with
    | (.ok _, state) => executeAll engine phase rest state
    | (.error source, state) => (.error (.statement phase statement source), state)

/-- Rolls a transaction back after a fault. A failure of that changes nothing about the
fault. -/
def abandon (engine : Engine σ) (fault : Fault) (state : σ) : Except Fault Nat × σ :=
  (.error fault, (engine .rollback state).2)

/-- Applies the statements of a phase in one transaction. The result is the number of
times that its start or its end was asked for again. -/
def applyPhase (installer : Installer) (engine : Engine σ) (phase : Phase)
    (statements : List String) (state : σ) : Except Fault Nat × σ :=
  match installer.boundary engine phase .begin "BEGIN" state with
  | (.error fault, state) => (.error fault, state)
  | (.ok beginRetries, state) =>
    match executeAll engine phase statements state with
    | (.error fault, state) => abandon engine fault state
    | (.ok _, state) =>
      match installer.boundary engine phase .commit "COMMIT" state with
      | (.error fault, state) => abandon engine fault state
      | (.ok commitRetries, state) => (.ok (beginRetries + commitRetries), state)

/-- Applies a phase if it has statements. -/
def applyIfAny (installer : Installer) (engine : Engine σ) (phase : Phase)
    (statements : List String) (state : σ) : Except Fault Nat × σ :=
  if statements.isEmpty then (.ok 0, state)
  else installer.applyPhase engine phase statements state

/-- Applies a plan, with numbers drawn for the indexes that have to be renamed. -/
def applyPlan (installer : Installer) (engine : Engine σ) (draws : List Nat) (plan : Plan)
    (progress : Progress σ) : Except Fault InstallReport × Progress σ :=
  match installer.applyIfAny engine .tables plan.tables progress.engine with
  | (.error fault, state) => (.error fault, ⟨progress.reached, state⟩)
  | (.ok tableRetries, state) =>
    let claims := IndexRegistry.claimAll {} draws plan.indexes
    match installer.applyIfAny engine .indexes (claims.map (·.statement)) state with
    | (.error fault, state) => (.error fault, ⟨.tablesApplied, state⟩)
    | (.ok indexRetries, state) =>
      (.ok
        { tablesExecuted := plan.tables.length
          indexesExecuted := claims.length
          renamed := claims.filterMap (·.renamed)
          retries := tableRetries + indexRetries }, ⟨.indexesApplied, state⟩)

/-- Plans a batch and applies the plan. -/
def applyBatch (installer : Installer) (engine : Engine σ) (draws : List Nat) (batch : String)
    (progress : Progress σ) : Except Fault InstallReport × Progress σ :=
  match Plan.ofBatch installer.translate batch with
  | .error fault => (.error fault, progress)
  | .ok plan => installer.applyPlan engine draws plan progress

/-- Installs a batch, from the start to a terminal state. -/
def install (installer : Installer) (engine : Engine σ) (draws : List Nat) (batch : String)
    (state : σ) : Except Fault InstallReport × Progress σ :=
  match installer.applyBatch engine draws batch ⟨.notStarted, state⟩ with
  | (.ok report, progress) => (.ok report, { progress with reached := .done })
  | (.error fault, progress) => (.error fault, { progress with reached := .failed })

end Installer

end DialectBridge.Schema
