import DialectBridge.Proofs.Installation.Simulation

/-!
# The calls of an installation

An installation makes its calls in a fixed shape, whatever an engine answers. A phase
asks for a transaction, executes its statements up to the first that fails, asks for
the end of the transaction if none did, and asks for a rollback if anything went wrong
after the start. Only contention at the start and at the end is answered by asking
again, a bounded number of times. The phase of the tables comes first, and the phase of
the indexes is entered only when that one is absent or has been committed.

The shape is a property of the calls alone: no engine is mentioned in it. The main
statement is that the calls made to an arbitrary engine have it.
-/

namespace DialectBridge.Schema

open Diagnostic (Report Phase)

variable {σ : Type}

/-- Whether a call was answered with success. -/
def Call.succeeded (call : Call) : Bool := call.answer.isOk

/-- Whether a call was answered with contention. -/
def Call.contended (call : Call) : Bool :=
  match call.answer with
  | .ok _ => false
  | .error report => report.isContention

/-- A call that is granted succeeded. -/
@[simp] theorem Call.succeeded_ok (request : Request) (value : Unit) :
    (Call.mk request (.ok value)).succeeded = true :=
  rfl

/-- A call that is refused did not succeed. -/
@[simp] theorem Call.succeeded_error (request : Request) (report : Report) :
    (Call.mk request (.error report)).succeeded = false :=
  rfl

/-- Whether there are calls and the last of them succeeded. -/
def endInSuccess (calls : List Call) : Bool := calls.getLast?.any Call.succeeded

/-- The phase in which a fault arose; an empty batch has none. -/
def Fault.phase? : Fault → Option Phase
  | .emptyBatch => none
  | .translation .. => some .rewrite
  | .statement phase .. => some phase
  | .contention phase .. => some phase

/-- One request made again under contention: between one call and `limit` calls, all but
the last answered with contention. When the last is contention as well, the limit has
been reached. -/
structure Attempts (request : Request) (limit : Nat) (calls : List Call) : Prop where
  requested : ∀ call ∈ calls, call.request = request
  begun : calls ≠ []
  bounded : calls.length ≤ limit
  contended : ∀ call ∈ calls.dropLast, call.contended
  exhausted : (∀ call ∈ calls, call.contended) → calls.length = limit

/-- Statements executed in order, each once, up to and including the first that fails. -/
structure Executions (statements : List String) (calls : List Call) : Prop where
  ordered : calls.map (·.request) = (statements.take calls.length).map .execute
  succeeded : ∀ call ∈ calls.dropLast, call.succeeded
  complete : (∀ call ∈ calls, call.succeeded) → calls.length = statements.length

/-- The calls of a phase, in four stretches. A stretch is empty unless the ones before it
ended as they had to; the rollback answers a failure after the start, and is one call. -/
structure PhaseCalls (limit : Nat) (statements : List String) where
  begins : List Call
  executions : List Call
  commits : List Call
  rollbacks : List Call
  begun : Attempts .begin limit begins
  executed : if endInSuccess begins then Executions statements executions else executions = []
  committed : if endInSuccess begins && executions.all Call.succeeded
    then Attempts .commit limit commits else commits = []
  rolledBack : if endInSuccess begins && !endInSuccess commits
    then ∃ answer, rollbacks = [⟨.rollback, answer⟩] else rollbacks = []

namespace PhaseCalls

variable {limit : Nat} {statements : List String}

/-- The calls in the order in which they are made. -/
def calls (phase : PhaseCalls limit statements) : List Call :=
  phase.begins ++ phase.executions ++ phase.commits ++ phase.rollbacks

/-- A phase is complete when its last commit succeeded. -/
def isComplete (phase : PhaseCalls limit statements) : Bool := endInSuccess phase.commits

/-- The calls of a phase that may be absent. -/
def callsIfAny : Option (PhaseCalls limit statements) → List Call
  | none => []
  | some phase => phase.calls

end PhaseCalls

/-- The calls of a run: a phase for the tables if there are any, and after it a phase for
the indexes if there are any and nothing went wrong before. -/
structure RunCalls (limit : Nat) (tables indexes : List String) where
  tablePhase : Option (PhaseCalls limit tables)
  indexPhase : Option (PhaseCalls limit indexes)
  tablePhase_present : tablePhase.isSome = !tables.isEmpty
  indexPhase_present :
    indexPhase.isSome = (tablePhase.all PhaseCalls.isComplete && !indexes.isEmpty)

namespace RunCalls

variable {limit : Nat} {tables indexes : List String}

/-- The calls in the order in which they are made. -/
def calls (run : RunCalls limit tables indexes) : List Call :=
  PhaseCalls.callsIfAny run.tablePhase ++ PhaseCalls.callsIfAny run.indexPhase

/-- A run is complete when every phase that it enters is. -/
def isComplete (run : RunCalls limit tables indexes) : Bool :=
  run.tablePhase.all PhaseCalls.isComplete && run.indexPhase.all PhaseCalls.isComplete

/-- The phase in which a run that is not complete has failed. -/
def failedPhase (run : RunCalls limit tables indexes) : Phase :=
  if run.tablePhase.all PhaseCalls.isComplete then .indexes else .tables

end RunCalls

/-! ## Attempts -/

/-- One call ends in success when it succeeded. -/
@[simp] theorem endInSuccess_singleton (call : Call) : endInSuccess [call] = call.succeeded :=
  rfl

/-- A call before others does not change how they end. -/
theorem endInSuccess_cons (call : Call) {calls : List Call} (begun : calls ≠ []) :
    endInSuccess (call :: calls) = endInSuccess calls := by
  obtain ⟨next, rest, rfl⟩ := List.exists_cons_of_ne_nil begun
  simp [endInSuccess, List.getLast?_cons_cons]

/-- Calls end as the last of them. -/
@[simp] theorem endInSuccess_concat (calls : List Call) (call : Call) :
    endInSuccess (calls ++ [call]) = call.succeeded := by
  simp [endInSuccess]

/-- One call that is not contention is a whole stretch of attempts. -/
theorem Attempts.decided {request : Request} {answer : Except Report Unit} (left : Nat)
    (decisive : (Call.mk request answer).contended = false) :
    Attempts request (left + 1) [⟨request, answer⟩] where
  requested := by simp
  begun := by simp
  bounded := by simp
  contended := by simp
  exhausted := by simp [decisive]

/-- One call is a whole stretch of attempts when no more are allowed. -/
theorem Attempts.single (request : Request) (answer : Except Report Unit) :
    Attempts request 1 [⟨request, answer⟩] where
  requested := by simp
  begun := by simp
  bounded := by simp
  contended := by simp
  exhausted := by simp

/-- Contention before a stretch of attempts is a stretch of one attempt more. -/
theorem Attempts.again {request : Request} {limit : Nat} {calls : List Call} {report : Report}
    (attempts : Attempts request limit calls) (contended : report.isContention = true) :
    Attempts request (limit + 1) (⟨request, .error report⟩ :: calls) where
  requested := by
    intro call member
    rcases List.mem_cons.mp member with rfl | later
    · rfl
    · exact attempts.requested call later
  begun := by simp
  bounded := by simpa using attempts.bounded
  contended := by
    intro call member
    rw [List.dropLast_cons_of_ne_nil attempts.begun] at member
    rcases List.mem_cons.mp member with rfl | later
    · exact contended
    · exact attempts.contended call later
  exhausted := by
    intro all
    have rest := attempts.exhausted fun call later => all call (List.mem_cons_of_mem _ later)
    simpa using rest

/-- A stretch of attempts is a call after calls that were all refused. -/
theorem Attempts.split {request : Request} {limit : Nat} {calls : List Call}
    (attempts : Attempts request limit calls) :
    ∃ earlier answer, calls = earlier ++ [⟨request, answer⟩] ∧
      ∀ call ∈ earlier, ∃ report, call = ⟨request, .error report⟩ := by
  obtain ⟨earlier, ⟨last, answer⟩, rfl⟩ : ∃ earlier last, calls = earlier ++ [last] :=
    ⟨_, _, (List.dropLast_concat_getLast attempts.begun).symm⟩
  obtain rfl : last = request := attempts.requested ⟨last, answer⟩ (by simp)
  refine ⟨earlier, answer, rfl, ?_⟩
  intro call member
  have contended := attempts.contended call (by simpa using member)
  have requested := attempts.requested call (by simp [member])
  rcases call with ⟨same, answer⟩
  obtain rfl : same = last := requested
  cases answer with
  | ok value => simp [Call.contended] at contended
  | error report => exact ⟨report, rfl⟩

/-- The calls that attempts make; the last of them decides the outcome. Induct on the
number of attempts left: only contention with attempts left recurs. -/
theorem attemptAfter_calls (engine : Engine σ) (request : Request) (earlier left : Nat)
    (state : σ) (before : List Call) :
    ∃ outcome after calls,
      Retry.attemptAfter Report.isContention (engine.recorded request) earlier left
          (state, before) = (outcome, after, before ++ calls) ∧
        Attempts request (left + 1) calls ∧ endInSuccess calls = outcome.isOk := by
  induction left generalizing earlier state before with
  | zero =>
    obtain ⟨answer, after, run⟩ : ∃ answer after, engine.recorded request (state, before) =
      (answer, after, before ++ [⟨request, answer⟩]) := ⟨_, _, rfl⟩
    cases answer with
    | ok value =>
      exact ⟨_, _, _, Retry.attemptAfter_of_ok _ _ run, .single _ _, rfl⟩
    | error report =>
      cases contended : report.isContention with
      | false =>
        exact ⟨_, _, _, Retry.attemptAfter_of_fatal _ _ run contended, .single _ _, rfl⟩
      | true =>
        exact ⟨_, _, _, Retry.attemptAfter_of_exhausted _ run contended, .single _ _, rfl⟩
  | succ left inductionHypothesis =>
    obtain ⟨answer, after, run⟩ : ∃ answer after, engine.recorded request (state, before) =
      (answer, after, before ++ [⟨request, answer⟩]) := ⟨_, _, rfl⟩
    cases answer with
    | ok value =>
      exact ⟨_, _, _, Retry.attemptAfter_of_ok _ _ run, .decided _ rfl, rfl⟩
    | error report =>
      cases contended : report.isContention with
      | false =>
        exact ⟨_, _, _, Retry.attemptAfter_of_fatal _ _ run contended, .decided _ contended, rfl⟩
      | true =>
        obtain ⟨outcome, final, calls, rest, attempts, ended⟩ :=
          inductionHypothesis (earlier + 1) after (before ++ [⟨request, .error report⟩])
        refine ⟨outcome, final, ⟨request, .error report⟩ :: calls, ?_, attempts.again contended, ?_⟩
        · rw [Retry.attemptAfter_of_passing _ _ run contended, rest]
          simp
        · rw [endInSuccess_cons _ attempts.begun, ended]

/-! ## Executions -/

/-- Nothing is executed of no statements. -/
theorem Executions.nil : Executions [] [] where
  ordered := rfl
  succeeded := by simp
  complete := by simp

/-- A statement that fails is the last to be executed. -/
theorem Executions.failed (statement : String) (rest : List String) (report : Report) :
    Executions (statement :: rest) [⟨.execute statement, .error report⟩] where
  ordered := by simp
  succeeded := by simp
  complete := by simp

/-- A statement that succeeds is executed before the others. -/
theorem Executions.cons {rest : List String} {calls : List Call} (statement : String)
    (executions : Executions rest calls) :
    Executions (statement :: rest) (⟨.execute statement, .ok ()⟩ :: calls) where
  ordered := by simp [executions.ordered]
  succeeded := by
    intro call member
    cases calls with
    | nil => simp at member
    | cons next later =>
      rw [List.dropLast_cons_of_ne_nil (by simp)] at member
      rcases List.mem_cons.mp member with rfl | inside
      · rfl
      · exact executions.succeeded call inside
  complete := by
    intro all
    have complete := executions.complete fun call later => all call (List.mem_cons_of_mem _ later)
    simpa using complete

/-! ## The ways in which a phase ends -/

namespace PhaseCalls

variable {limit : Nat} {statements : List String} {begins executions commits : List Call}

/-- A phase ends where no transaction could be started. -/
def notBegun (begun : Attempts .begin limit begins) (refused : endInSuccess begins = false) :
    PhaseCalls limit statements where
  begins := begins
  executions := []
  commits := []
  rollbacks := []
  begun := begun
  executed := by simp [refused]
  committed := by simp [refused]
  rolledBack := by simp [refused]

/-- A phase ends with a rollback after a statement that failed. -/
def interrupted (begun : Attempts .begin limit begins) (opened : endInSuccess begins = true)
    (executed : Executions statements executions)
    (failed : executions.all Call.succeeded = false) (answer : Except Report Unit) :
    PhaseCalls limit statements where
  begins := begins
  executions := executions
  commits := []
  rollbacks := [⟨.rollback, answer⟩]
  begun := begun
  executed := by simpa [opened] using executed
  committed := by simp [failed]
  rolledBack := by
    have uncommitted : endInSuccess [] = false := rfl
    simp [opened, uncommitted]

/-- A phase ends with a rollback where the transaction could not be committed. -/
def notCommitted (begun : Attempts .begin limit begins) (opened : endInSuccess begins = true)
    (executed : Executions statements executions)
    (succeeded : executions.all Call.succeeded = true)
    (committed : Attempts .commit limit commits) (refused : endInSuccess commits = false)
    (answer : Except Report Unit) : PhaseCalls limit statements where
  begins := begins
  executions := executions
  commits := commits
  rollbacks := [⟨.rollback, answer⟩]
  begun := begun
  executed := by simpa [opened] using executed
  committed := by simpa only [opened, succeeded, Bool.and_self, if_true] using committed
  rolledBack := by simp [opened, refused]

/-- A phase ends where its transaction has been committed. -/
def completed (begun : Attempts .begin limit begins) (opened : endInSuccess begins = true)
    (executed : Executions statements executions)
    (succeeded : executions.all Call.succeeded = true)
    (committed : Attempts .commit limit commits) (closed : endInSuccess commits = true) :
    PhaseCalls limit statements where
  begins := begins
  executions := executions
  commits := commits
  rollbacks := []
  begun := begun
  executed := by simpa [opened] using executed
  committed := by simpa only [opened, succeeded, Bool.and_self, if_true] using committed
  rolledBack := by simp [closed]

/-- The only rollbacks among the calls of a phase are those of its last stretch. -/
theorem rollback_mem (made : PhaseCalls limit statements) (answer : Except Report Unit) :
    ⟨.rollback, answer⟩ ∈ made.calls ↔ ⟨.rollback, answer⟩ ∈ made.rollbacks := by
  have noBegin : ⟨.rollback, answer⟩ ∉ made.begins :=
    fun member => nomatch made.begun.requested _ member
  have noExecution : ⟨.rollback, answer⟩ ∉ made.executions := by
    intro member
    have executed := made.executed
    split at executed
    · have requested := List.mem_map_of_mem (f := Call.request) member
      rw [executed.ordered] at requested
      obtain ⟨statement, _, impossible⟩ := List.mem_map.mp requested
      exact nomatch impossible
    · simp [executed] at member
  have noCommit : ⟨.rollback, answer⟩ ∉ made.commits := by
    intro member
    have committed := made.committed
    split at committed
    · exact nomatch committed.requested _ member
    · simp [committed] at member
  simp [calls, noBegin, noExecution, noCommit]

/-- A phase that is complete has no rollback. -/
theorem rollback_not_mem_of_complete (made : PhaseCalls limit statements)
    (complete : made.isComplete = true) (answer : Except Report Unit) :
    ⟨.rollback, answer⟩ ∉ made.calls := by
  have rollbacks := made.rolledBack
  unfold isComplete at complete
  simp only [complete, Bool.not_true, Bool.and_false, Bool.false_eq_true, if_false] at rollbacks
  simp [made.rollback_mem, rollbacks]

/-- A phase that is left out, or complete, has no rollback. -/
theorem rollback_not_mem_callsIfAny {made : Option (PhaseCalls limit statements)}
    (complete : made.all isComplete = true) (answer : Except Report Unit) :
    ⟨.rollback, answer⟩ ∉ callsIfAny made := by
  cases made with
  | none => simp [callsIfAny]
  | some made => exact made.rollback_not_mem_of_complete complete answer

end PhaseCalls

/-! ## Plans and their execution -/

/-- The plan of some statements is that of the first, with that of the others behind it. -/
theorem Plan.ofStatements_cons_eq_ok_iff {translate : Translator} {statement : String}
    {rest : List String} {plan : Plan} :
    ofStatements translate (statement :: rest) = .ok plan ↔
      ∃ translation later, translate statement = .ok translation ∧
        ofStatements translate rest = .ok later ∧
        (ofTranslation translation).append later = plan := by
  rw [ofStatements]
  cases translate statement with
  | error reason => simp
  | ok translation =>
    cases ofStatements translate rest <;> simp [bind, Except.bind, pure, Except.pure]

/-- Some statements have no plan where the first is rejected or the others have none. -/
theorem Plan.ofStatements_cons_eq_error_iff {translate : Translator} {statement : String}
    {rest : List String} {fault : Fault} :
    ofStatements translate (statement :: rest) = .error fault ↔
      (∃ reason, translate statement = .error reason ∧ fault = .translation statement reason) ∨
        ∃ translation, translate statement = .ok translation ∧
          ofStatements translate rest = .error fault := by
  rw [ofStatements]
  cases translate statement with
  | error reason => simp [eq_comm]
  | ok translation =>
    cases ofStatements translate rest <;> simp [bind, Except.bind, pure, Except.pure]

/-- The statements of the phase of the indexes, with the names that they claim. -/
def Plan.claimedIndexes (plan : Plan) (draws : List Nat) : List String :=
  (IndexRegistry.claimAll {} draws plan.indexes).map (·.statement)

/-- Every statement has one claim. -/
theorem IndexRegistry.claimAll_length (registry : IndexRegistry) (draws : List Nat)
    (statements : List String) :
    (registry.claimAll draws statements).length = statements.length := by
  induction statements generalizing registry draws with
  | nil => rfl
  | cons statement rest inductionHypothesis => simp [claimAll, inductionHypothesis]

/-- Claiming names neither adds nor drops a statement. -/
theorem Plan.claimedIndexes_length (plan : Plan) (draws : List Nat) :
    (plan.claimedIndexes draws).length = plan.indexes.length := by
  simp [claimedIndexes, IndexRegistry.claimAll_length]

/-- The first of some executions, and what comes after it. -/
theorem Executions.split {statements : List String} {call : Call} {calls : List Call}
    (executions : Executions statements (call :: calls)) :
    ∃ statement rest, statements = statement :: rest ∧ call.request = .execute statement ∧
      if call.succeeded then Executions rest calls else calls = [] := by
  obtain ⟨ordered, succeeded, complete⟩ := executions
  cases statements with
  | nil => simp at ordered
  | cons statement rest =>
    simp only [List.map_cons, List.length_cons, List.take_succ_cons, List.cons.injEq] at ordered
    refine ⟨statement, rest, rfl, ordered.1, ?_⟩
    cases calls with
    | nil =>
      split
      · next first =>
        have whole := complete (by simpa using first)
        exact ⟨ordered.2, by simp, fun _ => Nat.succ.inj whole⟩
      · rfl
    | cons next later =>
      rw [List.dropLast_cons_of_ne_nil (by simp)] at succeeded
      have first : call.succeeded = true := succeeded call (by simp)
      rw [first, if_pos rfl]
      refine ⟨ordered.2, fun call member => succeeded call (List.mem_cons_of_mem _ member), ?_⟩
      intro all
      simpa using complete (by simpa [first] using all)

namespace Installer

/-! ## How a phase and a plan go -/

/-- How a phase goes: each step succeeds in the state that the one before it leaves, up to the
first that fails. A failure behind the start is answered by a rollback. -/
inductive PhaseCourse (installer : Installer) (engine : Engine σ) (phase : Phase)
    (statements : List String) (state : σ) : Except Fault Nat × σ → Prop
  | notBegun {fault : Fault} {opened : σ}
      (refused : installer.boundary engine phase .begin "BEGIN" state = (.error fault, opened)) :
      PhaseCourse installer engine phase statements state (.error fault, opened)
  | interrupted {beginRetries : Nat} {fault : Fault} {opened executed : σ}
      (begun : installer.boundary engine phase .begin "BEGIN" state = (.ok beginRetries, opened))
      (stopped : executeAll engine phase statements opened = (.error fault, executed)) :
      PhaseCourse installer engine phase statements state
        (.error fault, (engine .rollback executed).2)
  | notCommitted {beginRetries : Nat} {fault : Fault} {opened executed closed : σ}
      (begun : installer.boundary engine phase .begin "BEGIN" state = (.ok beginRetries, opened))
      (ran : executeAll engine phase statements opened = (.ok (), executed))
      (refused : installer.boundary engine phase .commit "COMMIT" executed =
        (.error fault, closed)) :
      PhaseCourse installer engine phase statements state
        (.error fault, (engine .rollback closed).2)
  | completed {beginRetries commitRetries : Nat} {opened executed closed : σ}
      (begun : installer.boundary engine phase .begin "BEGIN" state = (.ok beginRetries, opened))
      (ran : executeAll engine phase statements opened = (.ok (), executed))
      (committed : installer.boundary engine phase .commit "COMMIT" executed =
        (.ok commitRetries, closed)) :
      PhaseCourse installer engine phase statements state
        (.ok (beginRetries + commitRetries), closed)

/-- A phase that is applied goes in one of these ways. -/
theorem applyPhase_course {installer : Installer} {engine : Engine σ} {phase : Phase}
    {statements : List String} {state : σ} {result : Except Fault Nat × σ}
    (run : installer.applyPhase engine phase statements state = result) :
    PhaseCourse installer engine phase statements state result := by
  subst run
  unfold applyPhase
  split
  · next refused => exact .notBegun refused
  · next begun =>
    split
    · next stopped => exact .interrupted begun stopped
    · next ran =>
      split
      · next refused => exact .notCommitted begun ran refused
      · next committed => exact .completed begun ran committed

/-- How a plan goes: the phase of the tables first, and that of the indexes behind it. -/
inductive PlanCourse (installer : Installer) (engine : Engine σ) (draws : List Nat) (plan : Plan)
    (start : Progress σ) : Except Fault InstallReport × Progress σ → Prop
  | tablesFailed {fault : Fault} {tabled : σ}
      (tables : installer.applyIfAny engine .tables plan.tables start.engine =
        (.error fault, tabled)) :
      PlanCourse installer engine draws plan start (.error fault, ⟨start.reached, tabled⟩)
  | indexesFailed {tableRetries : Nat} {fault : Fault} {tabled indexed : σ}
      (tables : installer.applyIfAny engine .tables plan.tables start.engine =
        (.ok tableRetries, tabled))
      (indexes : installer.applyIfAny engine .indexes (plan.claimedIndexes draws) tabled =
        (.error fault, indexed)) :
      PlanCourse installer engine draws plan start (.error fault, ⟨.tablesApplied, indexed⟩)
  | applied {tableRetries indexRetries : Nat} {tabled indexed : σ}
      (tables : installer.applyIfAny engine .tables plan.tables start.engine =
        (.ok tableRetries, tabled))
      (indexes : installer.applyIfAny engine .indexes (plan.claimedIndexes draws) tabled =
        (.ok indexRetries, indexed)) :
      PlanCourse installer engine draws plan start
        (.ok
          { tablesExecuted := plan.tables.length
            indexesExecuted := (IndexRegistry.claimAll {} draws plan.indexes).length
            renamed := (IndexRegistry.claimAll {} draws plan.indexes).filterMap (·.renamed)
            retries := tableRetries + indexRetries }, ⟨.indexesApplied, indexed⟩)

/-- A plan that is applied goes in one of these ways. -/
theorem applyPlan_course {installer : Installer} {engine : Engine σ} {draws : List Nat}
    {plan : Plan} {start : Progress σ} {result : Except Fault InstallReport × Progress σ}
    (run : installer.applyPlan engine draws plan start = result) :
    PlanCourse installer engine draws plan start result := by
  subst run
  unfold applyPlan
  split
  · next tables => exact .tablesFailed tables
  · next tables =>
    dsimp only
    split
    · next indexes => exact .indexesFailed tables indexes
    · next indexes => exact .applied tables indexes

/-! ## The calls that are made -/

/-- How often a transaction's start and end are asked for at most. -/
def attemptLimit (installer : Installer) : Nat := max 1 installer.maxAttempts

/-- The calls made for the start or the end of a transaction. -/
theorem boundary_calls (installer : Installer) (engine : Engine σ) (phase : Phase)
    (request : Request) (statement : String) (state : σ) (before : List Call) :
    ∃ outcome after calls,
      installer.boundary engine.recorded phase request statement (state, before) =
          (outcome, after, before ++ calls) ∧
        Attempts request installer.attemptLimit calls ∧ endInSuccess calls = outcome.isOk := by
  obtain ⟨outcome, after, calls, run, attempts, ended⟩ :=
    attemptAfter_calls engine request 0 (installer.maxAttempts - 1) state before
  have limit : installer.maxAttempts - 1 + 1 = installer.attemptLimit := by
    unfold attemptLimit
    omega
  rw [limit] at attempts
  unfold boundary Retry.run
  rw [run]
  cases outcome with
  | ok value => exact ⟨_, _, _, rfl, attempts, ended⟩
  | error failure => exact ⟨_, _, _, rfl, attempts, ended⟩

/-- The calls that execute statements. All of them succeed exactly when the outcome is a
success. -/
theorem executeAll_calls (engine : Engine σ) (phase : Phase) (statements : List String)
    (state : σ) (before : List Call) :
    ∃ outcome after calls,
      executeAll engine.recorded phase statements (state, before) =
          (outcome, after, before ++ calls) ∧
        Executions statements calls ∧ calls.all Call.succeeded = outcome.isOk := by
  induction statements generalizing state before with
  | nil => exact ⟨.ok (), state, [], by simp [executeAll], .nil, rfl⟩
  | cons statement rest inductionHypothesis =>
    obtain ⟨answer, after, run⟩ : ∃ answer after, engine.recorded (.execute statement)
      (state, before) = (answer, after, before ++ [⟨.execute statement, answer⟩]) := ⟨_, _, rfl⟩
    unfold executeAll
    rw [run]
    cases answer with
    | error report => exact ⟨_, _, _, rfl, .failed statement rest report, rfl⟩
    | ok value =>
      obtain ⟨outcome, final, calls, rest, executions, ended⟩ :=
        inductionHypothesis after (before ++ [⟨.execute statement, .ok value⟩])
      refine ⟨outcome, final, _, ?_, .cons statement executions, ?_⟩
      · simpa using rest
      · simpa using ended

/-- The calls of a phase have the shape of a phase, and its outcome is a success exactly
when the phase is complete. Each case is one of the ways in which a phase ends. -/
theorem applyPhase_calls (installer : Installer) (engine : Engine σ) (phase : Phase)
    (statements : List String) (state : σ) (before : List Call) :
    ∃ outcome after, ∃ made : PhaseCalls installer.attemptLimit statements,
      installer.applyPhase engine.recorded phase statements (state, before) =
          (outcome, after, before ++ made.calls) ∧
        made.isComplete = outcome.isOk := by
  obtain ⟨opening, opened, begins, beginRun, begun, beginEnd⟩ :=
    installer.boundary_calls engine phase .begin "BEGIN" state before
  unfold applyPhase
  rw [beginRun]
  cases opening with
  | error fault =>
    exact ⟨.error fault, opened, .notBegun begun beginEnd,
      by simp [PhaseCalls.calls, PhaseCalls.notBegun], rfl⟩
  | ok beginRetries =>
    obtain ⟨execution, executed, executions, executeRun, ordered, executeEnd⟩ :=
      executeAll_calls engine phase statements opened (before ++ begins)
    dsimp only
    rw [executeRun]
    cases execution with
    | error fault =>
      exact ⟨.error fault, (engine .rollback executed).2,
        .interrupted begun beginEnd ordered executeEnd (engine .rollback executed).1,
        by simp [PhaseCalls.calls, PhaseCalls.interrupted, abandon, Engine.recorded], rfl⟩
    | ok done =>
      obtain ⟨closing, closed, commits, commitRun, committed, commitEnd⟩ :=
        installer.boundary_calls engine phase .commit "COMMIT" executed
          (before ++ begins ++ executions)
      dsimp only
      rw [commitRun]
      cases closing with
      | error fault =>
        exact ⟨.error fault, (engine .rollback closed).2,
          .notCommitted begun beginEnd ordered executeEnd committed commitEnd
            (engine .rollback closed).1,
          by simp [PhaseCalls.calls, PhaseCalls.notCommitted, abandon, Engine.recorded],
          commitEnd⟩
      | ok commitRetries =>
        exact ⟨.ok (beginRetries + commitRetries), closed,
          .completed begun beginEnd ordered executeEnd committed commitEnd,
          by simp [PhaseCalls.calls, PhaseCalls.completed], commitEnd⟩

/-- A phase without statements makes no calls; any other is entered. -/
theorem applyIfAny_calls (installer : Installer) (engine : Engine σ) (phase : Phase)
    (statements : List String) (state : σ) (before : List Call) :
    ∃ outcome after, ∃ made : Option (PhaseCalls installer.attemptLimit statements),
      installer.applyIfAny engine.recorded phase statements (state, before) =
          (outcome, after, before ++ PhaseCalls.callsIfAny made) ∧
        made.isSome = !statements.isEmpty ∧
        made.all PhaseCalls.isComplete = outcome.isOk := by
  unfold applyIfAny
  cases vacant : statements.isEmpty with
  | true => exact ⟨.ok 0, state, none, by simp [PhaseCalls.callsIfAny], rfl, rfl⟩
  | false =>
    obtain ⟨outcome, after, made, run, ended⟩ :=
      installer.applyPhase_calls engine phase statements state before
    exact ⟨outcome, after, some made, run, rfl, ended⟩

/-- A fault at the start or the end of a transaction arose in its phase. -/
theorem boundary_fault {installer : Installer} {engine : Engine σ} {phase : Phase}
    {request : Request} {statement : String} {state after : σ} {fault : Fault}
    (failed : installer.boundary engine phase request statement state = (.error fault, after)) :
    fault.phase? = some phase := by
  unfold boundary at failed
  split at failed
  · simp at failed
  · obtain ⟨rfl, rfl⟩ := by simpa using failed
    unfold retryFault
    split <;> rfl

/-- A fault in the statements of a phase arose in that phase. -/
theorem executeAll_fault {engine : Engine σ} {phase : Phase} {statements : List String}
    {state after : σ} {fault : Fault}
    (failed : executeAll engine phase statements state = (.error fault, after)) :
    fault.phase? = some phase := by
  induction statements generalizing state with
  | nil => simp [executeAll] at failed
  | cons statement rest inductionHypothesis =>
    unfold executeAll at failed
    split at failed
    · exact inductionHypothesis failed
    · obtain ⟨rfl, rfl⟩ := by simpa using failed
      rfl

/-- A fault of a phase arose in that phase. -/
theorem applyPhase_fault {installer : Installer} {engine : Engine σ} {phase : Phase}
    {statements : List String} {state after : σ} {fault : Fault}
    (failed : installer.applyPhase engine phase statements state = (.error fault, after)) :
    fault.phase? = some phase := by
  cases applyPhase_course failed with
  | notBegun refused => exact boundary_fault refused
  | interrupted begun stopped => exact executeAll_fault stopped
  | notCommitted begun ran refused => exact boundary_fault refused

/-- A fault of a phase that may be left out arose in that phase. -/
theorem applyIfAny_fault {installer : Installer} {engine : Engine σ} {phase : Phase}
    {statements : List String} {state after : σ} {fault : Fault}
    (failed : installer.applyIfAny engine phase statements state = (.error fault, after)) :
    fault.phase? = some phase := by
  unfold applyIfAny at failed
  split at failed
  · simp at failed
  · exact applyPhase_fault failed

/-- The calls that apply a plan have the shape of a run, which is complete exactly when
the outcome is a success; a fault arose in the phase that failed. -/
theorem applyPlan_calls (installer : Installer) (engine : Engine σ) (draws : List Nat)
    (plan : Plan) (reached : InstallState) (state : σ) (before : List Call) :
    ∃ outcome progress,
      ∃ made : RunCalls installer.attemptLimit plan.tables (plan.claimedIndexes draws),
        installer.applyPlan engine.recorded draws plan ⟨reached, (state, before)⟩ =
            (outcome, progress) ∧
          progress.engine.2 = before ++ made.calls ∧ made.isComplete = outcome.isOk ∧
          ∀ fault, outcome = .error fault → fault.phase? = some made.failedPhase := by
  obtain ⟨tabling, tabled, tablePhase, tableRun, tablePresent, tableEnd⟩ :=
    installer.applyIfAny_calls engine .tables plan.tables state before
  unfold applyPlan
  rw [tableRun]
  cases tabling with
  | error fault =>
    have failed : tablePhase.all PhaseCalls.isComplete = false := tableEnd
    refine ⟨.error fault, _, ⟨tablePhase, none, tablePresent, ?_⟩, rfl, ?_, ?_, ?_⟩
    · simp [failed]
    · simp [RunCalls.calls, PhaseCalls.callsIfAny]
    · change (tablePhase.all PhaseCalls.isComplete && true) = false
      rw [failed, Bool.false_and]
    · rintro _ ⟨rfl⟩
      simp [RunCalls.failedPhase, failed, applyIfAny_fault tableRun]
  | ok tableRetries =>
    have complete : tablePhase.all PhaseCalls.isComplete = true := tableEnd
    obtain ⟨indexing, indexed, indexPhase, indexRun, indexPresent, indexEnd⟩ :=
      installer.applyIfAny_calls engine .indexes (plan.claimedIndexes draws) tabled
        (before ++ PhaseCalls.callsIfAny tablePhase)
    let made : RunCalls installer.attemptLimit plan.tables (plan.claimedIndexes draws) :=
      ⟨tablePhase, indexPhase, tablePresent, by simp [complete, indexPresent]⟩
    have calls : before ++ PhaseCalls.callsIfAny tablePhase ++ PhaseCalls.callsIfAny indexPhase =
        before ++ made.calls := by
      simp [made, RunCalls.calls]
    have ended : made.isComplete = indexing.isOk := by
      change (tablePhase.all PhaseCalls.isComplete && indexPhase.all PhaseCalls.isComplete) = _
      rw [complete, Bool.true_and, indexEnd]
    unfold Plan.claimedIndexes at indexRun
    dsimp only
    rw [indexRun]
    cases indexing with
    | error fault =>
      refine ⟨_, _, made, rfl, calls, ended, ?_⟩
      rintro _ ⟨rfl⟩
      simp [made, RunCalls.failedPhase, complete, applyIfAny_fault indexRun]
    | ok indexRetries =>
      exact ⟨_, _, made, rfl, calls, ended, fun fault impossible => nomatch impossible⟩

/-- The calls that an installation makes to an engine. -/
def callsOf (installer : Installer) (engine : Engine σ) (draws : List Nat) (batch : String)
    (state : σ) : List Call :=
  (installer.install engine.recorded draws batch (state, [])).2.engine.2

/-- A batch without a plan makes no calls, and its installation fails with that fault. -/
theorem callsOf_of_unplanned (installer : Installer) (engine : Engine σ) (draws : List Nat)
    (batch : String) (state : σ) {fault : Fault}
    (unplanned : Plan.ofBatch installer.translate batch = .error fault) :
    installer.callsOf engine draws batch state = [] ∧
      (installer.install engine draws batch state).1 = .error fault := by
  simp [callsOf, install, applyBatch, unplanned]

/-- The calls of an installation with a plan have the shape of a run, which is complete
exactly when the installation succeeds; a fault arose in the phase that failed. -/
theorem callsOf_of_planned (installer : Installer) (engine : Engine σ) (draws : List Nat)
    (batch : String) (state : σ) {plan : Plan}
    (planned : Plan.ofBatch installer.translate batch = .ok plan) :
    ∃ made : RunCalls installer.attemptLimit plan.tables (plan.claimedIndexes draws),
      installer.callsOf engine draws batch state = made.calls ∧
        made.isComplete = (installer.install engine draws batch state).1.isOk ∧
        ∀ fault, (installer.install engine draws batch state).1 = .error fault →
          fault.phase? = some made.failedPhase := by
  obtain ⟨outcome, progress, made, run, calls, ended, failed⟩ :=
    installer.applyPlan_calls engine draws plan .notStarted state []
  rw [← (installer.install_recorded engine draws batch state []).1]
  unfold callsOf install applyBatch
  simp only [planned, run]
  cases outcome with
  | error fault => exact ⟨made, calls, ended, fun _ same => failed _ same⟩
  | ok report => exact ⟨made, calls, ended, fun _ impossible => nomatch impossible⟩

/-- An installation ends in the state that its result calls for. -/
theorem install_reached (installer : Installer) (engine : Engine σ) (draws : List Nat)
    (batch : String) (state : σ) :
    (installer.install engine draws batch state).2.reached =
      if (installer.install engine draws batch state).1.isOk then .done else .failed := by
  unfold install
  rcases installer.applyBatch engine draws batch ⟨.notStarted, state⟩ with ⟨outcome, progress⟩
  cases outcome <;> rfl

/-- Whatever an engine answers, the calls of an installation have the shape of a run, and
the installation ends in a terminal state: done if the run is complete, and failed
otherwise. Without a plan there are no calls. -/
theorem install_calls_have_shape (installer : Installer) (engine : Engine σ)
    (draws : List Nat) (batch : String) (state : σ) :
    (installer.install engine draws batch state).2.reached =
        (if (installer.install engine draws batch state).1.isOk then .done else .failed) ∧
      match Plan.ofBatch installer.translate batch with
      | .error fault =>
        installer.callsOf engine draws batch state = [] ∧
          (installer.install engine draws batch state).1 = .error fault
      | .ok plan =>
        ∃ made : RunCalls installer.attemptLimit plan.tables (plan.claimedIndexes draws),
          (plan.claimedIndexes draws).length = plan.indexes.length ∧
            installer.callsOf engine draws batch state = made.calls ∧
            made.isComplete = (installer.install engine draws batch state).1.isOk := by
  refine ⟨installer.install_reached engine draws batch state, ?_⟩
  cases planning : Plan.ofBatch installer.translate batch with
  | error fault => exact installer.callsOf_of_unplanned engine draws batch state planning
  | ok plan =>
    obtain ⟨made, calls, ended, _⟩ :=
      installer.callsOf_of_planned engine draws batch state planning
    exact ⟨made, plan.claimedIndexes_length draws, calls, ended⟩

end Installer

end DialectBridge.Schema
