import DialectBridge.Proofs.IndexNames.Uniqueness
import DialectBridge.Proofs.Outcomes

/-!
# What a report accounts for

An installation that succeeds executes every statement that its translator gives for the
batch once and in order, first the tables and then the indexes with the names that they
claim. Its report says what happened: how many statements there were of each kind, which
indexes have another name than they were given, and how often the start or the end of a
transaction had to be asked for again.

The times that something was asked for again are counted in each of four loops. That their
sum is the number of calls that were answered with contention is shown call by call, along
the run, and needs no shape of the calls.
-/

namespace DialectBridge.Schema

open Diagnostic (Report Phase)

variable {σ : Type}

/-! ## Plans -/

/-- The statements of a translation that are executed with the tables. -/
def Translation.tableStatements : Translation → List String
  | .single statement => if IndexName.isIndexStatement statement then [] else [statement]
  | .table created _ => [created]

/-- The statements of a translation that wait until all tables are there. -/
def Translation.indexStatements : Translation → List String
  | .single statement => if IndexName.isIndexStatement statement then [statement] else []
  | .table _ indexes => indexes

namespace Plan

/-- The plan of a translation has its statements of both kinds. -/
theorem ofTranslation_eq (translation : Translation) :
    ofTranslation translation = ⟨translation.tableStatements, translation.indexStatements⟩ := by
  cases translation with
  | table => rfl
  | single statement =>
    cases index : IndexName.isIndexStatement statement <;>
      simp [ofTranslation, Translation.tableStatements, Translation.indexStatements, index]

/-- Statements have a plan exactly when each has a translation, and it has the statements of
the translations, in order. -/
theorem ofStatements_eq_ok_iff {translate : Translator} {statements : List String} {plan : Plan} :
    ofStatements translate statements = .ok plan ↔
      ∃ translations : List Translation, statements.map translate = translations.map .ok ∧
        plan = ⟨translations.flatMap (·.tableStatements),
          translations.flatMap (·.indexStatements)⟩ := by
  induction statements generalizing plan with
  | nil =>
    constructor
    · intro planned
      obtain rfl : {} = plan := by simpa [ofStatements] using planned
      exact ⟨[], rfl, rfl⟩
    · rintro ⟨translations, same, rfl⟩
      obtain rfl : translations = [] := by simpa using same.symm
      rfl
  | cons statement rest inductionHypothesis =>
    rw [ofStatements_cons_eq_ok_iff]
    constructor
    · rintro ⟨translation, later, translated, others, rfl⟩
      obtain ⟨translations, same, rfl⟩ := inductionHypothesis.mp others
      exact ⟨translation :: translations, by simp [translated, same],
        by simp [ofTranslation_eq, append]⟩
    · rintro ⟨translations, same, rfl⟩
      cases translations with
      | nil => simp at same
      | cons translation translations =>
        obtain ⟨translated, others⟩ := List.cons.inj same
        have later := inductionHypothesis.mpr ⟨translations, others, rfl⟩
        exact ⟨translation, _, translated, later, by simp [ofTranslation_eq, append]⟩

end Plan

/-! ## Renamings -/

open IndexName (readBack?)

/-- The names of the indexes whose statement was changed: those that were given and those
that they have, in the order of the statements. -/
def renamings (given executed : List String) : List (Option (String × String)) :=
  ((given.zip executed).filter fun (old, new) => old != new).map fun (old, new) => do
    return (← readBack? old, ← readBack? new)

namespace IndexRegistry

/-- A name with a number is another name. -/
theorem numbered_ne (name : String) (number : Nat) : numbered name number ≠ name := by
  intro same
  have length := congrArg (fun text => text.toList.length) same
  simp [toList_numbered, IndexName.numberSuffix] at length

/-- A claim changes a statement exactly when it renames the index, and what it gives for
that are the names before and after. -/
theorem claim_renamed (registry : IndexRegistry) (statement : String) (draws : List Nat) :
    match (registry.claim statement draws).renamed with
    | none => (registry.claim statement draws).statement = statement
    | some (old, new) => (registry.claim statement draws).statement ≠ statement ∧
        readBack? statement = some old ∧
        readBack? (registry.claim statement draws).statement = some new := by
  cases located : IndexName.locate? statement.toList with
  | none => rw [registry.claim_of_unnamed draws located]
  | some found =>
    cases taken : registry.contains (String.ofList found.name) with
    | false => rw [registry.claim_of_unused draws located taken]
    | true =>
      have given : readBack? statement = some (String.ofList found.name) := by
        simp [readBack?, located]
      have new := readBack?_renamed located
        (registry.freeNumber (String.ofList found.name) draws)
      simp only [registry.claim_of_inUse draws located taken]
      refine ⟨?_, given, new⟩
      intro same
      rw [same, given] at new
      exact numbered_ne _ _ (Option.some.inj new).symm

/-- The indexes that claims rename are those whose statement was changed. -/
theorem renamed_claimAll (registry : IndexRegistry) (draws : List Nat)
    (statements : List String) :
    ((registry.claimAll draws statements).filterMap (·.renamed)).map some =
      renamings statements ((registry.claimAll draws statements).map (·.statement)) := by
  induction statements generalizing registry draws with
  | nil => rfl
  | cons statement rest inductionHypothesis =>
    have others := inductionHypothesis (registry.claim statement draws).registry
      (registry.claim statement draws).draws
    have renamed := registry.claim_renamed statement draws
    unfold renamings at others ⊢
    rw [claimAll]
    cases change : (registry.claim statement draws).renamed with
    | none =>
      rw [change] at renamed
      simp only [List.filterMap_cons, change, others, List.map_cons, List.zip_cons_cons]
      rw [List.filter_cons_of_neg (by simp [renamed])]
    | some names =>
      obtain ⟨old, new⟩ := names
      rw [change] at renamed
      obtain ⟨changed, given, executed⟩ := renamed
      simp only [List.filterMap_cons, change, List.map_cons, others, List.zip_cons_cons]
      rw [List.filter_cons_of_pos (by simpa using changed.symm), List.map_cons]
      simp [given, executed]

end IndexRegistry

/-! ## Calls that were made again -/

/-- Whether a request begins or ends a transaction. -/
def Request.isBoundary : Request → Bool
  | begin | commit => true
  | execute _ | rollback => false

/-- Calls none of which failed, but for contention at the start or the end of a transaction,
of which there are as many as are counted. -/
structure Uninterrupted (calls : List Call) (retries : Nat) : Prop where
  settled : ∀ call ∈ calls, call.succeeded ∨ (call.request.isBoundary ∧ call.contended)
  counted : calls.countP (fun call => call.request.isBoundary && call.contended) = retries

namespace Uninterrupted

/-- No call is no contention. -/
theorem nil : Uninterrupted [] 0 := ⟨by simp, rfl⟩

/-- One call that succeeds is no contention. -/
theorem granted (request : Request) : Uninterrupted [⟨request, .ok ()⟩] 0 where
  settled := by simp
  counted := by simp [Call.contended]

/-- One call that is contention at the start or the end of a transaction counts. -/
theorem refused {request : Request} (boundary : request.isBoundary = true) {report : Report}
    (contended : report.isContention = true) :
    Uninterrupted [⟨request, .error report⟩] 1 where
  settled := by simp [boundary, Call.contended, contended]
  counted := by simp [boundary, Call.contended, contended]

/-- Calls after others count with them. -/
theorem append {first second : List Call} {early late : Nat}
    (before : Uninterrupted first early) (after : Uninterrupted second late) :
    Uninterrupted (first ++ second) (early + late) where
  settled := by
    intro call member
    exact (List.mem_append.mp member).elim (before.settled call) (after.settled call)
  counted := by rw [List.countP_append, before.counted, after.counted]

end Uninterrupted

namespace Installer

variable {engine : Engine σ} {state : σ} {before : List Call} {after : σ × List Call}

/-- A call that is made is kept behind those before it. -/
theorem recorded_log {request : Request} {answer : Except Report Unit}
    (asked : engine.recorded request (state, before) = (answer, after)) :
    after.2 = before ++ [⟨request, answer⟩] := by
  obtain ⟨rfl, rfl⟩ := Prod.mk.inj asked
  rfl

/-- Attempts that succeed in the end count the refusals before. Induct on the number of
attempts left: what is counted after a refusal is one more. -/
theorem attemptAfter_uninterrupted {request : Request} (boundary : request.isBoundary = true)
    {earlier left retries : Nat}
    (run : Retry.attemptAfter Report.isContention (engine.recorded request) earlier left
      (state, before) = (.ok ((), retries), after)) :
    ∃ calls again, after.2 = before ++ calls ∧ Uninterrupted calls again ∧
      retries = earlier + again ∧ again ≤ left := by
  induction left using Nat.strongRecOn generalizing earlier state before with
  | ind left inductionHypothesis =>
    rcases Retry.attemptAfter_ok_cases run with
      ⟨asked, rfl⟩ | ⟨report, ⟨next, log⟩, fewer, rfl, asked, contended, rest⟩
    · exact ⟨_, 0, recorded_log asked, .granted request, rfl, Nat.zero_le _⟩
    · obtain ⟨calls, again, made, uninterrupted, counted, bounded⟩ :=
        inductionHypothesis fewer (Nat.lt_succ_self fewer) rest
      obtain rfl : log = before ++ [⟨request, .error report⟩] := recorded_log asked
      refine ⟨⟨request, .error report⟩ :: calls, 1 + again, ?_,
        (Uninterrupted.refused boundary contended).append uninterrupted, ?_, ?_⟩
      · rw [made, List.append_assoc, List.singleton_append]
      · omega
      · omega

/-- The start or the end of a transaction that is granted in the end counts the refusals
before. -/
theorem boundary_uninterrupted {installer : Installer} {phase : Phase} {request : Request}
    (boundary : request.isBoundary = true) {statement : String} {retries : Nat}
    (run : installer.boundary engine.recorded phase request statement (state, before) =
      (.ok retries, after)) :
    ∃ calls, after.2 = before ++ calls ∧ Uninterrupted calls retries ∧
      retries ≤ installer.attemptLimit - 1 := by
  unfold Installer.boundary Retry.run at run
  split at run
  · next value count final attempted =>
    obtain ⟨rfl, rfl⟩ := by simpa using run
    obtain ⟨calls, again, made, uninterrupted, counted, bounded⟩ :=
      attemptAfter_uninterrupted boundary attempted
    obtain rfl : count = again := by omega
    refine ⟨calls, made, uninterrupted, ?_⟩
    unfold attemptLimit
    omega
  · simp at run

/-- Statements that are all executed leave nothing to be counted. -/
theorem executeAll_uninterrupted {phase : Phase} {statements : List String}
    (run : executeAll engine.recorded phase statements (state, before) = (.ok (), after)) :
    ∃ calls, after.2 = before ++ calls ∧ Uninterrupted calls 0 := by
  induction statements generalizing state before with
  | nil =>
    obtain rfl : (state, before) = after := by simpa [executeAll] using run
    exact ⟨[], by simp, .nil⟩
  | cons statement rest inductionHypothesis =>
    unfold executeAll at run
    split at run
    · next value next asked =>
      obtain ⟨next, log⟩ := next
      obtain ⟨calls, made, uninterrupted⟩ := inductionHypothesis run
      obtain rfl : log = before ++ [⟨.execute statement, .ok ()⟩] := recorded_log asked
      refine ⟨⟨.execute statement, .ok ()⟩ :: calls, ?_,
        (Uninterrupted.granted (.execute statement)).append uninterrupted⟩
      rw [made, List.append_assoc, List.singleton_append]
    · simp at run

/-- A phase that is applied counts what its start and its end count. -/
theorem applyPhase_uninterrupted {installer : Installer} {phase : Phase}
    {statements : List String} {retries : Nat}
    (run : installer.applyPhase engine.recorded phase statements (state, before) =
      (.ok retries, after)) :
    ∃ calls, after.2 = before ++ calls ∧ Uninterrupted calls retries ∧
      retries ≤ 2 * (installer.attemptLimit - 1) := by
  cases applyPhase_course run with
  | completed begun ran committed =>
    obtain ⟨begins, beginsMade, beginning, beginBound⟩ := boundary_uninterrupted rfl begun
    obtain ⟨executions, executionsMade, executing⟩ := executeAll_uninterrupted ran
    obtain ⟨commits, commitsMade, committing, commitBound⟩ :=
      boundary_uninterrupted rfl committed
    refine ⟨begins ++ (executions ++ commits), ?_, ?_, by omega⟩
    · rw [commitsMade, executionsMade, beginsMade]
      simp
    · have counted := beginning.append (executing.append committing)
      rwa [Nat.zero_add] at counted

/-- A phase that is left out counts nothing. -/
theorem applyIfAny_uninterrupted {installer : Installer} {phase : Phase}
    {statements : List String} {retries : Nat}
    (run : installer.applyIfAny engine.recorded phase statements (state, before) =
      (.ok retries, after)) :
    ∃ calls, after.2 = before ++ calls ∧ Uninterrupted calls retries ∧
      retries ≤ 2 * (installer.attemptLimit - 1) := by
  unfold applyIfAny at run
  split at run
  · obtain ⟨rfl, rfl⟩ := by simpa using run
    exact ⟨[], by simp, .nil, Nat.zero_le _⟩
  · exact applyPhase_uninterrupted run

/-- What a report says of a plan, of the statements of its indexes as they are executed and
of the calls that were made. -/
structure Accounts (installer : Installer) (plan : Plan) (draws : List Nat) (calls : List Call)
    (report : InstallReport) : Prop where
  tables : report.tablesExecuted = plan.tables.length
  indexes : report.indexesExecuted = plan.indexes.length
  renamed : report.renamed.map some = renamings plan.indexes (plan.claimedIndexes draws)
  calls : Uninterrupted calls report.retries
  bounded : report.retries ≤ 4 * (installer.attemptLimit - 1)

/-- The report on a plan that has been applied says what was done. -/
theorem applyPlan_accounts {installer : Installer} {draws : List Nat} {plan : Plan}
    {reached : InstallState} {report : InstallReport} {progress : Progress (σ × List Call)}
    (run : installer.applyPlan engine.recorded draws plan ⟨reached, (state, [])⟩ =
      (.ok report, progress)) :
    Accounts installer plan draws progress.engine.2 report := by
  cases applyPlan_course run with
  | @applied _ _ _ indexed tables indexes =>
    obtain ⟨tableCalls, tablesMade, tabling, tableBound⟩ := applyIfAny_uninterrupted tables
    obtain ⟨indexCalls, indexesMade, indexing, indexBound⟩ := applyIfAny_uninterrupted indexes
    have made : indexed.2 = tableCalls ++ indexCalls := by
      rw [indexesMade, tablesMade, List.nil_append]
    exact
      { tables := rfl
        indexes := IndexRegistry.claimAll_length {} draws plan.indexes
        renamed := IndexRegistry.renamed_claimAll {} draws plan.indexes
        calls := made ▸ tabling.append indexing
        bounded := by
          dsimp only
          omega }

/-- The report on an installation says what was done with the plan of its batch. -/
theorem install_accounts {installer : Installer} {engine : Engine σ} {draws : List Nat}
    {batch : String} {state : σ} {plan : Plan} {report : InstallReport}
    (planned : Plan.ofBatch installer.translate batch = .ok plan)
    (installed : (installer.install engine draws batch state).1 = .ok report) :
    Accounts installer plan draws (installer.callsOf engine draws batch state) report := by
  rw [← (installer.install_recorded engine draws batch state []).1] at installed
  unfold callsOf
  unfold install applyBatch at installed ⊢
  simp only [planned] at installed ⊢
  cases run : installer.applyPlan engine.recorded draws plan ⟨.notStarted, (state, [])⟩ with
  | mk outcome progress =>
    rw [run] at installed
    cases outcome with
    | error fault => simp at installed
    | ok given =>
      obtain rfl : given = report := by simpa using installed
      have accounts := applyPlan_accounts run
      exact accounts

/-- An engine that is busy whenever the start or the end of a transaction is asked for and it
has been asked an even number of times. -/
def intermittent : Engine Nat := fun request asked =>
  if request.isBoundary && asked % 2 == 0 then
    (.error { code := .engineBusy, message := "database is locked" }, asked + 1)
  else (.ok (), asked + 1)

/-- A batch with an index in front of its table and another of the same name behind it. -/
def namesakesAroundTable : String :=
  "CREATE INDEX k ON t(a); CREATE TABLE t(a, b); CREATE INDEX K ON t(b)"

/-- The plan of that batch. -/
def namesakesPlan : Plan :=
  ⟨["CREATE TABLE t(a, b)"], ["CREATE INDEX k ON t(a)", "CREATE INDEX K ON t(b)"]⟩

/-- What there is to say of that batch: three of the four boundaries are asked for twice. -/
def namesakesReport : InstallReport where
  tablesExecuted := 1
  indexesExecuted := 2
  renamed := [("K", "K_7")]
  retries := 3

end Installer

end DialectBridge.Schema
