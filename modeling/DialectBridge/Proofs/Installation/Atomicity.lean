import DialectBridge.Proofs.Installation.Calls

/-!
# Installations are all or nothing in each phase

A transactional engine shows two databases: the committed one, and while a transaction
is open a pending copy. What a call may do to them depends on the request and the answer
alone. Everything else about an engine is left open: which calls it refuses, in what
order, with contention or without, and what a statement that fails does to the copy.

The calls of a failed phase leave the committed database as it was, and those of a
complete phase apply all its statements to it in order. A failed installation therefore
leaves the database it started from, or that database with all tables applied, and the
second only when it is the phase of the indexes that failed.
-/

namespace DialectBridge.Schema

open Diagnostic (Report Phase)

variable {σ δ : Type}

/-- The databases of an engine: the committed one, and the copy that a transaction works
on while it is open. -/
structure Store (δ : Type) where
  committed : δ
  pending : Option δ

/-- What a call may do to the databases, where `effect` says what a statement that
succeeds may do to one. Executing and committing without a transaction is not
constrained. -/
inductive Moves (effect : String → δ → δ → Prop) : Store δ → Call → Store δ → Prop where
  | begun (store : Store δ) :
      Moves effect store ⟨.begin, .ok ()⟩ ⟨store.committed, some store.committed⟩
  | notBegun (store : Store δ) (report : Report) :
      Moves effect store ⟨.begin, .error report⟩ store
  | executed (statement : String) (committed before after : δ)
      (applied : effect statement before after) :
      Moves effect ⟨committed, some before⟩ ⟨.execute statement, .ok ()⟩ ⟨committed, some after⟩
  | notExecuted (statement : String) (committed before : δ) (after : Option δ) (report : Report) :
      Moves effect ⟨committed, some before⟩ ⟨.execute statement, .error report⟩ ⟨committed, after⟩
  | committed (old copy : δ) : Moves effect ⟨old, some copy⟩ ⟨.commit, .ok ()⟩ ⟨copy, none⟩
  | notCommitted (old copy : δ) (report : Report) :
      Moves effect ⟨old, some copy⟩ ⟨.commit, .error report⟩ ⟨old, some copy⟩
  | rolledBack (store : Store δ) :
      Moves effect store ⟨.rollback, .ok ()⟩ ⟨store.committed, none⟩
  | notRolledBack (store : Store δ) (pending : Option δ) (report : Report) :
      Moves effect store ⟨.rollback, .error report⟩ ⟨store.committed, pending⟩
  | executedOutside (statement : String) (committed : δ) (answer : Except Report Unit)
      (after : Store δ) : Moves effect ⟨committed, none⟩ ⟨.execute statement, answer⟩ after
  | committedOutside (committed : δ) (answer : Except Report Unit) (after : Store δ) :
      Moves effect ⟨committed, none⟩ ⟨.commit, answer⟩ after

/-- What calls may do to the databases, one after another. -/
inductive Path (effect : String → δ → δ → Prop) : Store δ → List Call → Store δ → Prop where
  | nil (store : Store δ) : Path effect store [] store
  | cons {store next last : Store δ} {call : Call} {calls : List Call}
      (move : Moves effect store call next) (rest : Path effect next calls last) :
      Path effect store (call :: calls) last

/-- Statements applied in order, every one of them. -/
inductive Applied (effect : String → δ → δ → Prop) : List String → δ → δ → Prop where
  | nil (database : δ) : Applied effect [] database database
  | cons {statement : String} {rest : List String} {before between after : δ}
      (first : effect statement before between) (others : Applied effect rest between after) :
      Applied effect (statement :: rest) before after

/-- An engine is transactional when each of its answers moves the databases that its
state shows as a call with that answer may. -/
def Engine.Transactional (engine : Engine σ) (store : σ → Store δ)
    (effect : String → δ → δ → Prop) : Prop :=
  ∀ request state,
    Moves effect (store state) ⟨request, (engine request state).1⟩
      (store (engine request state).2)

/-- What a phase does to the databases. If it is complete, all its statements have been
applied to the committed database, and otherwise none has. No transaction is open after
a rollback that succeeded, nor where the phase began without one and no rollback failed. -/
structure PhaseOutcome (effect : String → δ → δ → Prop) (statements : List String)
    (complete : Bool) (calls : List Call) (store last : Store δ) : Prop where
  applied : complete = true → Applied effect statements store.committed last.committed
  kept : complete = false → last.committed = store.committed
  rolledBack : ⟨.rollback, .ok ()⟩ ∈ calls → last.pending = none
  noneOpen : store.pending = none → (∀ report, ⟨.rollback, .error report⟩ ∉ calls) →
    last.pending = none

section Path

variable {effect : String → δ → δ → Prop}

/-- One more call extends a path by what it does. -/
theorem Path.snoc {store between last : Store δ} {calls : List Call} {call : Call}
    (path : Path effect store calls between) (move : Moves effect between call last) :
    Path effect store (calls ++ [call]) last := by
  induction path with
  | nil store => exact .cons move (.nil last)
  | cons first rest inductionHypothesis => exact .cons first (inductionHypothesis move)

/-- A path over calls in two stretches has a store between them. -/
theorem Path.split {store last : Store δ} {first second : List Call}
    (path : Path effect store (first ++ second) last) :
    ∃ between, Path effect store first between ∧ Path effect between second last := by
  induction first generalizing store with
  | nil => exact ⟨store, .nil store, path⟩
  | cons call calls inductionHypothesis =>
    cases path with
    | cons move rest =>
      obtain ⟨between, left, right⟩ := inductionHypothesis rest
      exact ⟨between, .cons move left, right⟩

/-- Calls that each leave the databases as they are leave them so together. -/
theorem Path.unmoved {store last : Store δ} {calls : List Call}
    (path : Path effect store calls last)
    (still : ∀ call ∈ calls, ∀ next, Moves effect store call next → next = store) :
    last = store := by
  induction path with
  | nil => rfl
  | @cons store next last call calls move rest inductionHypothesis =>
    obtain rfl := still call (by simp) next move
    exact inductionHypothesis fun call later => still call (List.mem_cons_of_mem _ later)

/-- Where a request that is refused changes nothing, a stretch of attempts does to the
databases what its last call does. -/
theorem Attempts.path {request : Request} {limit : Nat} {calls : List Call}
    {store last : Store δ} (attempts : Attempts request limit calls)
    (path : Path effect store calls last)
    (still : ∀ report next, Moves effect store ⟨request, .error report⟩ next → next = store) :
    ∃ answer, Moves effect store ⟨request, answer⟩ last ∧ endInSuccess calls = answer.isOk := by
  obtain ⟨earlier, answer, rfl, refused⟩ := attempts.split
  obtain ⟨between, before, final⟩ := path.split
  obtain rfl : between = store := by
    refine before.unmoved ?_
    intro call member next move
    obtain ⟨report, rfl⟩ := refused call member
    exact still report next move
  refine ⟨answer, ?_, by simp [Call.succeeded]⟩
  cases final with
  | cons move rest =>
    cases rest
    exact move

/-- Asking for a transaction opens a copy of the committed database, or changes nothing. -/
theorem Attempts.path_begin {limit : Nat} {calls : List Call} {store last : Store δ}
    (attempts : Attempts .begin limit calls) (path : Path effect store calls last) :
    last = if endInSuccess calls then ⟨store.committed, some store.committed⟩ else store := by
  obtain ⟨answer, move, ended⟩ := attempts.path path fun report next move => by cases move; rfl
  rw [ended]
  cases move <;> rfl

/-- Asking for the end of a transaction makes its copy the committed database, or changes
nothing. -/
theorem Attempts.path_commit {limit : Nat} {calls : List Call} {old copy : δ} {last : Store δ}
    (attempts : Attempts .commit limit calls) (path : Path effect ⟨old, some copy⟩ calls last) :
    last = if endInSuccess calls then ⟨copy, none⟩ else ⟨old, some copy⟩ := by
  obtain ⟨answer, move, ended⟩ := attempts.path path fun report next move => by cases move; rfl
  rw [ended]
  cases move <;> rfl

/-- Executing statements leaves the committed database alone. If all of them succeed,
they have been applied to the open copy in order. Induct on the calls: each one that
succeeds leaves a copy open for the next, and one that fails has none after it. -/
theorem Executions.path {statements : List String} {calls : List Call} {committed copy : δ}
    {last : Store δ} (executions : Executions statements calls)
    (path : Path effect ⟨committed, some copy⟩ calls last) :
    last.committed = committed ∧
      (calls.all Call.succeeded = true →
        ∃ after, last = ⟨committed, some after⟩ ∧ Applied effect statements copy after) := by
  induction calls generalizing statements copy with
  | nil =>
    cases path
    have none : 0 = statements.length := executions.complete (by simp)
    obtain rfl := List.length_eq_zero_iff.mp none.symm
    exact ⟨rfl, fun _ => ⟨copy, rfl, .nil copy⟩⟩
  | cons call calls inductionHypothesis =>
    obtain ⟨statement, rest, rfl, requested, later⟩ := executions.split
    rcases call with ⟨_, answer⟩
    obtain rfl := requested
    cases path with
    | cons move path =>
      cases move with
      | executed _ _ _ after applied =>
        have later : Executions rest calls := later
        obtain ⟨unchanged, complete⟩ := inductionHypothesis later path
        refine ⟨unchanged, fun all => ?_⟩
        obtain ⟨final, same, others⟩ :=
          complete (by simpa using all)
        exact ⟨final, same, .cons applied others⟩
      | notExecuted _ _ _ after report =>
        obtain rfl : calls = [] := later
        cases path
        exact ⟨rfl, fun all => by simp at all⟩

/-- A rollback leaves the committed database alone. Its answer decides whether a
transaction may be left open. -/
theorem Path.rollback {store last : Store δ} {calls : List Call}
    (path : Path effect store calls last) (single : ∃ answer, calls = [⟨.rollback, answer⟩]) :
    last.committed = store.committed ∧ (⟨.rollback, .ok ()⟩ ∈ calls → last.pending = none) ∧
      ((∀ report, ⟨.rollback, .error report⟩ ∉ calls) → last.pending = none) := by
  obtain ⟨answer, rfl⟩ := single
  cases path with
  | cons move rest =>
    cases rest
    cases move with
    | rolledBack => exact ⟨rfl, fun _ => rfl, fun _ => rfl⟩
    | notRolledBack _ pending report =>
      exact ⟨rfl, fun impossible => by simp at impossible, fun noFailure =>
        absurd (List.mem_singleton_self _) (noFailure report)⟩

/-- A phase has the outcome of a phase. The four cases are the ways in which it can end:
before its transaction, in its statements, at its commit, or with that. -/
theorem PhaseCalls.outcome {limit : Nat} {statements : List String} {store last : Store δ}
    (made : PhaseCalls limit statements) (path : Path effect store made.calls last) :
    PhaseOutcome effect statements made.isComplete made.calls store last := by
  obtain ⟨closed, path, rollbackPath⟩ := path.split
  obtain ⟨executed, path, commitPath⟩ := path.split
  obtain ⟨opened, beginPath, executePath⟩ := path.split
  have began := made.begun.path_begin beginPath
  have executions := made.executed
  have commits := made.committed
  have rollbacks := made.rolledBack
  suffices short : PhaseOutcome effect statements made.isComplete made.rollbacks store last by
    obtain ⟨applied, kept, rolledBack, noneOpen⟩ := short
    exact ⟨applied, kept, fun member => rolledBack ((made.rollback_mem _).mp member),
      fun none noFailure => noneOpen none fun report member =>
        noFailure report ((made.rollback_mem _).mpr member)⟩
  unfold PhaseCalls.isComplete
  cases opening : endInSuccess made.begins with
  | false =>
    simp only [opening, Bool.false_and, Bool.false_eq_true, if_false]
      at began executions commits rollbacks
    rw [executions] at executePath
    rw [commits] at commitPath ⊢
    rw [rollbacks] at rollbackPath ⊢
    cases executePath
    cases commitPath
    cases rollbackPath
    subst began
    exact ⟨nofun, fun _ => rfl, nofun, fun none _ => none⟩
  | true =>
    simp only [opening, Bool.true_and, if_true] at began executions commits rollbacks
    subst began
    obtain ⟨unchanged, whole⟩ := executions.path executePath
    cases execution : made.executions.all Call.succeeded with
    | false =>
      simp only [execution, Bool.false_eq_true, if_false] at commits
      have incomplete : endInSuccess made.commits = false := by rw [commits]; rfl
      simp only [incomplete, Bool.not_false, if_true] at rollbacks
      obtain ⟨kept, succeeded, noFailure⟩ := rollbackPath.rollback rollbacks
      rw [commits] at commitPath
      cases commitPath
      rw [incomplete]
      exact ⟨nofun, fun _ => kept.trans unchanged, succeeded, fun _ => noFailure⟩
    | true =>
      simp only [execution, if_true] at commits
      obtain ⟨after, rfl, applied⟩ := whole execution
      have ended := commits.path_commit commitPath
      cases closing : endInSuccess made.commits with
      | false =>
        simp only [closing, Bool.false_eq_true, if_false, Bool.not_false, if_true]
          at ended rollbacks
        obtain ⟨kept, succeeded, noFailure⟩ := rollbackPath.rollback rollbacks
        subst ended
        exact ⟨nofun, fun _ => kept, succeeded, fun _ => noFailure⟩
      | true =>
        simp only [closing, if_true, Bool.not_true, Bool.false_eq_true, if_false]
          at ended rollbacks
        rw [rollbacks] at rollbackPath ⊢
        cases rollbackPath
        subst ended
        exact ⟨fun _ => applied, nofun, nofun, fun _ _ => rfl⟩

/-- A phase that is left out for want of statements has the outcome of a complete one. -/
theorem PhaseCalls.outcome_ifAny {limit : Nat} {statements : List String}
    {store last : Store δ} (made : Option (PhaseCalls limit statements))
    (present : made.isSome = !statements.isEmpty)
    (path : Path effect store (callsIfAny made) last) :
    PhaseOutcome effect statements (made.all isComplete) (callsIfAny made) store last := by
  cases made with
  | none =>
    obtain rfl : statements = [] := by simpa using present
    cases path
    exact ⟨fun _ => .nil _, nofun, nofun, fun none _ => none⟩
  | some made => exact made.outcome path

/-- A run that is not complete leaves the committed database as it was, or with all its
tables applied where it is the phase of the indexes that failed. -/
theorem RunCalls.outcome {limit : Nat} {tables indexes : List String} {store last : Store δ}
    (made : RunCalls limit tables indexes) (path : Path effect store made.calls last)
    (incomplete : made.isComplete = false) :
    (if made.failedPhase = .indexes then Applied effect tables store.committed last.committed
        else last.committed = store.committed) ∧
      (⟨.rollback, .ok ()⟩ ∈ made.calls → last.pending = none) ∧
      (store.pending = none → (∀ report, ⟨.rollback, .error report⟩ ∉ made.calls) →
        last.pending = none) := by
  obtain ⟨between, tablePath, indexPath⟩ := path.split
  have tabled := PhaseCalls.outcome_ifAny made.tablePhase made.tablePhase_present tablePath
  have present := made.indexPhase_present
  unfold RunCalls.failedPhase RunCalls.calls
  unfold RunCalls.isComplete at incomplete
  cases complete : made.tablePhase.all PhaseCalls.isComplete with
  | false =>
    rw [complete] at tabled
    obtain absent : made.indexPhase = none := by simpa [complete] using present
    rw [absent] at indexPath ⊢
    cases indexPath
    simp only [PhaseCalls.callsIfAny, List.append_nil]
    exact ⟨tabled.kept rfl, tabled.rolledBack, tabled.noneOpen⟩
  | true =>
    rw [complete] at tabled
    have failed : made.indexPhase.all PhaseCalls.isComplete = false := by
      simpa [complete] using incomplete
    have indexed := PhaseCalls.outcome_ifAny made.indexPhase
      (by simpa [complete] using present) indexPath
    rw [failed] at indexed
    have noRollback := PhaseCalls.rollback_not_mem_callsIfAny complete
    refine ⟨?_, ?_, ?_⟩
    · rw [if_pos rfl, indexed.kept rfl]
      exact tabled.applied rfl
    · intro member
      rcases List.mem_append.mp member with inTables | inIndexes
      · exact absurd inTables (noRollback _)
      · exact indexed.rolledBack inIndexes
    · intro none noFailure
      have between := tabled.noneOpen none fun report => noRollback (.error report)
      exact indexed.noneOpen between fun report member =>
        noFailure report (List.mem_append_right _ member)

end Path

/-- Statements that have no plan were rejected before any phase of the engine. -/
theorem Plan.ofStatements_fault {translate : Translator} {statements : List String} {fault : Fault}
    (failed : ofStatements translate statements = .error fault) :
    fault.phase? = some .rewrite := by
  induction statements with
  | nil => simp [ofStatements] at failed
  | cons statement rest inductionHypothesis =>
    rcases ofStatements_cons_eq_error_iff.mp failed with ⟨reason, _, rfl⟩ | ⟨_, _, later⟩
    · rfl
    · exact inductionHypothesis later

/-- A plan fails to be made before any phase of the engine. -/
theorem Plan.ofBatch_fault {translate : Translator} {batch : String} {fault : Fault}
    (unplanned : ofBatch translate batch = .error fault) :
    fault.phase? ≠ some .indexes := by
  unfold ofBatch at unplanned
  split at unplanned
  · obtain rfl : Fault.emptyBatch = fault := by simpa using unplanned
    simp [Fault.phase?]
  · simp [ofStatements_fault unplanned]

namespace Installer

/-- The calls of an installation on a transactional engine move its databases from those
that it starts with to those that it ends with. -/
theorem path_callsOf {engine : Engine σ} {store : σ → Store δ} {effect : String → δ → δ → Prop}
    (transactional : engine.Transactional store effect) (installer : Installer)
    (draws : List Nat) (batch : String) (state : σ) :
    Path effect (store state) (installer.callsOf engine draws batch state)
      (store (installer.install engine draws batch state).2.engine) := by
  have follows : ∀ request (kept : σ × List Call),
      Path effect (store state) kept.2 (store kept.1) →
        Path effect (store state) (engine.recorded request kept).2.2
          (store (engine.recorded request kept).2.1) := by
    rintro request ⟨between, calls⟩ path
    exact path.snoc (transactional request between)
  have path := install_preserves follows installer draws batch (state, []) (.nil _)
  rwa [(installer.install_recorded engine draws batch state []).2] at path

/-- An installation that fails leaves the committed database as it was, unless it fails in
the phase of the indexes: then all statements of the tables have been applied to that in
order, and nothing else has. No transaction is left open by a rollback that succeeds, nor
where none was open before and no rollback fails. -/
theorem install_all_or_nothing {engine : Engine σ} {store : σ → Store δ}
    {effect : String → δ → δ → Prop} (transactional : engine.Transactional store effect)
    (installer : Installer) (draws : List Nat) (batch : String) (before : σ) {fault : Fault}
    {after : Progress σ}
    (failed : installer.install engine draws batch before = (.error fault, after)) :
    (if fault.phase? = some .indexes
        then ∃ plan, Plan.ofBatch installer.translate batch = .ok plan ∧
          Applied effect plan.tables (store before).committed (store after.engine).committed
        else (store after.engine).committed = (store before).committed) ∧
      (⟨.rollback, .ok ()⟩ ∈ installer.callsOf engine draws batch before →
        (store after.engine).pending = none) ∧
      ((store before).pending = none →
        (∀ report, ⟨.rollback, .error report⟩ ∉ installer.callsOf engine draws batch before) →
        (store after.engine).pending = none) := by
  have path := path_callsOf transactional installer draws batch before
  rw [failed] at path
  cases planning : Plan.ofBatch installer.translate batch with
  | error reason =>
    obtain ⟨none, same⟩ := installer.callsOf_of_unplanned engine draws batch before planning
    obtain rfl : fault = reason := by simpa [failed] using same
    rw [none] at path ⊢
    have unmoved := path.unmoved (by simp)
    rw [unmoved, if_neg (Plan.ofBatch_fault planning)]
    exact ⟨rfl, by simp, fun closed _ => closed⟩
  | ok plan =>
    obtain ⟨made, calls, ended, arose⟩ :=
      installer.callsOf_of_planned engine draws batch before planning
    rw [failed] at ended arose
    rw [calls] at path ⊢
    obtain ⟨committed, rest⟩ := made.outcome path ended
    refine ⟨?_, rest⟩
    rw [arose fault rfl]
    simpa using committed

end Installer

/-- What a request that is granted does to databases that are the statements executed in
them. Without a transaction there is nothing to execute in or to commit. -/
def granted : Request → Store (List String) → Store (List String)
  | .begin, store => ⟨store.committed, some store.committed⟩
  | .execute statement, ⟨committed, some copy⟩ => ⟨committed, some (copy ++ [statement])⟩
  | .commit, ⟨_, some copy⟩ => ⟨copy, none⟩
  | .rollback, store => ⟨store.committed, none⟩
  | .execute _, ⟨committed, none⟩ => ⟨committed, none⟩
  | .commit, ⟨committed, none⟩ => ⟨committed, none⟩

/-- An engine that refuses a call where its script has a report for it, and grants every
other. -/
def ledger : Engine (Store (List String) × List (Option Report))
  | _, (store, some report :: script) => (.error report, store, script)
  | request, (store, none :: script) => (.ok (), granted request store, script)
  | request, (store, []) => (.ok (), granted request store, [])

/-- The ledger is transactional: a statement that succeeds is added to the open copy. -/
theorem ledger_transactional :
    ledger.Transactional Prod.fst fun statement before after => after = before ++ [statement] := by
  have refused (request : Request) (store : Store (List String)) (report : Report) :
      Moves (fun statement before after => after = before ++ [statement]) store
        ⟨request, .error report⟩ store := by
    obtain ⟨committed, pending⟩ := store
    cases request with
    | begin => exact .notBegun _ report
    | rollback => exact .notRolledBack _ pending report
    | execute statement =>
      cases pending with
      | none => exact .executedOutside statement committed _ _
      | some copy => exact .notExecuted statement committed copy (some copy) report
    | commit =>
      cases pending with
      | none => exact .committedOutside committed _ _
      | some copy => exact .notCommitted committed copy report
  have moved (request : Request) (store : Store (List String)) :
      Moves (fun statement before after => after = before ++ [statement]) store
        ⟨request, .ok ()⟩ (granted request store) := by
    obtain ⟨committed, pending⟩ := store
    cases request with
    | begin => exact .begun _
    | rollback => exact .rolledBack _
    | execute statement =>
      cases pending with
      | none => exact .executedOutside statement committed _ _
      | some copy => exact .executed statement committed copy _ rfl
    | commit =>
      cases pending with
      | none => exact .committedOutside committed _ _
      | some copy => exact .committed committed copy
  rintro request ⟨store, script⟩
  match script with
  | [] => exact moved request store
  | none :: rest => exact moved request store
  | some report :: rest => exact refused request store report

/-- A batch with a table and an index. -/
def tableWithIndex : String := "CREATE TABLE t (a);CREATE INDEX i ON t (a)"

/-- A ledger that is locked whenever its second transaction is to be committed. -/
def lockedLedger : Store (List String) × List (Option Report) :=
  (⟨[], none⟩, List.replicate 5 none ++
    List.replicate 2 (some { code := .engineBusy, message := "database is locked" }))

/-- Contention at the end of the second transaction keeps the table and drops the index:
two attempts meet it, and the rollback after them succeeds. -/
theorem tables_kept_under_contention :
    ∃ fault after, Installer.install ⟨.identity, 2⟩ ledger [] tableWithIndex lockedLedger =
        (.error fault, after) ∧
      fault.phase? = some .indexes ∧
      (∃ plan, Plan.ofBatch .identity tableWithIndex = .ok plan ∧
        Applied (fun statement before after => after = before ++ [statement]) plan.tables []
          after.engine.1.committed) ∧
      after.engine.1.pending = none := by
  have phase : (match
        (Installer.install ⟨.identity, 2⟩ ledger [] tableWithIndex lockedLedger).1 with
      | .ok _ => none
      | .error fault => fault.phase?) = some .indexes := by
    decide +kernel
  have granted : (Installer.callsOf ⟨.identity, 2⟩ ledger [] tableWithIndex lockedLedger).all
      (fun call => call.request != .rollback || call.succeeded) = true := by
    decide +kernel
  rcases failed : Installer.install ⟨.identity, 2⟩ ledger [] tableWithIndex lockedLedger with
    ⟨fault | report, after⟩
  · rw [failed] at phase
    obtain ⟨committed, _, closed⟩ :=
      Installer.install_all_or_nothing ledger_transactional ⟨.identity, 2⟩ [] tableWithIndex
        lockedLedger failed
    rw [if_pos phase] at committed
    refine ⟨fault, after, rfl, phase, committed, closed rfl ?_⟩
    intro report member
    have succeeded := List.all_eq_true.mp granted _ member
    simp [Call.succeeded, Except.isOk, Except.toBool] at succeeded
  · simp [failed] at phase

end DialectBridge.Schema
