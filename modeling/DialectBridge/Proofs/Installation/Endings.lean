import Mathlib.Data.List.Chain
import Mathlib.Data.List.TakeWhile
import DialectBridge.Proofs.Installation.Reporting

/-!
# How installations end

Every step of an installation either settles its calls, so that nothing is left to answer
for, or breaks off at a call that failed, with nothing but rollbacks behind it. The call at
which it breaks off is the first that failed and was not made again, and with its phase it
determines the fault. Contention at the start or the end of a transaction is the one case
in which that is not enough: then the calls before must have met it to the limit as well.

Calls that are settled can stand in front of others without a change to where those break
off. That carries the ending of one step to the whole run.
-/

namespace DialectBridge.Schema

open Diagnostic (Report Phase)

variable {σ α : Type}

/-- The text by which a request is named in a report: a statement by itself. -/
def Request.text : Request → String
  | begin => "BEGIN"
  | execute statement => statement
  | commit => "COMMIT"
  | rollback => "ROLLBACK"

/-! ## Reading calls -/

/-- The first call that failed and was not made again, behind the calls before it. -/
def firstFailure? : List Call → Option (List Call × Call)
  | [] => none
  | call :: later =>
    if call.succeeded || later.head?.any (·.request == call.request) then
      (firstFailure? later).map fun (earlier, failed) => (call :: earlier, failed)
    else some ([], call)

/-- The calls before any rollback. -/
def beforeRollback (calls : List Call) : List Call := calls.takeWhile (·.request != .rollback)

/-- The last calls, a number of them, were all for one request and met contention each time. -/
def EndContended (request : Request) (count : Nat) (calls : List Call) : Prop :=
  ∃ last, last <:+ calls ∧ last.length = count ∧
    ∀ call ∈ last, call.request = request ∧ call.contended

/-- Whether a transaction was committed. -/
def committedIn (calls : List Call) : Bool :=
  calls.any fun call => call.request == .commit && call.succeeded

/-- The phase of a plan that is under way after some calls. -/
def Plan.phaseAfter (plan : Plan) (calls : List Call) : Phase :=
  if committedIn calls || plan.tables.isEmpty then .indexes else .tables

/-! ## Steps that settle their calls, and steps that break off -/

/-- A call that another follows is not to blame when it succeeded, and when it is the start or
the end of a transaction that is asked for again. -/
def Passes (call next : Call) : Prop :=
  call.succeeded ∨ (call.request.isBoundary ∧ next.request = call.request)

/-- Calls after which nothing is left to answer for: each is passed, the last succeeded, and
nothing was rolled back. -/
structure Settled (calls : List Call) : Prop where
  passed : calls.IsChain Passes
  ended : ∀ call ∈ calls.getLast?, call.succeeded
  kept : ∀ call ∈ calls, call.request ≠ .rollback

/-- Calls break off at a request that failed: those before it are passed, what follows is
rolled back, and the start or the end of a transaction has met contention to the limit. -/
structure Breaks (limit : Nat) (earlier : List Call) (request : Request) (report : Report)
    (rollbacks : List Call) : Prop where
  passed : (earlier ++ [Call.mk request (.error report)]).IsChain Passes
  kept : ∀ call ∈ earlier ++ [⟨request, .error report⟩], call.request ≠ .rollback
  exhausted : request.isBoundary → report.isContention →
    EndContended request limit (earlier ++ [⟨request, .error report⟩])
  rolledBack : ∀ call ∈ rollbacks, call.request = .rollback

/-- The fault of a step that breaks off at a request. -/
def Fault.ofRequest (limit : Nat) (phase : Phase) (request : Request) (report : Report) : Fault :=
  if request.isBoundary && report.isContention then .contention phase limit request.text
  else .statement phase request.text report

/-- The fault of a request is either contention at the start or the end of a transaction, or the
failure of the request. -/
theorem Fault.ofRequest_cases (limit : Nat) (phase : Phase) (request : Request)
    (report : Report) :
    (request.isBoundary ∧ report.isContention ∧
        ofRequest limit phase request report = .contention phase limit request.text) ∨
      (¬(request.isBoundary ∧ report.isContention) ∧
        ofRequest limit phase request report = .statement phase request.text report) := by
  unfold ofRequest
  cases boundary : request.isBoundary <;> cases contended : report.isContention <;> simp

/-- A step settles its calls and has a result, or breaks off with the fault of a request in
the phase that the calls before are in. -/
inductive Ends (limit : Nat) (phaseOf : List Call → Phase) : Except Fault α → List Call → Prop where
  | settled {value : α} {calls : List Call} (settled : Settled calls) :
      Ends limit phaseOf (.ok value) calls
  | broken {earlier : List Call} {request : Request} {report : Report} {rollbacks : List Call}
      (breaks : Breaks limit earlier request report rollbacks) :
      Ends limit phaseOf (.error (.ofRequest limit (phaseOf earlier) request report))
        (earlier ++ ⟨request, .error report⟩ :: rollbacks)

/-- Calls are passed behind calls that are settled. -/
theorem Settled.passed_append {front calls : List Call} (settled : Settled front)
    (passed : calls.IsChain Passes) : (front ++ calls).IsChain Passes :=
  List.isChain_append.mpr
    ⟨settled.passed, passed, fun call last _ _ => .inl (settled.ended call last)⟩

/-- No calls are settled. -/
theorem Settled.nil : Settled [] := ⟨.nil, by simp, by simp⟩

/-- A statement that succeeded is settled. -/
theorem Settled.executed (statement : String) : Settled [⟨.execute statement, .ok ()⟩] where
  passed := .singleton _
  ended := by simp
  kept := by simp

/-- Settled calls are settled behind others. -/
theorem Settled.append {front calls : List Call} (settled : Settled front)
    (others : Settled calls) : Settled (front ++ calls) where
  passed := settled.passed_append others.passed
  ended := by
    intro call last
    rw [List.getLast?_append] at last
    cases calls with
    | nil => exact settled.ended call (by simpa using last)
    | cons next later => exact others.ended call (by simpa using last)
  kept := by
    intro call member
    exact (List.mem_append.mp member).elim (settled.kept call) (others.kept call)

/-- The last calls stay the last behind others. -/
theorem EndContended.append {request : Request} {count : Nat} {calls : List Call}
    (contended : EndContended request count calls) (front : List Call) :
    EndContended request count (front ++ calls) := by
  obtain ⟨last, suffix, counted, all⟩ := contended
  exact ⟨last, List.suffix_append_of_suffix suffix, counted, all⟩

/-- Calls break off at the same request behind calls that are settled. -/
theorem Breaks.behind {limit : Nat} {front earlier rollbacks : List Call} {request : Request}
    {report : Report} (breaks : Breaks limit earlier request report rollbacks)
    (settled : Settled front) : Breaks limit (front ++ earlier) request report rollbacks where
  passed := by
    rw [List.append_assoc]
    exact settled.passed_append breaks.passed
  kept := by
    intro call member
    rw [List.append_assoc] at member
    exact (List.mem_append.mp member).elim (settled.kept call) (breaks.kept call)
  exhausted := by
    intro boundary contended
    rw [List.append_assoc]
    exact (breaks.exhausted boundary contended).append front
  rolledBack := breaks.rolledBack

/-- A step ends in the same way behind calls that are settled. -/
theorem Ends.behind {limit : Nat} {phaseOf : List Call → Phase} {outcome : Except Fault α}
    {front calls : List Call} (settled : Settled front)
    (ends : Ends limit (fun earlier => phaseOf (front ++ earlier)) outcome calls) :
    Ends limit phaseOf outcome (front ++ calls) := by
  cases ends with
  | settled others => exact .settled (settled.append others)
  | broken breaks =>
    rw [← List.append_assoc]
    exact .broken (breaks.behind settled)

/-- A rollback behind a fault leaves the fault as it is. -/
theorem Ends.rolledBack {limit : Nat} {phaseOf : List Call → Phase} {fault : Fault}
    {calls : List Call} (ends : Ends limit phaseOf (.error fault : Except Fault α) calls)
    (answer : Except Report Unit) :
    Ends limit phaseOf (.error fault : Except Fault α) (calls ++ [⟨.rollback, answer⟩]) := by
  cases ends with
  | broken breaks =>
    rw [List.append_assoc, List.cons_append]
    refine .broken { breaks with rolledBack := ?_ }
    intro call member
    rcases List.mem_append.mp member with inside | last
    · exact breaks.rolledBack call inside
    · rw [List.mem_singleton.mp last]

/-- A fault does not depend on what the step would have given. -/
theorem Ends.failed {β : Type} {limit : Nat} {phaseOf : List Call → Phase} {fault : Fault}
    {calls : List Call} (ends : Ends limit phaseOf (.error fault : Except Fault α) calls) :
    Ends limit phaseOf (.error fault : Except Fault β) calls := by
  cases ends with
  | broken breaks => exact .broken breaks

/-- A fault is that of a request in its phase if all calls before are in that. -/
theorem Ends.inPhase {limit : Nat} {phase : Phase} {phaseOf : List Call → Phase} {fault : Fault}
    {calls : List Call} (ends : Ends limit (fun _ => phase) (.error fault : Except Fault α) calls)
    (same : ∀ earlier, earlier <+: calls → phaseOf earlier = phase) :
    Ends limit phaseOf (.error fault : Except Fault α) calls := by
  cases ends with
  | broken breaks =>
    rw [← same _ (List.prefix_append _ _)]
    exact .broken breaks

/-! ## Reading settled and broken calls -/

/-- A call that is passed is not the first failure. -/
theorem firstFailure?_cons {call next : Call} {later : List Call} (passes : Passes call next) :
    firstFailure? (call :: next :: later) =
      (firstFailure? (next :: later)).map fun (earlier, failed) => (call :: earlier, failed) := by
  have passes : (call.succeeded || (next.request == call.request)) = true := by
    rcases passes with succeeded | ⟨-, again⟩
    · simp [succeeded]
    · simp [again]
  rw [firstFailure?]
  simp [passes]

/-- Settled calls have no failure. -/
theorem Settled.firstFailure?_eq {calls : List Call} (settled : Settled calls) :
    firstFailure? calls = none := by
  obtain ⟨passed, ended, -⟩ := settled
  induction calls with
  | nil => rfl
  | cons call later inductionHypothesis =>
    cases later with
    | nil => simp [firstFailure?, ended call (by simp)]
    | cons next later =>
      obtain ⟨passes, passed⟩ := List.isChain_cons_cons.mp passed
      rw [firstFailure?_cons passes, inductionHypothesis passed (by simpa using ended)]
      rfl

/-- Calls that are passed up to one that failed and was not made again have it as their first
failure. -/
theorem firstFailure?_of_passed {earlier later : List Call} {call : Call}
    (passed : (earlier ++ [call]).IsChain Passes) (failed : call.succeeded = false)
    (given : ∀ next ∈ later.head?, next.request ≠ call.request) :
    firstFailure? (earlier ++ call :: later) = some (earlier, call) := by
  induction earlier with
  | nil =>
    have notAgain : later.head?.any (·.request == call.request) = false := by
      cases later with
      | nil => rfl
      | cons next later => simpa using given next
    simp [firstFailure?, failed, notAgain]
  | cons first earlier inductionHypothesis =>
    cases earlier with
    | nil =>
      obtain ⟨passes, passed⟩ := List.isChain_cons_cons.mp passed
      have others := inductionHypothesis passed
      rw [List.nil_append] at others
      rw [List.singleton_append, firstFailure?_cons passes, others]
      rfl
    | cons second earlier =>
      obtain ⟨passes, passed⟩ := List.isChain_cons_cons.mp passed
      have others := inductionHypothesis passed
      rw [List.cons_append] at others
      rw [List.cons_append, List.cons_append, firstFailure?_cons passes, others]
      rfl

/-- A call that met contention did not succeed. -/
theorem Call.not_contended_of_succeeded {call : Call} (succeeded : call.succeeded = true) :
    call.contended = false := by
  rcases call with ⟨request, answer | report⟩
  · simp at succeeded
  · rfl

/-- Where the last calls met contention, the very last did. -/
theorem EndContended.last {request : Request} {count : Nat} {calls : List Call} {call : Call}
    (contended : EndContended request count (calls ++ [call])) (positive : 0 < count) :
    call.request = request ∧ call.contended := by
  obtain ⟨last, suffix, rfl, all⟩ := contended
  rcases List.suffix_concat_iff.mp suffix with rfl | ⟨others, rfl, -⟩
  · simp at positive
  · exact all call (by simp)

/-- Settled calls do not end in contention. -/
theorem Settled.not_endContended {request : Request} {count : Nat} {calls : List Call}
    (settled : Settled calls) (positive : 0 < count) :
    ¬EndContended request count (beforeRollback calls) := by
  have whole : beforeRollback calls = calls :=
    List.takeWhile_eq_self_iff.mpr fun call member => by simpa using settled.kept call member
  rw [whole]
  intro contended
  rcases List.eq_nil_or_concat' calls with rfl | ⟨others, call, rfl⟩
  · obtain ⟨last, suffix, rfl, -⟩ := contended
    simp [List.suffix_nil.mp suffix] at positive
  · have succeeded := settled.ended call (by simp)
    have again := (contended.last positive).2
    simp [Call.not_contended_of_succeeded succeeded] at again

/-- Nothing ends in contention where there are no calls. -/
theorem not_endContended_nil {request : Request} {count : Nat} (positive : 0 < count) :
    ¬EndContended request count (beforeRollback []) :=
  Settled.nil.not_endContended positive

/-- Of calls that are passed, each that another follows succeeded or is the start or the end of
a transaction. -/
theorem succeeded_or_boundary {earlier later : List Call} {call next : Call}
    (passed : (earlier ++ call :: next :: later).IsChain Passes) :
    call.succeeded ∨ call.request.isBoundary := by
  obtain ⟨-, passed, -⟩ := List.isChain_append.mp passed
  exact (List.isChain_cons_cons.mp passed).1.imp_right And.left

/-- No statement among settled calls has failed. -/
theorem Settled.not_executed {earlier later : List Call} {statement : String} {report : Report} :
    ¬Settled (earlier ++ ⟨.execute statement, .error report⟩ :: later) := by
  rintro ⟨passed, ended, -⟩
  cases later with
  | nil => simp at ended
  | cons next later =>
    have either := succeeded_or_boundary passed
    simp [Request.isBoundary] at either

namespace Breaks

variable {limit : Nat} {earlier rollbacks : List Call} {request : Request} {report : Report}

/-- The request at which calls break off is their first failure. -/
theorem firstFailure?_eq (breaks : Breaks limit earlier request report rollbacks) :
    firstFailure? (earlier ++ ⟨request, .error report⟩ :: rollbacks) =
      some (earlier, ⟨request, .error report⟩) := by
  refine firstFailure?_of_passed breaks.passed rfl fun next first => ?_
  rw [breaks.rolledBack next (List.mem_of_mem_head? first)]
  exact (breaks.kept ⟨request, .error report⟩ (by simp)).symm

/-- The last call before any rollback is that at which calls break off. -/
theorem beforeRollback_eq (breaks : Breaks limit earlier request report rollbacks) :
    beforeRollback (earlier ++ ⟨request, .error report⟩ :: rollbacks) =
      earlier ++ [⟨request, .error report⟩] := by
  have none : rollbacks.takeWhile (·.request != .rollback) = [] := by
    cases rollbacks with
    | nil => rfl
    | cons call later => simp [breaks.rolledBack call (by simp)]
  unfold beforeRollback
  rw [← List.singleton_append, ← List.append_assoc,
    List.takeWhile_append_of_pos fun call member => by simpa using breaks.kept call member,
    none, List.append_nil]

/-- Calls that break off end in contention for the start or the end of a transaction exactly
when it is there that they break off and for that reason. -/
theorem endContended_iff (breaks : Breaks limit earlier request report rollbacks)
    (positive : 0 < limit) {other : Request} (boundary : other.isBoundary) :
    EndContended other limit
        (beforeRollback (earlier ++ ⟨request, .error report⟩ :: rollbacks)) ↔
      request = other ∧ report.isContention := by
  rw [breaks.beforeRollback_eq]
  constructor
  · exact fun contended => contended.last positive
  · rintro ⟨rfl, contended⟩
    exact breaks.exhausted boundary contended

/-- Where a statement has failed, calls break off there. -/
theorem eq_of_executed {front later : List Call} {reason : Report} {statement : String}
    (breaks : Breaks limit earlier request report rollbacks)
    (split : earlier ++ ⟨request, .error report⟩ :: rollbacks =
      front ++ ⟨.execute statement, .error reason⟩ :: later) :
    earlier = front ∧ request = .execute statement ∧ report = reason ∧ rollbacks = later := by
  rcases List.append_eq_append_iff.mp split with
    ⟨between, rfl, behind⟩ | ⟨between, rfl, behind⟩
  · cases between with
    | nil => simpa [and_assoc] using behind
    | cons call between =>
      -- The statement would be among the rollbacks.
      obtain ⟨-, rfl⟩ := List.cons.inj behind
      have rolledBack := breaks.rolledBack ⟨.execute statement, .error reason⟩ (by simp)
      simp at rolledBack
  · cases between with
    | nil =>
      obtain ⟨same, rfl⟩ := List.cons.inj behind
      simpa [eq_comm] using same
    | cons call between =>
      -- The statement would be passed, but it neither succeeded nor is at the start or the end.
      obtain ⟨rfl, -⟩ := List.cons.inj behind
      obtain ⟨next, others, rest⟩ : ∃ next others,
          between ++ [⟨request, .error report⟩] = next :: others :=
        List.exists_cons_of_ne_nil (by simp)
      have passed := breaks.passed
      rw [List.append_assoc, List.cons_append, rest] at passed
      have either := succeeded_or_boundary passed
      simp [Request.isBoundary] at either

end Breaks

/-! ## How the steps end -/

/-- Calls commit where one stretch of them does. -/
@[simp] theorem committedIn_append (front calls : List Call) :
    committedIn (front ++ calls) = (committedIn front || committedIn calls) := by
  simp [committedIn]

/-- Attempts at the start or the end of a transaction are passed, as each asks for the same. -/
theorem Attempts.passed {request : Request} {limit : Nat} {calls : List Call}
    (attempts : Attempts request limit calls) (boundary : request.isBoundary = true) :
    calls.IsChain Passes := by
  refine List.Pairwise.isChain (List.pairwise_of_forall_mem_list ?_)
  intro first member second later
  rw [Passes, attempts.requested first member, attempts.requested second later]
  exact .inr ⟨boundary, rfl⟩

/-- Attempts at the start or the end of a transaction are no rollbacks. -/
theorem Attempts.kept {request : Request} {limit : Nat} {calls : List Call}
    (attempts : Attempts request limit calls) (boundary : request.isBoundary = true) :
    ∀ call ∈ calls, call.request ≠ .rollback := by
  intro call member same
  rw [attempts.requested call member] at same
  simp [same, Request.isBoundary] at boundary

/-- Attempts at the start or the end of a transaction are settled when the last succeeds. -/
theorem Attempts.settled {request : Request} {limit : Nat} {calls : List Call}
    (attempts : Attempts request limit calls) (boundary : request.isBoundary = true)
    (ended : endInSuccess calls = true) : Settled calls where
  passed := attempts.passed boundary
  ended := by
    intro call last
    simpa [endInSuccess, Option.mem_def.mp last] using ended
  kept := attempts.kept boundary

/-- Attempts at the start or the end of a transaction break off at the last when that fails. -/
theorem Attempts.breaks {request : Request} {limit : Nat} {earlier : List Call} {report : Report}
    (attempts : Attempts request limit (earlier ++ [⟨request, .error report⟩]))
    (boundary : request.isBoundary = true) : Breaks limit earlier request report [] where
  passed := attempts.passed boundary
  kept := attempts.kept boundary
  exhausted := by
    intro _ contended
    have all : ∀ call ∈ earlier ++ [⟨request, .error report⟩], call.contended = true := by
      intro call member
      rcases List.mem_append.mp member with inside | last
      · exact attempts.contended call (by simpa using inside)
      · rw [List.mem_singleton.mp last]
        exact contended
    exact ⟨_, List.suffix_rfl, attempts.exhausted all,
      fun call member => ⟨attempts.requested call member, all call member⟩⟩
  rolledBack := by simp

/-- Attempts commit when they are for that and the last succeeds. -/
theorem Attempts.committedIn_eq {request : Request} {limit : Nat} {calls : List Call}
    (attempts : Attempts request limit calls) :
    committedIn calls = (request == .commit && endInSuccess calls) := by
  obtain ⟨earlier, answer, rfl, refused⟩ := attempts.split
  have none : committedIn earlier = false := by
    refine List.any_eq_false.mpr fun call member => ?_
    obtain ⟨report, rfl⟩ := refused call member
    simp
  rw [committedIn_append, none, endInSuccess_concat]
  simp [committedIn]

namespace Installer

variable {engine : Engine σ} {state : σ} {before : List Call} {after : σ × List Call}

/-- Attempts that fail in the end have the fault of their request. -/
theorem retryFault_eq {limit : Nat} {phase : Phase} {request : Request}
    {failure : Retry.Failure Report} (boundary : request.isBoundary = true)
    (exhausted : failure.exhausted = failure.error.isContention)
    (counted : failure.exhausted = true → failure.attempts = limit) :
    retryFault phase request.text failure = .ofRequest limit phase request failure.error := by
  unfold retryFault Fault.ofRequest
  rw [boundary, Bool.true_and, ← exhausted]
  split
  · next all => rw [counted all]
  · rfl

/-- The start or the end of a transaction settles its calls or breaks off at the last. -/
theorem boundary_ends {installer : Installer} {phase : Phase} {request : Request}
    (boundary : request.isBoundary = true) {outcome : Except Fault Nat}
    (run : installer.boundary engine.recorded phase request request.text (state, before) =
      (outcome, after)) :
    ∃ calls, after.2 = before ++ calls ∧
      Ends installer.attemptLimit (fun _ => phase) outcome calls ∧
      committedIn calls = (request == .commit && outcome.isOk) := by
  obtain ⟨same, next, calls, ran, attempts, ended⟩ :=
    installer.boundary_calls engine phase request request.text state before
  obtain ⟨rfl, rfl⟩ := Prod.mk.inj (ran.symm.trans run)
  refine ⟨calls, rfl, ?_, by rw [attempts.committedIn_eq, ended]⟩
  cases same with
  | ok retries => exact .settled (attempts.settled boundary ended)
  | error fault =>
    unfold Installer.boundary Retry.run at run
    split at run
    · simp at run
    · next failure final attempted =>
      obtain ⟨⟨rfl⟩, rfl⟩ := Prod.mk.inj run
      obtain ⟨⟨⟨last, log⟩, asked⟩, exhausted, counted⟩ := Retry.attemptAfter_error attempted
      obtain ⟨earlier, answer, rfl, -⟩ := attempts.split
      -- What ended the attempts is the last answer in the log, so it is that of the failure.
      have ending : before ++ (earlier ++ [⟨request, answer⟩]) =
          log ++ [⟨request, .error failure.error⟩] := recorded_log asked
      rw [← List.append_assoc] at ending
      obtain rfl : answer = .error failure.error := by
        simpa using List.append_inj_right' ending rfl
      have limited (all : failure.exhausted = true) :
          failure.attempts = installer.attemptLimit := by
        rw [counted all]
        unfold attemptLimit
        omega
      rw [retryFault_eq boundary exhausted limited]
      exact .broken (attempts.breaks boundary)

/-- Statements settle their calls or break off at the first that fails, whatever its error. -/
theorem executeAll_ends (limit : Nat) {phase : Phase} {statements : List String}
    {outcome : Except Fault Unit}
    (run : executeAll engine.recorded phase statements (state, before) = (outcome, after)) :
    ∃ calls, after.2 = before ++ calls ∧ Ends limit (fun _ => phase) outcome calls ∧
      committedIn calls = false := by
  induction statements generalizing state before with
  | nil =>
    obtain ⟨rfl, rfl⟩ := Prod.mk.inj run
    exact ⟨[], by simp, .settled .nil, rfl⟩
  | cons statement rest inductionHypothesis =>
    unfold executeAll at run
    split at run
    · next value next asked =>
      obtain ⟨next, log⟩ := next
      obtain ⟨calls, made, ends, uncommitted⟩ := inductionHypothesis run
      obtain rfl : log = before ++ [⟨.execute statement, .ok ()⟩] := recorded_log asked
      refine ⟨[⟨.execute statement, .ok ()⟩] ++ calls, ?_,
        ends.behind (.executed statement), ?_⟩
      · rw [made, List.append_assoc]
      · rw [committedIn_append, uncommitted]
        rfl
    · next report next asked =>
      obtain ⟨rfl, rfl⟩ := Prod.mk.inj run
      have breaks : Breaks limit [] (.execute statement) report [] :=
        { passed := .singleton _
          kept := by simp
          exhausted := by simp [Request.isBoundary]
          rolledBack := by simp }
      exact ⟨_, recorded_log asked, .broken breaks, by simp [committedIn]⟩

/-- Statements in a transaction settle the calls from its start on or break off, and nothing is
committed. -/
theorem opened_ends {installer : Installer} {phase : Phase} {statements : List String}
    {beginRetries : Nat} {opened : σ × List Call} {outcome : Except Fault Unit}
    (begun : installer.boundary engine.recorded phase .begin "BEGIN" (state, before) =
      (.ok beginRetries, opened))
    (run : executeAll engine.recorded phase statements opened = (outcome, after)) :
    ∃ calls, after.2 = before ++ calls ∧
      Ends installer.attemptLimit (fun _ => phase) outcome calls ∧ committedIn calls = false := by
  obtain ⟨begins, beginsMade, ⟨beginning⟩, notBegun⟩ := boundary_ends rfl begun
  obtain ⟨opened, log⟩ := opened
  obtain rfl : log = before ++ begins := beginsMade
  obtain ⟨executions, executionsMade, ends, notExecuted⟩ :=
    executeAll_ends installer.attemptLimit run
  refine ⟨begins ++ executions, ?_, ends.behind beginning, ?_⟩
  · rw [executionsMade, List.append_assoc]
  · rw [committedIn_append, notBegun, notExecuted]
    rfl

/-- A transaction whose end is asked for settles its calls or breaks off, and it is committed
exactly when its end is granted. -/
theorem closed_ends {installer : Installer} {phase : Phase} {statements : List String}
    {beginRetries : Nat} {opened executed : σ × List Call} {outcome : Except Fault Nat}
    (begun : installer.boundary engine.recorded phase .begin "BEGIN" (state, before) =
      (.ok beginRetries, opened))
    (ran : executeAll engine.recorded phase statements opened = (.ok (), executed))
    (closing : installer.boundary engine.recorded phase .commit "COMMIT" executed =
      (outcome, after)) :
    ∃ calls, after.2 = before ++ calls ∧
      Ends installer.attemptLimit (fun _ => phase) outcome calls ∧
      committedIn calls = outcome.isOk := by
  obtain ⟨calls, made, ⟨executing⟩, inside⟩ := opened_ends begun ran
  obtain ⟨executed, log⟩ := executed
  obtain rfl : log = before ++ calls := made
  obtain ⟨commits, commitsMade, ends, committed⟩ := boundary_ends rfl closing
  refine ⟨calls ++ commits, ?_, ends.behind executing, ?_⟩
  · rw [commitsMade, List.append_assoc]
  · rw [committedIn_append, inside, committed]
    rfl

/-- A transaction that is rolled back for a fault ends with that fault, and it is not
committed. -/
theorem rollback_ends {limit : Nat} {phaseOf : List Call → Phase} {fault : Fault}
    {calls : List Call} (made : after.2 = before ++ calls)
    (ends : Ends limit phaseOf (.error fault : Except Fault α) calls)
    (uncommitted : committedIn calls = false) :
    ∃ calls, (engine.recorded .rollback after).2.2 = before ++ calls ∧
      Ends limit phaseOf (.error fault : Except Fault Nat) calls ∧ committedIn calls = false := by
  obtain ⟨state, log⟩ := after
  obtain rfl : log = before ++ calls := made
  refine ⟨calls ++ [⟨.rollback, (engine .rollback state).1⟩], ?_, ends.failed.rolledBack _, ?_⟩
  · exact List.append_assoc before calls _
  · rw [committedIn_append, uncommitted]
    rfl

/-- A phase settles its calls or breaks off, and it commits exactly when it succeeds. -/
theorem applyPhase_ends {installer : Installer} {phase : Phase} {statements : List String}
    {outcome : Except Fault Nat}
    (run : installer.applyPhase engine.recorded phase statements (state, before) =
      (outcome, after)) :
    ∃ calls, after.2 = before ++ calls ∧
      Ends installer.attemptLimit (fun _ => phase) outcome calls ∧
      committedIn calls = outcome.isOk := by
  cases applyPhase_course run with
  | notBegun refused => exact boundary_ends rfl refused
  | interrupted begun stopped =>
    obtain ⟨calls, made, ends, uncommitted⟩ := opened_ends begun stopped
    exact rollback_ends made ends uncommitted
  | notCommitted begun ran refused =>
    obtain ⟨calls, made, ends, uncommitted⟩ := closed_ends begun ran refused
    exact rollback_ends made ends uncommitted
  | completed begun ran committed =>
    obtain ⟨calls, made, ⟨settled⟩, committed⟩ := closed_ends begun ran committed
    exact ⟨calls, made, .settled settled, committed⟩

/-- A phase that is left out is settled. One that is entered and succeeds commits. -/
theorem applyIfAny_ends {installer : Installer} {phase : Phase} {statements : List String}
    {outcome : Except Fault Nat}
    (run : installer.applyIfAny engine.recorded phase statements (state, before) =
      (outcome, after)) :
    ∃ calls, after.2 = before ++ calls ∧
      Ends installer.attemptLimit (fun _ => phase) outcome calls ∧
      (committedIn calls || statements.isEmpty) = outcome.isOk := by
  unfold applyIfAny at run
  split at run
  · next vacant =>
    obtain ⟨rfl, rfl⟩ := Prod.mk.inj run
    exact ⟨[], by simp, .settled .nil, by rw [vacant, Bool.or_true]; rfl⟩
  · next present =>
    obtain ⟨calls, made, ends, committed⟩ := applyPhase_ends run
    exact ⟨calls, made, ends, by rw [committed, eq_false_of_ne_true present, Bool.or_false]⟩

/-- The indexes of a plan whose tables are done settle all calls from the first on or break off,
in the phase that they are in. -/
theorem indexes_ends {installer : Installer} {draws : List Nat} {plan : Plan}
    {tableRetries : Nat} {tabled : σ × List Call} {outcome : Except Fault Nat}
    (tables : installer.applyIfAny engine.recorded .tables plan.tables (state, []) =
      (.ok tableRetries, tabled))
    (indexes : installer.applyIfAny engine.recorded .indexes (plan.claimedIndexes draws) tabled =
      (outcome, after)) :
    Ends installer.attemptLimit plan.phaseAfter outcome after.2 := by
  obtain ⟨tableCalls, tablesMade, ⟨tabling⟩, finished⟩ := applyIfAny_ends tables
  obtain ⟨tabled, log⟩ := tabled
  obtain rfl : log = tableCalls := tablesMade
  -- The tables are committed or there are none, so all further calls are for the indexes.
  have inIndexes : (fun earlier => plan.phaseAfter (log ++ earlier)) = fun _ => .indexes := by
    funext earlier
    unfold Plan.phaseAfter
    rw [committedIn_append, Bool.or_right_comm, finished]
    rfl
  obtain ⟨indexCalls, indexesMade, ends, -⟩ := applyIfAny_ends indexes
  rw [indexesMade]
  refine .behind tabling ?_
  rw [inIndexes]
  exact ends

/-- A plan that is applied settles its calls or breaks off in the phase that they are in. -/
theorem applyPlan_ends {installer : Installer} {draws : List Nat} {plan : Plan}
    {reached : InstallState} {outcome : Except Fault InstallReport}
    {progress : Progress (σ × List Call)}
    (run : installer.applyPlan engine.recorded draws plan ⟨reached, (state, [])⟩ =
      (outcome, progress)) :
    Ends installer.attemptLimit plan.phaseAfter outcome progress.engine.2 := by
  cases applyPlan_course run with
  | tablesFailed tables =>
    obtain ⟨calls, made, ends, uncommitted⟩ := applyIfAny_ends tables
    obtain ⟨uncommitted, present⟩ := Bool.or_eq_false_iff.mp uncommitted
    rw [List.nil_append] at made
    rw [made]
    refine ends.failed.inPhase ?_
    rintro earlier ⟨later, rfl⟩
    rw [committedIn_append, Bool.or_eq_false_iff] at uncommitted
    simp [Plan.phaseAfter, uncommitted.1, present]
  | indexesFailed tables indexes => exact (indexes_ends tables indexes).failed
  | applied tables indexes =>
    obtain ⟨settled⟩ := indexes_ends tables indexes
    exact .settled settled

/-- An installation with a plan settles its calls or breaks off in the phase that they are
in. -/
theorem install_ends (installer : Installer) (engine : Engine σ) (draws : List Nat)
    (batch : String) (state : σ) {plan : Plan}
    (planned : Plan.ofBatch installer.translate batch = .ok plan) :
    Ends installer.attemptLimit plan.phaseAfter (installer.install engine draws batch state).1
      (installer.callsOf engine draws batch state) := by
  rw [← (installer.install_recorded engine draws batch state []).1]
  rcases run : installer.applyPlan engine.recorded draws plan ⟨.notStarted, (state, [])⟩ with
    ⟨outcome, progress⟩
  have ends := applyPlan_ends run
  unfold callsOf install applyBatch
  simp only [planned, run]
  cases outcome <;> exact ends

end Installer

end DialectBridge.Schema
