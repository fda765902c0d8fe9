import DialectBridge.Proofs.Installation.Atomicity
import DialectBridge.Proofs.Installation.Endings

/-!
# What an installation fails for

The report on a failed installation is that of its cause, and the cause can be read off
what went in and what was answered: a batch without statements, the first statement that
has no translation, contention that met every attempt allowed at the start or the end of
a transaction, and otherwise the first call that failed and was not made again. These
exclude each other, and an installation without any of them succeeds.
-/

namespace DialectBridge.Schema

open Diagnostic (Code Context Report Phase)

variable {σ α : Type}

/-- A statement is the first of some that a translator rejects, for a reason. -/
def FirstRejected (translate : Translator) (statements : List String) (statement : String)
    (reason : TranslationFault) : Prop :=
  ∃ earlier later, statements = earlier ++ statement :: later ∧
    (∀ other ∈ earlier, ∃ translation, translate other = .ok translation) ∧
    translate statement = .error reason

/-- The causes of a failed installation, each with the code and the context of its report:
what they are is read off the batch and the calls alone. -/
inductive Cause (translate : Translator) (limit : UInt32) (batch : String) (calls : List Call) :
    Code → Option Context → Prop where
  | emptyBatch (empty : Batch.split batch = []) : Cause translate limit batch calls .emptyBatch none
  | rejected {statement : String} {reason : TranslationFault}
      (first : FirstRejected translate (Batch.split batch) statement reason) :
      Cause translate limit batch calls .rewriteFailed
        (some (.statement .rewrite statement reason.message))
  | contended {request : Request} (boundary : request.isBoundary)
      (ended : EndContended request limit.toNat (beforeRollback calls)) :
      Cause translate limit batch calls .contentionExhausted
        (some (.contention limit request.text))
  | failed {plan : Plan} {earlier : List Call} {request : Request} {report : Report}
      (planned : Plan.ofBatch translate batch = .ok plan)
      (first : firstFailure? calls = some (earlier, ⟨request, .error report⟩))
      (uncontended : ∀ other : Request, other.isBoundary →
        ¬EndContended other limit.toNat (beforeRollback calls)) :
      Cause translate limit batch calls .statementFailed
        (some (.statement (plan.phaseAfter earlier) request.text report.message))

/-- A result is a fault whose report has a code and a context. -/
def FailsWith (result : Except Fault α) (code : Code) (context : Option Context) : Prop :=
  ∃ fault, result = .error fault ∧ fault.report.code = code ∧ fault.report.context = context

/-- The result of a run names its cause. It fails with a code and a context exactly when there
is a cause with these. If a statement is rejected, the run fails for that without a call. A
statement that fails when it is executed is the first failure, with contention as without:
it is not executed again, and nothing but rollbacks comes after it. -/
structure NamesCause (translate : Translator) (limit : UInt32) (batch : String)
    (result : Except Fault α) (calls : List Call) : Prop where
  caused : ∀ code context,
    FailsWith result code context ↔ Cause translate limit batch calls code context
  rejected : (∃ statement ∈ Batch.split batch, ∃ reason, translate statement = .error reason) →
    calls = [] ∧ ∃ context, FailsWith result .rewriteFailed context
  executed : ∀ earlier statement report later,
    calls = earlier ++ ⟨.execute statement, .error report⟩ :: later →
      (∃ phase, FailsWith result .statementFailed
        (some (.statement phase statement report.message))) ∧
      firstFailure? calls = some (earlier, ⟨.execute statement, .error report⟩) ∧
      ∀ call ∈ later, call.request = .rollback

/-! ## Statements that have no translation -/

/-- The first statement that is rejected is the one in front, or the first behind one that
is translated. -/
theorem firstRejected_cons_iff {translate : Translator} {front statement : String}
    {rest : List String} {reason : TranslationFault} :
    FirstRejected translate (front :: rest) statement reason ↔
      (statement = front ∧ translate front = .error reason) ∨
        (∃ translation, translate front = .ok translation) ∧
          FirstRejected translate rest statement reason := by
  constructor
  · rintro ⟨earlier, later, same, accepted, rejected⟩
    rcases List.cons_eq_append_iff.mp same with ⟨rfl, same⟩ | ⟨behind, rfl, rfl⟩
    · obtain ⟨rfl, rfl⟩ := List.cons.inj same
      exact .inl ⟨rfl, rejected⟩
    · refine .inr ⟨accepted front (by simp), behind, later, rfl, ?_, rejected⟩
      exact fun other member => accepted other (List.mem_cons_of_mem _ member)
  · rintro (⟨rfl, rejected⟩ | ⟨translated, earlier, later, rfl, accepted, rejected⟩)
    · exact ⟨[], rest, rfl, by simp, rejected⟩
    · refine ⟨front :: earlier, later, rfl, ?_, rejected⟩
      intro other member
      rcases List.mem_cons.mp member with rfl | member
      · exact translated
      · exact accepted other member

/-- Statements have no plan exactly when one of them is the first to be rejected, and then
that is the fault. -/
theorem Plan.ofStatements_eq_error_iff {translate : Translator} {statements : List String}
    {fault : Fault} :
    ofStatements translate statements = .error fault ↔
      ∃ statement reason, FirstRejected translate statements statement reason ∧
        fault = .translation statement reason := by
  induction statements with
  | nil => simp [ofStatements, FirstRejected]
  | cons statement rest inductionHypothesis =>
    rw [ofStatements_cons_eq_error_iff, inductionHypothesis]
    simp only [firstRejected_cons_iff]
    constructor
    · rintro (⟨reason, rejected, rfl⟩ | ⟨translation, accepted, first, reason, isFirst, rfl⟩)
      · exact ⟨statement, reason, .inl ⟨rfl, rejected⟩, rfl⟩
      · exact ⟨first, reason, .inr ⟨⟨translation, accepted⟩, isFirst⟩, rfl⟩
    · rintro ⟨first, reason, ⟨rfl, rejected⟩ | ⟨⟨translation, accepted⟩, isFirst⟩, rfl⟩
      · exact .inl ⟨reason, rejected, rfl⟩
      · exact .inr ⟨translation, accepted, first, reason, isFirst, rfl⟩

/-- If a statement is rejected, one is the first. -/
theorem exists_firstRejected {translate : Translator} {statements : List String}
    (rejects : ∃ statement ∈ statements, ∃ reason, translate statement = .error reason) :
    ∃ statement reason, FirstRejected translate statements statement reason := by
  obtain ⟨statement, member, reason, rejected⟩ := rejects
  cases planning : Plan.ofStatements translate statements with
  | error fault =>
    obtain ⟨first, reason, isFirst, -⟩ := Plan.ofStatements_eq_error_iff.mp planning
    exact ⟨first, reason, isFirst⟩
  | ok plan =>
    obtain ⟨translations, same, -⟩ := Plan.ofStatements_eq_ok_iff.mp planning
    have translated := List.mem_map_of_mem (f := translate) member
    simp [same, rejected] at translated

/-- A batch has no plan exactly when it has no statements or one of them is the first to be
rejected, and then that is the fault. -/
theorem Plan.ofBatch_eq_error_iff {translate : Translator} {batch : String} {fault : Fault} :
    ofBatch translate batch = .error fault ↔
      (Batch.split batch = [] ∧ fault = .emptyBatch) ∨
        ∃ statement reason, FirstRejected translate (Batch.split batch) statement reason ∧
          fault = .translation statement reason := by
  unfold ofBatch
  cases split : Batch.split batch with
  | nil => simp [FirstRejected, eq_comm]
  | cons statement rest => simp [← ofStatements_eq_error_iff]

/-- The first statement of a batch that is rejected is the fault. -/
theorem FirstRejected.ofBatch_eq {translate : Translator} {batch statement : String}
    {reason : TranslationFault}
    (first : FirstRejected translate (Batch.split batch) statement reason) :
    Plan.ofBatch translate batch = .error (.translation statement reason) :=
  Plan.ofBatch_eq_error_iff.mpr (.inr ⟨statement, reason, first, rfl⟩)

/-! ## The cause of a result -/

/-- Without a plan there are no calls, and the fault names its cause. -/
theorem NamesCause.of_unplanned {translate : Translator} {limit : UInt32} {batch : String}
    {fault : Fault} (positive : 0 < limit.toNat)
    (unplanned : Plan.ofBatch translate batch = .error fault) :
    NamesCause translate limit batch (.error fault : Except Fault α) [] where
  caused := by
    intro code context
    constructor
    · rintro ⟨_, ⟨rfl⟩, rfl, rfl⟩
      rcases Plan.ofBatch_eq_error_iff.mp unplanned with
        ⟨empty, rfl⟩ | ⟨statement, reason, first, rfl⟩
      · exact .emptyBatch empty
      · exact .rejected first
    · intro cause
      refine ⟨fault, rfl, ?_⟩
      cases cause with
      | emptyBatch empty =>
        obtain rfl : fault = .emptyBatch := Except.error.inj
          (unplanned.symm.trans (Plan.ofBatch_eq_error_iff.mpr (.inl ⟨empty, rfl⟩)))
        exact ⟨rfl, rfl⟩
      | rejected first =>
        obtain rfl := Except.error.inj (unplanned.symm.trans first.ofBatch_eq)
        exact ⟨rfl, rfl⟩
      | contended boundary ended => exact (not_endContended_nil positive ended).elim
      | failed planned first uncontended => simp [firstFailure?] at first
  rejected := by
    intro rejects
    obtain ⟨statement, reason, first⟩ := exists_firstRejected rejects
    obtain rfl := Except.error.inj (unplanned.symm.trans first.ofBatch_eq)
    exact ⟨rfl, _, _, rfl, rfl, rfl⟩
  executed := by simp

/-- With a plan, a cause is contention that the calls end in, or else their first failure. -/
theorem cause_iff_of_planned {translate : Translator} {limit : UInt32} {batch : String}
    {plan : Plan} {calls : List Call} {code : Code} {context : Option Context}
    (planned : Plan.ofBatch translate batch = .ok plan) :
    Cause translate limit batch calls code context ↔
      (∃ request : Request, request.isBoundary ∧
        EndContended request limit.toNat (beforeRollback calls) ∧
        code = .contentionExhausted ∧ context = some (.contention limit request.text)) ∨
      (∃ earlier request report,
        firstFailure? calls = some (earlier, ⟨request, .error report⟩) ∧
        (∀ other : Request, other.isBoundary →
          ¬EndContended other limit.toNat (beforeRollback calls)) ∧
        code = .statementFailed ∧
        context = some (.statement (plan.phaseAfter earlier) request.text report.message)) := by
  constructor
  · intro cause
    cases cause with
    | emptyBatch empty => simp [Plan.ofBatch, empty] at planned
    | rejected first => simp [first.ofBatch_eq] at planned
    | @contended request boundary ended => exact .inl ⟨request, boundary, ended, rfl, rfl⟩
    | @failed other earlier request report otherPlanned first uncontended =>
      obtain rfl := Except.ok.inj (planned.symm.trans otherPlanned)
      exact .inr ⟨earlier, request, report, first, uncontended, rfl, rfl⟩
  · rintro (⟨request, boundary, ended, rfl, rfl⟩ |
      ⟨earlier, request, report, first, uncontended, rfl, rfl⟩)
    · exact .contended boundary ended
    · exact .failed planned first uncontended

/-- A fault has the code and the context of its report and no others. -/
theorem failsWith_error_iff {fault : Fault} {code : Code} {context : Option Context} :
    FailsWith (.error fault : Except Fault α) code context ↔
      code = fault.report.code ∧ context = fault.report.context := by
  simp [FailsWith, eq_comm]

/-- With a plan, calls that are settled have no cause. -/
theorem Settled.not_cause {translate : Translator} {limit : UInt32} {batch : String} {plan : Plan}
    {calls : List Call} {code : Code} {context : Option Context} (settled : Settled calls)
    (positive : 0 < limit.toNat) (planned : Plan.ofBatch translate batch = .ok plan) :
    ¬Cause translate limit batch calls code context := by
  rw [cause_iff_of_planned planned]
  rintro (⟨request, -, ended, -⟩ | ⟨earlier, request, report, first, -⟩)
  · exact settled.not_endContended positive ended
  · simp [settled.firstFailure?_eq] at first

/-- With a plan, the cause of calls that break off is the fault of the request at which they
do. -/
theorem Breaks.cause_iff {translate : Translator} {limit : UInt32} {batch : String} {plan : Plan}
    {earlier rollbacks : List Call} {request : Request} {report : Report} {code : Code}
    {context : Option Context} (breaks : Breaks limit.toNat earlier request report rollbacks)
    (positive : 0 < limit.toNat) (planned : Plan.ofBatch translate batch = .ok plan) :
    Cause translate limit batch (earlier ++ ⟨request, .error report⟩ :: rollbacks) code context ↔
      FailsWith (.error (.ofRequest limit.toNat (plan.phaseAfter earlier) request report) :
        Except Fault α) code context := by
  rw [cause_iff_of_planned planned, failsWith_error_iff]
  rcases Fault.ofRequest_cases limit.toNat (plan.phaseAfter earlier) request report with
    ⟨boundary, contended, named⟩ | ⟨decided, named⟩
  · have ended := (breaks.endContended_iff positive boundary).mpr ⟨rfl, contended⟩
    have attempts : UInt32.ofNat limit.toNat = limit := UInt32.ofNat_toNat
    rw [named]
    simp only [Fault.report, attempts]
    constructor
    · rintro (⟨other, otherBoundary, otherEnded, rfl, rfl⟩ | ⟨_, _, _, _, uncontended, -⟩)
      · obtain ⟨rfl, -⟩ := (breaks.endContended_iff positive otherBoundary).mp otherEnded
        exact ⟨rfl, rfl⟩
      · exact (uncontended request boundary ended).elim
    · rintro ⟨rfl, rfl⟩
      exact .inl ⟨request, boundary, ended, rfl, rfl⟩
  · have uncontended (other : Request) (boundary : other.isBoundary) :
        ¬EndContended other limit.toNat
          (beforeRollback (earlier ++ ⟨request, .error report⟩ :: rollbacks)) := by
      rw [breaks.endContended_iff positive boundary]
      rintro ⟨rfl, contended⟩
      exact decided ⟨boundary, contended⟩
    rw [named]
    constructor
    · rintro (⟨other, boundary, ended, -⟩ | ⟨_, _, _, first, -, rfl, rfl⟩)
      · exact (uncontended other boundary ended).elim
      · rw [breaks.firstFailure?_eq] at first
        obtain ⟨rfl, rfl, rfl⟩ := by simpa using first
        exact ⟨rfl, rfl⟩
    · rintro ⟨rfl, rfl⟩
      exact .inr ⟨earlier, request, report, breaks.firstFailure?_eq, uncontended, rfl, rfl⟩

/-- A run that settles its calls or breaks off in the phase that they are in names its cause. -/
theorem NamesCause.of_ends {translate : Translator} {limit : UInt32} {batch : String} {plan : Plan}
    {result : Except Fault α} {calls : List Call} (positive : 0 < limit.toNat)
    (planned : Plan.ofBatch translate batch = .ok plan)
    (ends : Ends limit.toNat plan.phaseAfter result calls) :
    NamesCause translate limit batch result calls where
  caused := by
    intro code context
    cases ends with
    | settled settled =>
      refine iff_of_false ?_ (settled.not_cause positive planned)
      rintro ⟨_, impossible, -⟩
      simp at impossible
    | broken breaks => exact (breaks.cause_iff positive planned).symm
  rejected := by
    intro rejects
    obtain ⟨statement, reason, first⟩ := exists_firstRejected rejects
    simp [first.ofBatch_eq] at planned
  executed := by
    intro front statement reason later split
    cases ends with
    | settled settled =>
      rw [split] at settled
      exact settled.not_executed.elim
    | broken breaks =>
      obtain ⟨rfl, rfl, rfl, rfl⟩ := breaks.eq_of_executed split
      exact ⟨⟨_, _, rfl, rfl, rfl⟩, breaks.firstFailure?_eq, breaks.rolledBack⟩

/-- Whatever an engine answers, the report on a failed installation names its cause: that the
batch is empty, the first statement that is rejected, the start or the end of a transaction
that met contention as often as it may be attempted, and otherwise the phase, the text and
the message of the first call that failed and was not made again. Contention where a
statement is executed is such a failure. -/
theorem Installer.install_names_cause (translate : Translator) (maxAttempts : UInt32)
    (engine : Engine σ) (draws : List Nat) (batch : String) (state : σ) :
    NamesCause translate (max 1 maxAttempts) batch
      (Installer.install ⟨translate, maxAttempts.toNat⟩ engine draws batch state).1
      (Installer.callsOf ⟨translate, maxAttempts.toNat⟩ engine draws batch state) := by
  have limit : (max 1 maxAttempts).toNat = max 1 maxAttempts.toNat := UInt32.toNat_max 1 maxAttempts
  have positive : 0 < (max 1 maxAttempts).toNat := by omega
  cases planning : Plan.ofBatch translate batch with
  | error fault =>
    obtain ⟨calls, result⟩ := Installer.callsOf_of_unplanned ⟨translate, maxAttempts.toNat⟩ engine
      draws batch state planning
    rw [calls, result]
    exact .of_unplanned positive planning
  | ok plan =>
    have ends := Installer.install_ends ⟨translate, maxAttempts.toNat⟩ engine draws batch state
      planning
    exact .of_ends positive planning (limit ▸ ends)

/-- Contention meets the first statement and is fatal, though three attempts are allowed. -/
example :
    (Installer.install ⟨.identity, 3⟩ ledger [] tableWithIndex (⟨[], none⟩,
      [none, some { code := .engineBusy, message := "database is locked" }])).1.fault?.map
        (·.report.code) = some .statementFailed := by
  decide +kernel

end DialectBridge.Schema
