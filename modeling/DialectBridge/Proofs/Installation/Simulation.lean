import DialectBridge.Schema.Installer
import DialectBridge.Proofs.Retrying

/-!
# Installations on engines that answer alike

An installation sees nothing of an engine but its answers. Two engines that answer
alike in related states, and stay related, therefore give installations with equal
results that end in related states. Each step of an installation has its lemma here;
no later proof has to go through the steps again.

An engine that keeps the calls made to it is the main case: keeping them changes
neither the result nor the states that the engine goes through.
-/

namespace DialectBridge.Schema

open Diagnostic (Report Phase)

variable {σ τ ρ : Type}

/-- Two outcomes of a step: equal results, and states that are related. -/
def Alike (related : σ → τ → Prop) (left : ρ × σ) (right : ρ × τ) : Prop :=
  ∃ result after other, left = (result, after) ∧ right = (result, other) ∧ related after other

/-- Two engines that give equal answers in related states, and whose states are related
again after every answer. -/
def Engine.Matches (first : Engine σ) (second : Engine τ) (related : σ → τ → Prop) : Prop :=
  ∀ request left right, related left right →
    Alike related (first request left) (second request right)

namespace Installer

variable {first : Engine σ} {second : Engine τ} {related : σ → τ → Prop}

/-- An answer that is no contention ends the attempts alike, however many are left. -/
theorem attemptAfter_alike_of_decided {request : Request} {start after : σ} {other after' : τ}
    {answer : Except Report Unit} (earlier left : Nat)
    (leftRun : first request start = (answer, after))
    (rightRun : second request other = (answer, after')) (stays : related after after')
    (decided : ∀ report, answer = .error report → report.isContention = false) :
    Alike related
      (Retry.attemptAfter Report.isContention (first request) earlier left start)
      (Retry.attemptAfter Report.isContention (second request) earlier left other) := by
  cases answer with
  | ok value =>
    rw [Retry.attemptAfter_of_ok _ _ leftRun, Retry.attemptAfter_of_ok _ _ rightRun]
    exact ⟨_, _, _, rfl, rfl, stays⟩
  | error report =>
    rw [Retry.attemptAfter_of_fatal _ _ leftRun (decided report rfl),
      Retry.attemptAfter_of_fatal _ _ rightRun (decided report rfl)]
    exact ⟨_, _, _, rfl, rfl, stays⟩

/-- Attempts follow the answers alone. Induct on the number of attempts left: an answer
ends both, or is contention for both and leaves related states to go on from. -/
theorem attemptAfter_alike (matched : first.Matches second related) (request : Request)
    (earlier left : Nat) (start : σ) (other : τ) (begun : related start other) :
    Alike related
      (Retry.attemptAfter Report.isContention (first request) earlier left start)
      (Retry.attemptAfter Report.isContention (second request) earlier left other) := by
  induction left generalizing earlier start other with
  | zero =>
    obtain ⟨answer, after, after', leftRun, rightRun, stays⟩ := matched request start other begun
    by_cases contended : ∃ report, answer = .error report ∧ report.isContention = true
    · obtain ⟨report, rfl, contended⟩ := contended
      rw [Retry.attemptAfter_of_exhausted _ leftRun contended,
        Retry.attemptAfter_of_exhausted _ rightRun contended]
      exact ⟨_, _, _, rfl, rfl, stays⟩
    · exact attemptAfter_alike_of_decided earlier 0 leftRun rightRun stays
        (by simpa using contended)
  | succ left inductionHypothesis =>
    obtain ⟨answer, after, after', leftRun, rightRun, stays⟩ := matched request start other begun
    by_cases contended : ∃ report, answer = .error report ∧ report.isContention = true
    · obtain ⟨report, rfl, contended⟩ := contended
      rw [Retry.attemptAfter_of_passing _ _ leftRun contended,
        Retry.attemptAfter_of_passing _ _ rightRun contended]
      exact inductionHypothesis (earlier + 1) after after' stays
    · exact attemptAfter_alike_of_decided earlier (left + 1) leftRun rightRun stays
        (by simpa using contended)

/-- The start and the end of a transaction are asked for alike. -/
theorem boundary_alike (matched : first.Matches second related) (installer : Installer)
    (phase : Phase) (request : Request) (statement : String) (start : σ) (other : τ)
    (begun : related start other) :
    Alike related (installer.boundary first phase request statement start)
      (installer.boundary second phase request statement other) := by
  obtain ⟨outcome, after, after', leftRun, rightRun, stays⟩ :=
    attemptAfter_alike matched request 0 (installer.maxAttempts - 1) start other begun
  simp only [boundary, Retry.run, leftRun, rightRun]
  cases outcome <;> exact ⟨_, _, _, rfl, rfl, stays⟩

/-- Statements are executed alike, up to the same failure. -/
theorem executeAll_alike (matched : first.Matches second related) (phase : Phase)
    (statements : List String) (start : σ) (other : τ) (begun : related start other) :
    Alike related (executeAll first phase statements start)
      (executeAll second phase statements other) := by
  induction statements generalizing start other with
  | nil => exact ⟨_, _, _, rfl, rfl, begun⟩
  | cons statement rest inductionHypothesis =>
    obtain ⟨answer, after, after', leftRun, rightRun, stays⟩ :=
      matched (.execute statement) start other begun
    simp only [executeAll, leftRun, rightRun]
    cases answer with
    | ok value => exact inductionHypothesis after after' stays
    | error report => exact ⟨_, _, _, rfl, rfl, stays⟩

/-- A rollback leaves related states; its answer is not looked at. -/
theorem abandon_alike (matched : first.Matches second related) (fault : Fault) (start : σ)
    (other : τ) (begun : related start other) :
    Alike related (abandon first fault start) (abandon second fault other) := by
  obtain ⟨answer, after, after', leftRun, rightRun, stays⟩ := matched .rollback start other begun
  simp only [abandon, leftRun, rightRun]
  exact ⟨_, _, _, rfl, rfl, stays⟩

/-- A phase goes alike: its start, its statements, its end and its rollback. -/
theorem applyPhase_alike (matched : first.Matches second related) (installer : Installer)
    (phase : Phase) (statements : List String) (start : σ) (other : τ)
    (begun : related start other) :
    Alike related (installer.applyPhase first phase statements start)
      (installer.applyPhase second phase statements other) := by
  obtain ⟨opening, after, after', leftRun, rightRun, opened⟩ :=
    boundary_alike matched installer phase .begin "BEGIN" start other begun
  simp only [applyPhase, leftRun, rightRun]
  cases opening with
  | error fault => exact ⟨_, _, _, rfl, rfl, opened⟩
  | ok beginRetries =>
    obtain ⟨execution, after, after', leftRun, rightRun, executed⟩ :=
      executeAll_alike matched phase statements after after' opened
    simp only [leftRun, rightRun]
    cases execution with
    | error fault => exact abandon_alike matched fault after after' executed
    | ok done =>
      obtain ⟨closing, after, after', leftRun, rightRun, closed⟩ :=
        boundary_alike matched installer phase .commit "COMMIT" after after' executed
      simp only [leftRun, rightRun]
      cases closing with
      | error fault => exact abandon_alike matched fault after after' closed
      | ok commitRetries => exact ⟨_, _, _, rfl, rfl, closed⟩

/-- A phase is left out alike, or goes alike. -/
theorem applyIfAny_alike (matched : first.Matches second related) (installer : Installer)
    (phase : Phase) (statements : List String) (start : σ) (other : τ)
    (begun : related start other) :
    Alike related (installer.applyIfAny first phase statements start)
      (installer.applyIfAny second phase statements other) := by
  unfold applyIfAny
  split
  · exact ⟨_, _, _, rfl, rfl, begun⟩
  · exact applyPhase_alike matched installer phase statements start other begun

/-- Installations under way that have come equally far, on related states. -/
def RelatedProgress (related : σ → τ → Prop) (left : Progress σ) (right : Progress τ) : Prop :=
  left.reached = right.reached ∧ related left.engine right.engine

/-- A plan is applied alike. -/
theorem applyPlan_alike (matched : first.Matches second related) (installer : Installer)
    (draws : List Nat) (plan : Plan) (start : Progress σ) (other : Progress τ)
    (begun : RelatedProgress related start other) :
    Alike (RelatedProgress related) (installer.applyPlan first draws plan start)
      (installer.applyPlan second draws plan other) := by
  obtain ⟨reached, begun⟩ := begun
  obtain ⟨outcome, after, after', leftRun, rightRun, tabled⟩ :=
    applyIfAny_alike matched installer .tables plan.tables start.engine other.engine begun
  simp only [applyPlan, leftRun, rightRun]
  cases outcome with
  | error fault => exact ⟨_, _, _, rfl, rfl, reached, tabled⟩
  | ok tableRetries =>
    obtain ⟨outcome, after, after', leftRun, rightRun, indexed⟩ :=
      applyIfAny_alike matched installer .indexes
        ((IndexRegistry.claimAll {} draws plan.indexes).map (·.statement)) after after' tabled
    simp only [leftRun, rightRun]
    cases outcome <;> exact ⟨_, _, _, rfl, rfl, rfl, indexed⟩

/-- A batch is installed alike. -/
theorem install_alike (matched : first.Matches second related) (installer : Installer)
    (draws : List Nat) (batch : String) (start : σ) (other : τ) (begun : related start other) :
    Alike (RelatedProgress related) (installer.install first draws batch start)
      (installer.install second draws batch other) := by
  have applied : Alike (RelatedProgress related)
      (installer.applyBatch first draws batch ⟨.notStarted, start⟩)
      (installer.applyBatch second draws batch ⟨.notStarted, other⟩) := by
    unfold applyBatch
    cases Plan.ofBatch installer.translate batch with
    | error fault => exact ⟨_, _, _, rfl, rfl, rfl, begun⟩
    | ok plan => exact applyPlan_alike matched installer draws plan _ _ ⟨rfl, begun⟩
  obtain ⟨outcome, progress, progress', leftRun, rightRun, _, stays⟩ := applied
  simp only [install, leftRun, rightRun]
  cases outcome <;> exact ⟨_, _, _, rfl, rfl, rfl, stays⟩

end Installer

/-! ## Keeping the calls -/

/-- A request with the answer that was given to it. -/
structure Call where
  request : Request
  answer : Except Report Unit

/-- An engine that keeps the calls made to it, in order. -/
def Engine.recorded (engine : Engine σ) : Engine (σ × List Call) := fun request (state, calls) =>
  let (answer, state) := engine request state
  (answer, state, calls ++ [⟨request, answer⟩])

/-- Keeping the calls changes no answer and no state of the engine. -/
theorem Engine.recorded_matches (engine : Engine σ) :
    engine.recorded.Matches engine fun kept state => kept.1 = state := by
  rintro request ⟨state, calls⟩ _ rfl
  exact ⟨_, _, _, rfl, rfl, rfl⟩

/-- An installation on an engine that keeps the calls has the result, and leaves the
engine in the state, that it has and leaves without that. -/
theorem Installer.install_recorded (installer : Installer) (engine : Engine σ)
    (draws : List Nat) (batch : String) (state : σ) (calls : List Call) :
    (installer.install engine.recorded draws batch (state, calls)).1 =
        (installer.install engine draws batch state).1 ∧
      (installer.install engine.recorded draws batch (state, calls)).2.engine.1 =
        (installer.install engine draws batch state).2.engine := by
  obtain ⟨result, kept, final, recordedRun, run, _, same⟩ :=
    install_alike engine.recorded_matches installer draws batch (state, calls) state rfl
  rw [recordedRun, run]
  exact ⟨rfl, same⟩

/-- What every answer of an engine keeps true of its state is true after an
installation, if it is true before. -/
theorem Installer.install_preserves {engine : Engine σ} {holds : σ → Prop}
    (kept : ∀ request state, holds state → holds (engine request state).2)
    (installer : Installer) (draws : List Nat) (batch : String) (state : σ)
    (begun : holds state) : holds (installer.install engine draws batch state).2.engine := by
  have matched : engine.Matches engine fun left right => left = right ∧ holds left := by
    rintro request left _ ⟨rfl, inside⟩
    exact ⟨_, _, _, rfl, rfl, rfl, kept request left inside⟩
  obtain ⟨result, final, _, run, _, _, _, inside⟩ :=
    install_alike matched installer draws batch state state ⟨rfl, begun⟩
  rw [run]
  exact inside

end DialectBridge.Schema
