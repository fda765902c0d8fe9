import DialectBridge.Retry
import Mathlib.Logic.Function.Iterate
import Mathlib.Order.Bounds.Basic

/-!
# Retried operations

One attempt has one of four outcomes: a success, a failure that will not pass, a
failure that may pass with no attempt left, and one with attempts left, after which
everything starts over with one attempt less. Proofs about retried operations use
these four equations, or what they say of attempts that succeed and of attempts that fail,
and nothing else of the definition.

An operation that is tried again and again has a sequence of outcomes, one for each run. The
first run that no other follows, for its outcome or because no more are allowed, decides all
that comes of trying the operation, and how often it runs.
-/

namespace DialectBridge.Retry

variable {σ ε α : Type} {isPassing : ε → Bool} {operation : σ → Except ε α × σ}
  {state after : σ} {value : α} {error : ε}

/-- A success ends the attempts. -/
theorem attemptAfter_of_ok (earlier left : Nat) (run : operation state = (.ok value, after)) :
    attemptAfter isPassing operation earlier left state = (.ok (value, earlier), after) := by
  unfold attemptAfter
  simp [run]

/-- A failure that will not pass ends the attempts, however many are left. -/
theorem attemptAfter_of_fatal (earlier left : Nat) (run : operation state = (.error error, after))
    (fatal : isPassing error = false) :
    attemptAfter isPassing operation earlier left state =
      (.error ⟨error, earlier + 1, false⟩, after) := by
  unfold attemptAfter
  simp [run, fatal]

/-- A failure that may pass ends the attempts when none is left. -/
theorem attemptAfter_of_exhausted (earlier : Nat) (run : operation state = (.error error, after))
    (passing : isPassing error = true) :
    attemptAfter isPassing operation earlier 0 state =
      (.error ⟨error, earlier + 1, true⟩, after) := by
  unfold attemptAfter
  simp [run, passing]

/-- A failure that may pass is followed by another attempt when one is left. -/
theorem attemptAfter_of_passing (earlier left : Nat)
    (run : operation state = (.error error, after)) (passing : isPassing error = true) :
    attemptAfter isPassing operation earlier (left + 1) state =
      attemptAfter isPassing operation (earlier + 1) left after := by
  rw [attemptAfter]
  simp [run, passing]

/-- Attempts that succeed in the end succeed at once, or after a failure that may pass with
one attempt less. -/
theorem attemptAfter_ok_cases {earlier left retries : Nat}
    (run : attemptAfter isPassing operation earlier left state = (.ok (value, retries), after)) :
    (operation state = (.ok value, after) ∧ retries = earlier) ∨
      ∃ error next fewer, left = fewer + 1 ∧ operation state = (.error error, next) ∧
        isPassing error = true ∧
        attemptAfter isPassing operation (earlier + 1) fewer next =
          (.ok (value, retries), after) := by
  rcases asked : operation state with ⟨failure | result, next⟩
  · cases passing : isPassing failure with
    | false => simp [attemptAfter_of_fatal _ _ asked passing] at run
    | true =>
      cases left with
      | zero => simp [attemptAfter_of_exhausted _ asked passing] at run
      | succ fewer =>
        rw [attemptAfter_of_passing _ _ asked passing] at run
        exact .inr ⟨failure, next, fewer, rfl, rfl, passing, run⟩
  · rw [attemptAfter_of_ok _ _ asked] at run
    obtain ⟨⟨rfl, rfl⟩, rfl⟩ := by simpa using run
    exact .inl ⟨rfl, rfl⟩

/-! ## Runs of an operation -/

/-- The state after so many runs of an operation. -/
def stateAfter (operation : σ → Except ε α × σ) (state : σ) (runs : Nat) : σ :=
  (fun state => (operation state).2)^[runs] state

/-- The outcome of a run of an operation. The runs are counted from one. -/
def outcome (operation : σ → Except ε α × σ) (state : σ) (run : Nat) : Except ε α :=
  (operation (stateAfter operation state (run - 1))).1

/-- An operation that also counts its runs. -/
def counting (operation : σ → Except ε α × σ) : σ × Nat → Except ε α × (σ × Nat) :=
  fun (state, runs) => ((operation state).1, (operation state).2, runs + 1)

/-- Whether an outcome ends the attempts however many are left: a success does, and a failure
that will not pass. -/
def Decisive (isPassing : ε → Bool) : Except ε α → Prop
  | .ok _ => True
  | .error error => isPassing error = false

/-- The runs that no other follows: those with a decisive outcome, and the last one allowed. -/
def endings (isPassing : ε → Bool) (operation : σ → Except ε α × σ) (state : σ) (allowed : Nat) :
    Set Nat :=
  {run | 1 ≤ run ∧ (Decisive isPassing (outcome operation state run) ∨ run = allowed)}

/-- The result that the outcome of a run gives. A success comes with the number of runs before
it. A failure that may pass is exhausted: it is that of the last run allowed. -/
def verdict (isPassing : ε → Bool) (run allowed : Nat) :
    Except ε α → Except (Failure ε) (α × Nat)
  | .ok value => .ok (value, run - 1)
  | .error error =>
    if isPassing error then .error ⟨error, allowed, true⟩ else .error ⟨error, run, false⟩

/-- The runs after the first are those from the state that it leaves. -/
theorem outcome_succ (operation : σ → Except ε α × σ) (state : σ) {run : Nat} (later : 1 ≤ run) :
    outcome operation state (run + 1) = outcome operation (operation state).2 run := by
  obtain ⟨before, rfl⟩ := Nat.exists_eq_add_of_le' later
  rfl

/-- A run has its outcome, and leaves the state after it. -/
theorem operation_stateAfter (operation : σ → Except ε α × σ) (state : σ) {run : Nat}
    (counted : 1 ≤ run) : operation (stateAfter operation state (run - 1)) =
      (outcome operation state run, stateAfter operation state run) := by
  obtain ⟨before, rfl⟩ := Nat.exists_eq_add_of_le' counted
  have next : stateAfter operation state (before + 1) =
      (operation (stateAfter operation state before)).2 :=
    Function.iterate_succ_apply' _ before state
  rw [next]
  rfl

/-- If no other run follows the first, that is the least of the runs that no other follows. -/
theorem isLeast_first {allowed : Nat}
    (ends : Decisive isPassing (operation state).1 ∨ allowed = 1) :
    IsLeast (endings isPassing operation state allowed) 1 := by
  constructor
  · constructor
    · exact Nat.le_refl 1
    · rcases ends with decisive | single
      · exact .inl decisive
      · exact .inr single.symm
  · intro run ending
    exact ending.1

/-- If another run follows the first, the least run that no other follows is the one from the state
that the first leaves, with one run fewer allowed. -/
theorem isLeast_later {allowed run : Nat} (followed : ¬Decisive isPassing (operation state).1)
    (least : IsLeast (endings isPassing operation (operation state).2 (allowed + 1)) run) :
    IsLeast (endings isPassing operation state (allowed + 2)) (run + 1) := by
  obtain ⟨⟨counted, ends⟩, least⟩ := least
  constructor
  · constructor
    · exact Nat.succ_pos run
    · rcases ends with decisive | last
      · left
        rw [outcome_succ operation state counted]
        exact decisive
      · right
        omega
  · rintro (_ | _ | other) ⟨positive, otherEnds⟩
    · omega
    · rcases otherEnds with decisive | last
      · exact absurd decisive followed
      · omega
    · have positive : 1 ≤ other + 1 := Nat.succ_pos other
      rw [outcome_succ operation state positive] at otherEnds
      have below : run ≤ other + 1 := by
        apply least
        constructor
        · exact positive
        · rcases otherEnds with decisive | last
          · exact .inl decisive
          · right
            omega
      omega

/-- The first run that no other follows decides the attempts. Induct on the attempts left: the
first run ends them, or they are those from the state that it leaves, with one fewer left. -/
theorem attemptAfter_eq_verdict (isPassing : ε → Bool) (operation : σ → Except ε α × σ)
    (earlier left : Nat) (state : σ) :
    ∃ run, IsLeast (endings isPassing operation state (left + 1)) run ∧
      attemptAfter isPassing operation earlier left state =
        (verdict isPassing (earlier + run) (earlier + left + 1) (outcome operation state run),
          stateAfter operation state run) := by
  induction left generalizing earlier state with
  | zero =>
    refine ⟨1, isLeast_first (.inr rfl), ?_⟩
    rcases asked : operation state with ⟨error | value, after⟩
    · cases passing : isPassing error with
      | false =>
        rw [attemptAfter_of_fatal _ _ asked passing]
        simp [verdict, outcome, stateAfter, asked, passing]
      | true =>
        rw [attemptAfter_of_exhausted _ asked passing]
        simp [verdict, outcome, stateAfter, asked, passing]
    · rw [attemptAfter_of_ok _ _ asked]
      simp [verdict, outcome, stateAfter, asked]
  | succ left inductionHypothesis =>
    rcases asked : operation state with ⟨error | value, after⟩
    · cases passing : isPassing error with
      | false =>
        refine ⟨1, isLeast_first (.inl (by rw [asked]; exact passing)), ?_⟩
        rw [attemptAfter_of_fatal _ _ asked passing]
        simp [verdict, outcome, stateAfter, asked, passing]
      | true =>
        obtain ⟨run, least, decided⟩ := inductionHypothesis (earlier + 1) after
        have next : (operation state).2 = after := congrArg Prod.snd asked
        rw [← next] at least decided
        refine ⟨run + 1, isLeast_later (by rw [asked]; simp [Decisive, passing]) least, ?_⟩
        rw [attemptAfter_of_passing _ _ asked passing, ← next, decided,
          outcome_succ operation state least.1.1]
        have runs : earlier + 1 + run = earlier + (run + 1) := by omega
        have allowed : earlier + 1 + left + 1 = earlier + (left + 1) + 1 := by omega
        rw [runs, allowed]
        rfl
    · refine ⟨1, isLeast_first (.inl (by rw [asked]; trivial)), ?_⟩
      rw [attemptAfter_of_ok _ _ asked]
      simp [verdict, outcome, stateAfter, asked]

/-- Counting the runs changes nothing else. -/
theorem stateAfter_counting (operation : σ → Except ε α × σ) (state : σ) (earlier runs : Nat) :
    stateAfter (counting operation) (state, earlier) runs =
      (stateAfter operation state runs, earlier + runs) := by
  induction runs generalizing state earlier with
  | zero => rfl
  | succ runs inductionHypothesis =>
    have rest := inductionHypothesis (operation state).2 (earlier + 1)
    rw [Nat.add_assoc, Nat.add_comm 1] at rest
    exact rest

/-- The outcomes are the same where the runs are counted. -/
theorem outcome_counting (operation : σ → Except ε α × σ) (state : σ) (run : Nat) :
    outcome (counting operation) (state, 0) run = outcome operation state run := by
  unfold outcome
  rw [stateAfter_counting]
  rfl

/-- The same runs are followed by no other where the runs are counted. -/
theorem endings_counting (isPassing : ε → Bool) (operation : σ → Except ε α × σ) (state : σ)
    (allowed : Nat) :
    endings isPassing (counting operation) (state, 0) allowed =
      endings isPassing operation state allowed := by
  unfold endings
  simp only [outcome_counting]

/-- Attempts that fail in the end have the error of the last one. They are exhausted exactly if
it may pass, and then as many were made as are allowed. -/
theorem attemptAfter_error {earlier left : Nat} {failure : Failure ε}
    (attempted : attemptAfter isPassing operation earlier left state = (.error failure, after)) :
    (∃ last, operation last = (.error failure.error, after)) ∧
      failure.exhausted = isPassing failure.error ∧
      (failure.exhausted = true → failure.attempts = earlier + left + 1) := by
  obtain ⟨run, least, decided⟩ :=
    attemptAfter_eq_verdict isPassing operation earlier left state
  have last := operation_stateAfter operation state least.1.1
  rw [attempted] at decided
  obtain ⟨given, left⟩ := Prod.mk.inj decided
  rw [← left] at last
  cases answered : outcome operation state run with
  | ok value =>
    rw [answered] at given
    exact absurd given nofun
  | error error =>
    rw [answered] at given last
    cases passing : isPassing error with
    | false =>
      obtain rfl : failure = ⟨error, earlier + run, false⟩ := by
        simpa [verdict, passing] using given
      exact ⟨⟨_, last⟩, passing.symm, nofun⟩
    | true =>
      obtain rfl : failure = ⟨error, earlier + _ + 1, true⟩ := by
        simpa [verdict, passing] using given
      exact ⟨⟨_, last⟩, passing.symm, fun _ => rfl⟩

/-- Whatever the outcomes of an operation are, the first run with a decisive one or, if there is
none so early, the last run allowed decides what comes of trying it, and is the last that is
made. A success comes with the number of runs before it, a failure that will not pass with the
number of runs, and one that may pass with the number of runs allowed. At least one is allowed.

Proof: what decides the attempts of an operation decides those of the one that counts its runs,
which has the same outcomes, and there is only one first run. -/
theorem decided_by_first_ending (maxAttempts : Nat) (isPassing : ε → Bool)
    (operation : σ → Except ε α × σ) (state : σ) :
    ∃ run, IsLeast (endings isPassing operation state (max 1 maxAttempts)) run ∧
      Retry.run maxAttempts isPassing operation state =
        (verdict isPassing run (max 1 maxAttempts) (outcome operation state run),
          stateAfter operation state run) ∧
      Retry.run maxAttempts isPassing (counting operation) (state, 0) =
        (verdict isPassing run (max 1 maxAttempts) (outcome operation state run),
          stateAfter operation state run, run) := by
  have allowed : maxAttempts - 1 + 1 = max 1 maxAttempts := by omega
  have decides := attemptAfter_eq_verdict isPassing operation 0 (maxAttempts - 1) state
  have counted :=
    attemptAfter_eq_verdict isPassing (counting operation) 0 (maxAttempts - 1) (state, 0)
  simp only [endings_counting, outcome_counting, stateAfter_counting, Nat.zero_add, allowed]
    at decides counted
  obtain ⟨run, least, decided⟩ := decides
  obtain ⟨other, otherLeast, otherDecided⟩ := counted
  obtain rfl : other = run := otherLeast.unique least
  exact ⟨other, least, decided, otherDecided⟩

end DialectBridge.Retry
