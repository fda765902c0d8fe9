/-!
# Runs that can fail

What a run of several steps gives is known from its steps: it succeeds if all of them do,
and its error is that of the first that fails.
-/

namespace Except

variable {ε α β : Type}

/-- A run that goes on after another succeeds if both do. -/
theorem ok_of_bind {first : Except ε α} {next : α → Except ε β} {result : β}
    (run : first >>= next = .ok result) :
    ∃ value, first = .ok value ∧ next value = .ok result := by
  cases first with
  | error fault => simp [bind, Except.bind] at run
  | ok value => exact ⟨value, rfl, run⟩

/-- A run that goes on after another fails where one of them does. -/
theorem error_of_bind {first : Except ε α} {next : α → Except ε β} {fault : ε}
    (run : first >>= next = .error fault) :
    first = .error fault ∨ ∃ value, first = .ok value ∧ next value = .error fault := by
  cases first with
  | error other => exact .inl (congrArg _ (Except.error.inj run))
  | ok value => exact .inr ⟨value, rfl, run⟩

/-- A run that gives a value as an option gives it. -/
theorem eq_ok_of_toOption {run : Except ε α} {value : α} (found : run.toOption = some value) :
    run = .ok value := by
  cases run with
  | error _ => simp [Except.toOption] at found
  | ok other => simpa [Except.toOption] using found

/-- A run that fails when its value is left out fails. -/
theorem eq_error_of_map {run : Except ε α} {fault : ε} {change : α → β}
    (failed : run.map change = .error fault) : run = .error fault := by
  cases run with
  | error _ => simpa [Except.map] using failed
  | ok other => simp [Except.map] at failed

/-- The error of a run, if it fails. -/
def fault? : Except ε α → Option ε
  | error fault => some fault
  | ok _ => none

/-- A run that has an error fails with it. -/
theorem eq_error_of_fault? {run : Except ε α} {fault : ε} (failed : run.fault? = some fault) :
    run = .error fault := by
  cases run with
  | ok value => simp [fault?] at failed
  | error other =>
    obtain rfl : other = fault := Option.some.inj failed
    rfl

end Except
