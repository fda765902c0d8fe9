import DialectBridge.Emulation.Table
import DialectBridge.Proofs.Outcomes

/-!
# The faults that calls have

A function has few faults of its own: what it says of a date or of another argument names
the function, and what it says of an interval or of a pattern names none. Everything else
that can be wrong with a call is found before the function runs: its name is not in the
table, or the function does not accept the number of arguments.
-/

namespace DialectBridge.Emulation

variable {α β : Type} {name : String}

/-- Faults of a function with a name. -/
def Fault.IsOf (name : String) : Fault → Prop
  | arity function _ _ | invalidDate function _ | invalidArgument function _ => function = name
  | malformedInterval _ | invalidPattern => True
  | unsupported .. | unreadableFragment => False

/-- Every fault that a run has is one of a function with a name. -/
def FaultsOf (name : String) (run : Except Fault α) : Prop :=
  ∀ fault, run = .error fault → fault.IsOf name

namespace FaultsOf

/-- A value is no fault. -/
theorem ok (value : α) : FaultsOf name (.ok value) := by
  intro fault failed
  simp at failed

/-- One fault of the function. -/
theorem error {fault : Fault} (own : fault.IsOf name) :
    FaultsOf name (.error fault : Except Fault α) := by
  rintro _ ⟨rfl⟩
  exact own

/-- A run that goes on after another has the faults of both. -/
theorem bind {first : Except Fault α} {next : α → Except Fault β} (faults : FaultsOf name first)
    (others : ∀ value, FaultsOf name (next value)) : FaultsOf name (first >>= next) := by
  intro fault failed
  rcases Except.error_of_bind failed with before | ⟨value, _, after⟩
  · exact faults fault before
  · exact others value fault after

/-- What is made of a value is no fault. -/
theorem map {run : Except Fault α} (faults : FaultsOf name run) (change : α → β) :
    FaultsOf name (run.map change) := by
  intro fault failed
  cases run with
  | ok value => simp [Except.map] at failed
  | error other =>
    obtain rfl : other = fault := by simpa [Except.map] using failed
    exact faults other rfl

end FaultsOf

/-! ## Functions on their arguments

Each of these takes the name that its faults mention, and has no faults of another function. -/

section Functions

variable (name)

theorem dateArgument_faults (value : Value) : FaultsOf name (dateArgument name value) := by
  unfold dateArgument
  split
  · exact .ok _
  · split
    · exact .ok _
    · exact .error rfl

theorem datePart_faults (part : Calendar.Moment → Int) (value : Value) :
    FaultsOf name (datePart part name value) := by
  refine (dateArgument_faults name value).bind fun date => ?_
  split <;> exact .ok _

theorem hourPart_faults (value : Value) : FaultsOf name (hourPart name value) := by
  unfold hourPart
  split
  · exact .ok _
  · split
    · exact .ok _
    · exact .ok _
    · split
      · exact .ok _
      · exact .error rfl

theorem momentArgument_faults (value : Value) : FaultsOf name (momentArgument name value) := by
  unfold momentArgument
  split
  · exact .error rfl
  · split
    · exact .ok _
    · exact .error rfl

theorem fromTimestamp_faults (value : Value) : FaultsOf name (fromTimestamp name value) := by
  unfold fromTimestamp
  split
  · exact .ok _
  · exact (momentArgument_faults name value).map _

theorem formatTimestamp_faults (value format : Value) :
    FaultsOf name (formatTimestamp name value format) := by
  unfold formatTimestamp
  split
  · exact .ok _
  · refine (momentArgument_faults name value).bind fun moment => ?_
    split <;> exact .ok _

theorem formatDate_faults (date format : Value) : FaultsOf name (formatDate name date format) := by
  unfold formatDate
  split
  · exact .ok _
  · refine (dateArgument_faults name date).bind fun stamp => ?_
    split <;> exact .ok _

theorem shiftBase_faults (now : Calendar.Moment) (date : String) :
    FaultsOf name (shiftBase name now date) := by
  unfold shiftBase
  dsimp only
  split
  · exact .ok _
  · split
    · exact .ok _
    · split
      · exact .ok _
      · exact .ok _
      · exact .error rfl

theorem shiftDate_faults (subtract : Bool) (now : Calendar.Moment) (date interval : Value) :
    FaultsOf name (shiftDate subtract name now date interval) := by
  unfold shiftDate
  split
  · split
    · exact .error trivial
    · refine (shiftBase_faults name now _).bind fun base => ?_
      split
      · exact .ok _
      · split
        · exact .error rfl
        · exact .ok _
  · exact .ok _

theorem dayDifference_faults (left right : Value) :
    FaultsOf name (dayDifference name left right) := by
  refine (dateArgument_faults name left).bind fun first => ?_
  refine (dateArgument_faults name right).bind fun second => ?_
  split <;> exact .ok _

theorem locate_faults (needle text : Value) (start : Option Value) :
    FaultsOf name (locate name needle text start) := by
  unfold locate
  split
  · split
    · exact .ok _
    · exact .ok _
    · split
      · exact .error rfl
      · exact .ok _
  · exact .ok _

theorem matchesPattern_faults (text pattern : Value) :
    FaultsOf name (matchesPattern text pattern) := by
  unfold matchesPattern
  split
  · split
    · exact .error trivial
    · exact .ok _
  · exact .ok _

end Functions

/-- A function has faults of its own, whatever it is given. -/
theorem ValueFunction.apply_faults (function : ValueFunction) (env : Environment)
    (arguments : List Value) : FaultsOf function.name (function.apply env arguments) := by
  fun_cases ValueFunction.apply function env arguments with
  | case1 | case2 | case3 | case5 | case6 | case8 => exact datePart_faults _ _ _
  | case4 => exact hourPart_faults _ _
  | case14 => exact fromTimestamp_faults _ _
  | case15 => exact formatTimestamp_faults _ _ _
  | case16 => exact formatDate_faults _ _ _
  | case17 => exact shiftDate_faults _ _ _ _ _
  | case18 => exact shiftDate_faults _ _ _ _ _
  | case19 => exact dayDifference_faults _ _ _
  | case24 => exact locate_faults _ _ _ _
  | case25 => exact locate_faults _ _ _ _
  | case26 => exact matchesPattern_faults _ _ _
  | case34 => exact .error rfl
  -- Every other branch gives a value.
  | _ => exact .ok _

/-! ## Calls by name -/

/-- A number of arguments that is not accepted is a fault of the function. -/
theorem checkArity_faults (function : Function) (count : Nat) :
    FaultsOf function.name (checkArity function count) := by
  unfold checkArity
  split
  · exact .ok _
  · exact .error rfl

/-- A call of a function in the table has faults of the function. -/
theorem call_faults {function : Function} (env : Environment)
    (found : resolve name = .ok function) (arguments : List Value) :
    FaultsOf function.name (call env name arguments) := by
  unfold call
  rw [found]
  refine (checkArity_faults function arguments.length).bind fun _ => ?_
  cases function with
  | value function => exact (function.apply_faults env arguments).bind fun _ => .ok _
  | rewrite function => exact .ok _

/-- A call for a value has faults of the function, too. -/
theorem evaluate_faults {function : Function} (env : Environment)
    (found : resolve name = .ok function) (arguments : List Value) :
    FaultsOf function.name (evaluate env name arguments) := by
  refine (call_faults env found arguments).bind fun outcome => ?_
  cases outcome with
  | value value => exact .ok _
  | fragment sql =>
    rw [found]
    exact .error rfl

/-- A function that is found by its name is in the table, or the fault is that there is none. -/
theorem resolve_cases (name : String) :
    (∃ entry ∈ table, resolve name = .ok entry.2) ∨
      resolve name = .error (.unsupported name names) := by
  unfold resolve lookup
  split
  · next function listed =>
    obtain ⟨before, after, cut, _⟩ := List.lookup_eq_some_iff.mp listed
    have member : (Text.lowercased name, function) ∈ table := by simp [cut]
    exact .inl ⟨_, member, rfl⟩
  · exact .inr rfl

/-- What is wrong with a call is that there is no function with the name, or it is a fault of
a function in the table. -/
theorem fault_of_evaluate {env : Environment} {arguments : List Value} {fault : Fault}
    (failed : evaluate env name arguments = .error fault) :
    fault = .unsupported name names ∨ ∃ entry ∈ table, fault.IsOf entry.2.name := by
  rcases resolve_cases name with ⟨entry, listed, found⟩ | missing
  · exact .inr ⟨entry, listed, evaluate_faults env found arguments fault failed⟩
  · unfold evaluate call at failed
    rw [missing] at failed
    exact .inl (Except.error.inj failed).symm

end DialectBridge.Emulation
