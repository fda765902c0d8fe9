import DialectBridge.Emulation.Table

/-!
# Calls that reach their function

A value function is found by its canonical name, and by whatever other name the table gives
it. A call with an accepted number of arguments then gives what the function gives on them.
-/

namespace DialectBridge.Emulation

/-- Every value function is in the table under its canonical name. -/
theorem lookup_name (function : ValueFunction) :
    lookup function.name = some (.value function) := by
  cases function <;> decide

/-- A call of a value function with an accepted number of arguments gives what the function
gives on them. -/
theorem evaluate_of_lookup {name : String} {function : ValueFunction} {arguments : List Value}
    (env : Environment) (found : lookup name = some (.value function))
    (accepted : function.arity.accepts arguments.length = true) :
    evaluate env name arguments = function.apply env arguments := by
  have resolved : resolve name = .ok (.value function) := by
    unfold resolve
    rw [found]
  have checked : checkArity (.value function) arguments.length = .ok () := if_pos accepted
  unfold evaluate call
  rw [resolved]
  change ((checkArity (.value function) arguments.length >>= _) >>= _) = _
  rw [checked]
  change ((function.apply env arguments >>= _) >>= _) = _
  cases function.apply env arguments <;> rfl

/-- A call by the canonical name gives what the function gives. -/
theorem evaluate_name (env : Environment) (function : ValueFunction) {arguments : List Value}
    (accepted : function.arity.accepts arguments.length = true) :
    evaluate env function.name arguments = function.apply env arguments :=
  evaluate_of_lookup env (lookup_name function) accepted

/-- Calls at the start of 1970. -/
def epoch : Environment where
  now := .startOf ⟨1970, 1, 1, by decide, by decide⟩

end DialectBridge.Emulation
