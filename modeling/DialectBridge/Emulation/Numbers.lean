import DialectBridge.Value

/-!
# Numeric functions and choices
-/

namespace DialectBridge.Emulation

/-- A value as a positive real. -/
def positive? (value : Value) : Option Float := value.toFloat?.filter (0 < ·)

/-- The natural logarithm of one argument, or the logarithm of the second to the base
of the first. Null where there is none, and for any other number of arguments. -/
def logarithm (values : List Value) : Value :=
  match values with
  | [x] =>
    match positive? x with
    | some x => .real x.log
    | none => .null
  | [base, x] =>
    match positive? base, positive? x with
    | some base, some x => if base == 1.0 then .null else .real (x.log / base.log)
    | _, _ => .null
  | _ => .null

/-- One if the value is null, else zero. -/
def isNull (value : Value) : Value :=
  match value with
  | .null => .integer 1
  | _ => .integer 0

/-- The second value unless the first counts as false, and then the third. -/
def choose (condition yes no : Value) : Value := if condition.isFalsy then no else yes

end DialectBridge.Emulation
