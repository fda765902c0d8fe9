import DialectBridge.Database.Resolution

/-!
# Evaluating expressions

An expression has a value in a row, with values for the parameters and what emulated
functions can read. Operators follow three-valued logic, and a condition is looked at
from the left only as far as it takes.
-/

namespace DialectBridge.Database

/-- What an expression is evaluated in. -/
structure Frame where
  environment : Emulation.Environment
  parameters : List Value
  row : List Value := []

/-- The result of an operation on whole numbers, or on reals where one operand is real
or the result does not fit. -/
def arithmetic (onWhole : Int → Int → Int) (onReal : Float → Float → Float) (a b : Value) :
    Value :=
  match numberOf a, numberOf b with
  | .null, _ | _, .null => .null
  | .integer m, .integer n =>
    let result := onWhole m.toInt n.toInt
    if Decimal.fitsInt64 result then .ofInt result
    else withoutNaN (.real (onReal (Float.ofInt m.toInt) (Float.ofInt n.toInt)))
  | a, b => withoutNaN (.real (onReal (asReal a) (asReal b)))

/-- The quotient; null where the divisor is zero. -/
def quotient (a b : Value) : Value :=
  match numberOf a, numberOf b with
  | .null, _ | _, .null => .null
  | .integer m, .integer n =>
    if n == 0 then .null
    else
      let result := m.toInt.tdiv n.toInt
      if Decimal.fitsInt64 result then .ofInt result
      else .real (Float.ofInt m.toInt / Float.ofInt n.toInt)
  | a, b =>
    let divisor := asReal b
    if divisor == 0 then .null else withoutNaN (.real (asReal a / divisor))

/-- The remainder of whole parts; null where the divisor is zero. -/
def remainder (a b : Value) : Value :=
  match numberOf a, numberOf b, integerOf? a, integerOf? b with
  | x, y, some m, some n =>
    if n == 0 then .null
    else
      match x, y with
      | .integer _, .integer _ => .ofInt (m.tmod n)
      | _, _ => .real (Float.ofInt (m.tmod n))
  | _, _, _, _ => .null

/-- An operation on the whole numbers of operands. -/
def onIntegers (operation : Int64 → Int64 → Int64) (a b : Value) : Value :=
  match integerOf? a, integerOf? b with
  | some m, some n => .integer (operation (Int64.ofInt m) (Int64.ofInt n))
  | _, _ => .null

/-- A shift to the left by a number of places, to the right if it is negative. Bits
that leave the word are lost; the sign fills in from the left. -/
def shifted (n places : Int) : Int64 :=
  if places ≥ 64 then 0
  else if places ≥ 0 then Int64.ofInt (n * Nat.pow 2 places.toNat)
  else if places ≤ -64 then (if n < 0 then -1 else 0)
  else Int64.ofInt (n.fdiv (Nat.pow 2 (-places).toNat))

/-- Whether both are true, where that is known. -/
def conjunction : Option Bool → Option Bool → Option Bool
  | some false, _ | _, some false => some false
  | some true, some true => some true
  | _, _ => none

/-- Whether one is true, where that is known. -/
def disjunction : Option Bool → Option Bool → Option Bool
  | some true, _ | _, some true => some true
  | some false, some false => some false
  | _, _ => none

/-- A comparison, unknown where an operand is null. -/
def comparison (holds : Ordering → Bool) (left right : Option Affinity) (a b : Value) : Value :=
  if rank a == 0 || rank b == 0 then .null
  else ofTruth (some (holds (compareOperands left right a b)))

/-- An operator applied to the values of its operands. -/
def applyBinary (op : BinaryOp) (left right : Option Affinity) (a b : Value) : Value :=
  match op with
  | .or => ofTruth (disjunction (truth? a) (truth? b))
  | .and => ofTruth (conjunction (truth? a) (truth? b))
  | .equal => comparison (· == .eq) left right a b
  | .notEqual => comparison (· != .eq) left right a b
  | .isSame => ofTruth (some (compareOperands left right a b == .eq))
  | .isNotSame => ofTruth (some (compareOperands left right a b != .eq))
  | .less => comparison (· == .lt) left right a b
  | .lessEqual => comparison (· != .gt) left right a b
  | .greater => comparison (· == .gt) left right a b
  | .greaterEqual => comparison (· != .lt) left right a b
  | .bitAnd => onIntegers (· &&& ·) a b
  | .bitOr => onIntegers (· ||| ·) a b
  | .shiftLeft => onIntegers (fun m n => shifted m.toInt n.toInt) a b
  | .shiftRight => onIntegers (fun m n => shifted m.toInt (-n.toInt)) a b
  | .add => arithmetic (· + ·) (· + ·) a b
  | .subtract => arithmetic (· - ·) (· - ·) a b
  | .multiply => arithmetic (· * ·) (· * ·) a b
  | .divide => quotient a b
  | .remainder => remainder a b
  | .concat => Builtin.onTexts [a, b] fun texts => .text (String.ofList texts.flatten)

/-- An operator applied to the value of its operand. -/
def applyUnary (op : UnaryOp) (value : Value) : Value :=
  match op with
  | .negate => arithmetic (· - ·) (fun _ y => -y) (.integer 0) value
  | .keep => value
  | .complement => onIntegers (fun n _ => ~~~n) value (.integer 0)
  | .not => ofTruth ((truth? value).map (!·))

/-- The result of a call on values. What an emulated function raises is the text of
its report. -/
def applyCall (environment : Emulation.Environment) (name : String) (arguments : List Value) :
    Except Problem Value :=
  match emulated? name with
  | some _ =>
    match Emulation.evaluate environment name arguments with
    | .ok value => .ok (withoutNaN value)
    | .error fault => .error (.raised fault.report.text)
  | none =>
    match find? Builtin.table name with
    | some (function, _, _) => function.apply arguments
    | none => .error (.noFunction name)

/-- Whether a value is the same as an item that it is looked up among. Null is the same
as nothing. -/
def isSameValue (affinity : Option Affinity) (value item : Value) : Bool :=
  rank value != 0 && rank item != 0 && compareOperands affinity none value item == .eq

/-- Membership of a value among others, unknown where only a null could be it. -/
def membership (affinity : Option Affinity) (value : Value) (items : List Value) : Option Bool :=
  if items.isEmpty then some false
  else if items.any (isSameValue affinity value) then some true
  else if rank value == 0 || items.any fun item => rank item == 0 then none
  else some false

/-- What an expression is evaluated for: its value, or whether it is true, where
something has to be said of what is unknown. -/
inductive Purpose where
  | value
  | truth (ofUnknown : Bool)

/-- The value of an expression as it is for a purpose. -/
def Purpose.of (purpose : Purpose) (value : Value) : Value :=
  match purpose with
  | .value => value
  | .truth ofUnknown => ofTruth (some ((truth? value).getD ofUnknown))

/-- Whether an expression is written as what is true. -/
def Expression.isAlways : Expression → Bool
  | .literal (.integer n) => n != 0
  | _ => false

/-- Whether a call gives the first of its arguments that is not null, and so needs no
more of them. -/
def givesFirstKnown (name : String) : Bool :=
  (emulated? name).isNone && (find? Builtin.table name).any (·.1 == .firstKnown)

mutual

/-- The value of an expression for a purpose. Its names have been looked up. Where only
the truth is wanted the right side of a conjunction or a disjunction is left out where
the left side decides. -/
def Expression.evaluateFor (frame : Frame) (purpose : Purpose) :
    Expression → Except Problem Value
  | .literal value => return purpose.of value
  | .parameter index => return purpose.of (withoutNaN (frame.parameters.getD (index - 1) .null))
  | .column _ name _ => throw (.noColumn name)
  | .cell position _ => return purpose.of (frame.row.getD position .null)
  | .unary op operand => do
    match purpose, op with
    | .truth ofUnknown, .not =>
      let value ← operand.evaluateFor frame (.truth (!ofUnknown))
      return applyUnary .not value
    | _, _ => return purpose.of (applyUnary op (← operand.evaluateFor frame .value))
  | .binary op left right => do
    match purpose, op with
    | .truth _, .and =>
      let value ← left.evaluateFor frame purpose
      if truth? value == some true then right.evaluateFor frame purpose else return value
    | .truth _, .or =>
      if right.isAlways then return .integer 1
      let value ← left.evaluateFor frame purpose
      if truth? value == some true then return value else right.evaluateFor frame purpose
    | _, _ =>
      return purpose.of (applyBinary op left.affinity? right.affinity?
        (← left.evaluateFor frame .value) (← right.evaluateFor frame .value))
  | .isNull operand => return ofTruth (some (rank (← operand.evaluateFor frame .value) == 0))
  | .isIn operand items => do
    if items.length > 2 && areConstant items then
      let values ← evaluateAll frame items
      let value ← operand.evaluateFor frame .value
      return purpose.of (ofTruth (membership operand.affinity? value values))
    else
      let value ← operand.evaluateFor frame .value
      let taken ← searched frame operand.affinity? value items
      return purpose.of (ofTruth (membership operand.affinity? value taken))
  | .between operand low high => do
    let value ← operand.evaluateFor frame .value
    let isFrom (bound : Value) : Value :=
      comparison (· != .lt) operand.affinity? low.affinity? value bound
    let isUpTo (bound : Value) : Value :=
      comparison (· != .gt) operand.affinity? high.affinity? value bound
    match purpose with
    | .value =>
      let above := isFrom (← low.evaluateFor frame .value)
      return applyBinary .and none none above (isUpTo (← high.evaluateFor frame .value))
    | .truth _ =>
      let above := purpose.of (isFrom (← low.evaluateFor frame .value))
      if truth? above == some true then
        return purpose.of (isUpTo (← high.evaluateFor frame .value))
      else return above
  | .choice parts => return purpose.of (← chosen frame parts)
  | .cast operand affinity =>
    return purpose.of (affinity.convert (← operand.evaluateFor frame .value))
  | .call name _ arguments => do
    if givesFirstKnown name then return purpose.of (← firstKnown frame arguments)
    return purpose.of (← applyCall frame.environment name (← evaluateAll frame arguments))

/-- The values of expressions, in order. -/
def evaluateAll (frame : Frame) : List Expression → Except Problem (List Value)
  | [] => return []
  | first :: rest => return (← first.evaluateFor frame .value) :: (← evaluateAll frame rest)

/-- The values of expressions up to the first that a value is the same as. -/
def searched (frame : Frame) (affinity : Option Affinity) (value : Value) :
    List Expression → Except Problem (List Value)
  | [] => return []
  | first :: rest => do
    let item ← first.evaluateFor frame .value
    if isSameValue affinity value item then return [item]
    else return item :: (← searched frame affinity value rest)

/-- The value of the first expression that is not null. -/
def firstKnown (frame : Frame) : List Expression → Except Problem Value
  | [] => return .null
  | first :: rest => do
    let value ← first.evaluateFor frame .value
    if rank value == 0 then firstKnown frame rest else return value

/-- The value behind the first condition that is true. -/
def chosen (frame : Frame) : List Expression → Except Problem Value
  | [] => return .null
  | [otherwise] => otherwise.evaluateFor frame .value
  | condition :: value :: rest => do
    if truth? (← condition.evaluateFor frame (.truth false)) == some true then
      value.evaluateFor frame .value
    else chosen frame rest

end

/-- The value of an expression. -/
def Expression.evaluate (frame : Frame) (expression : Expression) : Except Problem Value :=
  expression.evaluateFor frame .value

/-- Whether a condition is true. -/
def Expression.holds (frame : Frame) (condition : Expression) : Except Problem Bool :=
  return truth? (← condition.evaluateFor frame (.truth false)) == some true

/-- Whether conditions are true, looked at in order up to the first that is not. -/
def allHold (frame : Frame) (conditions : List Expression) : Except Problem Bool :=
  conditions.allM (·.holds frame)

/-- Values without repetitions, the first of each kept. -/
def withoutRepeats (values : List Value) : List Value :=
  values.foldl (fun kept value =>
    if kept.any fun known => compareValues known value == .eq then kept else kept ++ [value]) []

mutual

/-- An expression with the results on all rows in the place of its aggregates. -/
def Expression.settle (frame : Frame) (rows : List (List Value)) :
    Expression → Except Problem Expression
  | .literal value => return .literal value
  | .parameter index => return .parameter index
  | .column table name quoted => return .column table name quoted
  | .cell position affinity => return .cell position affinity
  | .unary op operand => return .unary op (← operand.settle frame rows)
  | .binary op left right =>
    return .binary op (← left.settle frame rows) (← right.settle frame rows)
  | .isNull operand => return .isNull (← operand.settle frame rows)
  | .isIn operand items =>
    return .isIn (← operand.settle frame rows) (← settleAll frame rows items)
  | .between operand low high =>
    return .between (← operand.settle frame rows) (← low.settle frame rows)
      (← high.settle frame rows)
  | .choice parts => return .choice (← settleAll frame rows parts)
  | .cast operand affinity => return .cast (← operand.settle frame rows) affinity
  | .call name distinct arguments => do
    match aggregate? name arguments.length with
    | none => return .call name distinct (← settleAll frame rows arguments)
    | some aggregate =>
      let values ← rows.mapM fun row => evaluateAll { frame with row } arguments
      let values := values.map fun value => value.headD (.integer 1)
      return .literal (← aggregate.apply (if distinct then withoutRepeats values else values))

/-- Expressions with the results on all rows in the place of their aggregates. -/
def settleAll (frame : Frame) (rows : List (List Value)) :
    List Expression → Except Problem (List Expression)
  | [] => return []
  | first :: rest =>
    return (← first.settle frame rows) :: (← settleAll frame rows rest)

end

end DialectBridge.Database
