import DialectBridge.Database.Builtin
import DialectBridge.Emulation.Table

/-!
# Looking up names

Before a statement runs, every column that it mentions becomes a position in the row,
and every function is checked to be there and to take so many arguments. The row
number stands behind the columns of a row. Of several faults in one expression the one
that is reported depends on where they stand.
-/

namespace DialectBridge.Database

/-- The columns in view: those of a table under a name, or none. -/
structure Scope where
  shown : Option String
  columns : List Column
  rowNumber : Option Nat
  aliases : List (String × Expression) := []

namespace Scope

/-- The scope of a statement that reads no table. -/
def empty : Scope := ⟨none, [], none, []⟩

/-- The scope of a table under a name. -/
def ofTable (definition : TableDefinition) (shown : String) : Scope :=
  ⟨some shown, definition.columns, definition.rowNumber, []⟩

/-- The names of the row number. -/
def rowNumberNames : List String := ["rowid", "oid", "_rowid_"]

/-- The cell of a name: a column, or else the row number. -/
def cell? (scope : Scope) (name : String) : Option Expression :=
  match scope.columns.findIdx? fun column => sameName column.name name with
  | some position =>
    (scope.columns[position]?).map fun column => .cell position column.affinity
  | none =>
    if scope.shown.isSome && rowNumberNames.any fun known => sameName known name then
      some (.cell scope.columns.length .integer)
    else none

/-- The value of a word that is a constant where no column has its name. -/
def constant? (name : String) : Option Value :=
  if sameName name "true" then some (.integer 1)
  else if sameName name "false" then some (.integer 0)
  else none

/-- What a column's name stands for: a cell, an alias of the result, a constant, or,
between double quotes, a text. -/
def column (scope : Scope) (table : Option String) (name : String) (quoted : Bool) :
    Except Problem Expression :=
  match table with
  | some table =>
    if scope.shown.any fun shown => sameName shown table then
      match scope.cell? name with
      | some cell => .ok cell
      | none => .error (.noColumn (table ++ "." ++ name))
    else .error (.noColumn (table ++ "." ++ name))
  | none =>
    let aliased := (scope.aliases.find? fun known => sameName known.1 name).map Prod.snd
    match (scope.cell? name).or aliased with
    | some found => .ok found
    | none =>
      if quoted then .ok (.literal (.text name))
      else
        match constant? name with
        | some value => .ok (.literal value)
        | none => .error (.noColumn name)

end Scope

/-- A function by its name in any case. -/
def find? {α : Type} (table : List (String × α)) (name : String) : Option α :=
  (table.find? fun known => sameName known.1 name).map Prod.snd

/-- The emulated function that the engine has been given under a name. -/
def emulated? (name : String) : Option Emulation.Function :=
  find? Emulation.valueFunctions name

/-- The aggregate that a call is, if it is one. -/
def aggregate? (name : String) (count : Nat) : Option Aggregate :=
  match emulated? name with
  | some _ => none
  | none =>
    match find? Aggregate.table name with
    | some (aggregate, least, most) =>
      if least ≤ count && count ≤ most then some aggregate else none
    | none => none

/-- What is wrong with a call, if anything is. Emulated functions take any number of
arguments here and check it themselves. -/
def callProblem? (aggregates : Bool) (name : String) (count : Nat) : Option Problem :=
  if (emulated? name).isSome then none
  else if (aggregate? name count).isSome then
    if aggregates then none else some (.misplacedAggregate name)
  else
    match find? Builtin.table name with
    | some (_, least, most) =>
      if least ≤ count && most.all (count ≤ ·) then none else some (.argumentCount name)
    | none =>
      if (find? Aggregate.table name).isSome then some (.argumentCount name)
      else some (.noFunction name)

/-- The truth value that a word is, where no column has its name. -/
def Scope.truth? (scope : Scope) : Expression → Option Bool
  | .column none name false =>
    match scope.column none name false with
    | .ok (.literal (.integer n)) => some (n == 1)
    | _ => none
  | _ => none

/-- One value where an expression is true or false as wanted, and another elsewhere. -/
def truthTest (wanted : Bool) (same other : Value) (operand : Expression) : Expression :=
  if wanted then .choice [operand, .literal same, .literal other]
  else .choice [.isNull operand, .literal other, operand, .literal other, .literal same]

/-- Looks names up, with the last fault that the look-up has gone on from. -/
abbrev Resolver := StateT (Option Problem) (Except Problem)

namespace Resolver

/-- Goes no deeper once a fault is remembered. -/
def goOn : Resolver Unit := fun state =>
  match state with
  | some problem => .error problem
  | none => .ok ((), none)

/-- Remembers a fault, in the place of any before it. -/
def remember : Option Problem → Resolver Unit
  | some problem => set (some problem)
  | none => pure ()

/-- Remembers the fault that a part ends with, and goes on with a result in its place. -/
def orElseRemember {α : Type} (part : Resolver α) (fallback : α) : Resolver α := fun state =>
  match part state with
  | .ok found => .ok found
  | .error problem => .ok (fallback, some problem)

end Resolver

mutual

/-- An expression with its names looked up. Aggregates are allowed where it is said
so, but not inside each other. A fault of a call, inside its arguments or of what is
tested for null is remembered, and the first part after it decides: another name with
a fault takes its place, a name without one is passed, and any other part ends the
look-up. -/
def Expression.resolve (scope : Scope) (aggregates : Bool) : Expression → Resolver Expression
  | .literal value => do
    Resolver.goOn
    return .literal value
  | .parameter index => do
    Resolver.goOn
    return .parameter index
  | .cell position affinity => return .cell position affinity
  | .column table name quoted => fun state =>
    match scope.column table name quoted with
    | .ok found => .ok (found, state)
    | .error problem => .error problem
  | .unary op operand => do
    Resolver.goOn
    return .unary op (← operand.resolve scope aggregates)
  | .binary op left right => do
    Resolver.goOn
    let left ← left.resolve scope aggregates
    match op, scope.truth? right with
    | .isSame, some wanted => return truthTest wanted (.integer 1) (.integer 0) left
    | .isNotSame, some wanted => return truthTest wanted (.integer 0) (.integer 1) left
    | _, _ => return .binary op left (← right.resolve scope aggregates)
  | .isNull operand =>
    return .isNull (← Resolver.orElseRemember (operand.resolve scope aggregates) operand)
  | .isIn operand items => do
    Resolver.goOn
    return .isIn (← operand.resolve scope aggregates) (← resolveAll scope aggregates items)
  | .between operand low high => do
    Resolver.goOn
    return .between (← operand.resolve scope aggregates) (← low.resolve scope aggregates)
      (← high.resolve scope aggregates)
  | .choice parts => do
    Resolver.goOn
    return .choice (← resolveAll scope aggregates parts)
  | .cast operand affinity => do
    Resolver.goOn
    return .cast (← operand.resolve scope aggregates) affinity
  | .call name distinct arguments => do
    Resolver.remember (callProblem? aggregates name arguments.length)
    let inner := aggregates && (aggregate? name arguments.length).isNone
    let arguments ← Resolver.orElseRemember (resolveAll scope inner arguments) arguments
    return .call name distinct arguments

/-- Expressions with their names looked up, in order. -/
def resolveAll (scope : Scope) (aggregates : Bool) : List Expression → Resolver (List Expression)
  | [] => return []
  | first :: rest =>
    return (← first.resolve scope aggregates) :: (← resolveAll scope aggregates rest)

end

/-- Looks the names of one expression up. -/
def resolved (scope : Scope) (aggregates : Bool) (expression : Expression) :
    Except Problem Expression :=
  match (expression.resolve scope aggregates).run none with
  | .ok (found, none) => .ok found
  | .ok (_, some problem) => .error problem
  | .error problem => .error problem

mutual

/-- The positions of the cells in an expression. -/
def Expression.cells : Expression → List Nat
  | .cell position _ => [position]
  | .literal _ | .parameter _ | .column .. => []
  | .unary _ operand => operand.cells
  | .binary _ left right => left.cells ++ right.cells
  | .isNull operand => operand.cells
  | .isIn operand items => operand.cells ++ cellsOfAll items
  | .between operand low high => operand.cells ++ low.cells ++ high.cells
  | .choice parts => cellsOfAll parts
  | .cast operand _ => operand.cells
  | .call _ _ arguments => cellsOfAll arguments

/-- The positions of the cells in several expressions. -/
def cellsOfAll : List Expression → List Nat
  | [] => []
  | first :: rest => first.cells ++ cellsOfAll rest

end

mutual

/-- The names of the aggregates in an expression. -/
def Expression.aggregates : Expression → List String
  | .literal _ | .parameter _ | .column .. | .cell .. => []
  | .unary _ operand => operand.aggregates
  | .binary _ left right => left.aggregates ++ right.aggregates
  | .isNull operand => operand.aggregates
  | .isIn operand items => operand.aggregates ++ aggregatesOfAll items
  | .between operand low high => operand.aggregates ++ low.aggregates ++ high.aggregates
  | .choice parts => aggregatesOfAll parts
  | .cast operand _ => operand.aggregates
  | .call name _ arguments =>
    if (aggregate? name arguments.length).isSome then [name] else aggregatesOfAll arguments

/-- The names of the aggregates in several expressions. -/
def aggregatesOfAll : List Expression → List String
  | [] => []
  | first :: rest => first.aggregates ++ aggregatesOfAll rest

end

mutual

/-- Whether an expression has the same value in every row. -/
def Expression.isConstant : Expression → Bool
  | .literal _ | .parameter _ => true
  | .column .. | .cell .. => false
  | .unary _ operand => operand.isConstant
  | .binary _ left right => left.isConstant && right.isConstant
  | .isNull operand => operand.isConstant
  | .isIn operand items => operand.isConstant && areConstant items
  | .between operand low high => operand.isConstant && low.isConstant && high.isConstant
  | .choice parts => areConstant parts
  | .cast operand _ => operand.isConstant
  | .call name _ arguments =>
    (emulated? name).all Emulation.Function.isDeterministic && areConstant arguments

/-- Whether several expressions have the same value in every row. -/
def areConstant : List Expression → Bool
  | [] => true
  | first :: rest => first.isConstant && areConstant rest

end

/-- The place of a result column that an expression names: a whole number of 32 bits,
with signs before it. -/
def Expression.place? : Expression → Option Int
  | .literal (.integer n) => if n.toInt.natAbs < 0x80000000 then some n.toInt else none
  | .unary .keep operand => operand.place?
  | .unary .negate operand => operand.place?.map (- ·)
  | _ => none

/-- The conditions that have to hold together for a condition to hold. -/
def Expression.conjuncts : Expression → List Expression
  | .binary .and left right => left.conjuncts ++ right.conjuncts
  | condition => [condition]

/-- The affinity of an operand: that of a column or of a conversion. -/
def Expression.affinity? : Expression → Option Affinity
  | .cell _ affinity => some affinity
  | .cast _ affinity => some affinity
  | _ => none

end DialectBridge.Database
