import DialectBridge.Database.Store

/-!
# The way through a table

A statement visits the rows of its table along the row numbers or along an index, from
the front or from the end. The way shows in the order of results that have no order of
their own or are left equal by it, and in which of several faults is met first. It
follows from the conditions and the order alone, never from the rows.
-/

namespace DialectBridge.Database

/-! ## What conditions say of a column -/

/-- Whether an expression is a column. -/
def isCell (position : Nat) : Expression → Bool
  | .cell found _ => found == position
  | _ => false

/-- Whether a condition compares a column by one of some operators with what does not
depend on the row. -/
def compares (operators : List BinaryOp) (position : Nat) : Expression → Bool
  | .binary op left right =>
    operators.contains op &&
      (isCell position left && right.cells.isEmpty || isCell position right && left.cells.isEmpty)
  | _ => false

/-- Whether a condition leaves single values for a column. -/
def pins (position : Nat) : Expression → Bool
  | .isIn operand items => isCell position operand && (cellsOfAll items).isEmpty
  | .isNull operand => isCell position operand
  | condition => compares [.equal, .isSame] position condition

/-- Whether a condition leaves single values or a range for a column. -/
def bearsOn (position : Nat) (condition : Expression) : Bool :=
  match condition with
  | .between operand low high =>
    isCell position operand && (low.cells.isEmpty || high.cells.isEmpty)
  | condition =>
    pins position condition ||
      compares [.less, .lessEqual, .greater, .greaterEqual] position condition

/-- Whether a condition leaves all values but null for a column. -/
def demandsValue (position : Nat) : Expression → Bool
  | .unary .not (.isNull operand) => isCell position operand
  | _ => false

/-! ## Routes -/

/-- What a statement looks for in a table: rows that satisfy conditions, in an order,
all of them or only some, and the columns that it uses of each. -/
structure Search where
  conditions : List Expression
  order : List OrderTerm := []
  limited : Bool := false
  used : List Nat

/-- The way through the rows of a table: along columns, or along the row numbers if
there are none, perhaps from the end; whether the rows come in the order of the search
in this way; and the conditions in the order in which they are looked at. -/
structure Route where
  key : Option (List Nat) := none
  backwards : Bool := false
  isSorted : Bool
  conditions : List Expression

/-- The number of terms at the front of an order that a key is in, all in the direction
of the first. -/
def termsAlong : List Nat → List OrderTerm → Nat
  | position :: key, term :: terms =>
    if isCell position term.expression && term.nullsFirst == (term.direction == .ascending) then
      1 + termsAlong key (terms.takeWhile (·.direction == term.direction))
    else 0
  | _, _ => 0

/-- The key that most terms of an order go along, if one does at all; of several the
first. Where only some results are asked for, it has to be all terms. -/
def keyAlong? (keys : List (List Nat)) (order : List OrderTerm) (limited : Bool) :
    Option (List Nat) :=
  keys.foldl (fun found key =>
    let terms := termsAlong key order
    let better := terms > (found.map (termsAlong · order)).getD 0
    if better && (terms == order.length || !limited) then some key else found) none

/-- Ten times the binary logarithm of a size, to the accuracy that sizes are compared
with. -/
def sizeClass (size : Nat) : Nat :=
  let power := Nat.log2 size
  let eighths := size * 8 / Nat.pow 2 power
  10 * power + [0, 2, 3, 5, 6, 7, 8, 9].getD (eighths - 8) 0

/-- The estimate of the size of a row of a table. -/
def TableDefinition.width (definition : TableDefinition) : Nat :=
  let ofNumber := if definition.rowNumber.isSome then 0 else 1
  (definition.columns.map Column.width).foldr (· + ·) ofNumber

/-- The estimate of the size of a row of an index: its columns and the row number. -/
def TableDefinition.indexWidth (definition : TableDefinition) (keys : List Nat) : Nat :=
  (keys.map fun key => ((definition.columns[key]?).map Column.width).getD 1).foldr (· + ·) 1

/-- The columns that rows can be visited along, the constraints of the table first. -/
def visitKeys (definition : TableDefinition) (indexes : List IndexDefinition) : List (List Nat) :=
  definition.unique ++ indexes.filterMap IndexDefinition.positions?

/-- Conditions with those in front that lead to the rows, and after them those that the
columns of a key are enough for. -/
def arranged (leads : Expression → Bool) (key : Option (List Nat)) (conditions : List Expression) :
    List Expression :=
  let (first, rest) := conditions.partition leads
  match key with
  | none => first ++ rest
  | some key =>
    let (inKey, outside) := rest.partition fun condition =>
      condition.cells.all fun position => key.contains position
    first ++ inKey ++ outside

/-- Whether a condition leads to the places of a key: it pins a column down of which all
before are pinned down, or bears on the first one that is not. -/
def leadsAlong (conditions : List Expression) (key : List Nat) (condition : Expression) : Bool :=
  let pinned := key.takeWhile fun position => conditions.any (pins position)
  pinned.any (pins · condition) || (key[pinned.length]?).any (bearsOn · condition)

/-- The route of a search. A row number that a condition bears on comes first. A key whose
first column is pinned down comes before the order of the search, along row numbers or
along a key, and this before a key whose first column has a range. Without any of these
the narrowest key that has all the columns used will do, if it is narrower than the
table or if a condition keeps nulls out of it. -/
def route (definition : TableDefinition) (indexes : List IndexDefinition) (search : Search) :
    Route :=
  let size := definition.columns.length
  let numbers := size :: definition.rowNumber.toList
  let conditions := search.conditions
  let onNumber (test : Nat → Expression → Bool) (condition : Expression) : Bool :=
    numbers.any (test · condition)
  let byNumber := search.order.head?.any fun term => numbers.any (isCell · term.expression)
  let downwards := search.order.head?.any (·.direction == .descending)
  let keys := visitKeys definition indexes
  let startsWith (test : Nat → Expression → Bool) (key : List Nat) : Bool :=
    key.head?.any fun first => conditions.any (test first)
  let along (key : List Nat) : Route :=
    { key := some key
      isSorted := search.order.isEmpty
      conditions := arranged (leadsAlong conditions key) (some (key ++ numbers)) conditions }
  if conditions.any (onNumber bearsOn) then
    { backwards := byNumber && downwards
      isSorted := search.order.isEmpty || byNumber ||
        conditions.any (onNumber (compares [.equal, .isSame]))
      conditions := arranged (onNumber bearsOn) none conditions }
  else
    let sizeOf (width : Nat) : Nat := sizeClass (4 * width)
    let covering := keys.filter fun key =>
      search.used.all fun position => key.contains position || numbers.contains position
    let narrow := covering.filter fun key =>
      sizeOf (definition.indexWidth key) < sizeOf definition.width
    let narrowest := narrow.foldl (fun found key =>
      match found with
      | none => some key
      | some best =>
        some (if definition.indexWidth key < definition.indexWidth best then key else best)) none
    let keepsNullsOut (position : Nat) (condition : Expression) : Bool :=
      demandsValue position condition &&
        (definition.columns[position]?).any fun column => !column.notNull
    match keys.find? (startsWith pins) with
    | some key =>
      if byNumber && key.length == 1 && startsWith (compares [.equal, .isSame]) key then
        { along key with backwards := downwards, isSorted := true }
      else along key
    | none =>
      if byNumber then { backwards := downwards, isSorted := true, conditions }
      else
        match keyAlong? (covering ++ keys) search.order search.limited with
        | some key =>
          { along key with
            backwards := downwards
            isSorted := termsAlong key search.order == search.order.length }
        | none =>
          match (keys.find? (startsWith bearsOn)).or
              ((covering.find? (startsWith keepsNullsOut)).or narrowest) with
          | some key => along key
          | none => { isSorted := search.order.isEmpty, conditions }

/-- Rows in the order of a route. -/
def Route.visit (route : Route) (rows : List Row) : List Row :=
  let forwards := match route.key with
    | none => rows
    | some positions =>
      let keyOf (row : Row) : List Value :=
        positions.map fun position => row.values.getD position .null
      rows.mergeSort fun a b => compareRows (keyOf a) (keyOf b) != .gt
  if route.backwards then forwards.reverse else forwards

/-- The parts of a condition that no row can change, and those that one can. The first
are looked at before any row is. -/
def partsOf (condition : Option Expression) : List Expression × List Expression :=
  ((condition.map Expression.conjuncts).getD []).partition Expression.isConstant

end DialectBridge.Database
