import DialectBridge.Database.Route

/-!
# Changing rows

Every change of rows is checked against the demands of the table before it is made: no
null where there may be none, conditions, row numbers that are taken, and uniqueness,
in this order. A statement that fails changes nothing.
-/

namespace DialectBridge.Database

/-- What became of one row: it was kept out, or the table has it now. -/
inductive Placement where
  | kept
  | placed (rows : List Row)

/-- Puts a row among rows in the order of row numbers. -/
def placeRow (row : Row) : List Row → List Row
  | [] => [row]
  | other :: rest =>
    if row.number < other.number then row :: other :: rest else other :: placeRow row rest

/-- The greatest number from a start down that none of some rows has, which are in
descending order. -/
def freeNumber (start : Int) : List Row → Int
  | [] => start
  | row :: rest => if row.number == start then freeNumber (start - 1) rest else start

/-- The row number for a row that was given none: one more than the last, or a free one
if there is no such number. -/
def nextNumber (rows : List Row) : Int :=
  match rows.getLast? with
  | some last =>
    if last.number < Decimal.maxInt64 then last.number + 1
    else freeNumber Decimal.maxInt64 rows.reverse
  | none => 1

/-- Whether two rows agree on columns, where null agrees with nothing. -/
def agree (positions : List Nat) (a b : List Value) : Bool :=
  positions.all fun position =>
    let x := a.getD position .null
    rank x != 0 && compareValues x (b.getD position .null) == .eq

namespace Table

/-- The names of columns. -/
def columnNames (table : Table) (positions : List Nat) : List String :=
  positions.map fun position =>
    ((table.definition.columns[position]?).map Column.name).getD "rowid"

/-- The demands for uniqueness on a table, in the order in which they are checked: the
newest first. -/
def demands (table : Table) (indexes : List IndexDefinition) : List (List Nat) :=
  let ofIndexes := (indexes.filter (·.isUnique)).filterMap IndexDefinition.keys?
  ofIndexes.reverse ++ table.definition.unique.reverse

/-- The fault of two rows that must not agree. -/
def clash (table : Table) (positions : List Nat) : Problem :=
  .notUnique table.definition.name (table.columnNames positions)

/-- The name of the column that shows row numbers. -/
def numberName (table : Table) : String :=
  match table.definition.rowNumber with
  | some position => (table.columnNames [position]).headD "rowid"
  | none => "rowid"

/-- The first column without the value that it must have. -/
def missing? (table : Table) (values : List Value) : Option String :=
  ((table.definition.columns.zip values).find? fun (column, value) =>
    column.notNull && rank value == 0).map fun (column, _) => column.name

/-- The first condition that a row does not satisfy; what is unknown satisfies. -/
def unsatisfied? (table : Table) (frame : Frame) (row : Row) : Except Problem (Option Check) :=
  table.definition.checks.findM? fun check => do
    let value ← check.condition.evaluate { frame with row := row.cells }
    return truth? value == some false

/-- The values of a row with defaults in the place of nulls that may not be there. -/
def withDefaults (table : Table) (frame : Frame) (values : List Value) :
    Except Problem (List Value) :=
  (table.definition.columns.zip values).mapM fun (column, value) =>
    match column.default with
    | some default =>
      if column.notNull && rank value == 0 then
        return column.affinity.store (← default.evaluate frame)
      else return value
    | none => return value

/-- Puts a row among others that satisfy all demands, so that all still do; otherwise
the rule decides. -/
def place (table : Table) (indexes : List IndexDefinition) (frame : Frame) (rule : ConflictRule)
    (row : Row) (others : List Row) : Except Problem Placement := do
  let values ← if rule == .replace then table.withDefaults frame row.values else pure row.values
  let row := { row with values }
  if let some column := table.missing? row.values then
    if rule == .ignore then return .kept
    throw (.missingValue table.definition.name column)
  if let some check ← table.unsatisfied? frame row then
    if rule == .ignore then return .kept
    throw (.checkFailed check.label)
  let sameNumber (other : Row) : Bool := other.number == row.number
  let demands := table.demands indexes
  match rule with
  | .replace =>
    let clashes (other : Row) : Bool :=
      sameNumber other || demands.any fun positions => agree positions row.values other.values
    return .placed (placeRow row (others.filter (!clashes ·)))
  | rule =>
    if others.any sameNumber then
      if rule == .ignore then return .kept
      throw (.notUnique table.definition.name [table.numberName])
    match demands.find? fun positions =>
        others.any fun other => agree positions row.values other.values with
    | some positions => if rule == .ignore then return .kept else throw (table.clash positions)
    | none => return .placed (placeRow row others)

/-- The row number that values state, or none if they leave it open. -/
def statedNumber (value : Value) : Except Problem (Option Int) :=
  match Affinity.integer.store value with
  | .null => .ok none
  | .integer n => .ok (some n.toInt)
  | _ => .error .mismatch

/-- A row from values by column, as the columns store them. Where the number is left
open it is the next one. -/
def rowOf (table : Table) (number : Value) (values : List Value) (rows : List Row) :
    Except Problem Row := do
  let stated ← statedNumber number
  let number := stated.getD (nextNumber rows)
  let stored := (table.definition.columns.zip values).map fun (column, value) =>
    column.affinity.store value
  let values := match table.definition.rowNumber with
    | some position => stored.set position (.ofInt number)
    | none => stored
  return ⟨number, values⟩

/-- The positions that named columns have; the row number is the one behind the last. -/
def positionsOf (table : Table) (names : List String) : Except Problem (List Nat) :=
  names.mapM fun name =>
    match table.definition.columns.findIdx? fun column => sameName column.name name with
    | some position => .ok position
    | none =>
      if Scope.rowNumberNames.any fun known => sameName known name then
        .ok table.definition.columns.length
      else .error (.tableLacksColumn table.definition.name name)

/-- The value of each column and of the row number: the one written at its position,
or else its default. The row number has no default. -/
def filled (table : Table) (frame : Frame) (positions : List Nat) (written : List Value) :
    Except Problem (List Value) := do
  let given := positions.zip written
  let columns ← table.definition.columns.zipIdx.mapM fun (column, position) =>
    match given.lookup position, column.default with
    | some value, _ => return value
    | none, some default => default.evaluate frame
    | none, none => return .null
  let number := match given.lookup table.definition.columns.length, table.definition.rowNumber with
    | some value, _ => value
    | none, some position => (given.lookup position).getD .null
    | none, none => .null
  return columns ++ [number]

/-- Inserts rows of written values, in order; gives the rows after that and how many
were inserted. -/
def insertAll (table : Table) (indexes : List IndexDefinition) (frame : Frame)
    (rule : ConflictRule) (positions : List Nat) :
    List (List Expression) → List Row → Nat → Except Problem (List Row × Nat)
  | [], rows, count => return (rows, count)
  | expressions :: rest, rows, count => do
    let written ← evaluateAll frame expressions
    let filled ← table.filled frame positions written
    let size := table.definition.columns.length
    let row ← table.rowOf (filled.getD size .null) (filled.take size) rows
    match ← table.place indexes frame rule row rows with
    | .kept => insertAll table indexes frame rule positions rest rows count
    | .placed rows => insertAll table indexes frame rule positions rest rows (count + 1)

/-- A row with changes made to its values. -/
def changed (table : Table) (frame : Frame) (changes : List (Nat × Expression))
    (rows : List Row) (row : Row) : Except Problem Row := do
  let inRow := { frame with row := row.cells }
  let written ← changes.mapM fun (position, value) => return (position, ← value.evaluate inRow)
  let size := table.definition.columns.length
  let cells := written.foldl (fun cells (position, value) => cells.set position value) row.cells
  let number := match table.definition.rowNumber with
    | some position =>
      if written.any (·.1 == size) then cells.getD size .null else cells.getD position .null
    | none => cells.getD size .null
  if rank number == 0 then throw .mismatch
  table.rowOf number (cells.take size) rows

/-- Changes the rows of some numbers that satisfy conditions, one by one as they are
found; gives the rows after that and how many were changed. A row that an earlier change
took away is passed. -/
def updateAll (table : Table) (indexes : List IndexDefinition) (frame : Frame)
    (rule : ConflictRule) (changes : List (Nat × Expression)) (conditions : List Expression) :
    List Int → List Row → Nat → Except Problem (List Row × Nat)
  | [], rows, count => return (rows, count)
  | number :: rest, rows, count => do
    match rows.find? (·.number == number) with
    | none => updateAll table indexes frame rule changes conditions rest rows count
    | some row =>
      if !(← allHold { frame with row := row.cells } conditions) then
        return ← updateAll table indexes frame rule changes conditions rest rows count
      let changed ← table.changed frame changes rows row
      let others := rows.filter (·.number != number)
      match ← table.place indexes frame rule changed others with
      | .kept => updateAll table indexes frame rule changes conditions rest rows count
      | .placed rows =>
        updateAll table indexes frame rule changes conditions rest rows (count + 1)

/-- The way to the rows that a change is looking for. -/
def routeOfChange (table : Table) (indexes : List IndexDefinition)
    (conditions : List Expression) : Route :=
  let used := List.range (table.definition.columns.length + 1)
  route table.definition indexes { conditions, used }

/-- The numbers of the rows that satisfy conditions. -/
def satisfying (frame : Frame) (conditions : List Expression) (rows : List Row) :
    Except Problem (List Int) :=
  return (← rows.filterM fun row => allHold { frame with row := row.cells } conditions).map
    Row.number

/-- Changes the rows that satisfy a condition; gives the rows after that and how many
were changed. All of them are found before the first is changed where a change could
lead the search astray: where it moves rows on the way that the search goes, or takes
other rows away. -/
def update (table : Table) (indexes : List IndexDefinition) (frame : Frame)
    (rule : ConflictRule) (changes : List (Nat × Expression)) (condition : Option Expression) :
    Except Problem (List Row × Nat) := do
  let (constant, conditions) := partsOf condition
  if !(← allHold frame constant) then return (table.rows, 0)
  let route := table.routeOfChange indexes conditions
  let visited := route.visit table.rows
  let numbers := table.definition.columns.length :: table.definition.rowNumber.toList
  let moves := changes.any fun (position, _) => (numbers ++ route.key.getD []).contains position
  if moves || rule == .replace then
    let found ← satisfying frame route.conditions visited
    table.updateAll indexes frame rule changes [] found table.rows 0
  else
    let visited := visited.map Row.number
    table.updateAll indexes frame rule changes route.conditions visited table.rows 0

/-- The rows without those that satisfy a condition, and how many these are. -/
def delete (table : Table) (indexes : List IndexDefinition) (frame : Frame)
    (condition : Option Expression) : Except Problem (List Row × Nat) := do
  let (constant, conditions) := partsOf condition
  if !(← allHold frame constant) then return (table.rows, 0)
  let route := table.routeOfChange indexes conditions
  let numbers ← satisfying frame route.conditions (route.visit table.rows)
  return (table.rows.filter fun row => !numbers.contains row.number, numbers.length)

end Table

end DialectBridge.Database
