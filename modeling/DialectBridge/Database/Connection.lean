import DialectBridge.Database.Change
import DialectBridge.Database.Selection
import DialectBridge.Database.StatementReader

/-!
# Running statements

A statement is read, its names are looked up in the database as it is, and only then
does it run. A transaction keeps the database as it was at its start, so that it can be
gone back to. A statement that fails leaves the database as it was before it.
-/

namespace DialectBridge.Database

/-- An open database: its content, the content to go back to while a transaction is
open, and how many rows the last change of rows changed. -/
structure Connection where
  store : Store := {}
  saved : Option Store := none
  changes : Nat := 0

/-- What running a statement gives. -/
inductive Outcome where
  | changed (count : Nat)
  | answered (answer : Answer)

/-! ## Looking names up -/

/-- The databases that a name can be in. -/
def databaseNames : List String := ["main", "temp"]

/-- Refuses a database that there is none of. -/
def checkDatabase (schema : Option String) : Except Problem Unit :=
  match schema with
  | some name =>
    if databaseNames.any fun known => sameName known name then .ok () else .error (.noDatabase name)
  | none => .ok ()

/-- Refuses names that are the engine's own. -/
def checkName (name : String) : Except Problem Unit :=
  if "sqlite_".toList.isPrefixOf (name.toList.map Char.toLower) then .error (.reservedName name)
  else .ok ()

/-- The ordinal of a number. -/
def ordinal (n : Nat) : String :=
  let suffix := if n / 10 % 10 == 1 then "th" else ["th", "st", "nd", "rd"].getD (n % 10) "th"
  toString n ++ suffix

namespace Store

variable (store : Store)

/-- A table that has to be there. -/
def requireTable (name : String) : Except Problem Table :=
  match store.table? name with
  | some table => .ok table
  | none => .error (.noTable name)

/-- Refuses a table that cannot be made under its name. -/
def admitsTable (creation : Creation) (name : String) : Except Problem Unit := do
  checkDatabase creation.schema
  checkName name
  if (store.table? name).isSome then
    unless creation.tolerant do throw (.tableExists creation.written)
  else if (store.index? name).isSome then throw (.namedAsIndex name)

/-- Looks up the names in the definition of a table. -/
def checkTable (definition : TableDefinition) : Except Problem TableDefinition := do
  let scope := Scope.ofTable definition definition.name
  let checks ← definition.checks.mapM fun check =>
    return { check with condition := ← resolved scope false check.condition }
  let columns ← definition.columns.mapM fun column => do
    match column.default with
    | some default => return { column with default := some (← resolved .empty false default) }
    | none => return column
  return { definition with checks, columns }

/-- Looks up the names in the definition of an index. A text in the place of a column
is its name. -/
def checkIndex (creation : Creation) (definition : IndexDefinition) :
    Except Problem IndexDefinition := do
  checkDatabase creation.schema
  let some table := store.table? definition.table
    | throw (.noTable ("main." ++ definition.table))
  checkName definition.name
  if (store.table? definition.name).isSome then throw (.namedAsTable definition.name)
  if (store.index? definition.name).isSome then
    unless creation.tolerant do throw (.indexExists definition.name)
  let scope := Scope.ofTable table.definition table.definition.name
  let columns ← definition.columns.mapM fun (expression, direction) => do
    let expression := match expression with
      | .literal (.text name) => .column none name false
      | expression => expression
    return (← resolved scope false expression, direction)
  return { definition with table := table.definition.name, columns }

/-- Looks up the names in the rows of an insertion. Each row has a value for each column
that is named, or else for each that the table has. -/
def checkInsert (table : Table) (columns : Option (List String)) (rows : List (List Expression)) :
    Except Problem (List (List Expression)) := do
  if let some names := columns then discard (table.positionsOf names)
  let rows ← rows.mapM fun row => row.mapM (resolved .empty false)
  let given := (rows.head?.map List.length).getD 0
  match columns with
  | some names =>
    if given == names.length then return rows else throw (.listedCount given names.length)
  | none =>
    let size := table.definition.columns.length
    if given == size then return rows
    else throw (.valueCount table.definition.name size given)

/-- The columns of a query, with each star in the place of which the table's columns
stand. -/
def expand (table : Option Table) (shown : String) :
    ResultColumn → Except Problem (List ResultColumn)
  | .value expression shown => .ok [.value expression shown]
  | .all => if table.isSome then .ok (all table) else .error .noSource
  | .allOf name =>
    if table.isSome && sameName name shown then .ok (all table) else .error (.noTable name)
where
  /-- The columns of the table, by name. -/
  all (table : Option Table) : List ResultColumn :=
    ((table.map (·.definition.columns)).getD []).map fun column =>
      .value (.column none column.name false) (some column.name)

/-- The largest number that can be the place of a result column. -/
def lastPlace : Int := 0xFFFF

/-- Looks up the names in one term of an order: an alias of the result, or an
expression. The place of a result column is kept beside the term. -/
def checkTerm (scope : Scope) (size place : Nat) (term : OrderTerm) :
    Except Problem (Option Nat × OrderTerm) := do
  match term.expression.place?, term.expression with
  | some n, _ =>
    if n < 1 || lastPlace < n then throw (.orderPosition (ordinal place) size)
    return (some n.toNat, term)
  | none, .column none name _ =>
    match scope.aliases.find? fun known => sameName known.1 name with
    | some (_, expression) => return (none, { term with expression })
    | none => return (none, { term with expression := ← resolved scope true term.expression })
  | none, expression => return (none, { term with expression := ← resolved scope true expression })

/-- A term with the result column in the place of its number. -/
def placedTerm (columns : List Expression) (place : Nat) : Option Nat × OrderTerm →
    Except Problem OrderTerm
  | (none, term) => .ok term
  | (some n, term) =>
    match columns[n - 1]? with
    | some expression => .ok { term with expression }
    | none => .error (.orderPosition (ordinal place) columns.length)

/-- Looks up the names in an order. Numbers of columns that are not there are found
only after all else. -/
def checkOrder (scope : Scope) (columns : List Expression) (order : List OrderTerm) :
    Except Problem (List OrderTerm) := do
  let terms ← order.zipIdx.mapM fun (term, place) =>
    checkTerm scope columns.length (place + 1) term
  terms.zipIdx.mapM fun (term, place) => placedTerm columns (place + 1) term

/-- Refuses aggregates in some expressions. -/
def withoutAggregates (expressions : List Expression) : Except Problem Unit :=
  match aggregatesOfAll expressions with
  | [] => .ok ()
  | name :: _ => .error (.strayAggregate name)

/-- Looks up the names in a query. -/
def checkQuery (query : Query) : Except Problem Query := do
  let table ← match query.source with
    | none => pure none
    | some source =>
      match (if (checkDatabase source.schema).isOk then store.readable? source.table else none) with
      | some table => pure (some table)
      | none => throw (.noTable ((source.schema.map (· ++ ".")).getD "" ++ source.table))
  let shown := (query.source.map (·.shown)).getD ""
  let columns ← query.columns.mapM (expand table shown)
  let scope := match table with
    | some table => Scope.ofTable table.definition shown
    | none => .empty
  let columns ← columns.flatten.mapM fun
    | .value expression shown => return .value (← resolved scope true expression) shown
    | column => return column
  let aliases := columns.filterMap fun
    | .value expression (some shown) => some (shown, expression)
    | _ => none
  let values := columns.filterMap fun
    | .value expression _ => some expression
    | _ => none
  let scope := { scope with aliases }
  let aggregated := !(aggregatesOfAll values).isEmpty
  let condition ← query.condition.mapM (resolved scope aggregated)
  let order ← checkOrder scope values query.order
  let limit ← query.limit.mapM (resolved .empty false)
  let skip ← query.skip.mapM (resolved .empty false)
  withoutAggregates condition.toList
  if !aggregated then withoutAggregates (order.map (·.expression))
  return { query with columns, condition, order, limit, skip }

/-- Looks up the names in the changes of an update. -/
def checkChange (scope : Scope) (change : String × Expression) :
    Except Problem (String × Expression) := do
  let value ← resolved scope false change.2
  match scope.cell? change.1 with
  | some _ => return (change.1, value)
  | none => throw (.noColumn change.1)

/-- Looks up all names in a statement. -/
def check : Statement → Except Problem Statement
  | .createTable creation definition => return .createTable creation (← checkTable definition)
  | .createIndex creation definition =>
    return .createIndex creation (← store.checkIndex creation definition)
  | .dropTable tolerant name => do
    unless tolerant do discard (store.requireTable name)
    return .dropTable tolerant name
  | .dropIndex tolerant name => do
    if !tolerant && (store.index? name).isNone then throw (.noIndex name)
    return .dropIndex tolerant name
  | .insert rule name columns rows => do
    let table ← store.requireTable name
    return .insert rule name columns (← checkInsert table columns rows)
  | .update rule name changes condition => do
    let scope := Scope.ofTable (← store.requireTable name).definition name
    let changes ← changes.mapM (checkChange scope)
    return .update rule name changes (← condition.mapM (resolved scope false))
  | .delete name condition => do
    let scope := Scope.ofTable (← store.requireTable name).definition name
    return .delete name (← condition.mapM (resolved scope false))
  | .select query => return .select (← store.checkQuery query)
  | .begin => return .begin
  | .commit => return .commit
  | .rollback => return .rollback

/-- The first two rows that agree where an index lets none. -/
def agreeing? (positions : List Nat) : List Row → Bool
  | [] => false
  | row :: rest =>
    (rest.any fun other => agree positions row.values other.values) || agreeing? positions rest

/-- The store with an index more, if the rows allow it. -/
def addIndex (definition : IndexDefinition) : Except Problem Store := do
  let table ← store.requireTable definition.table
  match definition.keys? with
  | some positions =>
    if definition.isUnique && agreeing? positions table.rows then throw (table.clash positions)
    return store.add (.index definition)
  | none => return store.add (.index definition)

end Store

namespace Connection

variable (connection : Connection)

/-- The connection after a change of rows. -/
def changedTo (store : Store) (count : Nat) : Outcome × Connection :=
  (.changed count, { connection with store, changes := count })

/-- The connection after a change of something else, which leaves the count of changed
rows as it was. -/
def movedTo (store : Store) : Outcome × Connection :=
  (.changed connection.changes, { connection with store })

/-- Runs a statement whose names have been looked up. -/
def run (frame : Frame) : Statement → Except Problem (Outcome × Connection)
  | .createTable _ definition =>
    if (connection.store.table? definition.name).isSome then
      return connection.movedTo connection.store
    else return connection.movedTo (connection.store.add (.table { definition }))
  | .createIndex _ definition => do
    if (connection.store.index? definition.name).isSome then
      return connection.movedTo connection.store
    else return connection.movedTo (← connection.store.addIndex definition)
  | .dropTable _ name => return connection.movedTo (connection.store.dropTable name)
  | .dropIndex _ name => return connection.movedTo (connection.store.dropIndex name)
  | .insert rule name columns rows => do
    let table ← connection.store.requireTable name
    let positions ← match columns with
      | some names => table.positionsOf names
      | none => pure (List.range table.definition.columns.length)
    let (rows, count) ←
      table.insertAll (connection.store.indexesOn name) frame rule positions rows table.rows 0
    return connection.changedTo (connection.store.withRows name rows) count
  | .update rule name changes condition => do
    let table ← connection.store.requireTable name
    let positions ← table.positionsOf (changes.map Prod.fst)
    let (rows, count) ←
      table.update (connection.store.indexesOn name) frame rule
        (positions.zip (changes.map Prod.snd)) condition
    return connection.changedTo (connection.store.withRows name rows) count
  | .delete name condition => do
    let table ← connection.store.requireTable name
    let (rows, count) ← table.delete (connection.store.indexesOn name) frame condition
    return connection.changedTo (connection.store.withRows name rows) count
  | .select query => return (.answered (query.answer connection.store frame), connection)
  | .begin =>
    match connection.saved with
    | some _ => throw .insideTransaction
    | none =>
      return (.changed connection.changes, { connection with saved := some connection.store })
  | .commit =>
    match connection.saved with
    | some _ => return (.changed connection.changes, { connection with saved := none })
    | none => throw .nothingToCommit
  | .rollback =>
    match connection.saved with
    | some store =>
      return (.changed connection.changes, { connection with store, saved := none })
    | none => throw .nothingToRollBack

/-- Whether a statement changes rows, so that it counts changes even where it fails. -/
def countsChanges : Statement → Bool
  | .insert .. | .update .. | .delete .. => true
  | _ => false

/-- Runs a statement and gives the connection after it. A change of rows that fails
has changed none. -/
def perform (frame : Frame) (statement : Statement) : Except Problem Outcome × Connection :=
  match connection.run frame statement with
  | .ok (outcome, connection) => (.ok outcome, connection)
  | .error problem =>
    (.error problem,
      if countsChanges statement then { connection with changes := 0 } else connection)

/-- Reads the first statement among tokens of a source and looks its names up; also
gives the tokens after it. -/
def prepareFirst (source : List Char) (tokens : List Token) :
    Except Problem (Option (Prepared × List Token)) := do
  match ← readFirst ⟨source, connection.store.admitsTable⟩ tokens with
  | none => return none
  | some (prepared, rest) =>
    let statement ← connection.store.check prepared.statement
    return some ({ prepared with statement }, rest)

/-- Reads the first statement of a source and looks its names up. -/
def prepare (source : String) : Except Problem Prepared := do
  match ← connection.prepareFirst source.toList (Token.scan source.toList) with
  | some (prepared, _) => return prepared
  | none => throw .noStatement

/-- Runs all statements of a source, in order, up to the first that fails. A query
computes its first row only. The fuel is the number of tokens, since every statement
has some. -/
def executeTokens (environment : Emulation.Environment) (source : List Char) :
    (fuel : Nat) → List Token → Connection → Except Problem Unit × Connection
  | 0, _, connection => (.ok (), connection)
  | fuel + 1, tokens, connection =>
    match connection.prepareFirst source tokens with
    | .error problem => (.error problem, connection)
    | .ok none => (.ok (), connection)
    | .ok (some (prepared, rest)) =>
      match connection.perform { environment, parameters := [] } prepared.statement with
      | (.error problem, connection) => (.error problem, connection)
      | (.ok (.answered ⟨_, [], some problem⟩), connection) => (.error problem, connection)
      | (.ok _, connection) => executeTokens environment source fuel rest connection

/-- Runs all statements of a source. -/
def executeAll (environment : Emulation.Environment) (source : String) :
    Except Problem Unit × Connection :=
  let tokens := Token.scan source.toList
  executeTokens environment source.toList (tokens.length + 1) tokens connection

end Connection

end DialectBridge.Database
