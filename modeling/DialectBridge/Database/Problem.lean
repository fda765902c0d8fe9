import DialectBridge.Diagnostic.EngineFailure

/-!
# What the engine refuses

A problem is the cause of a statement that could not be prepared or executed. Its
message is the engine's diagnostic, and its code tells constraint violations from the
rest.
-/

namespace DialectBridge.Database

/-- Why a statement fails. -/
inductive Problem where
  | unexpected (token : String)
  | unrecognized (token : String)
  | incomplete
  | noStatement
  | noTable (name : String)
  | noIndex (name : String)
  | noColumn (name : String)
  | noFunction (name : String)
  | noDatabase (name : String)
  | noSource
  | argumentCount (function : String)
  | misplacedAggregate (function : String)
  | strayAggregate (function : String)
  | tableExists (written : String)
  | indexExists (name : String)
  | namedAsIndex (name : String)
  | namedAsTable (name : String)
  | reservedName (name : String)
  | repeatedColumn (name : String)
  | secondPrimaryKey (table : String)
  | notAutomatic
  | unknownOption (written : String)
  | tableLacksColumn (table column : String)
  | valueCount (table : String) (columns values : Nat)
  | listedCount (values columns : Nat)
  | unevenRows
  | orderPosition (position : String) (count : Nat)
  | notUnique (table : String) (columns : List String)
  | missingValue (table column : String)
  | checkFailed (label : String)
  | mismatch
  | insideTransaction
  | nothingToCommit
  | nothingToRollBack
  | wholeOverflow
  | raised (message : String)

namespace Problem

/-- The diagnostic. -/
def message : Problem → String
  | unexpected token => "near \"" ++ token ++ "\": syntax error"
  | unrecognized token => "unrecognized token: \"" ++ token ++ "\""
  | incomplete => "incomplete input"
  | noStatement => "not an error"
  | noTable name => "no such table: " ++ name
  | noIndex name => "no such index: " ++ name
  | noColumn name => "no such column: " ++ name
  | noFunction name => "no such function: " ++ name
  | noDatabase name => "unknown database " ++ name
  | noSource => "no tables specified"
  | argumentCount function => "wrong number of arguments to function " ++ function ++ "()"
  | misplacedAggregate function => "misuse of aggregate function " ++ function ++ "()"
  | strayAggregate function => "misuse of aggregate: " ++ function ++ "()"
  | tableExists written => "table " ++ written ++ " already exists"
  | indexExists name => "index " ++ name ++ " already exists"
  | namedAsIndex name => "there is already an index named " ++ name
  | namedAsTable name => "there is already a table named " ++ name
  | reservedName name => "object name reserved for internal use: " ++ name
  | repeatedColumn name => "duplicate column name: " ++ name
  | secondPrimaryKey table => "table \"" ++ table ++ "\" has more than one primary key"
  | notAutomatic => "AUTOINCREMENT is only allowed on an INTEGER PRIMARY KEY"
  | unknownOption written => "unknown table option: " ++ written
  | tableLacksColumn table column => "table " ++ table ++ " has no column named " ++ column
  | valueCount table columns values =>
    "table " ++ table ++ " has " ++ toString columns ++ " columns but " ++ toString values ++
      " values were supplied"
  | listedCount values columns =>
    toString values ++ " values for " ++ toString columns ++ " columns"
  | unevenRows => "all VALUES must have the same number of terms"
  | orderPosition position count =>
    position ++ " ORDER BY term out of range - should be between 1 and " ++ toString count
  | notUnique table columns =>
    "UNIQUE constraint failed: " ++ ", ".intercalate (columns.map fun c => table ++ "." ++ c)
  | missingValue table column => "NOT NULL constraint failed: " ++ table ++ "." ++ column
  | checkFailed label => "CHECK constraint failed: " ++ label
  | mismatch => "datatype mismatch"
  | insideTransaction => "cannot start a transaction within a transaction"
  | nothingToCommit => "cannot commit - no transaction is active"
  | nothingToRollBack => "cannot rollback - no transaction is active"
  | wholeOverflow => "integer overflow"
  | raised message => message

/-- The result code: constraints, values of the wrong type and calls without a
statement have codes of their own. -/
def code : Problem → Int
  | notUnique _ _ | missingValue _ _ | checkFailed _ => 19
  | mismatch => 20
  | noStatement => 21
  | _ => 1

/-- The failure that an engine call reports. -/
def failure (problem : Problem) : Diagnostic.EngineFailure :=
  .failed problem.code (some problem.message)

end Problem

end DialectBridge.Database
