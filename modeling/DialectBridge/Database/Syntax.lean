import DialectBridge.Value

/-!
# Statements of the engine

The part of the engine's language that the library relies on: definitions of tables
and indexes, changes of rows, and queries of one table.
-/

namespace DialectBridge.Database

/-- Whether two names are the same to the engine: up to the case of ASCII letters. -/
def sameName (a b : String) : Bool := a.toList.map Char.toLower == b.toList.map Char.toLower

/-- What a column prefers to store: the class of its declared type. -/
inductive Affinity where
  | blob
  | text
  | numeric
  | integer
  | real
  deriving DecidableEq, Repr

/-- The operators between two operands. -/
inductive BinaryOp where
  | or
  | and
  | equal
  | notEqual
  | isSame
  | isNotSame
  | less
  | lessEqual
  | greater
  | greaterEqual
  | bitAnd
  | bitOr
  | shiftLeft
  | shiftRight
  | add
  | subtract
  | multiply
  | divide
  | remainder
  | concat
  deriving DecidableEq, Repr

/-- The operators in front of an operand. -/
inductive UnaryOp where
  | negate
  | keep
  | complement
  | not
  deriving DecidableEq, Repr

/-- An expression. A column is written by name and becomes a cell, a position in the
row, once it has been looked up; a name in double quotes may turn out to be a text.
Patterns are calls, with the pattern before the text; an
aggregate may be asked to pass over repeated values. A choice lists conditions and
values in turn, and at the end perhaps a value for all other cases. -/
inductive Expression where
  | literal (value : Value)
  | parameter (index : Nat)
  | column (table : Option String) (name : String) (quoted : Bool)
  | cell (position : Nat) (affinity : Affinity)
  | unary (op : UnaryOp) (operand : Expression)
  | binary (op : BinaryOp) (left right : Expression)
  | isNull (operand : Expression)
  | isIn (operand : Expression) (items : List Expression)
  | between (operand low high : Expression)
  | choice (parts : List Expression)
  | cast (operand : Expression) (affinity : Affinity)
  | call (name : String) (distinct : Bool) (arguments : List Expression)
  deriving Inhabited

/-- A direction of an order. -/
inductive Direction where
  | ascending
  | descending
  deriving DecidableEq, Repr

/-- What a conflict with a constraint leads to. -/
inductive ConflictRule where
  | abort
  | ignore
  | replace
  deriving DecidableEq, Repr

/-- A condition on the rows of a table, with the text that names it when it fails. -/
structure Check where
  label : String
  condition : Expression

/-- A column of a table. The width is the engine's estimate of the size of a value,
in units of a small number. -/
structure Column where
  name : String
  affinity : Affinity
  width : Nat
  notNull : Bool := false
  default : Option Expression := none

/-- The definition of a table. The row number may be one of the columns. Uniqueness is
kept by column positions, in the order in which it was demanded. -/
structure TableDefinition where
  name : String
  columns : List Column
  rowNumber : Option Nat
  unique : List (List Nat)
  checks : List Check
  source : String

/-- The definition of an index. -/
structure IndexDefinition where
  name : String
  table : String
  isUnique : Bool
  columns : List (Expression × Direction)
  source : String

/-- One column of a result. -/
inductive ResultColumn where
  | all
  | allOf (table : String)
  | value (expression : Expression) (shown : Option String)

/-- One term of an order. -/
structure OrderTerm where
  expression : Expression
  direction : Direction
  nullsFirst : Bool

/-- The table that a query reads, and the name that its columns go by. -/
structure Source where
  schema : Option String
  table : String
  shown : String

/-- A query of one table, or of none. -/
structure Query where
  distinct : Bool
  columns : List ResultColumn
  source : Option Source
  condition : Option Expression
  order : List OrderTerm
  limit : Option Expression
  skip : Option Expression

/-- How an object is made: whether one of its name may be there already, the name as
it was written, and the database that it was to be made in. -/
structure Creation where
  tolerant : Bool
  written : String
  schema : Option String

/-- A statement. -/
inductive Statement where
  | createTable (creation : Creation) (definition : TableDefinition)
  | createIndex (creation : Creation) (definition : IndexDefinition)
  | dropTable (tolerant : Bool) (name : String)
  | dropIndex (tolerant : Bool) (name : String)
  | insert (rule : ConflictRule) (table : String) (columns : Option (List String))
      (rows : List (List Expression))
  | update (rule : ConflictRule) (table : String) (changes : List (String × Expression))
      (condition : Option Expression)
  | delete (table : String) (condition : Option Expression)
  | select (query : Query)
  | begin
  | commit
  | rollback

/-- A statement with the number of its parameters. -/
structure Prepared where
  statement : Statement
  parameters : Nat

/-- Whether a statement gives rows. -/
def Statement.isQuery : Statement → Bool
  | select _ => true
  | _ => false

end DialectBridge.Database
