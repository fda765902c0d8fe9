import DialectBridge.Statement.Expression

/-!
# Statements

The statements that are read are queries, changes of rows, and definitions of tables
and views. A text holds any number of statements, with semicolons between them.
-/

namespace DialectBridge.Statement

namespace Nested

/-- Reads a new value of a column, or of several at once. -/
def assignment (inner : Nested) : Reader Phrase := do
  let target ← do
    if (← Reader.peek) = some (.sign "(") then
      let columns ← Reader.inParentheses (Reader.commaSeparated Reader.qualifiedName)
      pure (Phrase.parenthesized (.list (columns.map .name)))
    else pure (.name (← Reader.qualifiedName))
  Reader.expectSign "="
  return .sequence [target, .text " = ", ← inner.anyExpression]

/-- Reads what happens to rows in conflict, if that is said. -/
def conflictRule : Reader (Option String) := do
  for rule in ["REPLACE", "ROLLBACK", "ABORT", "FAIL", "IGNORE"] do
    if ← Reader.takesKeywords ["OR", rule] then return some rule
  if ← Reader.takesKeyword "REPLACE" then return some "REPLACE" else return none

/-- Whether a query in parentheses is next. -/
def startsInnerQuery : Reader Bool := do
  match ← get with
  | .sign "(" :: .word _ "SELECT" :: _ => return true
  | _ => return false

/-- Reads what is inserted: the columns and the query that gives their values. -/
def insertedRows (inner : Nested) : Reader (List Phrase) := do
  if ← Reader.takesKeywords ["DEFAULT", "VALUES"] then return [.text "DEFAULT VALUES"]
  let columns ← if ← startsInnerQuery then pure [] else Reader.columnList?
  let query ← inner.query
  if columns.isEmpty then return [query]
  else return [.parenthesized (.list (columns.map fun column => .name [column])), .text " ", query]

/-- Reads an insertion after its first word. With a rule for conflicts it is always
written with `INTO`. -/
def insertion (inner : Nested) : Reader Phrase := do
  let rule ← conflictRule
  let overwrite := if ← Reader.takesKeyword "OVERWRITE" then " OVERWRITE" else ""
  let into := if ← Reader.takesKeyword "INTO" then " INTO" else ""
  let tableWord := if ← Reader.takesKeyword "TABLE" then " TABLE" else ""
  let table ← Reader.qualifiedName
  let rows ← inner.insertedRows
  let words := match rule with
    | some rule => "INSERT OR " ++ rule ++ " INTO "
    | none => "INSERT" ++ overwrite ++ into ++ tableWord ++ " "
  return .sequence (.text words :: .name table :: .text " " :: rows)

/-- Reads an update after its first word. -/
def update (inner : Nested) : Reader Phrase := do
  let words := (← conflictRule).elim "UPDATE " ("UPDATE OR " ++ · ++ " ")
  let table ← inner.joinedTables
  Reader.expectKeyword "SET"
  let assignments ← Reader.commaSeparated inner.assignment
  let source ← inner.tables
  let condition ← inner.clause "WHERE"
  return .sequence ([.text words, table, .text " SET ", .list assignments] ++
    spaced source ++ spaced condition)

/-- Reads a deletion after its first word. -/
def deletion (inner : Nested) : Reader Phrase := do
  Reader.expectKeyword "FROM"
  let tables ← Reader.commaSeparated inner.joinedTables
  let condition ← inner.clause "WHERE"
  let order ← inner.ordering
  let limit ← if ← Reader.takesKeyword "LIMIT" then inner.limit else pure none
  return .sequence ([.text "DELETE FROM ", .list tables] ++ spaced condition ++ spaced order ++
    limit.elim [] ([.text " LIMIT ", ·]))

/-- Reads what happens to a row when the row that it refers to changes. -/
def referenceAction : Reader String := do
  if ← Reader.takesKeywords ["SET", "NULL"] then return "SET NULL"
  else if ← Reader.takesKeywords ["SET", "DEFAULT"] then return "SET DEFAULT"
  else if ← Reader.takesKeywords ["NO", "ACTION"] then return "NO ACTION"
  else match ← Reader.takesOneOf ["RESTRICT", "CASCADE"] with
    | some action => return action
    | none => Reader.refuse

/-- Reads the actions on deletion and on update, in either order. -/
def referenceActions : Reader String := do
  let deleted ← first "DELETE"
  let updated ← first "UPDATE"
  let deleted ← if deleted.isEmpty then first "DELETE" else pure deleted
  return deleted ++ updated
where
  first (event : String) : Reader String := do
    if ← Reader.takesKeywords ["ON", event] then
      return " ON " ++ event ++ " " ++ (← referenceAction)
    else return ""

/-- Reads the table and the columns that others refer to. -/
def reference (gap : String) : Reader (List Phrase) := do
  let table ← Reader.qualifiedName
  let columns ← Reader.columnList?
  let list := if columns.isEmpty then []
    else [Phrase.text gap, .parenthesized (.list (columns.map fun column => .name [column]))]
  return .text "REFERENCES " :: .name table :: list ++ [.text (← referenceActions)]

/-- Reads an expression that a column is generated by, and how it is kept. -/
def generation (inner : Nested) (words : String) : Reader (List Phrase) := do
  let expression ← Reader.inParentheses inner.anyExpression
  let kept ← Reader.takesOneOf ["STORED", "VIRTUAL"]
  return [.text words, .parenthesized expression, .text (kept.elim "" (" " ++ ·))]

/-- Reads an option of a column; none if no option follows. A default is read with
`plain`, which leaves the rule for comparing texts to the column. -/
def columnOption (inner plain : Nested) : Reader (List Phrase) := do
  if ← Reader.takesKeyword "COLLATE" then
    return [.text "COLLATE ", .name (← Reader.qualifiedName)]
  else if ← Reader.takesKeywords ["NOT", "NULL"] then return [.text "NOT NULL"]
  else if ← Reader.takesKeyword "NULL" then return [.text "NULL"]
  else if ← Reader.takesKeyword "DEFAULT" then
    return [.text "DEFAULT ", ← plain.anyExpression]
  else if ← Reader.takesKeywords ["PRIMARY", "KEY"] then return [.text "PRIMARY KEY"]
  else if ← Reader.takesKeyword "UNIQUE" then return [.text "UNIQUE"]
  else if ← Reader.takesKeyword "REFERENCES" then reference " "
  else if ← Reader.takesKeyword "CHECK" then
    return [.text "CHECK ", .parenthesized (← Reader.inParentheses inner.anyExpression)]
  else if ← Reader.takesKeywords ["GENERATED", "ALWAYS", "AS"] then
    inner.generation "GENERATED ALWAYS AS "
  else if ← Reader.takesKeyword "AS" then inner.generation "AS "
  else match ← Reader.takesOneOf ["AUTOINCREMENT", "ASC", "DESC"] with
    | some word => return [.text word]
    | none => return []

/-- Reads the options of a column, each of which can have a name. -/
def columnOptions (inner plain : Nested) : (fuel : Nat) → Reader (List Phrase)
  | 0 => Reader.refuse
  | fuel + 1 => do
    let label ← do
      if ← Reader.takesKeyword "CONSTRAINT" then
        pure [Phrase.text "CONSTRAINT ", .name [← Reader.identifier], .text " "]
      else pure []
    let option ← columnOption inner plain
    if option.isEmpty then
      if label.isEmpty then return [] else Reader.refuse
    else return .text " " :: label ++ option ++ (← columnOptions inner plain fuel)

/-- The keywords that can follow a column which has no type. -/
def untypedKeywords : List String :=
  ["CONSTRAINT", "PRIMARY", "NOT", "UNIQUE", "CHECK", "DEFAULT", "COLLATE", "REFERENCES",
   "GENERATED", "AS"]

/-- Reads the definition of a column. -/
def column (inner plain : Nested) : Reader Phrase := do
  let label ← Reader.identifier
  let type ← do
    match ← Reader.peek with
    | some (.word _ keyword) =>
      if untypedKeywords.contains keyword then pure ""
      else pure (" " ++ (← DataType.read).text)
    | _ => pure ""
  return .sequence (.name [label] :: .text type ::
    (← columnOptions inner plain ((← get).length + 1)))

/-- Reads a list of columns that a rule of the table is about. -/
def ruleColumns (words : String) : Reader (List Phrase) := do
  let columns ← Reader.columnList
  return [.text words, .parenthesized (.list (columns.map fun column => .name [column]))]

/-- Reads a rule that all rows of a table keep; none if no rule follows. -/
def tableRule (inner : Nested) : Reader (Option Phrase) := do
  let label ← do
    if ← Reader.takesKeyword "CONSTRAINT" then
      pure [Phrase.text "CONSTRAINT ", .name [← Reader.identifier], .text " "]
    else pure []
  let rule ← do
    if ← Reader.takesKeyword "UNIQUE" then ruleColumns "UNIQUE "
    else if ← Reader.takesKeyword "PRIMARY" then
      Reader.expectKeyword "KEY"
      ruleColumns "PRIMARY KEY "
    else if ← Reader.takesKeyword "FOREIGN" then
      Reader.expectKeyword "KEY"
      let columns ← ruleColumns "FOREIGN KEY "
      Reader.expectKeyword "REFERENCES"
      pure (columns ++ .text " " :: (← reference ""))
    else if ← Reader.takesKeyword "CHECK" then
      pure [Phrase.text "CHECK ", .parenthesized (← Reader.inParentheses inner.anyExpression)]
    else pure []
  if rule.isEmpty then
    if label.isEmpty then return none else Reader.refuse
  else return some (.sequence (label ++ rule))

/-- What a table is made of: columns, and rules for its rows. -/
inductive TablePart where
  | column (column : Phrase)
  | rule (rule : Phrase)

/-- Reads a column or a rule. -/
def tablePart (inner plain : Nested) : Reader TablePart := do
  match ← inner.tableRule with
  | some rule => return .rule rule
  | none =>
    match ← Reader.peek with
    | some (.word _ _) => return .column (← column inner plain)
    | _ => Reader.refuse

/-- The columns among the parts of a table. -/
def TablePart.column? : TablePart → Option Phrase
  | .column definition => some definition
  | .rule _ => none

/-- The rules among the parts of a table. -/
def TablePart.rule? : TablePart → Option Phrase
  | .column _ => none
  | .rule definition => some definition

/-- Reads the parts of a table in parentheses, if there are any; columns are written
before rules. -/
def tableParts (inner plain : Nested) : Reader (List Phrase) := do
  if ← Reader.takesSign "(" then
    if ← Reader.takesSign ")" then return []
    let parts ← Reader.commaSeparated (tablePart inner plain)
    Reader.expectSign ")"
    return parts.filterMap TablePart.column? ++ parts.filterMap TablePart.rule?
  else return []

/-- Reads the query after `AS`. -/
def definingQuery (inner : Nested) : Reader (List Phrase) := do
  if ← Reader.takesKeyword "AS" then return [.text " AS ", ← inner.query] else return []

/-- Reads the definition of a table after the word for it. -/
def tableDefinition (inner plain : Nested) (words : String) : Reader Phrase := do
  let condition := if ← Reader.takesKeywords ["IF", "NOT", "EXISTS"] then "IF NOT EXISTS " else ""
  let table ← Reader.qualifiedName
  let parts ← tableParts inner plain
  let keyed := if ← Reader.takesKeywords ["WITHOUT", "ROWID"] then " WITHOUT ROWID" else ""
  let strict := if ← Reader.takesKeyword "STRICT" then " STRICT" else ""
  let query ← inner.definingQuery
  let parts := if parts.isEmpty then (if query.isEmpty then [Phrase.text " ()"] else [])
    else [.text " ", .parenthesized (.list parts)]
  return .sequence ([.text (words ++ "TABLE " ++ condition), .name table] ++ parts ++
    [.text (keyed ++ strict)] ++ query)

/-- Reads the definition of a view after the word for it. -/
def viewDefinition (inner : Nested) (words : String) : Reader Phrase := do
  let condition := if ← Reader.takesKeywords ["IF", "NOT", "EXISTS"] then "IF NOT EXISTS " else ""
  let view ← Reader.qualifiedName
  let columns ← Reader.columnList?
  let query ← inner.definingQuery
  if query.isEmpty then Reader.refuse
  return .sequence ([.text (words ++ "VIEW " ++ condition), .name view] ++
    Phrase.columns columns ++ query)

/-- Reads a definition after its first word. -/
def definition (inner plain : Nested) : Reader Phrase := do
  let replace := if ← Reader.takesKeywords ["OR", "REPLACE"] then "OR REPLACE " else ""
  let temporary := if (← Reader.takesOneOf ["TEMP", "TEMPORARY"]).isSome then "TEMPORARY " else ""
  let words := "CREATE " ++ replace ++ temporary
  if ← Reader.takesKeyword "TABLE" then tableDefinition inner plain words
  else if ← Reader.takesKeyword "VIEW" then inner.viewDefinition words
  else Reader.refuse

end Nested

/-- Reads a statement. Its first level is the statement itself. -/
def statement : Reader Phrase := do
  let inner := nested true (maxDepth - 1)
  let plain := nested false (maxDepth - 1)
  match ← Reader.peekKeyword with
  | "REPLACE" => inner.insertion
  | "INSERT" =>
    let _ ← Reader.next
    inner.insertion
  | "UPDATE" =>
    let _ ← Reader.next
    inner.update
  | "DELETE" =>
    let _ ← Reader.next
    inner.deletion
  | "CREATE" =>
    let _ ← Reader.next
    Nested.definition inner plain
  | keyword =>
    if ["SELECT", "WITH", "VALUES"].contains keyword || (← Reader.peek) = some (.sign "(") then
      inner.query
    else Reader.refuse

/-- Reads statements to the end of the tokens, where `separated` says that a semicolon
or the start came last. The word `END` after a statement ends the text. -/
def statementsFrom : (fuel : Nat) → (separated : Bool) → Reader (List Phrase)
  | 0, _ => Reader.refuse
  | fuel + 1, separated => do
    if ← Reader.takesSign ";" then statementsFrom fuel true
    else if (← get).isEmpty then return []
    else if separated then
      let first ← statement
      return first :: (← statementsFrom fuel false)
    else if (← Reader.peekKeyword) = "END" then return []
    else Reader.refuse

/-- The statements of a text; none if the text cannot be read. -/
def readAll (text : String) : Option (List Phrase) :=
  match Token.scan text with
  | none => none
  | some tokens =>
    match statementsFrom (2 * tokens.length + 1) true tokens with
    | .ok (statements, _) => some statements
    | .error _ => none

/-- The expression that a text starts with; none if it starts with none. -/
def readExpression (text : String) : Option Phrase :=
  match Token.scan text with
  | none => none
  | some tokens =>
    match (nested true maxDepth).anyExpression tokens with
    | .ok (expression, _) => some expression
    | .error _ => none

end DialectBridge.Statement
