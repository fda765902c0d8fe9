import DialectBridge.Database.ExpressionReader

/-!
# Reading statements

One statement up to a semicolon or the end. Definitions keep the text of their source
from the name on.
-/

namespace DialectBridge.Database.Reader

/-! ## Queries -/

/-- Reads an alias, with or without its word. -/
def aliasName (isBare : Token → Bool) : Reader (Option String) := do
  if ← takesKeyword "AS" then return some (← name)
  if ← nextIs isBare then return some (← name)
  return none

/-- Whether a token can be an alias of a result. -/
def isResultAlias (token : Token) : Bool := token.isIdentifier || token.kind == .string

/-- Reads one column of a result. -/
def resultColumn : Reader ResultColumn := do
  if ← takesSign "*" then return .all
  match (← tokens).take 3 with
  | [table, point, star] =>
    if table.isName && point.isSign "." && star.isSign "*" then
      advance
      advance
      advance
      return .allOf table.content
  | _ => pure ()
  let value ← expression
  return .value value (← aliasName isResultAlias)

/-- Reads a name with an optional database in front. -/
def qualifiedName : Reader (Option String × String) := do
  let first ← name
  if ← takesSign "." then return (some first, ← name)
  return (none, first)

/-- Reads the table of a query. -/
def source : Reader Source := do
  let (schema, table) ← qualifiedName
  let shown ← aliasName isResultAlias
  if ← takesKeyword "INDEXED" then
    expectKeyword "BY"
    discard name
  return ⟨schema, table, shown.getD table⟩

/-- Reads a direction, which may be missing. -/
def direction : Reader Direction := do
  if ← takesKeyword "DESC" then return .descending
  if ← takesKeyword "ASC" then return .ascending
  return .ascending

/-- Reads one term of an order. Nulls come first where values ascend, unless it is said
otherwise. -/
def orderTerm : Reader OrderTerm := do
  let value ← expression
  let direction ← direction
  if ← takesKeyword "NULLS" then
    if ← takesKeyword "FIRST" then return ⟨value, direction, true⟩
    expectKeyword "LAST"
    return ⟨value, direction, false⟩
  return ⟨value, direction, direction == .ascending⟩

/-- Reads an expression after a keyword, if the keyword is next. -/
def clause (keyword : String) : Reader (Option Expression) := do
  if ← takesKeyword keyword then return some (← expression)
  return none

/-- Reads the bounds of a query: a limit, and what to skip. -/
def bounds : Reader (Option Expression × Option Expression) := do
  match ← clause "LIMIT" with
  | none => return (none, none)
  | some first =>
    if ← takesSign "," then return (some (← expression), some first)
    return (some first, ← clause "OFFSET")

/-- Reads a query after its first word. -/
def query : Reader Query := do
  let distinct ← takesKeyword "DISTINCT"
  unless distinct do discard (takesKeyword "ALL")
  let columns ← commaSeparated resultColumn
  let source ← if ← takesKeyword "FROM" then pure (some (← source)) else pure none
  let condition ← clause "WHERE"
  let order ←
    if ← takesKeyword "ORDER" then
      expectKeyword "BY"
      commaSeparated orderTerm
    else pure []
  let (limit, skip) ← bounds
  return { distinct, columns, source, condition, order, limit, skip }

/-! ## Definitions -/

/-- Reads the words that let an object of the name be there already. -/
def ifNotExists : Reader Bool := do
  if ← takesKeyword "IF" then
    expectKeywords ["NOT", "EXISTS"]
    return true
  return false

/-- Reads what to do on a conflict, which no definition keeps. -/
def onConflict : Reader Unit := do
  if ← takesKeyword "ON" then
    expectKeyword "CONFLICT"
    discard (expect fun token =>
      ["ROLLBACK", "ABORT", "FAIL", "IGNORE", "REPLACE"].any (token.isKeyword ·))

/-- The estimate of the size of a value by its declared type: texts and blobs have the
size that the type states, or else a common one. -/
def widthOf (type : List Char) : Nat :=
  let upper := type.map Char.toUpper
  let stated := (Decimal.readNatural ((type.dropWhile (!·.isDigit)).takeWhile Char.isDigit)).getD 0
  let isStated := mentions upper "CHAR".toList || mentions upper "BLOB(".toList
  match affinityOf type with
  | .text | .blob =>
    if type.isEmpty then 1 else min 255 ((if isStated then stated else 16) / 4 + 1)
  | _ => 1

/-- What has been read of a table: its columns, newest first, with the declared types,
and its constraints. -/
structure Draft where
  columns : List (Column × String) := []
  rowNumber : Option Nat := none
  hasPrimaryKey : Bool := false
  unique : List (List Nat) := []
  checks : List Check := []

namespace Draft

/-- The position of a column. -/
def position? (draft : Draft) (name : String) : Option Nat :=
  draft.columns.reverse.findIdx? fun column => sameName column.1.name name

/-- Adds a column. -/
def addColumn (draft : Draft) (name type : String) : Reader Draft := do
  if (draft.position? name).isSome then throw (.repeatedColumn name)
  let chars := type.toList
  let column : Column := { name, affinity := affinityOf chars, width := widthOf chars }
  return { draft with columns := (column, type) :: draft.columns }

/-- Changes the newest column. -/
def changeColumn (draft : Draft) (change : Column → Column) : Draft :=
  match draft.columns with
  | (column, type) :: rest => { draft with columns := (change column, type) :: rest }
  | [] => draft

/-- Demands a primary key. A single whole-number column becomes the row number;
otherwise the key is unique. -/
def addPrimaryKey (draft : Draft) (table : String) (keys : List String)
    (descending automatic : Bool) : Reader Draft := do
  if draft.hasPrimaryKey then throw (.secondPrimaryKey table)
  let positions ← keys.mapM fun key =>
    match draft.position? key with
    | some position => return position
    | none => throw (.noColumn key)
  let draft := { draft with hasPrimaryKey := true }
  let single? := match positions with
    | [position] =>
      match draft.columns.reverse[position]? with
      | some (_, type) => if sameName type "INTEGER" && !descending then some position else none
      | none => none
    | _ => none
  match single? with
  | some position => return { draft with rowNumber := some position }
  | none =>
    if automatic then throw .notAutomatic
    return { draft with unique := draft.unique ++ [positions] }

/-- Demands uniqueness. -/
def addUnique (draft : Draft) (keys : List String) : Reader Draft := do
  let positions ← keys.mapM fun key =>
    match draft.position? key with
    | some position => return position
    | none => throw (.noColumn key)
  return { draft with unique := draft.unique ++ [positions] }

end Draft

/-- Reads a condition between parentheses, with its text as its label unless it has a
name. -/
def checkOf (label : Option String) : Reader Check := do
  expectSign "("
  let start ← place
  let condition ← expression
  let text ← sourceBetween start (← place)
  expectSign ")"
  return ⟨label.getD text, condition⟩

/-- Reads the name of a constraint. -/
def constraintName : Reader (Option String) := do
  if ← takesKeyword "CONSTRAINT" then return some (← name)
  return none

/-- Reads a reference to another table, which no definition keeps. -/
def reference : Reader Unit := do
  discard name
  if ← takesSign "(" then
    discard (commaSeparated name)
    expectSign ")"
  actions (← tokens).length
where
  /-- Reads what happens when the other row changes. -/
  actions : Nat → Reader Unit
    | 0 => return ()
    | fuel + 1 => do
      if ← takesKeyword "ON" then
        discard (expect fun token => token.isKeyword "DELETE" || token.isKeyword "UPDATE")
        if ← takesKeyword "SET" then
          discard (expect fun token => token.isKeyword "NULL" || token.isKeyword "DEFAULT")
        else if ← takesKeyword "NO" then expectKeyword "ACTION"
        else discard (expect fun token => token.isKeyword "CASCADE" || token.isKeyword "RESTRICT")
        actions fuel

/-- Reads the value of a default. -/
def defaultValue : Reader Expression := do
  if ← takesSign "(" then
    let value ← expression
    expectSign ")"
    return value
  match ← peek with
  | some token =>
    if token.isIdentifier then
      advance
      return .literal (.text token.content)
    else tightExpression
  | none => refuse

/-- Reads the constraints of a column. -/
def columnConstraints (table column : String) : (fuel : Nat) → Draft → Reader Draft
  | 0, draft => return draft
  | fuel + 1, draft => do
    let label ← constraintName
    if ← takesKeyword "DEFAULT" then
      let value ← defaultValue
      columnConstraints table column fuel
        (draft.changeColumn fun column => { column with default := some value })
    else if ← takesKeyword "NOT" then
      expectKeyword "NULL"
      onConflict
      columnConstraints table column fuel
        (draft.changeColumn fun column => { column with notNull := true })
    else if ← takesKeyword "NULL" then
      onConflict
      columnConstraints table column fuel draft
    else if ← takesKeyword "PRIMARY" then
      expectKeyword "KEY"
      let direction ← direction
      onConflict
      let automatic ← takesKeyword "AUTOINCREMENT"
      columnConstraints table column fuel
        (← draft.addPrimaryKey table [column] (direction == .descending) automatic)
    else if ← takesKeyword "UNIQUE" then
      onConflict
      columnConstraints table column fuel (← draft.addUnique [column])
    else if ← takesKeyword "CHECK" then
      let check ← checkOf label
      columnConstraints table column fuel { draft with checks := draft.checks ++ [check] }
    else if ← takesKeyword "REFERENCES" then
      reference
      columnConstraints table column fuel draft
    else if label.isSome then refuse
    else return draft

/-- Reads a column of a key, with a direction. -/
def keyColumn : Reader String := do
  let key ← name
  discard direction
  return key

/-- Reads a constraint of a table. -/
def tableConstraint (table : String) (draft : Draft) : Reader Draft := do
  let label ← constraintName
  if ← takesKeyword "PRIMARY" then
    expectKeyword "KEY"
    let keys ← parenthesised keyColumn
    onConflict
    draft.addPrimaryKey table keys false false
  else if ← takesKeyword "UNIQUE" then
    let keys ← parenthesised keyColumn
    onConflict
    draft.addUnique keys
  else if ← takesKeyword "CHECK" then
    let check ← checkOf label
    onConflict
    return { draft with checks := draft.checks ++ [check] }
  else if ← takesKeyword "FOREIGN" then
    expectKeyword "KEY"
    discard (parenthesised name)
    expectKeyword "REFERENCES"
    reference
    return draft
  else refuse

/-- Whether a token starts a constraint of a table. -/
def startsConstraint (token : Token) : Bool :=
  ["CONSTRAINT", "PRIMARY", "UNIQUE", "CHECK", "FOREIGN"].any (token.isKeyword ·)

/-- Reads constraints of a table; a comma between them may be left out. -/
def tableConstraints (table : String) : (fuel : Nat) → Draft → Reader Draft
  | 0, draft => return draft
  | fuel + 1, draft => do
    let draft ← tableConstraint table draft
    if ← takesSign "," then tableConstraints table fuel draft
    else if ← nextIs startsConstraint then tableConstraints table fuel draft
    else return draft

/-- Reads columns and then constraints, up to the closing parenthesis. -/
def tableItems (table : String) : (fuel : Nat) → Draft → Reader Draft
  | 0, draft => return draft
  | fuel + 1, draft => do
    if !draft.columns.isEmpty && (← nextIs startsConstraint) then
      tableConstraints table (← tokens).length draft
    else
      let column ← name
      let type ← typeName
      let draft ← draft.addColumn column type
      let draft ← columnConstraints table column (← tokens).length draft
      if ← takesSign "," then tableItems table fuel draft
      else if ← nextIs startsConstraint then tableConstraints table (← tokens).length draft
      else return draft

/-- Refuses an option of a table that is not known. What cannot follow an option is
refused before it. -/
def refuseOption : Reader Unit := do
  let some token ← peek | return
  if token.isName && !(token.isKeyword "WITHOUT" || token.isKeyword "STRICT") then
    advance
    if (← peek).all fun next => next.isSign "," || next.isSign ";" then
      throw (.unknownOption (String.ofList token.text))
    refuse

/-- Reads the definition of a table after its first words. -/
def createTable : Reader Statement := do
  let tolerant ← ifNotExists
  let start ← place
  let first ← peek
  let (schema, table) ← qualifiedName
  let written := if schema.isSome then table else
    String.ofList ((first.map (·.text)).getD [])
  expectSign "("
  let creation : Creation := ⟨tolerant, written, schema⟩
  match (← read).admits creation table with
  | .ok _ => pure ()
  | .error problem => throw problem
  let draft ← tableItems table (← tokens).length {}
  let last ← place
  expectSign ")"
  refuseOption
  let columns := draft.columns.reverse.map Prod.fst
  return .createTable creation
    { name := table
      columns
      rowNumber := draft.rowNumber
      unique := draft.unique
      checks := draft.checks
      source := "CREATE TABLE " ++ (← sourceBetween start (last + 1)) }

/-- Reads one column of an index. -/
def indexColumn : Reader (Expression × Direction) := do
  let value ← expression
  return (value, ← direction)

/-- Reads the definition of an index after its first words. -/
def createIndex (isUnique : Bool) : Reader Statement := do
  let tolerant ← ifNotExists
  let start ← place
  let (schema, index) ← qualifiedName
  expectKeyword "ON"
  let table ← name
  let columns ← parenthesised indexColumn
  let text ← sourceBetween start (← place)
  return .createIndex ⟨tolerant, index, schema⟩
    { name := index
      table
      isUnique
      columns
      source := (if isUnique then "CREATE UNIQUE INDEX " else "CREATE INDEX ") ++ text }

/-- Reads what is left of a definition after its first word. -/
def create : Reader Statement := do
  if ← takesKeyword "TABLE" then createTable
  else if ← takesKeyword "UNIQUE" then
    expectKeyword "INDEX"
    createIndex true
  else if ← takesKeyword "INDEX" then createIndex false
  else refuse

/-- Reads the words that let an object be missing. -/
def ifExists : Reader Bool := do
  if ← takesKeyword "IF" then
    expectKeyword "EXISTS"
    return true
  return false

/-- Reads the removal of an object after its first word. -/
def drop : Reader Statement := do
  if ← takesKeyword "TABLE" then return .dropTable (← ifExists) (← qualifiedName).2
  if ← takesKeyword "INDEX" then return .dropIndex (← ifExists) (← qualifiedName).2
  refuse

/-! ## Changes -/

/-- Reads what to do on a conflict, after the verb. -/
def conflictRule : Reader ConflictRule := do
  if ← takesKeyword "OR" then
    if ← takesKeyword "REPLACE" then return .replace
    if ← takesKeyword "IGNORE" then return .ignore
    discard (expect fun token => ["ROLLBACK", "ABORT", "FAIL"].any (token.isKeyword ·))
  return .abort

/-- Reads rows of values, all of one length. -/
def rows : Reader (List (List Expression)) := do
  let rows ← commaSeparated (parenthesised expression)
  if rows.any fun row => some row.length != rows.head?.map List.length then throw .unevenRows
  return rows

/-- Reads an insertion after its verb. -/
def insert (rule : ConflictRule) : Reader Statement := do
  expectKeyword "INTO"
  let (_, table) ← qualifiedName
  let columns ←
    if ← nextIs (·.isSign "(") then pure (some (← parenthesised name)) else pure none
  if columns.isNone then
    if ← takesKeyword "DEFAULT" then
      expectKeyword "VALUES"
      return .insert rule table (some []) [[]]
  expectKeyword "VALUES"
  return .insert rule table columns (← rows)

/-- Reads one change of a column. -/
def change : Reader (String × Expression) := do
  let column ← name
  expectSign "="
  return (column, ← expression)

/-- Reads an update after its verb. -/
def update : Reader Statement := do
  let rule ← conflictRule
  let (_, table) ← qualifiedName
  expectKeyword "SET"
  let changes ← commaSeparated change
  return .update rule table changes (← clause "WHERE")

/-- Reads a deletion after its verb. -/
def delete : Reader Statement := do
  expectKeyword "FROM"
  let (_, table) ← qualifiedName
  return .delete table (← clause "WHERE")

/-! ## Statements -/

/-- Reads the start of a transaction after its first word. -/
def beginning : Reader Statement := do
  discard (takes fun token =>
    ["DEFERRED", "IMMEDIATE", "EXCLUSIVE"].any (token.isKeyword ·))
  discard (takesKeyword "TRANSACTION")
  return .begin

/-- Reads a statement. -/
def statement : Reader Statement := do
  if ← takesKeyword "SELECT" then return .select (← query)
  if ← takesKeyword "INSERT" then insert (← conflictRule)
  else if ← takesKeyword "REPLACE" then insert .replace
  else if ← takesKeyword "UPDATE" then update
  else if ← takesKeyword "DELETE" then delete
  else if ← takesKeyword "CREATE" then create
  else if ← takesKeyword "DROP" then drop
  else if ← takesKeyword "BEGIN" then beginning
  else if ← takes fun token => token.isKeyword "COMMIT" || token.isKeyword "END" then
    discard (takesKeyword "TRANSACTION")
    return .commit
  else if ← takesKeyword "ROLLBACK" then
    discard (takesKeyword "TRANSACTION")
    return .rollback
  else refuse

/-- Reads a statement and its end. -/
def endedStatement : Reader Statement := do
  let statement ← statement
  if (← peek).isSome then expectSign ";"
  return statement

end Reader

/-- Drops empty statements from the front. -/
def dropEmpty (tokens : List Token) : List Token := tokens.dropWhile (·.isSign ";")

/-- Reads the first statement among tokens; also gives the tokens after it. None if
there is no statement. -/
def readFirst (context : ReadContext) (tokens : List Token) :
    Except Problem (Option (Prepared × List Token)) :=
  match dropEmpty tokens with
  | [] => .ok none
  | tokens =>
    match (Reader.endedStatement.run context).run { tokens } with
    | .ok (statement, reading) => .ok (some (⟨statement, reading.highest⟩, reading.tokens))
    | .error problem => .error problem

end DialectBridge.Database
