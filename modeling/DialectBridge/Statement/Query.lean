import DialectBridge.Statement.Call

/-!
# Queries

A query is made of selections, rows of values and queries in parentheses, joined by
set operators, with an ordering and a limit at its end.
-/

namespace DialectBridge.Statement.Nested

/-- Keywords that end a selected item or a table, so that they are no alias. -/
def reservedAliases : List String :=
  ["WITH", "EXPLAIN", "ANALYZE", "SELECT", "WHERE", "GROUP", "SORT", "HAVING", "ORDER", "TOP",
   "LATERAL", "VIEW", "LIMIT", "OFFSET", "FETCH", "UNION", "EXCEPT", "INTERSECT", "MINUS",
   "CLUSTER", "DISTRIBUTE", "RETURNING", "END"]

/-- Keywords that are no alias of a selected item. -/
def reservedColumnAliases : List String := "FROM" :: "INTO" :: reservedAliases

/-- Keywords that are no alias of a table. -/
def reservedTableAliases : List String :=
  ["ON", "JOIN", "INNER", "CROSS", "FULL", "LEFT", "RIGHT", "NATURAL", "USING", "GLOBAL",
   "ANTI", "SEMI", "ASOF", "MATCH_CONDITION", "OUTER", "SET", "QUALIFY", "WINDOW", "FOR",
   "PARTITION", "PREWHERE", "SETTINGS", "FORMAT", "START", "CONNECT", "MATCH_RECOGNIZE",
   "SAMPLE", "TABLESAMPLE", "FROM", "PIVOT", "UNPIVOT"] ++ reservedAliases

/-- Reads a selected item: a star, or an expression with an alias. The word that starts
the tables cannot stand for an expression. -/
def selectedItem (inner : Nested) : Reader Phrase := do
  match ← star? with
  | some star => return star
  | none =>
    let item ← inner.anyExpression
    if let .name [⟨word, none⟩] := item then
      if Text.lowercased word = "from" then Reader.refuse
    match ← Reader.aliasName reservedColumnAliases with
    | some label => return .sequence [item, .text " AS ", .name [label]]
    | none => return item

/-- Reads the alias of a table with the names of its columns, if there is one. -/
def tableAlias : Reader (List Phrase) := do
  match ← Reader.aliasName reservedTableAliases with
  | some label => return [.text " AS ", .name [label]] ++ Phrase.columns (← Reader.columnList?)
  | none => return []

/-- Reads a query in parentheses as a table, after its opening parenthesis. -/
def derivedTable (inner : Nested) : Reader Phrase := do
  let query ← inner.query
  Reader.expectSign ")"
  return .sequence (.parenthesized query :: (← tableAlias))

/-- Reads a table by its name, or a call that gives a table. -/
def namedTable (inner : Nested) : Reader Phrase := do
  if ["LATERAL", "TABLE"].contains (← Reader.peekKeyword) then Reader.refuse
  let table ← Reader.qualifiedName
  let arguments ← do
    if ← Reader.takesSign "(" then
      let arguments ← if (← Reader.peek) = some (.sign ")") then pure []
        else Reader.commaSeparated inner.argument
      Reader.expectSign ")"
      pure [Phrase.parenthesized (.list arguments)]
    else pure []
  return .sequence (.name table :: arguments ++ (← tableAlias))

/-- Reads the words that join one table to another; none if no join follows. -/
def joinWords : Reader (Option String) := do
  if ← Reader.takesKeyword "CROSS" then
    Reader.expectKeyword "JOIN"
    return some "CROSS JOIN"
  let natural := if ← Reader.takesKeyword "NATURAL" then "NATURAL " else ""
  match ← Reader.peekKeyword with
  | "JOIN" =>
    let _ ← Reader.next
    return some (natural ++ "JOIN")
  | "INNER" =>
    let _ ← Reader.next
    Reader.expectKeyword "JOIN"
    return some (natural ++ "INNER JOIN")
  | "FULL" =>
    let _ ← Reader.next
    let _ ← Reader.takesKeyword "OUTER"
    Reader.expectKeyword "JOIN"
    return some (natural ++ "FULL JOIN")
  | "OUTER" => Reader.refuse
  | side =>
    if side = "LEFT" || side = "RIGHT" then
      let _ ← Reader.next
      let outer := if ← Reader.takesKeyword "OUTER" then " OUTER" else ""
      Reader.expectKeyword "JOIN"
      return some (natural ++ side ++ outer ++ " JOIN")
    else if natural = "" then return none
    else Reader.refuse

/-- Reads the condition of a join; joins over all pairs and natural ones have none. -/
def joinCondition (inner : Nested) (words : String) : Reader (List Phrase) := do
  if words = "CROSS JOIN" || "NATURAL ".isPrefixOf words then return []
  else if ← Reader.takesKeyword "ON" then return [.text " ON ", ← inner.anyExpression]
  else if ← Reader.takesKeyword "USING" then
    let columns ← Reader.columnList
    return [.text " USING", .parenthesized (.list (columns.map fun column => .name [column]))]
  else return []

/-- Reads the joins that follow a table, given the reader of a table. -/
def joinsWith (inner : Nested) (table : Reader (Phrase × Bool)) :
    (fuel : Nat) → Reader (List Phrase)
  | 0 => Reader.refuse
  | fuel + 1 => do
    match ← joinWords with
    | none => return []
    | some words =>
      let (joined, _) ← table
      let condition ← inner.joinCondition words
      return .sequence (.text (" " ++ words ++ " ") :: joined :: condition) ::
        (← joinsWith inner table fuel)

/-- Reads a table with its joins, given the reader of a table. The flag says whether it
is a join. -/
def joinedWith (inner : Nested) (table : Reader (Phrase × Bool)) : Reader (Phrase × Bool) := do
  let (first, isJoin) ← table
  let joins ← joinsWith inner table ((← get).length + 1)
  return (.sequence (first :: joins), isJoin || !joins.isEmpty)

/-- Reads a table. Parentheses hold a query or a join, and not a table alone; the fuel
bounds how deep they nest. -/
def tableWithin (inner : Nested) : (fuel : Nat) → Reader (Phrase × Bool)
  | 0 => Reader.refuse
  | fuel + 1 => do
    if ← Reader.takesSign "(" then
      match ← Reader.attempt inner.derivedTable with
      | some table => return (table, false)
      | none =>
        let (table, isJoin) ← joinedWith inner (tableWithin inner fuel)
        unless isJoin do Reader.refuse
        Reader.expectSign ")"
        return (.sequence (.parenthesized table :: (← tableAlias)), true)
    else return (← inner.namedTable, false)

/-- Reads a table with its joins. Each parenthesis is a token, so the number of tokens
is fuel enough. -/
def joinedTables (inner : Nested) : Reader Phrase := do
  let (table, _) ← joinedWith inner (tableWithin inner ((← get).length + 1))
  return table

/-- Reads a grouping, if there is one. -/
def grouping (inner : Nested) : Reader (List Phrase) := do
  if ← Reader.takesKeywords ["GROUP", "BY"] then
    if ← Reader.takesKeyword "ALL" then return [.text "GROUP BY ALL"]
    else return [.text "GROUP BY ", .list (← Reader.commaSeparated inner.anyExpression)]
  else return []

/-- Reads a window with the name that it is given. -/
def namedWindow (inner : Nested) : Reader Phrase := do
  let label ← Reader.identifier
  Reader.expectKeyword "AS"
  let window ← if ← Reader.takesSign "(" then inner.window
    else pure (.name [← Reader.identifier])
  return .sequence [.name [label], .text " AS ", window]

/-- Reads the windows of a selection, if there are any. -/
def namedWindows (inner : Nested) : Reader (List Phrase) := do
  if ← Reader.takesKeyword "WINDOW" then
    return [.text "WINDOW ", .list (← Reader.commaSeparated inner.namedWindow)]
  else return []

/-- Reads the tables of a selection, if there are any. -/
def tables (inner : Nested) : Reader (List Phrase) := do
  if ← Reader.takesKeyword "FROM" then
    return [.text "FROM ", .list (← Reader.commaSeparated inner.joinedTables)]
  else return []

/-- Reads a selection. -/
def selection (inner : Nested) : Reader Phrase := do
  Reader.expectKeyword "SELECT"
  let distinct := if (← quantifier) = some .distinct then "SELECT DISTINCT " else "SELECT "
  if ["ON", "TOP", "INTO"].contains (← Reader.peekKeyword) then Reader.refuse
  let items ← Reader.commaSeparated inner.selectedItem
  let tables ← inner.tables
  let condition ← inner.clause "WHERE"
  let grouping ← inner.grouping
  let having ← inner.clause "HAVING"
  let windows ← inner.namedWindows
  return .sequence (.text distinct :: .list items ::
    ([tables, condition, grouping, having, windows].map spaced).flatten)

/-- Reads a row of values. -/
def row (inner : Nested) : Reader Phrase := do
  return .parenthesized (.list (← Reader.inParentheses (Reader.commaSeparated inner.anyExpression)))

/-- Reads what set operators stand between. -/
def operand (inner : Nested) : Reader Phrase := do
  if (← Reader.peekKeyword) = "SELECT" then inner.selection
  else if ← Reader.takesSign "(" then
    let query ← inner.query
    Reader.expectSign ")"
    return .parenthesized query
  else if ← Reader.takesKeyword "VALUES" then
    return .sequence [.text "VALUES ", .list (← Reader.commaSeparated inner.row)]
  else Reader.refuse

/-- Reads set operators, each with the operand after it. -/
def operations (inner : Nested) : (fuel : Nat) → Reader (List Phrase)
  | 0 => Reader.refuse
  | fuel + 1 => do
    match ← Reader.takesOneOf ["UNION", "EXCEPT", "INTERSECT", "MINUS"] with
    | none => return []
    | some operator =>
      let kind ← Reader.takesOneOf ["ALL", "DISTINCT"]
      let operand ← inner.operand
      return .text (" " ++ operator ++ kind.elim "" (" " ++ ·) ++ " ") :: operand ::
        (← operations inner fuel)

/-- Reads the body of a query: operands with set operators between them. -/
def body (inner : Nested) : Reader Phrase := do
  let first ← inner.operand
  return .sequence (first :: (← inner.operations ((← get).length + 1)))

/-- Reads a limit, if it limits. -/
def limit (inner : Nested) : Reader (Option Phrase) := do
  if ← Reader.takesKeyword "ALL" then return none else return some (← inner.anyExpression)

/-- What bounds the rows of a query. -/
structure Bounds where
  limit : Option Phrase := none
  offset : Option Phrase := none

/-- Reads one turn of bounds. A comma after the limit says that it was the offset. -/
def boundsTurn (inner : Nested) (bounds : Bounds) : Reader Bounds := do
  let mut bounds := bounds
  if bounds.limit.isNone then
    if ← Reader.takesKeyword "LIMIT" then bounds := { bounds with limit := ← inner.limit }
  if bounds.offset.isNone then
    if ← Reader.takesKeyword "OFFSET" then
      let offset ← inner.anyExpression
      let rows ← Reader.takesOneOf ["ROW", "ROWS"]
      let unit := Phrase.text (rows.elim "" (" " ++ ·))
      bounds := { bounds with offset := some (.sequence [offset, unit]) }
  if bounds.limit.isSome && bounds.offset.isNone then
    if ← Reader.takesSign "," then
      let count ← inner.anyExpression
      bounds := { limit := some count, offset := bounds.limit }
  return bounds

/-- Reads the bounds of a query, in either order. -/
def bounds (inner : Nested) : Reader (List Phrase) := do
  let bounds ← inner.boundsTurn (← inner.boundsTurn {})
  return bounds.limit.elim [] ([.text " LIMIT ", ·]) ++
    bounds.offset.elim [] ([.text " OFFSET ", ·])

/-- Reads a query with the name that it is given. -/
def namedQuery (inner : Nested) : Reader Phrase := do
  let label ← Reader.identifier
  let columns ← Reader.columnList?
  Reader.expectKeyword "AS"
  let query ← Reader.inParentheses inner.query
  return .sequence ([.name [label]] ++ Phrase.columns columns ++
    [.text " AS ", .parenthesized query])

/-- Reads the named queries before a query, if there are any. -/
def namedQueries (inner : Nested) : Reader (List Phrase) := do
  if ← Reader.takesKeyword "WITH" then
    let recursive := if ← Reader.takesKeyword "RECURSIVE" then "WITH RECURSIVE " else "WITH "
    return [.text recursive, .list (← Reader.commaSeparated inner.namedQuery), .text " "]
  else return []

/-- Reads a query, one level above what it holds. -/
def queryAbove (inner : Nested) : Reader Phrase := do
  let named ← inner.namedQueries
  let body ← inner.body
  let order ← inner.ordering
  let bounds ← inner.bounds
  return .sequence (named ++ [body] ++ spaced order ++ bounds)

end DialectBridge.Statement.Nested
