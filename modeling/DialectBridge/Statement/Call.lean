import DialectBridge.Statement.Reader

/-!
# Calls

A call has its arguments between parentheses, with a quantifier before them and an
ordering after them. A filter, a treatment of missing values and a window may follow.
-/

namespace DialectBridge.Statement

/-- The readers of what a phrase may hold: expressions that bind tighter than a level,
and queries. -/
structure Nested where
  expression : Nat → Reader Phrase
  query : Reader Phrase

namespace Nested

/-- Reads an expression of any level. -/
def anyExpression (inner : Nested) : Reader Phrase := inner.expression 0

/-- What stands after the names of a star: none if there is no star at their end, a
refusal if a point is not followed by a name or a star. -/
def starAfter : List Identifier → List Token →
    Except Refusal (Option (List Identifier × List Token))
  | parts, .sign "." :: .sign "*" :: rest => .ok (some (parts, rest))
  | parts, .sign "." :: .word identifier _ :: rest => starAfter (parts ++ [identifier]) rest
  | parts, .sign "." :: .text value :: rest => starAfter (parts ++ [⟨value, some .single⟩]) rest
  | _, .sign "." :: _ => .error .unexpected
  | _, _ => .ok none

/-- Reads a star, alone or after names, if there is one. -/
def star? : Reader (Option Phrase) := fun tokens =>
  let qualified (first : Identifier) (rest : List Token) :=
    (starAfter [first] rest).map fun found => match found with
      | some (parts, rest) => (some (.sequence [.name parts, .text ".*"]), rest)
      | none => (none, tokens)
  match tokens with
  | .sign "*" :: rest => .ok (some (.text "*"), rest)
  | .word identifier _ :: rest => qualified identifier rest
  | .text value :: rest => qualified ⟨value, some .single⟩ rest
  | _ => .ok (none, tokens)

/-- Reads a star or an expression. -/
def starOrExpression (inner : Nested) : Reader Phrase := do
  match ← star? with
  | some star => return star
  | none => inner.anyExpression

/-- Reads the name of an argument and the sign after it. -/
def argumentLabel : Reader (List Phrase) := do
  let label ← Reader.identifier
  if ← Reader.takesKeyword "VALUE" then return [.name [label], .text " VALUE "]
  else
    Reader.expectSign "=>"
    return [.name [label], .text " => "]

/-- Reads an argument, which can have a name. -/
def argument (inner : Nested) : Reader Phrase := do
  let labelled : Reader Phrase := do
    let label ← argumentLabel
    return .sequence (label ++ [← inner.starOrExpression])
  match ← Reader.attempt labelled with
  | some argument => return argument
  | none => inner.starOrExpression

/-- Reads the direction of an ordering. -/
def direction : Reader String := do
  let sense ← Reader.takesOneOf ["ASC", "DESC"]
  let nulls ← do
    if ← Reader.takesKeywords ["NULLS", "FIRST"] then pure " NULLS FIRST"
    else if ← Reader.takesKeywords ["NULLS", "LAST"] then pure " NULLS LAST"
    else pure ""
  return (sense.elim "" (" " ++ ·)) ++ nulls

/-- Reads an expression to order by. -/
def orderItem (inner : Nested) : Reader Phrase := do
  let key ← inner.anyExpression
  return .sequence [key, .text (← direction)]

/-- Reads an ordering, if there is one. -/
def ordering (inner : Nested) : Reader (List Phrase) := do
  if ← Reader.takesKeywords ["ORDER", "BY"] then
    return [.text "ORDER BY ", .list (← Reader.commaSeparated inner.orderItem)]
  else return []

/-- Reads a keyword with an expression after it, if it is there. -/
def clause (inner : Nested) (keyword : String) : Reader (List Phrase) := do
  if ← Reader.takesKeyword keyword then
    return [.text (keyword ++ " "), ← inner.anyExpression]
  else return []

/-- A clause after a space. -/
def spaced (clause : List Phrase) : List Phrase :=
  if clause.isEmpty then [] else .text " " :: clause

/-- Reads a quantifier, if there is one. -/
def quantifier : Reader (Option Quantifier) := do
  let all ← Reader.takesKeyword "ALL"
  let distinct ← Reader.takesKeyword "DISTINCT"
  match all, distinct with
  | true, true => Reader.refuse
  | true, false => return some .all
  | false, true => return some .distinct
  | false, false => return none

/-- Reads an end of a window's frame. -/
def frameEnd (inner : Nested) : Reader (List Phrase) := do
  if ← Reader.takesKeywords ["CURRENT", "ROW"] then return [.text "CURRENT ROW"]
  let distance ← do
    if ← Reader.takesKeyword "UNBOUNDED" then pure (Phrase.text "UNBOUNDED")
    else inner.anyExpression
  match ← Reader.takesOneOf ["PRECEDING", "FOLLOWING"] with
  | some side => return [distance, .text (" " ++ side)]
  | none => Reader.refuse

/-- Reads a window's frame. -/
def frame (inner : Nested) : Reader (List Phrase) := do
  match ← Reader.takesOneOf ["ROWS", "RANGE", "GROUPS"] with
  | none => Reader.refuse
  | some unit =>
    if ← Reader.takesKeyword "BETWEEN" then
      let first ← inner.frameEnd
      Reader.expectKeyword "AND"
      let last ← inner.frameEnd
      return .text (unit ++ " BETWEEN ") :: first ++ .text " AND " :: last
    else return .text (unit ++ " ") :: (← inner.frameEnd)

/-- The keywords that a window can start with; any other word is the name of a window
that it extends. -/
def windowKeywords : List String := ["PARTITION", "ORDER", "ROWS", "RANGE", "GROUPS"]

/-- Reads the inside of a window up to its closing parenthesis. -/
def window (inner : Nested) : Reader Phrase := do
  let base ← do
    match ← Reader.peek with
    | some (.word identifier keyword) =>
      if windowKeywords.contains keyword then pure []
      else
        let _ ← Reader.next
        pure [Phrase.name [identifier]]
    | _ => pure []
  let partition ← do
    if ← Reader.takesKeywords ["PARTITION", "BY"] then
      pure [Phrase.text "PARTITION BY ", .list (← Reader.commaSeparated inner.anyExpression)]
    else pure []
  let order ← inner.ordering
  let frame ← if (← Reader.peek) = some (.sign ")") then pure [] else inner.frame
  Reader.expectSign ")"
  let parts := [base, partition, order, frame].filter (!·.isEmpty)
  return .parenthesized (.sequence (Phrase.separated " " (parts.map .sequence)))

/-- Reads what can follow the arguments of a call. The word `FILTER` is taken even
where no condition follows it. -/
def modifiers (inner : Nested) : Reader (List Phrase) := do
  let filter ← do
    if ← Reader.takesKeyword "FILTER" then
      if ← Reader.takesSign "(" then
        let condition ← inner.clause "WHERE"
        if condition.isEmpty then pure []
        else
          Reader.expectSign ")"
          pure (Phrase.text " FILTER (" :: condition ++ [.text ")"])
      else pure []
    else pure []
  let nulls ← do
    match ← Reader.takesOneOf ["RESPECT", "IGNORE"] with
    | some treatment =>
      Reader.expectKeyword "NULLS"
      pure [Phrase.text (" " ++ treatment ++ " NULLS")]
    | none => pure []
  let window ← do
    if ← Reader.takesKeyword "OVER" then
      let window ← if ← Reader.takesSign "(" then inner.window
        else pure (.name [← Reader.identifier])
      pure [Phrase.text " OVER ", window]
    else pure []
  return filter ++ nulls ++ window

/-- Reads the arguments of a call between its parentheses. -/
def arguments (inner : Nested) :
    Reader (Option Quantifier × List Phrase × List Phrase) := do
  Reader.expectSign "("
  if ← Reader.takesSign ")" then return (none, [], [])
  let quantifier ← quantifier
  let arguments ← Reader.commaSeparated inner.argument
  let order ← inner.ordering
  let limit ← inner.clause "LIMIT"
  Reader.expectSign ")"
  return (quantifier, arguments, spaced order ++ spaced limit)

/-- Reads a call after the name of its function. -/
def call (inner : Nested) (function : List Identifier) : Reader Phrase := do
  let (quantifier, arguments, ordering) ← inner.arguments
  return .call function quantifier arguments ordering (← inner.modifiers)

end Nested

end DialectBridge.Statement
