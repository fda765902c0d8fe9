import DialectBridge.Statement.Query
import DialectBridge.Statement.DataType

/-!
# Expressions

Operators have levels: an operator takes what stands after it up to the first operator
that does not bind tighter. Expressions and queries nest in each other to a fixed
depth.
-/

namespace DialectBridge.Statement

namespace Nested

/-- The level of each operator that is a sign, and how the operator is written. -/
def operators : List (String × Nat × String) :=
  [(":=", 20, ":="), ("=", 20, "="), ("==", 20, "="), ("<>", 20, "<>"), ("!=", 20, "<>"),
   ("<", 20, "<"), ("<=", 20, "<="), (">", 20, ">"), (">=", 20, ">="), ("<=>", 20, "<=>"),
   ("~", 20, "~"), ("~*", 20, "~*"), ("!~", 20, "!~"), ("!~*", 20, "!~*"), ("~~", 20, "~~"),
   ("~~*", 20, "~~*"), ("!~~", 20, "!~~"), ("!~~*", 20, "!~~*"), ("|", 21, "|"),
   ("^", 22, "^"), ("&", 23, "&"), ("+", 30, "+"), ("-", 30, "-"), ("*", 40, "*"),
   ("/", 40, "/"), ("%", 40, "%"), ("||", 40, "||"), ("->", 16, "->"), ("->>", 16, "->>"),
   ("#>", 16, "#>"), ("#>>", 16, "#>>"), ("#-", 16, "#-"), ("@>", 16, "@>"), ("<@", 16, "<@"),
   ("@?", 16, "@?"), ("@@", 16, "@@")]

/-- The level of each operator that is a word. -/
def wordOperators : List (String × Nat) :=
  [("OR", 5), ("AND", 10), ("IS", 17), ("LIKE", 19), ("ILIKE", 19), ("RLIKE", 19),
   ("REGEXP", 19), ("SIMILAR", 19), ("IN", 20), ("BETWEEN", 20), ("OVERLAPS", 20),
   ("OPERATOR", 20), ("XOR", 24), ("DIV", 40)]

/-- The words that `NOT` can stand before, as one operator of their level. -/
def negatable : List String :=
  ["IN", "BETWEEN", "LIKE", "ILIKE", "RLIKE", "REGEXP", "SIMILAR"]

/-- The level of the operator that comes next; zero if none does. Some signs have a
level though no expression goes on after them. -/
def nextLevel : List Token → Nat
  | .word _ "NOT" :: .word _ keyword :: _ =>
    if negatable.contains keyword then (wordOperators.lookup keyword).getD 0 else 0
  | .word _ "AT" :: .word _ "TIME" :: .word _ "ZONE" :: _ => 41
  | .word _ keyword :: _ => (wordOperators.lookup keyword).getD 0
  | .sign mark :: _ =>
    if ["::", "!", "^@", "#", "<<", ">>", "&&"].contains mark then 50
    else (operators.lookup mark).elim 0 Prod.fst
  | _ => 0

/-- Reads a literal. -/
def literal : Reader Phrase := do
  match ← Reader.next with
  | .number digits => return .text digits
  | .text value => return .text (quoted '\'' value)
  | .nationalText value => return .text ("N'" ++ value ++ "'")
  | .hexadecimal digits => return .text ("X'" ++ digits ++ "'")
  | .placeholder label => return .text label
  | .word identifier keyword =>
    match keyword with
    | "NULL" => return .text "NULL"
    | "TRUE" => return .text "true"
    | "FALSE" => return .text "false"
    | _ => if identifier.quote = some .double then return .name [identifier] else Reader.refuse
  | .sign mark =>
    if mark = ":" || mark = "@" then
      match ← Reader.next with
      | .word identifier _ => return .text (mark ++ identifier.text)
      | .number digits => return .text (mark ++ digits)
      | _ => Reader.refuse
    else Reader.refuse

/-- The units of an interval. -/
def intervalUnits : List String :=
  ["YEAR", "YEARS", "QUARTER", "MONTH", "MONTHS", "WEEK", "WEEKS", "DAY", "DAYS", "HOUR",
   "HOURS", "MINUTE", "MINUTES", "SECOND", "SECONDS", "MILLISECOND", "MICROSECOND"]

/-- Reads a literal after the type that it is of. Only known types announce one. -/
def typedLiteral : Reader Phrase := do
  let type ← DataType.read
  unless type.isKnown do Reader.refuse
  return .sequence [.text (type.text ++ " "), ← literal]

/-- Reads the branches of a case, after the first of its branches is announced. -/
def branches (inner : Nested) : (fuel : Nat) → Reader (List Phrase)
  | 0 => Reader.refuse
  | fuel + 1 => do
    let condition ← inner.anyExpression
    Reader.expectKeyword "THEN"
    let result ← inner.anyExpression
    let more ← if ← Reader.takesKeyword "WHEN" then branches inner fuel else pure []
    return .text " WHEN " :: condition :: .text " THEN " :: result :: more

/-- Reads a case after its first word. -/
def caseExpression (inner : Nested) : Reader Phrase := do
  let subject ← do
    if ← Reader.takesKeyword "WHEN" then pure []
    else
      let subject ← inner.anyExpression
      Reader.expectKeyword "WHEN"
      pure [Phrase.text " ", subject]
  let branches ← inner.branches ((← get).length + 1)
  let otherwise ← inner.clause "ELSE"
  Reader.expectKeyword "END"
  return .sequence (.text "CASE" :: subject ++ branches ++ spaced otherwise ++ [.text " END"])

/-- Reads a cast after its first word. -/
def castExpression (inner : Nested) : Reader Phrase := Reader.inParentheses do
  let value ← inner.anyExpression
  Reader.expectKeyword "AS"
  let type ← DataType.read
  return .sequence [.text "CAST(", value, .text (" AS " ++ type.text ++ ")")]

/-- Reads a query after the word that asks whether it has rows. -/
def existsExpression (inner : Nested) (words : String) : Reader Phrase := do
  let query ← Reader.inParentheses inner.query
  return .sequence [.text (words ++ " "), .parenthesized query]

/-- Reads a negation after its first word. -/
def negation (inner : Nested) : Reader Phrase := do
  if ← Reader.takesKeyword "EXISTS" then inner.existsExpression "NOT EXISTS"
  else return .sequence [.text "NOT ", ← inner.expression 15]

/-- Reads a rounding after its first word. -/
def rounding (inner : Nested) (keyword : String) : Reader Phrase := Reader.inParentheses do
  let value ← inner.anyExpression
  let scale ← do
    if ← Reader.takesSign "," then
      match ← Reader.next with
      | .number digits => pure (", " ++ digits)
      | _ => Reader.refuse
    else pure ""
  return .sequence [.text (keyword ++ "("), value, .text (scale ++ ")")]

/-- Reads a position after its first word: of one expression in another, or a call like
any other. -/
def position (inner : Nested) (identifier : Identifier) : Reader Phrase := do
  let found ← Reader.attempt <| Reader.inParentheses do
    let part ← inner.expression 20
    Reader.expectKeyword "IN"
    let whole ← inner.anyExpression
    return .sequence [.text "POSITION(", part, .text " IN ", whole, .text ")"]
  match found with
  | some phrase => return phrase
  | none => inner.call [identifier]

/-- Reads a part of a text after its first word: the text, where the part starts and
how long it is, with words or commas between them. -/
def substring (inner : Nested) : Reader Phrase := Reader.inParentheses do
  let subject ← inner.anyExpression
  let start ← do
    if ← Reader.takesEither (Reader.takesSign ",") (Reader.takesKeyword "FROM") then
      pure [← inner.anyExpression]
    else pure []
  let length ← do
    if ← Reader.takesEither (Reader.takesKeyword "FOR") (Reader.takesSign ",") then
      pure [← inner.anyExpression]
    else pure []
  return .substring subject start length

/-- Reads a trimming after its first word. -/
def trimming (inner : Nested) : Reader Phrase := Reader.inParentheses do
  let side ← Reader.takesOneOf ["BOTH", "LEADING", "TRAILING"]
  let first ← inner.anyExpression
  let rest ← do
    if ← Reader.takesKeyword "FROM" then pure [Phrase.text " FROM ", ← inner.anyExpression]
    else pure []
  return .sequence (.text ("TRIM(" ++ side.elim "" (· ++ " ")) :: first :: rest ++ [.text ")"])

/-- Reads a moment that a bare word or a call of it stands for. -/
def currentMoment (inner : Nested) (identifier : Identifier) : Reader Phrase := do
  if (← Reader.peek) = some (.sign "(") then
    let (quantifier, arguments, ordering) ← inner.arguments
    return .call [identifier] quantifier arguments ordering []
  else return .name [identifier]

/-- Whether a query is next. -/
def startsQuery : Reader Bool := return ["SELECT", "WITH"].contains (← Reader.peekKeyword)

/-- Reads the inside of parentheses with them: a query, or expressions. -/
def parentheses (inner : Nested) : Reader Phrase := Reader.inParentheses do
  if ← startsQuery then return .parenthesized (← inner.query)
  else return .parenthesized (.list (← Reader.commaSeparated inner.anyExpression))

/-- Reads a name, a call, or a text after the name of its characters. -/
def named (inner : Nested) (identifier : Identifier) : Reader Phrase := do
  let announced := "_".isPrefixOf identifier.text
  match ← Reader.peek with
  | some (.sign "(") => inner.call [identifier]
  | some (.text _) =>
    if announced then return .sequence [.name [identifier], .text " ", ← literal]
    else return .name [identifier]
  | some (.hexadecimal _) =>
    if announced then return .sequence [.name [identifier], .text " ", ← literal]
    else return .name [identifier]
  | _ => return .name [identifier]

/-- The words that stand for the present. -/
def presentWords : List String :=
  ["CURRENT_TIMESTAMP", "CURRENT_TIME", "CURRENT_DATE", "LOCALTIME", "LOCALTIMESTAMP"]

mutual

/-- Reads what a keyword starts, after the keyword; none if it starts nothing of its
own. -/
def special (inner : Nested) (identifier : Identifier) (keyword : String) :
    (fuel : Nat) → Reader (Option Phrase)
  | 0 => Reader.refuse
  | fuel + 1 => do
    match keyword with
    | "TRUE" => return some (.text "true")
    | "FALSE" => return some (.text "false")
    | "NULL" => return some (.text "NULL")
    | "CASE" => return some (← inner.caseExpression)
    | "CAST" => return some (← inner.castExpression)
    | "EXISTS" => return some (← inner.existsExpression "EXISTS")
    | "CEIL" => return some (← inner.rounding keyword)
    | "FLOOR" => return some (← inner.rounding keyword)
    | "POSITION" =>
      if (← Reader.peek) = some (.sign "(") then return some (← inner.position identifier)
      else return none
    | "SUBSTRING" => return some (← inner.substring)
    | "TRIM" => return some (← inner.trimming)
    | "NOT" => return some (← inner.negation)
    | "INTERVAL" =>
      let amount ← prefixed inner fuel
      let unit ← Reader.takesOneOf intervalUnits
      return some (.sequence [.text "INTERVAL ", amount, .text (unit.elim "" (" " ++ ·))])
    | _ =>
      if presentWords.contains keyword then return some (← inner.currentMoment identifier)
      else return none

/-- Reads an expression without the operators after its first part. A word that starts
something of its own is a name where that cannot be read, unless it is reserved. -/
def prefixed (inner : Nested) : (fuel : Nat) → Reader Phrase
  | 0 => Reader.refuse
  | fuel + 1 => do
    match ← Reader.attempt typedLiteral with
    | some phrase => return phrase
    | none =>
      match ← Reader.peek with
      | some (.word identifier keyword) =>
        let _ ← Reader.next
        let tokens ← get
        match special inner identifier keyword fuel tokens with
        | .ok (some phrase, rest) =>
          set rest
          return phrase
        | .ok (none, _) => inner.named identifier
        | .error refusal =>
          if ["EXISTS", "INTERVAL", "STRUCT", "TRIM"].contains keyword then throw refusal
          else match inner.named identifier tokens with
            | .ok (phrase, rest) =>
              set rest
              return phrase
            | .error _ => throw refusal
      | some (.sign "-") =>
        let _ ← Reader.next
        return .sequence [.text "-", ← inner.expression 40]
      | some (.sign "+") =>
        let _ ← Reader.next
        return .sequence [.text "+", ← inner.expression 40]
      | some (.sign "(") => inner.parentheses
      | _ => literal

end

/-- Reads the rule for comparing texts after an expression, if there is one. -/
def collation (collates : Bool) (phrase : Phrase) : Reader Phrase := do
  if collates then
    if ← Reader.takesKeyword "COLLATE" then
      return .sequence [phrase, .text " COLLATE ", .name (← Reader.qualifiedName)]
  return phrase

/-- Reads the members that follow a phrase, each after a point. A star after a point is
left where it is. -/
def members (inner : Nested) : (fuel : Nat) → Phrase → Reader Phrase
  | 0, _ => Reader.refuse
  | fuel + 1, root => do
    match ← get with
    | .sign "." :: .sign "*" :: _ => return root
    | .sign "." :: .text value :: rest =>
      set rest
      members inner fuel (root.access (.name [⟨value, some .single⟩]))
    | .sign "." :: rest =>
      set rest
      members inner fuel (root.access (← inner.expression 100))
    | _ => return root

/-- Reads what follows `IS`. -/
def condition (inner : Nested) : Reader (List Phrase) := do
  let negated := if ← Reader.takesKeyword "NOT" then " IS NOT " else " IS "
  match ← Reader.takesOneOf ["NULL", "TRUE", "FALSE", "UNKNOWN"] with
  | some state => return [.text (negated ++ state)]
  | none =>
    Reader.expectKeyword "DISTINCT"
    Reader.expectKeyword "FROM"
    return [.text (negated ++ "DISTINCT FROM "), ← inner.anyExpression]

/-- Reads what an expression is looked up in: a query or a list, which may be empty. -/
def membership (inner : Nested) : Reader (List Phrase) := Reader.inParentheses do
  match ← Reader.attempt inner.body with
  | some query => return [.parenthesized query]
  | none =>
    if (← Reader.peek) = some (.sign ")") then return [.text "()"]
    else return [.parenthesized (.list (← Reader.commaSeparated inner.anyExpression))]

/-- Reads the character that makes the signs of a pattern literal, if it is given. -/
def escape : Reader (List Phrase) := do
  if ← Reader.takesKeyword "ESCAPE" then
    match ← Reader.next with
    | .text value => return [.text (" ESCAPE '" ++ value ++ "'")]
    | _ => Reader.refuse
  else return []

/-- Reads what follows an expression that is tested, from the word `NOT` or the test's
own word on. -/
def test (inner : Nested) : Reader (List Phrase) := do
  let negated := if ← Reader.takesKeyword "NOT" then " NOT " else " "
  match ← Reader.takesOneOf negatable with
  | some "IN" => return .text (negated ++ "IN ") :: (← inner.membership)
  | some "BETWEEN" =>
    let low ← inner.expression 20
    Reader.expectKeyword "AND"
    let high ← inner.expression 20
    return [.text (negated ++ "BETWEEN "), low, .text " AND ", high]
  | some keyword =>
    if keyword = "SIMILAR" then Reader.expectKeyword "TO"
    let words := if keyword = "SIMILAR" then "SIMILAR TO " else keyword ++ " "
    let pattern ← inner.expression 19
    let escape ← if keyword = "REGEXP" || keyword = "RLIKE" then pure [] else escape
    return .text (negated ++ words) :: pattern :: escape
  | none => Reader.refuse

/-- Reads the operand after an operator. -/
def operandAfter (inner : Nested) (operator : String) (level : Nat) : Reader (List Phrase) := do
  if ["ANY", "ALL", "SOME"].contains (← Reader.peekKeyword) then Reader.refuse
  return [.text (" " ++ operator ++ " "), ← inner.expression level]

/-- Reads an operator of a level with what belongs to it. -/
def operation (inner : Nested) (level : Nat) : Reader (List Phrase) := do
  if ← Reader.takesKeyword "REGEXP" then
    return [.text " REGEXP ", ← inner.anyExpression]
  match ← Reader.peek with
  | some (.sign mark) =>
    let _ ← Reader.next
    if mark = "::" then return [.text ("::" ++ (← DataType.read).text)]
    else match operators.lookup mark with
      | some (_, operator) => inner.operandAfter operator level
      | none => Reader.refuse
  | some (.word _ keyword) =>
    if ["AND", "OR", "XOR", "OVERLAPS"].contains keyword then
      let _ ← Reader.next
      inner.operandAfter keyword level
    else if keyword = "IS" then
      let _ ← Reader.next
      inner.condition
    else if keyword = "AT" then
      let _ ← Reader.takesKeywords ["AT", "TIME", "ZONE"]
      return [.text " AT TIME ZONE ", ← inner.expression level]
    else inner.test
  | _ => Reader.refuse

/-- Reads the operators after an expression that bind tighter than a level. -/
def operatorsAbove (inner : Nested) (level : Nat) : (fuel : Nat) → Phrase → Reader Phrase
  | 0, _ => Reader.refuse
  | fuel + 1, left => do
    let next := nextLevel (← get)
    if next ≤ level then return left
    else operatorsAbove inner level fuel (.sequence (left :: (← inner.operation next)))

/-- Reads an expression whose operators bind tighter than a level, one level above what
it holds. Every turn takes a token, so the number of tokens is fuel enough. -/
def expressionAbove (inner : Nested) (collates : Bool) (level : Nat) : Reader Phrase := do
  let fuel := (← get).length + 1
  let first ← inner.prefixed fuel
  let collated ← collation collates first
  let whole ← inner.members fuel collated
  inner.operatorsAbove level fuel whole

end Nested

/-- The readers of what a phrase may hold, where it may nest to a depth. In the
definition of a column the rule for comparing texts belongs to the column and not to an
expression. -/
def nested (collates : Bool) : (depth : Nat) → Nested
  | 0 => { expression := fun _ => throw .tooDeep, query := throw .tooDeep }
  | depth + 1 =>
    let inner := nested collates depth
    { expression := fun level => inner.expressionAbove collates level
      query := inner.queryAbove }

/-- How deep expressions and queries nest. -/
def maxDepth : Nat := 50

end DialectBridge.Statement
