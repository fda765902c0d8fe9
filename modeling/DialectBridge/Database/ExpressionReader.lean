import DialectBridge.Database.Reader

/-!
# Reading expressions

Operators bind by levels: a reader at a level takes operators of that level or a
tighter one, and reads what stands on the right at the next tighter level.
-/

namespace DialectBridge.Database.Reader

/-- The level of the operators that bind tightest. -/
def tight : Nat := 10

/-- The level of comparisons for equality, null tests, patterns and membership. -/
def equality : Nat := 4

/-- The operators written as signs, with their levels. -/
def signOperators : List (String × BinaryOp × Nat) :=
  [("=", .equal, equality), ("==", .equal, equality), ("!=", .notEqual, equality),
   ("<>", .notEqual, equality), ("<", .less, 5), ("<=", .lessEqual, 5), (">", .greater, 5),
   (">=", .greaterEqual, 5), ("&", .bitAnd, 6), ("|", .bitOr, 6), ("<<", .shiftLeft, 6),
   (">>", .shiftRight, 6), ("+", .add, 7), ("-", .subtract, 7), ("*", .multiply, 8),
   ("/", .divide, 8), ("%", .remainder, 8), ("||", .concat, 9)]

/-- The operators written as words, with their levels. -/
def wordOperators : List (String × BinaryOp × Nat) := [("OR", .or, 1), ("AND", .and, 2)]

/-- The operator that a token is, with its level. -/
def operator? (token : Token) : Option (BinaryOp × Nat) :=
  match token.kind with
  | .sign => signOperators.lookup (String.ofList token.text)
  | .word => wordOperators.lookup token.key
  | _ => none

/-- The words of patterns. -/
def patternWords : List String := ["LIKE", "GLOB", "REGEXP", "MATCH"]

/-- Whether a token is a pattern word. -/
def isPatternWord (token : Token) : Bool :=
  token.kind == .word && patternWords.contains token.key

/-- The value of a whole number as it is written; one that does not fit is real. -/
def wholeValue (negative : Bool) (text : List Char) : Value :=
  match text with
  | '0' :: 'x' :: digits | '0' :: 'X' :: digits =>
    let value : Int := Int64.ofNat ((Text.ofHexDigits? digits).getD 0) |>.toInt
    .ofInt (if negative then -value else value)
  | digits =>
    let value : Int := Decimal.ofDigits digits
    let value := if negative then -value else value
    if Decimal.fitsInt64 value then .ofInt value
    else .real ((Decimal.readFloat (if negative then '-' :: digits else digits)).getD 0)

/-- The octets that pairs of hexadecimal digits write. -/
def octets : List Char → List UInt8
  | a :: b :: rest => UInt8.ofNat ((Text.ofHexDigits? [a, b]).getD 0) :: octets rest
  | _ => []

/-- Negates an expression if there was a word for it. -/
def negatedIf (negated : Bool) (expression : Expression) : Expression :=
  if negated then .unary .not expression else expression

/-- Reads the branches of a choice. With a base, the conditions are values to compare
it with. -/
def branches (expression : Reader Expression) (base : Option Expression) :
    (fuel : Nat) → Reader (List Expression)
  | 0 => refuse
  | fuel + 1 => do
    let condition ← expression
    expectKeyword "THEN"
    let value ← expression
    let test := match base with
      | some base => .binary .equal base condition
      | none => condition
    if ← takesKeyword "WHEN" then
      return test :: value :: (← branches expression base fuel)
    if ← takesKeyword "ELSE" then
      let otherwise ← expression
      expectKeyword "END"
      return [test, value, otherwise]
    expectKeyword "END"
    return [test, value]

/-- Reads a choice after its first word. -/
def choice (expression : Reader Expression) : Reader Expression := do
  let base ← if ← nextIs (·.isKeyword "WHEN") then pure none else pure (some (← expression))
  expectKeyword "WHEN"
  return .choice (← branches expression base (← tokens).length)

/-- Whether a text contains a word. -/
def mentions (text word : List Char) : Bool :=
  match text with
  | [] => word.isEmpty
  | c :: rest => word.isPrefixOf (c :: rest) || mentions rest word

/-- The affinity of a declared type by the words in it. -/
def affinityOf (type : List Char) : Affinity :=
  let type := type.map Char.toUpper
  let has (words : List String) : Bool := words.any fun word => mentions type word.toList
  if has ["INT"] then .integer
  else if has ["CHAR", "CLOB", "TEXT"] then .text
  else if has ["BLOB"] || type.isEmpty then .blob
  else if has ["REAL", "FLOA", "DOUB"] then .real
  else .numeric

/-- Reads a number with an optional sign, inside a type. -/
def typeNumber : Reader String := do
  let sign ← if ← takesSign "-" then pure "-" else if ← takesSign "+" then pure "+" else pure ""
  let token ← expect fun token => token.kind == .whole || token.kind == .real
  return sign ++ String.ofList token.text

/-- Reads the words of a type. -/
def typeWords : (fuel : Nat) → Reader (List String)
  | 0 => return []
  | fuel + 1 => do
    match ← peek with
    | some token =>
      if token.isIdentifier || token.kind == .string then
        advance
        return token.content :: (← typeWords fuel)
      else return []
    | none => return []

/-- Reads a declared type, which may be missing. -/
def typeName : Reader String := do
  let words ← typeWords (← tokens).length
  if words.isEmpty then return ""
  let text := " ".intercalate words
  if ← takesSign "(" then
    let sizes ← commaSeparated typeNumber
    expectSign ")"
    return text ++ "(" ++ ",".intercalate sizes ++ ")"
  return text

/-- Reads a call after the opening parenthesis. A star stands for no arguments. -/
def callOf (expression : Reader Expression) (name : String) : Reader Expression := do
  if ← takesSign ")" then return .call name false []
  if ← takesSign "*" then
    expectSign ")"
    return .call name false []
  let distinct ← takesKeyword "DISTINCT"
  let arguments ← commaSeparated expression
  expectSign ")"
  return .call name distinct arguments

/-- Reads what starts with a name: a call, a column, or a column of a table. -/
def named (expression : Reader Expression) (token : Token) : Reader Expression := do
  let quoted := token.kind == .quotedName && token.text.head? == some '"'
  if (← nextIs (·.isSign "(")) && token.kind != .string then
    advance
    return ← callOf expression token.content
  if ← takesSign "." then
    let second ← name
    if ← takesSign "." then return .column (some second) (← name) false
    return .column (some token.content) second false
  return .column none token.content quoted

/-- Reads an operand. -/
def operand (expression : Nat → Reader Expression) : Reader Expression := do
  let some token ← peek | refuse
  match token.kind with
  | .whole => advance; return .literal (wholeValue false token.text)
  | .real => advance; return .literal (.real ((Decimal.readFloat token.text).getD 0))
  | .blob => advance; return .literal (.blob (octets ((token.text.drop 2).dropLast)))
  | .parameter => advance; return .parameter (← parameter token.text)
  | .string =>
    advance
    if ← nextIs (·.isSign ".") then named (expression 0) token
    else return .literal (.text token.content)
  | .quotedName => advance; named (expression 0) token
  | .sign =>
    if ← takesSign "(" then
      let inner ← expression 0
      expectSign ")"
      return inner
    if ← takesSign "-" then
      match ← peek with
      | some number =>
        if number.kind == .whole then
          advance
          return .literal (wholeValue true number.text)
        else return .unary .negate (← expression tight)
      | none => refuse
    if ← takesSign "+" then return .unary .keep (← expression tight)
    if ← takesSign "~" then return .unary .complement (← expression tight)
    refuse
  | .word =>
    if ← takesKeyword "NULL" then return .literal .null
    if ← takesKeyword "NOT" then return .unary .not (← expression equality)
    if ← takesKeyword "CASE" then choice (expression 0)
    else if token.isKeyword "CAST" then
      advance
      expectSign "("
      let value ← expression 0
      expectKeyword "AS"
      let type ← typeName
      expectSign ")"
      return .cast value (affinityOf type.toList)
    else if token.isName then
      advance
      named (expression 0) token
    else refuse
  | .unrecognized => refuse

/-- Reads what follows an operand and a word for a pattern, a range or membership.
Nothing is among no values, whatever the operand. A disjunction as the lower bound of a
range takes what follows for its own, so that the upper bound is missing. -/
def test (expression : Nat → Reader Expression) (left : Expression) : Reader Expression := do
  match ← peek with
  | some token =>
    if isPatternWord token then
      advance
      let pattern ← expression (equality + 1)
      if ← takesKeyword "ESCAPE" then
        return .call token.key.toLower false [pattern, left, ← expression (equality + 2)]
      return .call token.key.toLower false [pattern, left]
    else if ← takesKeyword "BETWEEN" then
      let low ← expression (equality - 1)
      if ← takesKeyword "OR" then discard (expression 0)
      expectKeyword "AND"
      let high ← expression (equality + 1)
      return .between left low high
    else if ← takesKeyword "IN" then
      expectSign "("
      if ← takesSign ")" then return .isIn (.literal .null) []
      let items ← commaSeparated (expression 0)
      expectSign ")"
      return .isIn left items
    else refuse
  | none => refuse

/-- Reads what follows an operand and the word for identity. -/
def identity (expression : Nat → Reader Expression) (left : Expression) : Reader Expression := do
  let negated ← takesKeyword "NOT"
  if ← takesKeyword "DISTINCT" then
    expectKeyword "FROM"
    let right ← expression (equality + 1)
    return .binary (if negated then .isSame else .isNotSame) left right
  match ← expression (equality + 1) with
  | .literal .null => return negatedIf negated (.isNull left)
  | right => return .binary (if negated then .isNotSame else .isSame) left right

/-- Whether an expression is written as what cannot be true. -/
def isNever : Expression → Bool
  | .literal (.integer n) => n == 0
  | .isIn _ [] => true
  | _ => false

/-- Two operands with an operator between them. A conjunction with what cannot be true is
nothing but that. -/
def joined (op : BinaryOp) (left right : Expression) : Expression :=
  if op == .and && (isNever left || isNever right) then .literal (.integer 0)
  else .binary op left right

/-- Goes on from an operand with the operators of a level or a tighter one. Every round
takes a token, so the number of tokens bounds the recursion. -/
def climb (expression : Nat → Reader Expression) (level : Nat) :
    (fuel : Nat) → Expression → Reader Expression
  | 0, left => return left
  | fuel + 1, left => do
    let some token ← peek | return left
    match operator? token with
    | some (op, opLevel) =>
      if opLevel < level then return left
      advance
      climb expression level fuel (joined op left (← expression (opLevel + 1)))
    | none =>
      if level > equality || token.kind != .word then return left
      if ← takesKeyword "IS" then
        climb expression level fuel (← identity expression left)
      else if ← takesKeyword "ISNULL" then climb expression level fuel (.isNull left)
      else if ← takesKeyword "NOTNULL" then
        climb expression level fuel (.unary .not (.isNull left))
      else if ← takesKeyword "NOT" then
        if ← takesKeyword "NULL" then
          climb expression level fuel (.unary .not (.isNull left))
        else climb expression level fuel (.unary .not (← test expression left))
      else if isPatternWord token || token.isKeyword "BETWEEN" || token.isKeyword "IN" then
        climb expression level fuel (← test expression left)
      else return left

/-- Reads an expression at a level. The fuel bounds the depth. -/
def expressionAt : (fuel : Nat) → (level : Nat) → Reader Expression
  | 0, _ => refuse
  | fuel + 1, level => do
    let left ← operand (expressionAt fuel)
    climb (expressionAt fuel) level (← tokens).length left

/-- Reads an expression. No expression is deeper than it has tokens. -/
def expression : Reader Expression := do
  expressionAt ((← tokens).length + 1) 0

/-- Reads an expression without operators between its parts. -/
def tightExpression : Reader Expression := do
  expressionAt ((← tokens).length + 1) (tight + 1)

end DialectBridge.Database.Reader
