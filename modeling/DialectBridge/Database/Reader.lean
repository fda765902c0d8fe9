import DialectBridge.Database.Problem
import DialectBridge.Database.Syntax
import DialectBridge.Database.Token
import DialectBridge.Decimal.Reading

/-!
# Readers of the engine's language

A reader takes tokens from the front of a list and never goes back, so that the first
token that cannot go on the statement is the one that its error quotes. It numbers
parameters on the way.
-/

namespace DialectBridge.Database

/-- The tokens that are left, the highest number of a parameter so far, and the
numbers of the parameters that have names. -/
structure Reading where
  tokens : List Token
  highest : Nat := 0
  named : List (String × Nat) := []

/-- What a reader can look at besides the tokens: the source, and whether a table may be
made. The engine asks for the second as soon as it has read the name, before it can
find fault with the rest of a definition. -/
structure ReadContext where
  source : List Char
  admits : Creation → String → Except Problem Unit

/-- Reads from the front of the tokens of a source. -/
abbrev Reader := ReaderT ReadContext (StateT Reading (Except Problem))

namespace Reader

variable {α : Type}

/-- The tokens that are left. -/
def tokens : Reader (List Token) := return (← get).tokens

/-- Refuses the next token. -/
def refuse : Reader α := do
  match ← tokens with
  | [] => throw .incomplete
  | token :: _ =>
    let text := String.ofList token.text
    throw (if token.kind == .unrecognized then .unrecognized text else .unexpected text)

/-- The next token, which is not taken. -/
def peek : Reader (Option Token) := return (← tokens).head?

/-- Takes the next token. -/
def advance : Reader Unit := modify fun reading => { reading with tokens := reading.tokens.drop 1 }

/-- Whether the next token satisfies a condition. -/
def nextIs (condition : Token → Bool) : Reader Bool := return (← peek).any condition

/-- Takes the next token if it satisfies a condition. -/
def takes (condition : Token → Bool) : Reader Bool := do
  if ← nextIs condition then advance; return true
  else return false

/-- Takes a keyword if it is next. -/
def takesKeyword (keyword : String) : Reader Bool := takes (·.isKeyword keyword)

/-- Takes a sign if it is next. -/
def takesSign (sign : String) : Reader Bool := takes (·.isSign sign)

/-- Takes a keyword, which must be next. -/
def expectKeyword (keyword : String) : Reader Unit := do
  unless ← takesKeyword keyword do refuse

/-- Takes keywords, which must be next. -/
def expectKeywords (keywords : List String) : Reader Unit := keywords.forM expectKeyword

/-- Takes a sign, which must be next. -/
def expectSign (sign : String) : Reader Unit := do
  unless ← takesSign sign do refuse

/-- Takes a token that satisfies a condition, which must be next. -/
def expect (condition : Token → Bool) : Reader Token := do
  match ← peek with
  | some token => if condition token then advance; return token else refuse
  | none => refuse

/-- Takes a name. -/
def name : Reader String := return (← expect (·.isName)).content

/-- The place of the next token in the source. -/
def place : Reader Nat := do
  match ← peek with
  | some token => return token.offset
  | none => return (← read).source.length

/-- The source between two places, without the blanks around it. -/
def sourceBetween (start stop : Nat) : Reader String := do
  let text := ((← read).source.drop start).take (stop - start)
  let inner := (text.dropWhile Token.isSpace).reverse.dropWhile Token.isSpace
  return String.ofList inner.reverse

/-- Reads more items after commas. Every item takes a token, so the number of tokens
bounds the recursion. -/
def moreItems (item : Reader α) : (fuel : Nat) → Reader (List α)
  | 0 => return []
  | fuel + 1 => do
    if ← takesSign "," then return (← item) :: (← moreItems item fuel)
    else return []

/-- Reads one item or more with commas between them. -/
def commaSeparated (item : Reader α) : Reader (List α) := do
  let first ← item
  return first :: (← moreItems item (← tokens).length)

/-- Reads items between parentheses. -/
def parenthesised (item : Reader α) : Reader (List α) := do
  expectSign "("
  let items ← commaSeparated item
  expectSign ")"
  return items

/-- The number of a parameter: the one that is written, that of its name, or the one
after the highest so far. -/
def parameter (text : List Char) : Reader Nat := do
  let reading ← get
  match text with
  | ['?'] => number (reading.highest + 1)
  | '?' :: digits => number ((Decimal.readNatural digits).getD 0)
  | text =>
    let key := String.ofList text
    match reading.named.lookup key with
    | some index => return index
    | none =>
      let index := reading.highest + 1
      modify fun reading => { reading with named := (key, index) :: reading.named }
      number index
where
  /-- Notes a number that is in use. -/
  number (index : Nat) : Reader Nat := do
    modify fun reading => { reading with highest := max reading.highest index }
    return index

end Reader

end DialectBridge.Database
