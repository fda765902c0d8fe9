import DialectBridge.Statement.Phrase

/-!
# Readers of tokens

A reader takes tokens from the front of a list. It refuses where the tokens do not go
on as they should, and where phrases nest too deep: the first refusal lets another
reading be tried, the second ends all reading.
-/

namespace DialectBridge.Statement

/-- Why tokens are refused. -/
inductive Refusal where
  | unexpected
  | tooDeep
  deriving DecidableEq, Repr

/-- Takes tokens from the front of a list. -/
abbrev Reader := StateT (List Token) (Except Refusal)

namespace Reader

variable {α : Type}

/-- Refuses the tokens. -/
def refuse : Reader α := throw .unexpected

/-- Reads with a reader, or takes nothing where it refuses the tokens. -/
def attempt (reader : Reader α) : Reader (Option α) := fun tokens =>
  match reader tokens with
  | .ok (value, rest) => .ok (some value, rest)
  | .error .unexpected => .ok (none, tokens)
  | .error .tooDeep => .error .tooDeep

/-- The next token, which is not taken. -/
def peek : Reader (Option Token) := return (← get).head?

/-- The keyword of the next token, or nothing if it is none. -/
def peekKeyword : Reader String := do
  match ← peek with
  | some (.word _ keyword) => return keyword
  | _ => return ""

/-- Takes the next token. -/
def next : Reader Token := do
  match ← get with
  | token :: rest => set rest; return token
  | [] => refuse

/-- Takes a sign if it is next. -/
def takesSign (sign : String) : Reader Bool := do
  match ← get with
  | token :: rest => if token = .sign sign then set rest; return true else return false
  | [] => return false

/-- Takes a sign, which must be next. -/
def expectSign (sign : String) : Reader Unit := do
  unless ← takesSign sign do refuse

/-- What is left when the keywords are next, in order. -/
def dropKeywords : List String → List Token → Option (List Token)
  | [], tokens => some tokens
  | keyword :: keywords, .word _ found :: rest =>
    if found = keyword then dropKeywords keywords rest else none
  | _ :: _, _ => none

/-- Takes keywords if all of them are next. -/
def takesKeywords (keywords : List String) : Reader Bool := do
  match dropKeywords keywords (← get) with
  | some rest => set rest; return true
  | none => return false

/-- Takes a keyword if it is next. -/
def takesKeyword (keyword : String) : Reader Bool := takesKeywords [keyword]

/-- Takes a keyword, which must be next. -/
def expectKeyword (keyword : String) : Reader Unit := do
  unless ← takesKeyword keyword do refuse

/-- Takes the first of some keywords that is next. -/
def takesOneOf (keywords : List String) : Reader (Option String) := do
  let keyword ← peekKeyword
  if keywords.contains keyword then
    let _ ← next
    return some keyword
  else return none

/-- Takes what the first reader looks for, or what the second does where that is not next. -/
def takesEither (first second : Reader Bool) : Reader Bool := do
  if ← first then return true else second

/-- Reads items while `goesOn` finds another; every item takes a token, so the number
of tokens is fuel enough. -/
def itemsWhile (goesOn : Reader Bool) (item : Reader α) : (fuel : Nat) → Reader (List α)
  | 0 => refuse
  | fuel + 1 => do
    if ← goesOn then
      let first ← item
      return first :: (← itemsWhile goesOn item fuel)
    else return []

/-- Reads items, each after a condition has taken what announces it. -/
def many (goesOn : Reader Bool) (item : Reader α) : Reader (List α) := do
  itemsWhile goesOn item ((← get).length + 1)

/-- Reads one item, and another after every comma. -/
def commaSeparated (item : Reader α) : Reader (List α) := do
  let first ← item
  return first :: (← many (takesSign ",") item)

/-- Reads between parentheses. -/
def inParentheses (reader : Reader α) : Reader α := do
  expectSign "("
  let value ← reader
  expectSign ")"
  return value

/-- Reads a name: any word, whether it is a keyword or not, or a text. -/
def identifier : Reader Identifier := do
  match ← next with
  | .word identifier _ => return identifier
  | .text value => return ⟨value, some .single⟩
  | _ => refuse

/-- Reads a name with its qualifiers. -/
def qualifiedName : Reader (List Identifier) := do
  let first ← identifier
  return first :: (← many (takesSign ".") identifier)

/-- Reads a list of names in parentheses. -/
def columnList : Reader (List Identifier) := inParentheses (commaSeparated identifier)

/-- Reads a list of names in parentheses, if there is one. -/
def columnList? : Reader (List Identifier) := do
  if (← peek) = some (.sign "(") then columnList else return []

/-- Reads an alias: a name that `AS` announces, or without it a text, or a word that
is not a keyword which can follow instead. -/
def aliasName (reserved : List String) : Reader (Option Identifier) := do
  let announced ← takesKeyword "AS"
  match ← peek with
  | some (.word identifier keyword) =>
    if announced || !reserved.contains keyword then
      let _ ← next
      return some identifier
    else return none
  | some (.text value) =>
    let _ ← next
    return some ⟨value, some .single⟩
  | _ => if announced then refuse else return none

end Reader

end DialectBridge.Statement
