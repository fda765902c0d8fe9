import DialectBridge.Statement.Reader
import DialectBridge.Decimal.Integer

/-!
# Data types

A type is a known word with its sizes, which is written in capitals, or any other
name with its modifiers.
-/

namespace DialectBridge.Statement

/-- A type as it is written. -/
structure DataType where
  text : String
  isKnown : Bool := true

namespace DataType

/-- What can stand after the word of a type. -/
inductive Shape where
  | bare
  | sized
  | signable
  | lengthy
  | varying
  | exact
  | zoned
  deriving DecidableEq, Repr

/-- The known words. -/
def shapes : List (String × Shape) :=
  [("BOOLEAN", .bare), ("BOOL", .bare), ("REAL", .bare), ("UUID", .bare), ("DATE", .bare),
   ("TEXT", .bare), ("TINYTEXT", .bare), ("MEDIUMTEXT", .bare), ("LONGTEXT", .bare),
   ("TINYBLOB", .bare), ("MEDIUMBLOB", .bare), ("LONGBLOB", .bare), ("BYTEA", .bare),
   ("JSON", .bare), ("JSONB", .bare),
   ("FLOAT", .sized), ("BLOB", .sized), ("CLOB", .sized), ("BINARY", .sized),
   ("VARBINARY", .sized), ("DATETIME", .sized), ("STRING", .sized),
   ("TINYINT", .signable), ("SMALLINT", .signable), ("MEDIUMINT", .signable),
   ("INT", .signable), ("INTEGER", .signable), ("BIGINT", .signable), ("INT2", .signable),
   ("INT4", .signable), ("INT8", .signable),
   ("VARCHAR", .lengthy), ("NVARCHAR", .lengthy), ("CHAR", .varying), ("CHARACTER", .varying),
   ("NUMERIC", .exact), ("DECIMAL", .exact), ("DEC", .exact), ("DOUBLE", .exact),
   ("TIME", .zoned), ("TIMESTAMP", .zoned)]

/-- Reads a size. -/
def size : Reader String := do
  match ← Reader.next with
  | .number digits =>
    match Decimal.readNatural digits.toList with
    | some number => if number < 0x10000000000000000 then return toString number else Reader.refuse
    | none => Reader.refuse
  | _ => Reader.refuse

/-- Whether an opening parenthesis is next. -/
def opens : Reader Bool := return (← Reader.peek) = some (.sign "(")

/-- Reads a size in parentheses, if there is one. -/
def sizeSuffix : Reader String := do
  if ← opens then return "(" ++ (← Reader.inParentheses size) ++ ")" else return ""

/-- Reads a length in parentheses with its unit, if there is one. -/
def lengthSuffix : Reader String := do
  if ← opens then
    let length ← Reader.inParentheses do
      if ← Reader.takesKeyword "MAX" then return "MAX"
      let length ← size
      match ← Reader.takesOneOf ["CHARACTERS", "OCTETS"] with
      | some unit => return length ++ " " ++ unit
      | none => return length
    return "(" ++ length ++ ")"
  else return ""

/-- Reads a precision and a scale in parentheses, if there are any. -/
def exactSuffix : Reader String := do
  if ← opens then
    let digits ← Reader.inParentheses do
      let precision ← size
      if ← Reader.takesSign "," then return precision ++ "," ++ (← size) else return precision
    return "(" ++ digits ++ ")"
  else return ""

/-- Reads whether a time has a zone, if that is said. -/
def zoneSuffix : Reader String := do
  if ← Reader.takesKeyword "WITH" then
    Reader.expectKeyword "TIME"
    Reader.expectKeyword "ZONE"
    return " WITH TIME ZONE"
  else if ← Reader.takesKeyword "WITHOUT" then
    Reader.expectKeyword "TIME"
    Reader.expectKeyword "ZONE"
    return " WITHOUT TIME ZONE"
  else return ""

/-- Reads what stands after the word of a type. -/
def suffix (word : String) : Shape → Reader String
  | .bare => return ""
  | .sized => sizeSuffix
  | .signable => do
    let size ← sizeSuffix
    if ← Reader.takesKeyword "UNSIGNED" then return size ++ " UNSIGNED" else return size
  | .lengthy => lengthSuffix
  | .varying => do
    if ← Reader.takesKeyword "VARYING" then return " VARYING" ++ (← lengthSuffix)
    else if ← Reader.takesKeywords ["LARGE", "OBJECT"] then
      return " LARGE OBJECT" ++ (← sizeSuffix)
    else lengthSuffix
  | .exact => do
    let isPrecise ← if word = "DOUBLE" then Reader.takesKeyword "PRECISION" else pure false
    if isPrecise then return " PRECISION" else exactSuffix
  | .zoned => return (← sizeSuffix) ++ (← zoneSuffix)

/-- Reads a modifier of a type that is not known. -/
def modifier : Reader String := do
  match ← Reader.next with
  | .word identifier _ => return identifier.text
  | .number digits => return digits
  | .text value => return value
  | _ => Reader.refuse

/-- Reads the modifiers of a type that is not known, if there are any. -/
def modifiers : Reader String := do
  if ← opens then
    return "(" ++ ", ".intercalate (← Reader.inParentheses (Reader.commaSeparated modifier)) ++ ")"
  else return ""

/-- Reads a type. -/
def read : Reader DataType := do
  let keyword ← Reader.peekKeyword
  match shapes.lookup keyword with
  | some shape =>
    let _ ← Reader.next
    return ⟨keyword ++ (← suffix keyword shape), true⟩
  | none =>
    match ← Reader.peek with
    | some (.word _ _) => return ⟨renderName (← Reader.qualifiedName) ++ (← modifiers), false⟩
    | _ => Reader.refuse

end DataType

end DialectBridge.Statement
