import DialectBridge.Redaction.Shape
import DialectBridge.Text.Blank
import DialectBridge.Text.Category

/-!
# Redaction of logged statements

Statement text can carry personal data, so what goes to a log has its mail
addresses, password hashes and telephone numbers replaced by markers, in that order,
and is then cut to a fixed length.
-/

namespace DialectBridge.Redaction

/-- Letters of either case, together with the long s and the Kelvin sign, whose case
variants are ASCII letters. -/
def isLatinLetter (c : Char) : Bool := c.isAlpha || c.toNat == 0x17F || c.toNat == 0x212A

/-- Characters of the part of an address before the at sign. -/
def isMailboxChar (c : Char) : Bool :=
  isLatinLetter c || c.isDigit || c == '.' || c == '_' || c == '%' || c == '+' || c == '-'

/-- Characters of the host in an address. -/
def isHostChar (c : Char) : Bool := isLatinLetter c || c.isDigit || c == '.' || c == '-'

/-- A mail address: a mailbox, and a host that ends in a point and two letters or more. -/
def mailAddress : Shape :=
  .sequence [.run 1 isMailboxChar, .exactly "@", .run 1 isHostChar, .exactly ".",
    .run 2 isLatinLetter]

/-- The scheme names that start a password hash: the two portable schemes, the three
revisions of the blowfish scheme and the argon family. -/
def hashScheme : Shape :=
  .either (.exactly "P") <| .either (.exactly "H") <|
    .either (.followed (.exactly "2") (.one fun c => c == 'a' || c == 'b' || c == 'y')) <|
      .followed (.exactly "argon2") (.run 0 Text.isWordChar)

/-- A password hash: a scheme between dollar signs, and all that follows up to a blank
or a quote. -/
def passwordHash : Shape :=
  .sequence [.exactly "$", hashScheme, .exactly "$",
    .run 1 fun c => !Text.isBlank c && c != '\'']

/-- What may separate the groups of a telephone number. -/
def groupMark : Shape := .optional (.one fun c => c == '-' || c == '.' || c == ' ')

/-- A telephone number: three, three and four digits, the first three perhaps in
parentheses and after the country code one. -/
def telephoneNumber : Shape :=
  .sequence
    [.optional (.sequence [.optional (.exactly "+"), .exactly "1", groupMark]),
      .optional (.exactly "("), .times 3 Text.isDecimalDigit, .optional (.exactly ")"), groupMark,
      .times 3 Text.isDecimalDigit, groupMark, .times 4 Text.isDecimalDigit]

/-- Replaces all that is sensitive. -/
def hidden (text : List Char) : List Char :=
  telephoneNumber.replace "[PHONE]" <|
    passwordHash.replace "[HASH]" <| mailAddress.replace "[EMAIL]" text

/-- A logged statement keeps at most this many characters. -/
def maxLogged : Nat := 512

/-- Cuts a text that is too long and marks the cut. -/
def shortened (limit : Nat) (text : List Char) : List Char :=
  if (text.drop limit).isEmpty then text else text.take limit ++ ['…']

/-- A statement as it is written to a log. -/
def logged (text : List Char) : List Char := shortened maxLogged (hidden text)

end DialectBridge.Redaction
