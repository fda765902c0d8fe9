/-!
# Blank characters

The whitespace class of the character standard, and the two operations on it that
readers of user text need: trimming both ends and splitting into words. Both work
on lists of characters; a `String` form stands beside each.
-/

namespace DialectBridge.Text

/-- Whitespace: the five ASCII controls from tab to carriage return, the spaces of
every width, the separators, and the next-line control. -/
def isBlank (c : Char) : Bool :=
  let code := c.toNat
  (0x09 ≤ code && code ≤ 0x0D) || code == 0x20 || code == 0x85 || code == 0xA0 ||
    code == 0x1680 || (0x2000 ≤ code && code ≤ 0x200A) || code == 0x2028 || code == 0x2029 ||
    code == 0x202F || code == 0x205F || code == 0x3000

/-- Drops blanks from the front. -/
def trimStart (text : List Char) : List Char := text.dropWhile isBlank

/-- Drops blanks from the end. -/
def trimEnd (text : List Char) : List Char := (text.reverse.dropWhile isBlank).reverse

/-- Drops blanks from both ends. -/
def trim (text : List Char) : List Char := trimEnd (trimStart text)

/-- Drops blanks from both ends of a string. -/
def trimmed (text : String) : String := String.ofList (trim text.toList)

/-- Cuts at every character in the class: the pieces are in order, and there is
one more piece than there are separators, so pieces can be empty. -/
def splitAt (separator : Char → Bool) : List Char → List (List Char)
  | [] => [[]]
  | c :: rest =>
    if separator c then [] :: splitAt separator rest
    else
      match splitAt separator rest with
      | [] => [[c]]
      | piece :: pieces => (c :: piece) :: pieces

/-- The maximal runs of non-blank characters, in order. -/
def words (text : List Char) : List (List Char) :=
  (splitAt isBlank text).filter (!·.isEmpty)

/-- Whether `pattern` occurs in `text` as a contiguous stretch. -/
def occursIn (pattern : List Char) : List Char → Bool
  | [] => pattern.isEmpty
  | c :: rest => pattern.isPrefixOf (c :: rest) || occursIn pattern rest

/-- The text before and after the first occurrence of a stretch. -/
def cutAtFirst (pattern : List Char) : List Char → Option (List Char × List Char)
  | [] => if pattern.isEmpty then some ([], []) else none
  | c :: rest =>
    if pattern.isPrefixOf (c :: rest) then some ([], (c :: rest).drop pattern.length)
    else (cutAtFirst pattern rest).map fun (before, after) => (c :: before, after)

end DialectBridge.Text
