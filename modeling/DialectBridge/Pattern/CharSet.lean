import DialectBridge.Text.Folding
import DialectBridge.Text.Script
import DialectBridge.Text.Blank

/-!
# Sets of characters

A class of a pattern is an expression over ranges and properties, and membership is
decided on the expression. Folding a set admits every case variant of its members.
-/

namespace DialectBridge.Pattern

open DialectBridge

/-- Named properties of characters. -/
inductive Property where
  | categories (categories : List Text.Category)
  | script (script : Text.Script)
  | alphabetic
  | lowercase
  | uppercase
  | blank
  | decimalDigit
  | word
  | any
  | assigned
  deriving DecidableEq

namespace Property

/-- Whether a character has the property. -/
def holds (property : Property) (c : Char) : Bool :=
  match property with
  | categories list => list.any (·.holds c)
  | script s => s.holds c
  | alphabetic => Text.isAlphabetic c
  | lowercase =>
    Text.Category.lowercaseLetter.holds c ||
      (Text.casedExtras.contains c.toNat && Text.lowerChar c == c && c.toNat < 0x1F130)
  | uppercase =>
    Text.Category.uppercaseLetter.holds c ||
      (Text.casedExtras.contains c.toNat && (Text.lowerChar c != c || 0x1F130 ≤ c.toNat))
  | blank => Text.isBlank c
  | decimalDigit => Text.isDecimalDigit c
  | word => Text.isWordChar c
  | any => true
  | assigned => !Text.Category.unassigned.holds c

/-- The number of code ranges that list the property, as far as the size of a
pattern depends on it. -/
def weight : Property → Nat
  | categories list => (list.map (·.ranges.ranges.size)).foldr (· + ·) 0
  | script s => s.ranges.ranges.size
  | alphabetic => 730
  | lowercase => 670
  | uppercase => 650
  | blank => 10
  | decimalDigit => Text.Category.decimalNumber.ranges.ranges.size
  | word => 770
  | any => 2
  | assigned => 700

end Property

/-- An expression that denotes a set of characters. -/
inductive CharSet where
  | none
  | range (low high : Nat)
  | property (property : Property)
  | union (a b : CharSet)
  | intersection (a b : CharSet)
  | difference (a b : CharSet)
  | symmetricDifference (a b : CharSet)
  | complement (a : CharSet)
  | folded (a : CharSet)
  | foldedAscii (a : CharSet)

namespace CharSet

/-- The case variants among the ASCII letters. -/
def asciiVariants (c : Char) : List Char := if c.isAlpha then [c.toLower, c.toUpper] else [c]

/-- Membership. -/
def holds : CharSet → Char → Bool
  | none, _ => false
  | range low high, c => low ≤ c.toNat && c.toNat ≤ high
  | property p, c => p.holds c
  | union a b, c => a.holds c || b.holds c
  | intersection a b, c => a.holds c && b.holds c
  | difference a b, c => a.holds c && !b.holds c
  | symmetricDifference a b, c => a.holds c != b.holds c
  | complement a, c => !a.holds c
  | folded a, c => (Text.caseVariants c).any fun variant => a.holds variant
  | foldedAscii a, c => (asciiVariants c).any fun variant => a.holds variant

/-- The set of one character. -/
def single (c : Char) : CharSet := range c.toNat c.toNat

/-- The union of a list of sets. -/
def unionAll : List CharSet → CharSet
  | [] => none
  | [a] => a
  | a :: rest => union a (unionAll rest)

/-- Whether no octet beyond ASCII is a member. -/
def isAscii (set : CharSet) : Bool :=
  (List.range 128).all fun offset => !set.holds (Char.ofNat (128 + offset))

/-- The number of code ranges in the expression. -/
def weight : CharSet → Nat
  | none => 0
  | range _ _ => 1
  | property p => p.weight
  | union a b => a.weight + b.weight
  | intersection a b => max a.weight b.weight
  | difference a b => max a.weight b.weight
  | symmetricDifference a b => a.weight + b.weight
  | complement a => a.weight
  | folded a => a.weight
  | foldedAscii a => a.weight

end CharSet

end DialectBridge.Pattern
