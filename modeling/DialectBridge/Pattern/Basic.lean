import DialectBridge.Pattern.CharSet

/-!
# Patterns and what they match

A pattern relates positions of a text: it leads from a position to every position at
which a match of it can end. Whether it prefers long or short matches does not change
which positions those are, so preferences are not part of a pattern. The positions
reached from a set of positions are computed on sorted lists, and a repetition stops
as soon as another round reaches nothing new, so counts cost nothing beyond the
length of the text.
-/

namespace DialectBridge

/-- Conditions on the characters around a position. -/
inductive Pattern.Boundary where
  | textStart
  | textEnd
  | lineStart (carriageReturn : Bool)
  | lineEnd (carriageReturn : Bool)
  | wordEdge (unicode : Bool)
  | noWordEdge (unicode : Bool)
  | wordStart (unicode : Bool)
  | wordEnd (unicode : Bool)
  | wordStartHalf (unicode : Bool)
  | wordEndHalf (unicode : Bool)
  deriving DecidableEq, Repr

/-- A pattern. -/
inductive Pattern where
  | empty
  | oneOf (set : Pattern.CharSet)
  | boundary (boundary : Pattern.Boundary)
  | concat (first second : Pattern)
  | alternate (first second : Pattern)
  | repeated (pattern : Pattern) (low : Nat) (high : Option Nat)
  | capture (pattern : Pattern)

namespace Pattern

/-- Whether there is a word character, of ASCII or of any script. -/
def isWordAt (unicode : Bool) : Option Char → Bool
  | none => false
  | some c => if unicode then Text.isWordChar c else c.isAlphanum || c == '_'

namespace Boundary

/-- Whether the condition holds between two characters; none is an end of the text. -/
def holds (boundary : Boundary) (before after : Option Char) : Bool :=
  match boundary with
  | textStart => before.isNone
  | textEnd => after.isNone
  | lineStart false => before.isNone || before == some '\n'
  | lineStart true =>
    before.isNone || before == some '\n' || (before == some '\r' && after != some '\n')
  | lineEnd false => after.isNone || after == some '\n'
  | lineEnd true =>
    after.isNone || after == some '\r' || (after == some '\n' && before != some '\r')
  | wordEdge unicode => isWordAt unicode before != isWordAt unicode after
  | noWordEdge unicode => isWordAt unicode before == isWordAt unicode after
  | wordStart unicode => !isWordAt unicode before && isWordAt unicode after
  | wordEnd unicode => isWordAt unicode before && !isWordAt unicode after
  | wordStartHalf unicode => !isWordAt unicode before
  | wordEndHalf unicode => !isWordAt unicode after

end Boundary

/-- Merges two sorted lists of positions without repeats. -/
def mergePositions : List Nat → List Nat → List Nat
  | [], b => b
  | a, [] => a
  | x :: a, y :: b =>
    if x < y then x :: mergePositions a (y :: b)
    else if y < x then y :: mergePositions (x :: a) b
    else x :: mergePositions a b

/-- Applies a step a number of times, or until it changes nothing. -/
def iterate (step : List Nat → List Nat) : (rounds : Nat) → List Nat → List Nat
  | 0, positions => positions
  | rounds + 1, positions =>
    let next := step positions
    if next == positions then positions else iterate step rounds next

/-- Adds what a step reaches, a number of times or until nothing is added. -/
def grow (step : List Nat → List Nat) (rounds : Nat) (positions : List Nat) : List Nat :=
  iterate (fun reached => mergePositions reached (step reached)) rounds positions

/-- The positions at which a match that starts at one of the given positions can
end. Without an upper count, as many rounds as the text has positions are enough. -/
def reach (text : Array Char) : Pattern → List Nat → List Nat
  | empty, positions => positions
  | oneOf s, positions =>
    positions.filterMap fun i =>
      match text[i]? with
      | some c => if s.holds c then some (i + 1) else none
      | none => none
  | boundary b, positions =>
    positions.filter fun i => b.holds (if i = 0 then none else text[i - 1]?) text[i]?
  | concat first second, positions => reach text second (reach text first positions)
  | alternate first second, positions =>
    mergePositions (reach text first positions) (reach text second positions)
  | repeated pattern low high, positions =>
    let least := iterate (reach text pattern) low positions
    grow (reach text pattern) ((high.map (· - low)).getD (text.size + 1)) least
  | capture pattern, positions => reach text pattern positions

/-- Whether the pattern matches somewhere in a text. -/
def isMatch (pattern : Pattern) (text : List Char) : Bool :=
  let characters := text.toArray
  !(reach characters pattern (List.range (characters.size + 1))).isEmpty

/-- The size in octets that a pattern takes when compiled: fixed-size states, and a
transition for each range of a class. A counted repetition copies what it repeats. -/
def size : Pattern → Nat
  | empty => 32
  | oneOf (.range low high) => if low = high then 32 else 40
  | oneOf (.folded (.range _ _)) => 80
  | oneOf s => 32 + 64 * s.weight
  | boundary _ => 32
  | concat first second => first.size + second.size
  | alternate first second => first.size + second.size + 68
  | repeated pattern low none => (max low 1) * pattern.size + 40
  | repeated pattern low (some high) => low * pattern.size + (high - low) * (pattern.size + 40) + 32
  | capture pattern => pattern.size + 64

/-- The greatest size that a pattern may have. -/
def maxSize : Nat := 10 * 0x100000

end Pattern

end DialectBridge
