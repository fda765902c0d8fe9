import DialectBridge.Text.Hexadecimal

/-!
# Ranges of code points

Character properties are published as lists of inclusive code ranges. A table is
written in hexadecimal, ranges separated by blanks (`30-39 5F`), and read once
into a sorted array that membership searches by halving.
-/

namespace DialectBridge.Text

/-- Sorted, disjoint, inclusive ranges of code points. -/
structure CodeRanges where
  ranges : Array (Nat × Nat)
  deriving Inhabited

namespace CodeRanges

/-- Reads the written form one character at a time. `low` is set once a dash has
closed the first bound of the current range; a character that is no digit counts as
zero. -/
def read : List Char → (low : Option Nat) → (current : Nat) → List (Nat × Nat)
  | [], low, current => [(low.getD current, current)]
  | ' ' :: rest, low, current => (low.getD current, current) :: read rest none 0
  | '-' :: rest, _, current => read rest (some current) 0
  | c :: rest, low, current => read rest low (16 * current + (hexDigit? c).getD 0)

/-- The table written in rows of ranges. -/
def ofRows (rows : List String) : CodeRanges :=
  ⟨(rows.flatMap fun row => read row.toList none 0).toArray⟩

/-- Searches positions `low ≤ i < high` for a range that holds the code point.
Each step halves the span, so its length bounds the recursion. -/
def search (ranges : Array (Nat × Nat)) (code low high : Nat) : Bool :=
  if low < high then
    let middle := (low + high) / 2
    match ranges[middle]? with
    | none => false
    | some (first, last) =>
      if code < first then search ranges code low middle
      else if last < code then search ranges code (middle + 1) high
      else true
  else false
termination_by high - low

/-- Membership of a code point. -/
def contains (table : CodeRanges) (code : Nat) : Bool :=
  search table.ranges code 0 table.ranges.size

end CodeRanges

end DialectBridge.Text
