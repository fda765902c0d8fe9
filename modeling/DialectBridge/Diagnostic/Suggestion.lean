/-!
# Suggestions

The edit distance of two texts counts single-character insertions, deletions and
substitutions. It is computed row by row: the row of a prefix of the first text
holds its distances to every prefix of the second. A suggestion is the first option
at the least distance, if that distance is small.
-/

namespace DialectBridge.Diagnostic

/-- The rest of a row: `diagonal` is the entry above the one just left of it, `left`
the entry just computed, and the list `above` holds the entries of the row above. -/
def rowTail (c : Char) : (other : List Char) → (diagonal left : Nat) → (above : List Nat) → List Nat
  | d :: other, diagonal, left, up :: above =>
    let entry := min (min (up + 1) (left + 1)) (diagonal + if c = d then 0 else 1)
    entry :: rowTail c other up entry above
  | _, _, _, _ => []

/-- The row of a prefix that is one character longer. -/
def nextRow (other : List Char) (row : List Nat) (c : Char) : List Nat :=
  match row with
  | [] => []
  | first :: above => (first + 1) :: rowTail c other first (first + 1) above

/-- The row of the empty prefix. -/
def firstRow (other : List Char) : List Nat := List.range (other.length + 1)

/-- The edit distance of two texts. -/
def editDistance (text other : List Char) : Nat :=
  ((text.foldl (nextRow other) (firstRow other)).getLast?).getD 0

/-- The greatest distance of a suggestion. -/
def maxDistance : Nat := 3

/-- Keeps the better of a suggestion found so far and another option; an earlier
option wins ties. -/
def better (target : String) (best : Option (String × Nat)) (option : String) :
    Option (String × Nat) :=
  let distance := editDistance target.toList option.toList
  match best with
  | none => if distance ≤ maxDistance then some (option, distance) else none
  | some (found, least) => if distance < least then some (option, distance) else some (found, least)

/-- The first option at the least distance within the limit. -/
def closest (target : String) (options : List String) : Option String :=
  (options.foldl (better target) none).map Prod.fst

end DialectBridge.Diagnostic
