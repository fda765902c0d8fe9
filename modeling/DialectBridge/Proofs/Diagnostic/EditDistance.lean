import DialectBridge.Diagnostic.Suggestion

/-!
# The edit distance counts edits

A text is edited by inserting, deleting or substituting one character at a time, wherever it
stands. The edit distance of two texts is the least number of edits that lead from one to the
other.

A recursion on both texts says what that number is: where both have a first character, the
better of a deletion, an insertion and, unless the characters are equal, a substitution. It is
reached by edits, and an edit changes it by at most one, so no fewer edits will do. The rows of
the table are those of the same recursion, read from the ends of the texts.
-/

namespace DialectBridge.Diagnostic

/-! ## Edits -/

/-- One text is another with one character inserted, deleted or substituted. -/
inductive Edit : List Char → List Char → Prop where
  | insertion (front : List Char) (c : Char) (back : List Char) :
    Edit (front ++ back) (front ++ c :: back)
  | deletion (front : List Char) (c : Char) (back : List Char) :
    Edit (front ++ c :: back) (front ++ back)
  | substitution (front : List Char) (c d : Char) (back : List Char) :
    Edit (front ++ c :: back) (front ++ d :: back)

/-- So many edits, one after another, lead from one text to another. -/
inductive Edits : Nat → List Char → List Char → Prop where
  | none (text : List Char) : Edits 0 text text
  | more {count : Nat} {text between other : List Char} (first : Edit text between)
    (others : Edits count between other) : Edits (count + 1) text other

/-- The least number of edits that lead from one text to another. -/
structure IsDistance (count : Nat) (text other : List Char) : Prop where
  reached : Edits count text other
  least : ∀ fewer, Edits fewer text other → count ≤ fewer

variable {c d : Char} {text other between : List Char} {count : Nat}

/-- An edit leaves a character in front alone. -/
theorem Edit.cons (c : Char) (edit : Edit text other) : Edit (c :: text) (c :: other) := by
  cases edit with
  | insertion front d back => exact .insertion (c :: front) d back
  | deletion front d back => exact .deletion (c :: front) d back
  | substitution front d e back => exact .substitution (c :: front) d e back

/-- Edits leave a character in front alone. -/
theorem Edits.cons (c : Char) (edits : Edits count text other) :
    Edits count (c :: text) (c :: other) := by
  induction edits with
  | none text => exact .none (c :: text)
  | more first _ inductionHypothesis => exact .more (first.cons c) inductionHypothesis

/-- Read backwards, an edit is an edit. -/
theorem Edit.reverse (edit : Edit text other) : Edit text.reverse other.reverse := by
  cases edit with
  | insertion front c back => simpa using Edit.insertion back.reverse c front.reverse
  | deletion front c back => simpa using Edit.deletion back.reverse c front.reverse
  | substitution front c d back => simpa using Edit.substitution back.reverse c d front.reverse

/-- Read backwards, edits are edits. -/
theorem Edits.reverse (edits : Edits count text other) :
    Edits count text.reverse other.reverse := by
  induction edits with
  | none text => exact .none text.reverse
  | more first _ inductionHypothesis => exact .more first.reverse inductionHypothesis

/-- Texts are as far apart when they are read backwards. -/
theorem IsDistance.of_reverse (distance : IsDistance count text.reverse other.reverse) :
    IsDistance count text other where
  reached := by simpa using distance.reached.reverse
  least := fun fewer edits => distance.least fewer edits.reverse

/-! ## The recursion -/

/-- The number of edits by the better choice at the first characters. -/
def distance : List Char → List Char → Nat
  | [], other => other.length
  | text, [] => text.length
  | c :: text, d :: other =>
    min (min (distance text (d :: other) + 1) (distance (c :: text) other + 1))
      (distance text other + if c = d then 0 else 1)
termination_by text other => text.length + other.length

/-- From no text to another, every character is inserted. -/
@[simp] theorem distance_nil_left (other : List Char) : distance [] other = other.length := by
  rw [distance]

/-- From a text to none, every character is deleted. -/
@[simp] theorem distance_nil_right (text : List Char) : distance text [] = text.length := by
  cases text with
  | nil => rw [distance]
  | cons c text => rw [distance]; nofun

/-- Where both texts have a first character, the better of three choices decides. -/
theorem distance_cons_cons (c d : Char) (text other : List Char) :
    distance (c :: text) (d :: other) =
      min (min (distance text (d :: other) + 1) (distance (c :: text) other + 1))
        (distance text other + if c = d then 0 else 1) := by
  rw [distance]

/-! ## As many edits are enough -/

/-- A text is deleted one character at a time. -/
theorem edits_deletions (text : List Char) : Edits text.length text [] := by
  induction text with
  | nil => exact .none []
  | cons c text inductionHypothesis => exact .more (.deletion [] c text) inductionHypothesis

/-- A text is inserted one character at a time, the others behind the first. -/
theorem edits_insertions (text : List Char) : Edits text.length [] text := by
  induction text with
  | nil => exact .none []
  | cons c text inductionHypothesis =>
    exact .more (.insertion [] c []) (inductionHypothesis.cons c)

/-- The smallest of three numbers is one of them. -/
theorem least_of_three (first second third : Nat) :
    min (min first second) third = first ∨ min (min first second) third = second ∨
      min (min first second) third = third := by
  omega

/-- From one text to another there are as many edits as the recursion says: the choice that
decides is the first of them, or none if the characters are equal. -/
theorem edits_distance (text other : List Char) : Edits (distance text other) text other := by
  fun_induction distance text other with
  | case1 other => exact edits_insertions other
  | case2 text => exact edits_deletions text
  | case3 c text d other deleted inserted substituted =>
    rcases least_of_three (distance text (d :: other) + 1) (distance (c :: text) other + 1)
      (distance text other + if c = d then 0 else 1) with deletes | inserts | keeps
    · rw [deletes]
      exact .more (.deletion [] c text) deleted
    · rw [inserts]
      exact .more (.insertion [] d (c :: text)) (inserted.cons d)
    · rw [keeps]
      by_cases same : c = d
      · rw [if_pos same, ← same]
        exact substituted.cons c
      · rw [if_neg same]
        exact .more (.substitution [] c d text) (substituted.cons d)

/-! ## Fewer edits are not -/

/-- A character in front of the other text adds at most one. -/
theorem distance_insertion_le (d : Char) (text other : List Char) :
    distance text (d :: other) ≤ distance text other + 1 := by
  cases text with
  | nil => simp
  | cons c text =>
    rw [distance_cons_cons]
    omega

/-- A character in front of the text adds at most one. -/
theorem distance_deletion_le (c : Char) (text other : List Char) :
    distance (c :: text) other ≤ distance text other + 1 := by
  cases other with
  | nil => simp
  | cons d other =>
    rw [distance_cons_cons]
    omega

/-- A character in front of the text saves at most one. -/
theorem distance_le_cons (c : Char) (text other : List Char) :
    distance text other ≤ distance (c :: text) other + 1 := by
  induction other with
  | nil =>
    rw [distance_nil_right, distance_nil_right, List.length_cons]
    omega
  | cons d other inductionHypothesis =>
    have inserted := distance_insertion_le d text other
    rw [distance_cons_cons]
    omega

/-- Another character in front of the text adds at most one. -/
theorem distance_substitution_le (c e : Char) (text other : List Char) :
    distance (c :: text) other ≤ distance (e :: text) other + 1 := by
  induction other with
  | nil => simp
  | cons d other inductionHypothesis =>
    rw [distance_cons_cons, distance_cons_cons]
    split <;> split <;> omega

/-- Texts that are apart by at most one, whatever they are compared with, still are with a
character in front of both. -/
theorem distance_cons_le (c : Char) {text between : List Char}
    (near : ∀ other, distance text other ≤ distance between other + 1) (other : List Char) :
    distance (c :: text) other ≤ distance (c :: between) other + 1 := by
  induction other with
  | nil => simpa using near []
  | cons d other inductionHypothesis =>
    have deleted := near (d :: other)
    have substituted := near other
    rw [distance_cons_cons, distance_cons_cons]
    omega

/-- An edit changes the number by at most one. -/
theorem distance_le_of_edit (edit : Edit text between) (other : List Char) :
    distance text other ≤ distance between other + 1 := by
  have behind (front : List Char) {text between : List Char}
      (near : ∀ other, distance text other ≤ distance between other + 1) :
      ∀ other, distance (front ++ text) other ≤ distance (front ++ between) other + 1 := by
    induction front with
    | nil => exact near
    | cons c front inductionHypothesis => exact distance_cons_le c inductionHypothesis
  cases edit with
  | insertion front c back => exact behind front (distance_le_cons c back) other
  | deletion front c back => exact behind front (distance_deletion_le c back) other
  | substitution front c d back => exact behind front (distance_substitution_le c d back) other

/-- A text is apart from itself by nothing. -/
theorem distance_self (text : List Char) : distance text text = 0 := by
  induction text with
  | nil => simp
  | cons c text inductionHypothesis => simp [distance_cons_cons, inductionHypothesis]

/-- No edits lead from one text to another that are fewer than the recursion says. -/
theorem distance_le_of_edits (edits : Edits count text other) : distance text other ≤ count := by
  induction edits with
  | none text => exact Nat.le_of_eq (distance_self text)
  | more first _ inductionHypothesis =>
    exact Nat.le_trans (distance_le_of_edit first _) (Nat.succ_le_succ inductionHypothesis)

/-- The recursion gives the least number of edits. -/
theorem isDistance_distance (text other : List Char) :
    IsDistance (distance text other) text other :=
  ⟨edits_distance text other, fun _ => distance_le_of_edits⟩

/-! ## The table -/

/-- The entries of a row behind the one of `passed`, for the stretches of a text that begin
with it. All stretches are read backwards, from the end of the table to its start. -/
def entries (row passed : List Char) : List Char → List Nat
  | [] => []
  | d :: rest => distance row (d :: passed) :: entries row (d :: passed) rest

/-- An entry is computed from the one above it, the one on the left of it and the one on the
left of that above. -/
theorem rowTail_entries (c : Char) (row passed rest : List Char) :
    rowTail c rest (distance row passed) (distance (c :: row) passed) (entries row passed rest) =
      entries (c :: row) passed rest := by
  induction rest generalizing passed with
  | nil => rfl
  | cons d rest inductionHypothesis =>
    simp only [entries, rowTail, ← distance_cons_cons, inductionHypothesis]

/-- The row of a stretch holds its distances to the stretches that the other text begins
with. -/
def rowOf (other row : List Char) : List Nat := row.length :: entries row [] other

/-- The first row counts insertions. -/
theorem firstRow_eq (other : List Char) : firstRow other = rowOf other [] := by
  have counted (passed : List Char) :
      entries [] passed other = List.range' (passed.length + 1) other.length := by
    induction other generalizing passed with
    | nil => rfl
    | cons d other inductionHypothesis =>
      simp [entries, inductionHypothesis, List.range'_succ]
  rw [firstRow, rowOf, counted, List.range_eq_range', List.range'_succ]
  rfl

/-- The row of a stretch with one more character follows from that of the stretch. -/
theorem nextRow_rowOf (c : Char) (other row : List Char) :
    nextRow other (rowOf other row) c = rowOf other (c :: row) := by
  have tail := rowTail_entries c row [] other
  rw [distance_nil_right, distance_nil_right, List.length_cons] at tail
  simp only [nextRow, rowOf, tail, List.length_cons]

/-- The last row is that of the whole text. -/
theorem foldl_nextRow (text other row : List Char) :
    text.foldl (nextRow other) (rowOf other row) = rowOf other (text.reverse ++ row) := by
  induction text generalizing row with
  | nil => rfl
  | cons c text inductionHypothesis =>
    rw [List.foldl_cons, nextRow_rowOf, inductionHypothesis, List.reverse_cons,
      List.append_assoc, List.singleton_append]

/-- The last entry of a row is that of the whole of the other text. -/
theorem getLast?_entries (row passed rest : List Char) :
    (distance row passed :: entries row passed rest).getLast? =
      some (distance row (rest.reverse ++ passed)) := by
  induction rest generalizing passed with
  | nil => rfl
  | cons d rest inductionHypothesis =>
    rw [entries, List.getLast?_cons_cons, inductionHypothesis, List.reverse_cons,
      List.append_assoc, List.singleton_append]

/-- The table is that of the recursion on the texts read backwards. -/
theorem editDistance_eq (text other : List Char) :
    editDistance text other = distance text.reverse other.reverse := by
  have last := getLast?_entries text.reverse [] other
  rw [distance_nil_right, List.append_nil] at last
  rw [editDistance, firstRow_eq, foldl_nextRow, List.append_nil, rowOf, last]
  rfl

/-- The edit distance of two texts is the least number of edits that lead from one to the
other. -/
theorem isDistance_editDistance (text other : List Char) :
    IsDistance (editDistance text other) text other := by
  rw [editDistance_eq]
  exact (isDistance_distance text.reverse other.reverse).of_reverse

/-- Only one number is the distance of two texts. -/
theorem IsDistance.eq_editDistance (least : IsDistance count text other) :
    count = editDistance text other :=
  Nat.le_antisymm (least.least _ (isDistance_editDistance text other).reached)
    ((isDistance_editDistance text other).least _ least.reached)

example : editDistance "kitten".toList "sitting".toList = 3 := by decide

end DialectBridge.Diagnostic
