import DialectBridge.Proofs.Checked.Steps
import DialectBridge.Proofs.Diagnostic.EditDistance
import Mathlib.Logic.Function.Basic

/-!
# The table of distances

On a machine the edit distance is computed in a table with a row for each length of a stretch
that one text begins with, and a column for each of the other. Two loops write the first column
and the first row, and two more fill the rest entry by entry, from three entries that are there
already. An access to a place that the table or a text does not have would be a breach.

Before an entry is written, the table holds the distances of all places above its row and, in
the row, of those on the left of it, besides the first row and the first column. So no access is
a breach, and the entry in the last corner is the edit distance. As the least number of edits
that lead from one text to the other it is zero for equal texts alone, the same in both
directions, and no greater than by way of a third text.
-/

namespace DialectBridge.Diagnostic

open Checked (Run element ok_bind)

variable {text other between : List Char}

/-! ## The loops -/

/-- A table of numbers, row by row. -/
abbrev Table := List (List Nat)

/-- A list with another element at a position, which must be there. -/
def replaced {α : Type} (items : List α) (index : Nat) (item : α) : Run (List α) :=
  if index < items.length then .ok (items.set index item)
  else .error (.breach (.noElement index))

/-- The number before a counter; there is none before zero. -/
def previous : Nat → Run Nat
  | 0 => .error (.breach (.outOfRange (-1)))
  | number + 1 => .ok number

namespace Table

/-- The entry at a place. -/
def entry (table : Table) (row column : Nat) : Run Nat := do
  element (← element table row) column

/-- The table with another entry at a place. -/
def withEntry (table : Table) (row column number : Nat) : Run Table := do
  replaced table row (← replaced (← element table row) column number)

/-- A table of zeros, with a row and a column for the empty stretch as well. -/
def zeros (text other : List Char) : Table :=
  List.replicate (text.length + 1) (List.replicate (other.length + 1) 0)

/-- The table with the number of each row in the first column. -/
def numberRows (table : Table) : Run Table :=
  table.zipIdx.mapM fun (entries, number) => replaced entries 0 number

/-- The table with the number of each column in the first row. -/
def numberColumns (table : Table) : Run Table := do
  replaced table 0 ((← element table 0).mapIdx fun number _ => number)

/-- Writes one entry, from the one above, the one on the left and the one on the left above. -/
def fillEntry (text other : List Char) (row : Nat) (table : Table) (column : Nat) : Run Table := do
  let above ← previous row
  let left ← previous column
  let c ← element text above
  let d ← element other left
  let deleted ← table.entry above column
  let inserted ← table.entry row left
  let substituted ← table.entry above left
  table.withEntry row column
    (min (min (deleted + 1) (inserted + 1)) (substituted + if c = d then 0 else 1))

/-- Fills a row behind its first entry. -/
def fillRow (text other : List Char) (table : Table) (row : Nat) : Run Table :=
  (List.range' 1 other.length).foldlM (fillEntry text other row) table

/-- The table that the loops leave. -/
def filled (text other : List Char) : Run Table := do
  let table ← numberColumns (← numberRows (zeros text other))
  (List.range' 1 text.length).foldlM (fillRow text other) table

/-- The entry in the last corner of the table that the loops leave. -/
def lastEntry (text other : List Char) : Run Nat := do
  (← filled text other).entry text.length other.length

/-! ## Tables with an entry for each place -/

/-- The table of so many rows and columns that has a given entry at each place. -/
def tabulated (rows columns : Nat) (entries : Nat → Nat → Nat) : Table :=
  (List.range rows).map fun row => (List.range columns).map (entries row)

variable {α : Type} {rows columns row column index count : Nat} {entries others : Nat → Nat → Nat}

/-- An element of a list that is given by positions. -/
theorem element_map_range (inside : index < count) (items : Nat → α) :
    element ((List.range count).map items) index = .ok (items index) := by
  simp [element, inside]

/-- To replace an element of a list that is given by positions is to give another. -/
theorem replaced_map_range (inside : index < count) (items : Nat → α) (item : α) :
    replaced ((List.range count).map items) index item =
      .ok ((List.range count).map (Function.update items index item)) := by
  have length : index < ((List.range count).map items).length := by simpa using inside
  rw [replaced, if_pos length]
  refine congrArg Except.ok (List.ext_getElem (by simp) fun position _ _ => ?_)
  by_cases same : index = position
  · simp [same]
  · simp [same, Function.update_of_ne (Ne.symm same)]

/-- Tables with equal entries at all their places are equal. -/
theorem tabulated_congr
    (same : ∀ row < rows, ∀ column < columns, entries row column = others row column) :
    tabulated rows columns entries = tabulated rows columns others := by
  apply List.map_congr_left
  intro row placed
  apply List.map_congr_left
  intro column placedToo
  exact same row (List.mem_range.mp placed) column (List.mem_range.mp placedToo)

/-- The entry at a place within the table is read without a breach. -/
theorem entry_tabulated (inside : row < rows) (insideToo : column < columns)
    (entries : Nat → Nat → Nat) :
    (tabulated rows columns entries).entry row column = .ok (entries row column) := by
  rw [entry, tabulated, element_map_range inside, ok_bind, element_map_range insideToo]

/-- An entry at a place within the table is written without a breach. -/
theorem withEntry_tabulated (inside : row < rows) (insideToo : column < columns)
    (entries : Nat → Nat → Nat) (number : Nat) :
    (tabulated rows columns entries).withEntry row column number =
      .ok (tabulated rows columns
        (Function.update entries row (Function.update (entries row) column number))) := by
  rw [withEntry, tabulated, element_map_range inside, ok_bind, replaced_map_range insideToo,
    ok_bind, replaced_map_range inside, tabulated]
  refine congrArg Except.ok (List.map_congr_left fun position _ => ?_)
  by_cases same : position = row
  · simp [same]
  · simp [Function.update_of_ne same]

/-! ## The filled part -/

/-- The distance of the stretches of given lengths that two texts begin with. -/
def prefixDistance (text other : List Char) (row column : Nat) : Nat :=
  editDistance (text.take row) (other.take column)

/-- From the empty stretch, every character is inserted. -/
theorem prefixDistance_zero_left (inside : column ≤ other.length) :
    prefixDistance text other 0 column = column := by
  simp [prefixDistance, editDistance_eq, inside]

/-- To the empty stretch, every character is deleted. -/
theorem prefixDistance_zero_right (inside : row ≤ text.length) :
    prefixDistance text other row 0 = row := by
  simp [prefixDistance, editDistance_eq, inside]

/-- The distance of longer stretches is the best of three choices at their last characters. -/
theorem prefixDistance_succ_succ (inside : row < text.length) (insideToo : column < other.length) :
    prefixDistance text other (row + 1) (column + 1) =
      min (min (prefixDistance text other row (column + 1) + 1)
          (prefixDistance text other (row + 1) column + 1))
        (prefixDistance text other row column + if text[row] = other[column] then 0 else 1) := by
  have stretch : (text.take (row + 1)).reverse = text[row] :: (text.take row).reverse := by
    rw [List.take_succ_eq_append_getElem inside, List.reverse_append, List.reverse_singleton,
      List.singleton_append]
  have stretchToo :
      (other.take (column + 1)).reverse = other[column] :: (other.take column).reverse := by
    rw [List.take_succ_eq_append_getElem insideToo, List.reverse_append, List.reverse_singleton,
      List.singleton_append]
  simp only [prefixDistance, editDistance_eq, stretch, stretchToo, distance_cons_cons]

/-- Whether a place is filled when the row and the column of the last entry written are given. -/
def IsFilled (lastRow lastColumn row column : Nat) : Prop :=
  row = 0 ∨ column = 0 ∨ row < lastRow ∨ row = lastRow ∧ column ≤ lastColumn

instance (lastRow lastColumn row column : Nat) :
    Decidable (IsFilled lastRow lastColumn row column) :=
  inferInstanceAs (Decidable (_ ∨ _ ∨ _ ∨ _ ∧ _))

/-- What is at a place when the row and the column of the last entry written are given. -/
def entrySoFar (text other : List Char) (lastRow lastColumn row column : Nat) : Nat :=
  if IsFilled lastRow lastColumn row column then prefixDistance text other row column else 0

/-- The table when the row and the column of the last entry written are given. -/
def soFar (text other : List Char) (lastRow lastColumn : Nat) : Table :=
  tabulated (text.length + 1) (other.length + 1) (entrySoFar text other lastRow lastColumn)

/-- What is at a place depends on no more than whether it is filled. -/
theorem entrySoFar_congr {lastRow lastColumn otherRow otherColumn : Nat}
    (same : IsFilled lastRow lastColumn row column ↔ IsFilled otherRow otherColumn row column) :
    entrySoFar text other lastRow lastColumn row column =
      entrySoFar text other otherRow otherColumn row column := by
  simp only [entrySoFar, same]

/-- What is read at a filled place is the distance. -/
theorem entry_soFar {lastRow lastColumn : Nat} (inside : row ≤ text.length)
    (insideToo : column ≤ other.length) (done : IsFilled lastRow lastColumn row column) :
    (soFar text other lastRow lastColumn).entry row column =
      .ok (prefixDistance text other row column) := by
  rw [soFar, entry_tabulated (Nat.lt_succ_of_le inside) (Nat.lt_succ_of_le insideToo), entrySoFar,
    if_pos done]

/-- The distance is written at the place behind the last one of a row. -/
theorem withEntry_soFar (inside : row < text.length) (insideToo : column < other.length) :
    (soFar text other (row + 1) column).withEntry (row + 1) (column + 1)
        (prefixDistance text other (row + 1) (column + 1)) =
      .ok (soFar text other (row + 1) (column + 1)) := by
  rw [soFar, withEntry_tabulated (Nat.succ_lt_succ inside) (Nat.succ_lt_succ insideToo), soFar]
  refine congrArg Except.ok (tabulated_congr fun place _ placeToo _ => ?_)
  by_cases same : place = row + 1
  · subst same
    rw [Function.update_self]
    by_cases sameToo : placeToo = column + 1
    · simp [sameToo, entrySoFar, IsFilled]
    · rw [Function.update_of_ne sameToo]
      apply entrySoFar_congr
      unfold IsFilled
      omega
  · rw [Function.update_of_ne same]
    apply entrySoFar_congr
    unfold IsFilled
    omega

/-- Filling one entry reads and writes without a breach, and what is written is the distance. -/
theorem fillEntry_soFar (inside : row < text.length) (insideToo : column < other.length) :
    fillEntry text other (row + 1) (soFar text other (row + 1) column) (column + 1) =
      .ok (soFar text other (row + 1) (column + 1)) := by
  have character : element text row = .ok text[row] := by simp [element, inside]
  have characterToo : element other column = .ok other[column] := by simp [element, insideToo]
  have deleted : (soFar text other (row + 1) column).entry row (column + 1) =
      .ok (prefixDistance text other row (column + 1)) :=
    entry_soFar (Nat.le_of_lt inside) insideToo (.inr (.inr (.inl (Nat.lt_succ_self row))))
  have inserted : (soFar text other (row + 1) column).entry (row + 1) column =
      .ok (prefixDistance text other (row + 1) column) :=
    entry_soFar inside (Nat.le_of_lt insideToo) (.inr (.inr (.inr ⟨rfl, Nat.le_refl column⟩)))
  have substituted : (soFar text other (row + 1) column).entry row column =
      .ok (prefixDistance text other row column) :=
    entry_soFar (Nat.le_of_lt inside) (Nat.le_of_lt insideToo)
      (.inr (.inr (.inl (Nat.lt_succ_self row))))
  simp only [fillEntry, previous, ok_bind, character, characterToo, deleted, inserted, substituted]
  rw [← prefixDistance_succ_succ inside insideToo, withEntry_soFar inside insideToo]

/-! ## Runs of the loops -/

/-- A loop that counts from one passes through states when each turn leads from one to the
next. -/
theorem foldlM_states {step : α → Nat → Run α} (states : Nat → α)
    (turns : ∀ turn < count, step (states turn) (turn + 1) = .ok (states (turn + 1))) :
    (List.range' 1 count).foldlM step (states 0) = .ok (states count) := by
  induction count with
  | zero => rfl
  | succ count inductionHypothesis =>
    have earlier : ∀ turn < count, step (states turn) (turn + 1) = .ok (states (turn + 1)) :=
      fun turn before => turns turn (Nat.lt_succ_of_lt before)
    rw [List.range'_1_concat, List.foldlM_append, inductionHypothesis earlier, ok_bind,
      List.foldlM_cons, Nat.add_comm 1, turns count (Nat.lt_succ_self count)]
    rfl

/-- A row is filled without a breach, and then no place of the next one is but the first. -/
theorem fillRow_soFar (inside : row < text.length) :
    fillRow text other (soFar text other (row + 1) 0) (row + 1) =
      .ok (soFar text other (row + 2) 0) := by
  have ended : soFar text other (row + 1) other.length = soFar text other (row + 2) 0 := by
    apply tabulated_congr
    intro place _ placeToo within
    apply entrySoFar_congr
    unfold IsFilled
    omega
  rw [fillRow, ← ended]
  exact foldlM_states (soFar text other (row + 1)) fun column insideToo =>
    fillEntry_soFar inside insideToo

/-- Steps that give what a function gives, one for each element. -/
theorem mapM_eq_ok {β : Type} {step : α → Run β} {given : α → β} {items : List α}
    (gives : ∀ item ∈ items, step item = .ok (given item)) :
    items.mapM step = .ok (items.map given) := by
  induction items with
  | nil => rfl
  | cons item items inductionHypothesis =>
    have first := gives item (List.mem_cons_self ..)
    have rest := inductionHypothesis fun later member => gives later (List.mem_cons_of_mem _ member)
    rw [List.mapM_cons, first, ok_bind, rest]
    rfl

/-- The first column is written without a breach. -/
theorem numberRows_tabulated (rows columns : Nat) (entries : Nat → Nat → Nat) :
    numberRows (tabulated rows (columns + 1) entries) =
      .ok (tabulated rows (columns + 1) fun row => Function.update (entries row) 0 row) := by
  have numbered : (tabulated rows (columns + 1) entries).zipIdx =
      (List.range rows).map fun row => ((List.range (columns + 1)).map (entries row), row) := by
    apply List.ext_getElem <;> simp [tabulated]
  rw [numberRows, numbered, List.mapM_map]
  exact mapM_eq_ok fun row _ => replaced_map_range (Nat.succ_pos columns) (entries row) row

/-- The first row is written without a breach. -/
theorem numberColumns_tabulated (rows columns : Nat) (entries : Nat → Nat → Nat) :
    numberColumns (tabulated (rows + 1) columns entries) =
      .ok (tabulated (rows + 1) columns (Function.update entries 0 id)) := by
  have first : element (tabulated (rows + 1) columns entries) 0 =
      .ok ((List.range columns).map (entries 0)) := element_map_range (Nat.succ_pos rows) _
  have numbered : (((List.range columns).map (entries 0)).mapIdx fun number _ => number) =
      (List.range columns).map id := by
    apply List.ext_getElem <;> simp
  rw [numberColumns, first, ok_bind, numbered, tabulated, replaced_map_range (Nat.succ_pos rows)]
  refine congrArg Except.ok (List.map_congr_left fun row _ => ?_)
  by_cases same : row = 0
  · simp [same]
  · simp [Function.update_of_ne same]

/-- The first column and the first row are written without a breach, and that fills the table up
to the second row. -/
theorem numbered_zeros (text other : List Char) :
    (numberRows (zeros text other) >>= numberColumns) = .ok (soFar text other 1 0) := by
  have blank : zeros text other = tabulated (text.length + 1) (other.length + 1) fun _ _ => 0 := by
    simp [zeros, tabulated, List.map_const']
  rw [blank, numberRows_tabulated, ok_bind, numberColumns_tabulated]
  refine congrArg Except.ok (tabulated_congr fun row inside column insideToo => ?_)
  cases row with
  | zero => simp [entrySoFar, IsFilled, prefixDistance_zero_left (Nat.le_of_lt_succ insideToo)]
  | succ row =>
    cases column with
    | zero => simp [entrySoFar, IsFilled, prefixDistance_zero_right (Nat.le_of_lt_succ inside)]
    | succ column => simp [entrySoFar, IsFilled]

/-- The loops end without a breach, and then every place is filled. -/
theorem filled_eq (text other : List Char) :
    filled text other = .ok (soFar text other (text.length + 1) 0) := by
  have started := numbered_zeros text other
  have looped : (List.range' 1 text.length).foldlM (fillRow text other) (soFar text other 1 0) =
      .ok (soFar text other (text.length + 1) 0) :=
    foldlM_states (fun row => soFar text other (row + 1) 0) fun row inside => fillRow_soFar inside
  rw [filled, ← bind_assoc, started, ok_bind, looped]

/-- The table computes the edit distance. -/
theorem lastEntry_eq (text other : List Char) :
    lastEntry text other = .ok (editDistance text other) := by
  have corner : IsFilled (text.length + 1) 0 text.length other.length :=
    .inr (.inr (.inl (Nat.lt_succ_self _)))
  rw [lastEntry, filled_eq, ok_bind, entry_soFar (Nat.le_refl _) (Nat.le_refl _) corner,
    prefixDistance, List.take_length, List.take_length]

end Table

/-! ## Edits backwards and one after the other -/

/-- An edit is undone by an edit. -/
theorem Edit.undone (edit : Edit text other) : Edit other text := by
  cases edit with
  | insertion front c back => exact .deletion front c back
  | deletion front c back => exact .insertion front c back
  | substitution front c d back => exact .substitution front d c back

/-- Edits lead on from where others lead. -/
theorem Edits.trans {first second : Nat} (edits : Edits first text between)
    (others : Edits second between other) : Edits (first + second) text other := by
  induction edits with
  | none text =>
    rw [Nat.zero_add]
    exact others
  | more edit _ inductionHypothesis =>
    rw [Nat.add_right_comm]
    exact .more edit (inductionHypothesis others)

/-- Edits are undone by as many. -/
theorem Edits.undone {count : Nat} (edits : Edits count text other) : Edits count other text := by
  induction edits with
  | none text => exact .none text
  | more edit _ inductionHypothesis =>
    exact inductionHypothesis.trans (.more edit.undone (.none _))

/-- No edits lead from a text to itself alone. -/
theorem edits_zero_iff : Edits 0 text other ↔ text = other := by
  constructor
  · intro edits
    cases edits with
    | none => rfl
  · intro same
    rw [same]
    exact .none other

/-- The edit distance is zero for equal texts alone. -/
theorem editDistance_eq_zero_iff : editDistance text other = 0 ↔ text = other := by
  have distance := isDistance_editDistance text other
  constructor
  · intro zero
    have reached := distance.reached
    rw [zero] at reached
    exact edits_zero_iff.mp reached
  · intro same
    exact Nat.le_zero.mp (distance.least 0 (edits_zero_iff.mpr same))

/-- The edit distance is no greater in the other direction. -/
theorem editDistance_le_comm (text other : List Char) :
    editDistance text other ≤ editDistance other text :=
  (isDistance_editDistance text other).least _ (isDistance_editDistance other text).reached.undone

/-- The edit distance is no greater than by way of a third text. -/
theorem editDistance_triangle (text between other : List Char) :
    editDistance text other ≤ editDistance text between + editDistance between other :=
  (isDistance_editDistance text other).least _
    ((isDistance_editDistance text between).reached.trans
      (isDistance_editDistance between other).reached)

/-- For all texts, of whatever lengths, the loops access nothing that is not there, and the last
entry of the table is the edit distance: the least number of insertions, deletions and
substitutions of one character that lead from the one text to the other. It is zero for equal
texts alone, the same in both directions, and no greater than by way of a third text. -/
theorem table_computes_distance (text other : String) :
    Table.lastEntry text.toList other.toList = .ok (editDistance text.toList other.toList) ∧
      IsDistance (editDistance text.toList other.toList) text.toList other.toList ∧
      (editDistance text.toList other.toList = 0 ↔ text = other) ∧
      editDistance text.toList other.toList = editDistance other.toList text.toList ∧
      ∀ between : String, editDistance text.toList other.toList ≤
        editDistance text.toList between.toList + editDistance between.toList other.toList := by
  constructor
  · exact Table.lastEntry_eq text.toList other.toList
  constructor
  · exact isDistance_editDistance text.toList other.toList
  constructor
  · rw [editDistance_eq_zero_iff, String.toList_inj]
  constructor
  · exact Nat.le_antisymm (editDistance_le_comm _ _) (editDistance_le_comm _ _)
  · intro between
    exact editDistance_triangle text.toList between.toList other.toList

example : Table.lastEntry "kitten".toList "sitting".toList = .ok 3 := by rfl

end DialectBridge.Diagnostic
