import DialectBridge.Proofs.Checked.Conversions

/-!
# Checked positions

A text is searched by offsets that count octets: from the offset of a character on, up to the
offset at which a stretch begins. Both are boundaries of characters, since one is where so many
characters end, and the other where characters behind it end; the position that is given
counts the characters before it, of which a text in memory has fewer than numbers have room for.
-/

namespace DialectBridge.Checked

open Emulation (Catalog)
open Text (Utf8.width)

/-! ## Positions in texts -/

/-- The offsets at which the characters of a text begin, where the text begins at an offset. -/
def offsets : (offset : Nat) → List Char → List Nat
  | _, [] => []
  | offset, c :: rest => offset :: offsets (offset + c.utf8Size) rest

/-- The offset behind so many characters; that of the end if there are no more. -/
def startOffset? (skip : Nat) (text : List Char) : Option Nat :=
  (offsets 0 text)[skip]?.or (if skip = text.length then some (Utf8.width text) else none)

/-- The least offset at which a text goes on with a stretch. -/
def findOffset? (stretch : List Char) : List Char → Option Nat
  | [] => if stretch.isEmpty then some 0 else none
  | c :: rest =>
    if stretch.isPrefixOf (c :: rest) then some 0
    else (findOffset? stretch rest).map (c.utf8Size + ·)

/-- The position, counted from one, of the first occurrence of a stretch after a start that is
counted from zero, or zero. -/
def locateFrom (stretch text : List Char) (start : Int) : Run Int := do
  let skip ← size (max start 0)
  match startOffset? skip text with
  | none => return 0
  | some offset =>
    let (_, rest) ← cutAt offset text
    match findOffset? stretch rest with
    | none => return 0
    | some found =>
      let stop ← size ((offset : Int) + found)
      let (before, _) ← cutAt stop text
      let count ← whole before.length
      whole (count + 1)

/-- The offset of a character is the number of octets in front of it. -/
theorem getElem?_offsets (offset : Nat) (text : List Char) (index : Nat) :
    (offsets offset text)[index]? =
      if index < text.length then some (offset + Utf8.width (text.take index)) else none := by
  induction text generalizing offset index with
  | nil => rfl
  | cons c rest inductionHypothesis =>
    cases index with
    | zero => rfl
    | succ index =>
      rw [offsets, List.getElem?_cons_succ, inductionHypothesis, List.length_cons,
        List.take_succ_cons, width_cons, Nat.add_assoc]
      by_cases inside : index < rest.length
      · rw [if_pos inside, if_pos (Nat.succ_lt_succ inside)]
      · rw [if_neg inside, if_neg (by omega)]

/-- The offset behind some characters is the number of their octets. -/
theorem startOffset?_eq (skip : Nat) (text : List Char) :
    startOffset? skip text =
      if skip ≤ text.length then some (Utf8.width (text.take skip)) else none := by
  unfold startOffset?
  rw [getElem?_offsets, Nat.zero_add]
  by_cases inside : skip < text.length
  · rw [if_pos inside, if_pos (Nat.le_of_lt inside), Option.some_or]
  · rw [if_neg inside, Option.none_or]
    by_cases ended : skip = text.length
    · rw [if_pos ended, if_pos (Nat.le_of_eq ended),
        List.take_of_length_le (Nat.le_of_eq ended.symm)]
    · rw [if_neg ended, if_neg (by omega)]

/-- A stretch is found by octets where it is found by characters. -/
theorem findOffset?_cases (stretch text : List Char) (position : Nat) :
    (findOffset? stretch text = none ∧ Emulation.findFrom stretch position text = none) ∨
      ∃ front back, text = front ++ back ∧
        findOffset? stretch text = some (Utf8.width front) ∧
        Emulation.findFrom stretch position text = some (position + front.length) := by
  induction text generalizing position with
  | nil =>
    unfold findOffset? Emulation.findFrom
    by_cases empty : stretch.isEmpty = true
    · rw [if_pos empty, if_pos empty]
      exact .inr ⟨[], [], rfl, rfl, rfl⟩
    · rw [if_neg empty, if_neg empty]
      exact .inl ⟨rfl, rfl⟩
  | cons c rest inductionHypothesis =>
    unfold findOffset? Emulation.findFrom
    by_cases here : stretch.isPrefixOf (c :: rest) = true
    · rw [if_pos here, if_pos here]
      exact .inr ⟨[], c :: rest, rfl, rfl, rfl⟩
    · rw [if_neg here, if_neg here]
      rcases inductionHypothesis (position + 1) with
        ⟨none, nowhere⟩ | ⟨front, back, rfl, found, counted⟩
      · rw [none, nowhere]
        exact .inl ⟨rfl, rfl⟩
      · rw [found, counted]
        refine .inr ⟨c :: front, back, rfl, rfl, ?_⟩
        rw [List.length_cons, Nat.add_assoc, Nat.add_comm 1]

/-- A text in memory is searched without a breach, from wherever. -/
theorem locateFrom_eq {text : List Char} (fits : FitsMemory text) (stretch : List Char)
    {start : Int} (bounded : start ≤ Decimal.maxInt64) :
    locateFrom stretch text start = .ok (Emulation.locateFrom stretch text start.toNat : Nat) := by
  have skipped : size (max start 0) = .ok start.toNat := by
    have natural : max start 0 = (start.toNat : Int) := by omega
    rw [natural]
    apply size_natCast
    unfold Decimal.maxInt64 at bounded ⊢
    omega
  unfold locateFrom Emulation.locateFrom
  rw [skipped, ok_bind, startOffset?_eq]
  by_cases beyond : text.length < start.toNat
  · rw [if_neg (by omega), if_pos beyond]
    rfl
  · rw [if_pos (by omega), if_neg beyond]
    dsimp only
    have front := cutAt_width (text.take start.toNat) (text.drop start.toNat)
    rw [List.take_append_drop] at front
    rw [front, ok_bind]
    dsimp only
    rcases findOffset?_cases stretch (text.drop start.toNat) start.toNat with
      ⟨none, nowhere⟩ | ⟨before, behind, split, found, counted⟩
    · rw [none, nowhere]
      rfl
    · have parts : text = text.take start.toNat ++ before ++ behind := by
        rw [List.append_assoc, ← split, List.take_append_drop]
      have characters : (text.take start.toNat ++ before).length = start.toNat + before.length := by
        rw [List.length_append, List.length_take, Nat.min_eq_left (by omega)]
      have octets : Utf8.width (text.take start.toNat ++ before) =
          Utf8.width (text.take start.toNat) + Utf8.width before := width_append _ _
      have below : Utf8.width (text.take start.toNat ++ before) ≤ Utf8.width text := by
        rw [parts, width_append _ behind, ← parts]
        exact Nat.le_add_right _ _
      have short := length_le_width (text.take start.toNat ++ before)
      have cut := cutAt_width (text.take start.toNat ++ before) behind
      rw [← parts] at cut
      unfold FitsMemory at fits
      rw [found, counted]
      dsimp only
      rw [← Int.natCast_add, ← octets, size_natCast (by omega), ok_bind, cut, ok_bind]
      dsimp only
      have next : (((text.take start.toNat ++ before).length : Nat) : Int) + 1 =
          ((start.toNat + before.length + 1 : Nat) : Int) := by
        rw [characters, Int.natCast_succ]
      rw [whole_natCast (by omega), ok_bind, next, whole_natCast (by omega)]

/-! ## Positions among values -/

/-- The index of the first candidate that loosely equals a value, where the first candidate has
an index. -/
def position (needle : Value) : (index : Nat) → List Value → Run (Option Nat)
  | _, [] => return none
  | index, candidate :: rest => do
    let equal ← looselyEqual needle candidate
    if equal then return some index else position needle (index + 1) rest

/-- The position, counted from one, of the first candidate that loosely equals the first value,
or zero. -/
def fieldPosition (catalog : Catalog) (values : List Value) : Run Value :=
  match values with
  | [] => return .integer 0
  | .null :: _ => return .integer 0
  | needle :: candidates =>
    if candidates.isEmpty then return .integer 0
    else do
      let text ← asText needle
      if (text.map (Emulation.isQualifiedColumn catalog)).getD false then return .integer 0
      else
        match ← position needle 0 candidates with
        | none => return .integer 0
        | some index =>
          let number ← whole index
          let found ← whole (number + 1)
          return .ofInt found

/-- Candidates are compared without a breach. -/
theorem position_eq (needle : Value) (index : Nat) (candidates : List Value) :
    position needle index candidates =
      .ok ((candidates.findIdx? (needle.looselyEqual ·)).map (· + index)) := by
  induction candidates generalizing index with
  | nil => rfl
  | cons candidate rest inductionHypothesis =>
    unfold position
    rw [looselyEqual_eq, ok_bind, List.findIdx?_cons]
    cases needle.looselyEqual candidate with
    | true => simp [pure, Except.pure]
    | false =>
      rw [if_neg Bool.false_ne_true, inductionHypothesis]
      simp only [Bool.false_eq_true, if_false, Option.map_map]
      congr 2
      funext n
      simp only [Function.comp_apply]
      omega

/-- A value that is not null is looked for among the others. -/
theorem fieldPosition_cons (catalog : Catalog) {needle : Value} (notNull : needle ≠ .null)
    (candidates : List Value) :
    Emulation.fieldPosition catalog (needle :: candidates) =
      if (needle.asText?.map (Emulation.isQualifiedColumn catalog)).getD false then .integer 0
      else match candidates.findIdx? (needle.looselyEqual ·) with
        | some index => .ofInt (index + 1)
        | none => .integer 0 := by
  cases needle with
  | null => exact absurd rfl notNull
  | _ => rfl

/-- The position among arguments is found without a breach. -/
theorem fieldPosition_eq (catalog : Catalog) {values : List Value}
    (few : (values.length : Int) ≤ Decimal.maxInt64) :
    fieldPosition catalog values = .ok (Emulation.fieldPosition catalog values) := by
  unfold fieldPosition
  split
  · rfl
  · rfl
  · next needle candidates notNull =>
    rw [fieldPosition_cons catalog notNull]
    by_cases empty : candidates.isEmpty = true
    · obtain rfl := List.isEmpty_iff.mp empty
      rw [if_pos empty, List.findIdx?_nil, ite_self]
      rfl
    · rw [if_neg empty, asText_eq, ok_bind]
      by_cases column : (needle.asText?.map (Emulation.isQualifiedColumn catalog)).getD false = true
      · rw [if_pos column, if_pos column]
        rfl
      · rw [if_neg column, if_neg column, position_eq, ok_bind]
        cases found : candidates.findIdx? (needle.looselyEqual ·) with
        | none => rfl
        | some index =>
          have inside : index < candidates.length := (List.findIdx?_eq_some_iff_getElem.mp found).1
          rw [List.length_cons] at few
          have next : (index : Int) + 1 = ((index + 1 : Nat) : Int) := (Int.natCast_succ index).symm
          rw [Option.map_some]
          dsimp only
          rw [Nat.add_zero, whole_natCast (by omega), ok_bind, next, whole_natCast (by omega)]
          rfl

end DialectBridge.Checked
