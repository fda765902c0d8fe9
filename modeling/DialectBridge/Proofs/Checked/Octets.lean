import DialectBridge.Proofs.Checked.Positions
import Mathlib.Data.List.Infix

/-!
# Texts found by their octets

A text is searched where it is stored, octet by octet. The first octet of a character is none of
the further octets of one, so wherever the octets of some characters stand among those of a text,
a character begins, and they are those of the same characters. A stretch is therefore found by
octets at the offset of the character at which it is found by characters.
-/

namespace DialectBridge.Checked

open Text (Utf8.width)

/-! ## Octets -/

/-- The octets of a text, in order. -/
def octets (text : List Char) : List UInt8 := text.flatMap String.utf8EncodeChar

/-- The octets of a text with one more character in front. -/
theorem octets_cons (c : Char) (text : List Char) :
    octets (c :: text) = String.utf8EncodeChar c ++ octets text := List.flatMap_cons

/-- The octets of a text are those of its parts. -/
theorem octets_append (front back : List Char) :
    octets (front ++ back) = octets front ++ octets back := List.flatMap_append

/-- There are as many octets as the width counts. -/
theorem length_octets (text : List Char) : (octets text).length = Utf8.width text := by
  induction text with
  | nil => rfl
  | cons c rest inductionHypothesis =>
    rw [octets_cons, List.length_append, inductionHypothesis, width_cons,
      String.length_utf8EncodeChar]

/-- The octets behind those of a part. -/
theorem drop_octets (front back : List Char) :
    (octets (front ++ back)).drop (Utf8.width front) = octets back := by
  rw [octets_append, ← length_octets, List.drop_left]

/-- Octets begin with those of some characters exactly if the text begins with the characters. -/
theorem octets_prefix_iff {stretch text : List Char} :
    octets stretch <+: octets text ↔ stretch <+: text := by
  constructor
  · rintro ⟨rest, whole⟩
    apply List.isPrefix_of_utf8Encode_append_eq_utf8Encode rest.toByteArray
    have joined := congrArg List.toByteArray whole
    rwa [List.toByteArray_append] at joined
  · rintro ⟨rest, rfl⟩
    rw [octets_append]
    exact List.prefix_append _ _

/-- No character begins at a further octet of a character. -/
theorem not_prefix_inside {stretch : List Char} (nonempty : stretch ≠ []) {c : Char} {inside : Nat}
    (behind : 0 < inside) (within : inside < c.utf8Size) (rest : List UInt8) :
    ¬octets stretch <+: (String.utf8EncodeChar c ++ rest).drop inside := by
  intro stands
  obtain ⟨d, others, rfl⟩ := List.exists_cons_of_ne_nil nonempty
  have size : inside < (String.utf8EncodeChar c).length := by
    rwa [String.length_utf8EncodeChar]
  have positive : 0 < (String.utf8EncodeChar d).length := by
    rw [String.length_utf8EncodeChar]
    exact Char.utf8Size_pos d
  have begins : String.utf8EncodeChar d =
      (String.utf8EncodeChar d)[0] :: (String.utf8EncodeChar d).drop 1 :=
    List.drop_eq_getElem_cons positive
  rw [octets_cons, begins, List.cons_append, List.drop_append_of_le_length (Nat.le_of_lt size),
    List.drop_eq_getElem_cons size, List.cons_append, List.cons_prefix_cons] at stands
  have leads : (String.utf8EncodeChar d)[0].IsUTF8FirstByte :=
    UInt8.isUTF8FirstByte_getElem_zero_utf8EncodeChar
  rw [stands.1, UInt8.isUTF8FirstByte_getElem_utf8EncodeChar] at leads
  exact Nat.ne_of_gt behind leads

/-! ## Search -/

/-- The least index at which a list of octets goes on with a stretch of them. -/
def indexIn? (stretch : List UInt8) : List UInt8 → Option Nat
  | [] => if stretch.isEmpty then some 0 else none
  | octet :: rest =>
    if stretch.isPrefixOf (octet :: rest) then some 0 else (indexIn? stretch rest).map (· + 1)

/-- Octets at none of which a stretch begins are passed. -/
theorem indexIn?_append {stretch block rest : List UInt8}
    (nowhere : ∀ index < block.length, ¬stretch <+: (block ++ rest).drop index) :
    indexIn? stretch (block ++ rest) = (indexIn? stretch rest).map (block.length + ·) := by
  induction block with
  | nil => simp
  | cons octet block inductionHypothesis =>
    have notHere : ¬stretch.isPrefixOf (octet :: (block ++ rest)) = true := by
      rw [List.isPrefixOf_iff_prefix]
      exact nowhere 0 (Nat.succ_pos _)
    have behind := inductionHypothesis fun index inside =>
      nowhere (index + 1) (Nat.succ_lt_succ inside)
    rw [List.cons_append, indexIn?, if_neg notHere, behind, Option.map_map]
    congr 1
    funext index
    rw [List.length_cons, Function.comp_apply]
    omega

/-- A stretch is found by octets where it is found by characters. Proof: by the characters of the
text, since it begins at none of the further octets of a character. -/
theorem indexIn?_octets (stretch text : List Char) :
    indexIn? (octets stretch) (octets text) = findOffset? stretch text := by
  induction text with
  | nil =>
    cases stretch with
    | nil => rfl
    | cons c others =>
      have noOctets : (octets (c :: others)).isEmpty = false := by
        simp [octets_cons, String.utf8EncodeChar_ne_nil]
      change (if (octets (c :: others)).isEmpty = true then _ else _) = none
      rw [noOctets, if_neg Bool.false_ne_true]
  | cons c rest inductionHypothesis =>
    by_cases here : stretch <+: c :: rest
    · have atStart := octets_prefix_iff.mpr here
      have first : findOffset? stretch (c :: rest) = some 0 :=
        if_pos (List.isPrefixOf_iff_prefix.mpr here)
      rw [first]
      cases whole : octets (c :: rest) with
      | nil => simp [octets_cons, String.utf8EncodeChar_ne_nil] at whole
      | cons octet others =>
        rw [whole] at atStart
        exact if_pos (List.isPrefixOf_iff_prefix.mpr atStart)
    · have nonempty : stretch ≠ [] := by
        rintro rfl
        exact here (List.nil_prefix)
      have later : findOffset? stretch (c :: rest) =
          (findOffset? stretch rest).map (c.utf8Size + ·) :=
        if_neg (fun stands => here (List.isPrefixOf_iff_prefix.mp stands))
      have nowhere : ∀ index < (String.utf8EncodeChar c).length,
          ¬octets stretch <+: (String.utf8EncodeChar c ++ octets rest).drop index := by
        intro index within
        rw [String.length_utf8EncodeChar] at within
        by_cases start : index = 0
        · rw [start, List.drop_zero, ← octets_cons, octets_prefix_iff]
          exact here
        · exact not_prefix_inside nonempty (Nat.pos_of_ne_zero start) within _
      rw [later, octets_cons, indexIn?_append nowhere, inductionHypothesis,
        String.length_utf8EncodeChar]

/-! ## Positions -/

/-- The position, counted from one, that is found by octets, or zero: from the offset behind some
characters on, up to the octet at which the octets of a stretch stand; the characters that begin
before it are counted. -/
def octetPosition (stretch text : List Char) (skip : Nat) : Nat :=
  match startOffset? skip text with
  | none => 0
  | some offset =>
    match indexIn? (octets stretch) ((octets text).drop offset) with
    | none => 0
    | some found => (offsets 0 text).countP (· < offset + found) + 1

/-- Characters begin where the text does or behind. -/
theorem le_of_mem_offsets {offset start : Nat} {text : List Char}
    (listed : start ∈ offsets offset text) : offset ≤ start := by
  induction text generalizing offset with
  | nil => exact absurd listed List.not_mem_nil
  | cons c rest inductionHypothesis =>
    rcases List.mem_cons.mp listed with rfl | later
    · exact Nat.le_refl _
    · exact Nat.le_trans (Nat.le_add_right _ _) (inductionHypothesis later)

/-- The characters that begin before the end of a part are those of the part. -/
theorem countP_offsets (offset : Nat) (front back : List Char) :
    (offsets offset (front ++ back)).countP (· < offset + Utf8.width front) = front.length := by
  induction front generalizing offset with
  | nil =>
    rw [List.length_nil, List.countP_eq_zero]
    intro start listed
    have behind := le_of_mem_offsets listed
    have nothing : Utf8.width [] = 0 := rfl
    simpa [nothing] using behind
  | cons c front inductionHypothesis =>
    have octet := Char.utf8Size_pos c
    have rest := inductionHypothesis (offset + c.utf8Size)
    rw [Nat.add_assoc, ← width_cons] at rest
    have before : offset < offset + Utf8.width (c :: front) := by
      rw [width_cons]
      omega
    rw [List.cons_append, offsets, List.countP_cons_of_pos (by simpa using before), rest,
      List.length_cons]

/-- The position that is found by octets is the one that is found by characters. -/
theorem octetPosition_eq (stretch text : List Char) (skip : Nat) :
    octetPosition stretch text skip = Emulation.locateFrom stretch text skip := by
  unfold octetPosition Emulation.locateFrom
  rw [startOffset?_eq]
  by_cases beyond : text.length < skip
  · rw [if_neg (by omega), if_pos beyond]
  · have behind : (octets text).drop (Utf8.width (text.take skip)) = octets (text.drop skip) := by
      have dropped := drop_octets (text.take skip) (text.drop skip)
      rwa [List.take_append_drop] at dropped
    have skipped : (text.take skip).length = skip := by
      rw [List.length_take]
      omega
    rw [if_pos (by omega), if_neg beyond]
    dsimp only
    rw [behind, indexIn?_octets]
    rcases findOffset?_cases stretch (text.drop skip) skip with
      ⟨none, nowhere⟩ | ⟨front, back, split, found, counted⟩
    · rw [none, nowhere]
    · have parts : text = (text.take skip ++ front) ++ back := by
        rw [List.append_assoc, ← split, List.take_append_drop]
      have count := countP_offsets 0 (text.take skip ++ front) back
      rw [← parts, Nat.zero_add, width_append, List.length_append, skipped] at count
      rw [found, counted]
      dsimp only
      rw [count]

end DialectBridge.Checked
