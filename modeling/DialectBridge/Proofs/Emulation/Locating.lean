import DialectBridge.Proofs.Checked.Octets
import DialectBridge.Proofs.Emulation.Calling
import Mathlib.Order.Bounds.Basic

/-!
# Located texts

A text is located in another at the least position, counted from one, at which the other goes on
with it, from a start on that is counted from zero. Behind the last character every text goes on
with the empty one.
-/

namespace DialectBridge.Emulation

/-- Whether a text goes on with a stretch behind so many of its characters. -/
def GoesOnWith (stretch text : List Char) (index : Nat) : Prop :=
  index ≤ text.length ∧ stretch <+: text.drop index

/-- The positions, counted from one, at which a text goes on with a stretch, from a start on that
is counted from zero; a negative start is the beginning. -/
def positions (stretch text : List Char) (start : Int) : Set Nat :=
  {position | 1 ≤ position ∧ max start 0 ≤ (position : Int) - 1 ∧
    GoesOnWith stretch text (position - 1)}

/-- Whether a position is the least one, or zero if there is none. -/
def IsFirstPosition (stretch text : List Char) (start : Int) (position : Nat) : Prop :=
  IsLeast (positions stretch text start) position ∨
    positions stretch text start = ∅ ∧ position = 0

/-- A position is one more than the number of characters in front of it. -/
theorem mem_positions_iff {stretch text : List Char} {start : Int} {position : Nat} :
    position ∈ positions stretch text start ↔
      ∃ index, position = index + 1 ∧ start.toNat ≤ index ∧ GoesOnWith stretch text index := by
  constructor
  · rintro ⟨counted, late, goesOn⟩
    exact ⟨position - 1, by omega, by omega, goesOn⟩
  · rintro ⟨index, rfl, late, goesOn⟩
    exact ⟨Nat.succ_pos index, by omega, goesOn⟩

/-- Behind a first character, a text goes on as it does behind those after it. -/
theorem goesOnWith_succ_iff {stretch : List Char} {c : Char} {rest : List Char} {index : Nat} :
    GoesOnWith stretch (c :: rest) (index + 1) ↔ GoesOnWith stretch rest index := by
  unfold GoesOnWith
  rw [List.length_cons, Nat.succ_le_succ_iff, List.drop_succ_cons]

/-- What is found is the least number of characters behind which the text goes on with the
stretch. -/
theorem findFrom_cases (stretch text : List Char) (position : Nat) :
    (findFrom stretch position text = none ∧ ∀ index, ¬GoesOnWith stretch text index) ∨
      ∃ index, findFrom stretch position text = some (position + index) ∧
        IsLeast {index | GoesOnWith stretch text index} index := by
  induction text generalizing position with
  | nil =>
    cases stretch with
    | nil =>
      right
      refine ⟨0, rfl, ?_, ?_⟩
      · exact ⟨Nat.le_refl 0, List.nil_prefix⟩
      · exact fun index _ => Nat.zero_le index
    | cons c others =>
      left
      constructor
      · rfl
      · rintro index ⟨_, stands⟩
        rw [List.drop_nil] at stands
        exact absurd (List.prefix_nil.mp stands) (List.cons_ne_nil c others)
  | cons c rest inductionHypothesis =>
    unfold findFrom
    by_cases here : stretch <+: c :: rest
    · right
      refine ⟨0, if_pos (List.isPrefixOf_iff_prefix.mpr here), ?_, ?_⟩
      · exact ⟨Nat.zero_le _, here⟩
      · exact fun index _ => Nat.zero_le index
    · rw [if_neg (fun found => here (List.isPrefixOf_iff_prefix.mp found))]
      have notFirst : ¬GoesOnWith stretch (c :: rest) 0 := fun goesOn => here goesOn.2
      rcases inductionHypothesis (position + 1) with
        ⟨nothing, nowhere⟩ | ⟨index, found, first, least⟩
      · left
        refine ⟨nothing, ?_⟩
        intro index goesOn
        cases index with
        | zero => exact notFirst goesOn
        | succ index => exact nowhere index (goesOnWith_succ_iff.mp goesOn)
      · right
        refine ⟨index + 1, ?_, ?_, ?_⟩
        · rw [found]
          congr 1
          omega
        · exact goesOnWith_succ_iff.mpr first
        · intro other goesOn
          cases other with
          | zero => exact absurd goesOn notFirst
          | succ other => exact Nat.succ_le_succ (least (goesOnWith_succ_iff.mp goesOn))

/-- Behind skipped characters, a text goes on as what is left of it does. -/
theorem goesOnWith_drop_iff {stretch text : List Char} {skip index : Nat}
    (within : skip ≤ text.length) :
    GoesOnWith stretch (text.drop skip) index ↔ GoesOnWith stretch text (skip + index) := by
  unfold GoesOnWith
  rw [List.length_drop, List.drop_drop]
  have same : index ≤ text.length - skip ↔ skip + index ≤ text.length := by omega
  rw [same]

/-- The position that is computed is the first one. -/
theorem isFirstPosition_locateFrom (stretch text : List Char) (start : Int) :
    IsFirstPosition stretch text start (locateFrom stretch text start.toNat) := by
  unfold locateFrom
  by_cases beyond : text.length < start.toNat
  · rw [if_pos beyond]
    right
    refine ⟨?_, rfl⟩
    rw [Set.eq_empty_iff_forall_notMem]
    intro position listed
    obtain ⟨index, rfl, late, within, _⟩ := mem_positions_iff.mp listed
    omega
  · rw [if_neg beyond]
    have within : start.toNat ≤ text.length := Nat.le_of_not_lt beyond
    have inRest {index : Nat} (late : start.toNat ≤ index)
        (goesOn : GoesOnWith stretch text index) :
        GoesOnWith stretch (text.drop start.toNat) (index - start.toNat) := by
      rw [goesOnWith_drop_iff within, Nat.add_sub_cancel' late]
      exact goesOn
    rcases findFrom_cases stretch (text.drop start.toNat) start.toNat with
      ⟨nothing, nowhere⟩ | ⟨found, same, first, least⟩
    · rw [nothing]
      right
      refine ⟨?_, rfl⟩
      rw [Set.eq_empty_iff_forall_notMem]
      intro position listed
      obtain ⟨index, rfl, late, goesOn⟩ := mem_positions_iff.mp listed
      exact nowhere _ (inRest late goesOn)
    · rw [same]
      left
      constructor
      · rw [mem_positions_iff]
        exact ⟨_, rfl, Nat.le_add_right _ _, (goesOnWith_drop_iff within).mp first⟩
      · intro position listed
        obtain ⟨index, rfl, late, goesOn⟩ := mem_positions_iff.mp listed
        have bound : found ≤ index - start.toNat := least (inRest late goesOn)
        dsimp only
        omega

/-- No position is further behind than the end of the text. -/
theorem IsFirstPosition.le {stretch text : List Char} {start : Int} {position : Nat}
    (first : IsFirstPosition stretch text start position) : position ≤ text.length + 1 := by
  rcases first with ⟨listed, _⟩ | ⟨_, rfl⟩
  · obtain ⟨index, rfl, _, within, _⟩ := mem_positions_iff.mp listed
    exact Nat.succ_le_succ within
  · exact Nat.zero_le _

/-- The start of a call, which is the beginning where none is given. -/
def startOf (start : Option Int64) : Int := start.elim 0 Int64.toInt

/-- A call gives the position that is computed. -/
theorem evaluate_locate (env : Environment) {needle text : Value} {stretch whole : String}
    (needleText : needle.asText? = some stretch) (textText : text.asText? = some whole)
    (start : Option Int64) :
    evaluate env "locate" (needle :: text :: (start.map Value.integer).toList) =
      .ok (.ofInt (locateFrom stretch.toList whole.toList (startOf start).toNat)) := by
  have applied : locate "locate" needle text (start.map Value.integer) =
      .ok (.ofInt (locateFrom stretch.toList whole.toList (startOf start).toNat)) := by
    unfold locate
    rw [needleText, textText]
    cases start <;> rfl
  cases start with
  | none =>
    have called : evaluate env "locate" [needle, text] = locate "locate" needle text none :=
      evaluate_name env .locate rfl
    exact called.trans applied
  | some start =>
    have called : evaluate env "locate" [needle, text, .integer start] =
        locate "locate" needle text (some (.integer start)) :=
      evaluate_name env .locate rfl
    exact called.trans applied

/-- A text is located at the least position, counted from one, at which the other text goes on
with it and which has at least so many characters in front of it as the start says; a negative
start says none, and where there is no such position it is zero. The empty text is located
anywhere up to the end of the other one, and not behind it. The texts may be of any characters, and
the same position is found by the octets of the texts; in memory it fits in 64 bits.

Proof: what is left of a text is searched from its first character on, and goes on with the stretch
behind so many characters as the whole text does behind those and the skipped ones. -/
theorem located_at_first (env : Environment) {needle text : Value} {stretch whole : String}
    (needleText : needle.asText? = some stretch) (textText : text.asText? = some whole)
    (start : Option Int64) :
    ∃ position : Nat,
      evaluate env "locate" (needle :: text :: (start.map Value.integer).toList) =
          .ok (.ofInt position) ∧
        IsFirstPosition stretch.toList whole.toList (startOf start) position ∧
        Checked.octetPosition stretch.toList whole.toList (startOf start).toNat = position ∧
        (Checked.FitsMemory whole.toList → (Int64.ofInt position).toInt = position) := by
  have first := isFirstPosition_locateFrom stretch.toList whole.toList (startOf start)
  refine ⟨_, evaluate_locate env needleText textText start, first, ?_, ?_⟩
  · apply Checked.octetPosition_eq
  · intro fits
    have short := Checked.length_le_width whole.toList
    have bound := first.le
    unfold Checked.FitsMemory Decimal.maxInt64 at fits
    apply Int64.toInt_ofInt_of_le
    · omega
    · omega

/-- A letter of three octets is located behind two others, from the second one on, where the text
begins with the same letter. -/
theorem repeated_letter_located :
    Value.asText? (.text "語") = some "語" ∧ Value.asText? (.text "語日語") = some "語日語" ∧
      ∃ position : Nat,
        evaluate epoch "locate" [.text "語", .text "語日語", .integer 1] = .ok (.ofInt position) ∧
          IsFirstPosition "語".toList "語日語".toList 1 position ∧ position = 3 := by
  have stretch : Value.asText? (.text "語") = some "語" := rfl
  have whole : Value.asText? (.text "語日語") = some "語日語" := rfl
  obtain ⟨position, given, first, octets, _⟩ := located_at_first epoch stretch whole (some 1)
  refine ⟨stretch, whole, position, given, first, ?_⟩
  rw [← octets]
  decide

end DialectBridge.Emulation
