import DialectBridge.Proofs.Decimal.Doubles
import DialectBridge.Proofs.Decimal.WholeNumbers
import DialectBridge.Proofs.Emulation.Calling
import DialectBridge.Proofs.Occurrences

/-!
# Whole numbers among candidates

A whole number is compared with candidates as a double, so what is found is the first candidate
that is rounded to the same number with 53 digits. This is the number itself as long as it has no
more digits than that. Beyond, a neighbour that comes before it is found in its place, and one is
found where the number is none of the candidates.
-/

namespace DialectBridge.Emulation

open Decimal (nearestDouble)

/-! ## First positions -/

/-- A position is that of the first candidate that is accepted, counted from one, or zero if there
is none. -/
inductive IsFirst {α : Type} (accepts : α → Prop) (candidates : List α) : Nat → Prop where
  | absent (refused : ∀ candidate ∈ candidates, ¬accepts candidate) : IsFirst accepts candidates 0
  | found {before : List α} {candidate : α} {behind : List α}
      (split : candidates = before ++ candidate :: behind) (accepted : accepts candidate)
      (refused : ∀ other ∈ before, ¬accepts other) :
      IsFirst accepts candidates (before.length + 1)

/-- The index that is searched for is that of the first position. -/
theorem isFirst_findIdx? {α : Type} (accepts : α → Bool) (candidates : List α) :
    IsFirst (accepts · = true) candidates
      (match candidates.findIdx? accepts with
        | some index => index + 1
        | none => 0) := by
  cases search : candidates.findIdx? accepts with
  | none =>
    apply IsFirst.absent
    intro candidate listed
    simp [List.findIdx?_eq_none_iff.mp search candidate listed]
  | some index =>
    obtain ⟨inside, accepted, refused⟩ := List.findIdx?_eq_some_iff_getElem.mp search
    have split : candidates = candidates.take index ++ candidates[index] ::
        candidates.drop (index + 1) := by
      rw [← List.drop_eq_getElem_cons inside, List.take_append_drop]
    have length : (candidates.take index).length = index := List.length_take_of_le inside.le
    have first : IsFirst (accepts · = true) candidates ((candidates.take index).length + 1) := by
      apply IsFirst.found split accepted
      intro other listed
      obtain ⟨place, early, rfl⟩ := List.mem_take_iff_getElem.mp listed
      exact refused place (by omega)
    rwa [length] at first

/-- Whether a candidate stands at a first position does not depend on what is accepted before. -/
theorem IsFirst.accepted_at {α : Type} {accepts : α → Prop} {before behind : List α}
    {candidate : α} (first : IsFirst accepts (before ++ candidate :: behind) (before.length + 1)) :
    accepts candidate := by
  generalize place : before.length + 1 = position at first
  cases first with
  | absent refused => exact absurd place (Nat.succ_ne_zero _)
  | found split accepted refused =>
    obtain ⟨_, same⟩ := List.append_inj split (Nat.succ.inj place)
    rw [(List.cons.inj same).1]
    exact accepted

/-- The first candidate that is accepted loosely is the first one that is accepted strictly exactly
if every one that is accepted loosely alone comes behind one that is accepted strictly. -/
theorem IsFirst.strict_iff {α : Type} {strict loose : α → Prop} {candidates : List α}
    {position : Nat} (first : IsFirst loose candidates position)
    (weaker : ∀ candidate, strict candidate → loose candidate) :
    IsFirst strict candidates position ↔
      ∀ front candidate back, candidates = front ++ candidate :: back →
        loose candidate → ¬strict candidate → ∃ other ∈ front, strict other := by
  cases first with
  | absent refused =>
    constructor
    · rintro _ front candidate back rfl accepted _
      exact absurd accepted (refused candidate (by simp))
    · intro _
      exact .absent fun candidate listed accepted =>
        refused candidate listed (weaker candidate accepted)
  | @found before first behind split accepted refused =>
    subst split
    constructor
    · intro exactly front candidate back split loosely notStrictly
      have strictly := exactly.accepted_at
      rcases List.append_eq_append_iff.mp split with ⟨between, rfl, rest⟩ | ⟨between, rfl, rest⟩
      · cases between with
        | nil =>
          rw [(List.cons.inj rest).1] at strictly
          exact absurd strictly notStrictly
        | cons other more =>
          rw [(List.cons.inj rest).1] at strictly
          exact ⟨other, by simp, strictly⟩
      · cases between with
        | nil =>
          rw [← (List.cons.inj rest).1] at strictly
          exact absurd strictly notStrictly
        | cons other more =>
          rw [(List.cons.inj rest).1] at loosely
          exact absurd loosely (refused other (by simp))
    · intro behindOne
      by_cases strictly : strict first
      · exact .found rfl strictly fun other listed accepts =>
          refused other listed (weaker other accepts)
      · obtain ⟨other, listed, accepts⟩ := behindOne before first behind rfl accepted strictly
        exact absurd (weaker other accepts) (refused other listed)

/-! ## Whole numbers -/

/-- The text of a whole number has no point, so it is no column of a table. -/
theorem isQualifiedColumn_integer (catalog : Catalog) (number : Int) :
    isQualifiedColumn catalog (toString number) = false := by
  have noPoint : ¬['.'] <:+: (toString number).toList := by
    rw [List.singleton_infix_iff, Decimal.toList_toString_int]
    intro point
    rcases List.mem_append.mp point with sign | digit
    · split at sign <;> simp at sign
    · exact absurd (Decimal.digital_toDigits _ _ digit) (by decide)
  have uncut := Text.cutAtFirst_eq_none_iff.mpr noPoint
  unfold isQualifiedColumn qualifier?
  rw [uncut]
  rfl

/-- Whole numbers are compared as they are rounded. -/
theorem looselyEqual_integers (number other : Int64) :
    (Value.integer number).looselyEqual (.integer other) = true ↔
      nearestDouble number.toInt = nearestDouble other.toInt := by
  have small (number : Int64) : number.toInt.natAbs < 2 ^ 64 := by
    have low := number.le_toInt
    have high := number.toInt_lt
    omega
  exact Decimal.ofInt_beq_iff (small number) (small other)

/-- The position among whole numbers is that of the first one that is rounded to the same. -/
theorem fieldPosition_integers (catalog : Catalog) (number : Int64) (candidates : List Int64) :
    fieldPosition catalog (.integer number :: candidates.map .integer) =
      .ofInt (match candidates.findIdx? fun other =>
          decide (nearestDouble other.toInt = nearestDouble number.toInt) with
        | some index => index + 1
        | none => 0 : Nat) := by
  have compared : ((Value.integer number).looselyEqual ·) ∘ Value.integer = fun other =>
      decide (nearestDouble other.toInt = nearestDouble number.toInt) := by
    funext other
    rw [Function.comp_apply, Bool.eq_iff_iff, looselyEqual_integers, decide_eq_true_iff]
    exact eq_comm
  change (if isQualifiedColumn catalog (toString number.toInt) = true then _ else
    match (candidates.map Value.integer).findIdx? ((Value.integer number).looselyEqual ·) with
    | some index => Value.ofInt (index + 1)
    | none => Value.integer 0) = _
  rw [isQualifiedColumn_integer, if_neg Bool.false_ne_true, List.findIdx?_map, compared]
  cases candidates.findIdx? _ <;> rfl

/-- Among whole numbers, the position is that of the first one that is rounded to the same number
with 53 digits. It is the position of the number itself, or zero if that is none of them, exactly
if every candidate that is only rounded to the same comes behind the number itself; and so it
always is for a number below the least with 54 digits.

Proof: doubles are equal exactly if the whole numbers are rounded to the same, and a number with 53
digits at most is rounded to itself, which no other is. -/
theorem field_position_rounded (env : Environment) (number : Int64) (candidates : List Int64) :
    ∃ position : Nat,
      evaluate env "field" (.integer number :: candidates.map .integer) =
          .ok (.ofInt position) ∧
        IsFirst (fun other => nearestDouble other.toInt = nearestDouble number.toInt) candidates
          position ∧
        (IsFirst (· = number) candidates position ↔
          ∀ front other back, candidates = front ++ other :: back →
            nearestDouble other.toInt = nearestDouble number.toInt → other ≠ number →
              number ∈ front) ∧
        (number.toInt.natAbs < 2 ^ 53 → IsFirst (· = number) candidates position) := by
  have given : evaluate env "field" (.integer number :: candidates.map .integer) =
      .ok (fieldPosition env.catalog (.integer number :: candidates.map .integer)) := by
    apply evaluate_name env .field
    exact decide_eq_true (Nat.zero_le (candidates.map Value.integer).length.succ)
  have searched := isFirst_findIdx? (fun other : Int64 =>
    decide (nearestDouble other.toInt = nearestDouble number.toInt)) candidates
  simp only [decide_eq_true_iff] at searched
  have strict : IsFirst (· = number) candidates _ ↔ _ :=
    searched.strict_iff fun other same => by rw [same]
  refine ⟨_, given.trans (congrArg Except.ok (fieldPosition_integers _ _ _)), searched, ?_, ?_⟩
  · rw [strict]
    simp
  · intro short
    rw [strict]
    intro front other back _ rounded different
    have same := (Decimal.nearestDouble_eq_iff_of_lt short).mp rounded
    exact absurd (Int64.toInt_inj.mp same) different

/-- A small number is found behind numbers that are rounded. -/
theorem small_number_found : ∃ position : Nat,
    evaluate epoch "field" (.integer 3 :: [9007199254740993, 3, -3].map .integer) =
        .ok (.ofInt position) ∧
      IsFirst (· = (3 : Int64)) [9007199254740993, 3, -3] position := by
  obtain ⟨position, given, _, _, itself⟩ :=
    field_position_rounded epoch 3 [9007199254740993, 3, -3]
  have short : (3 : Int64).toInt.natAbs < 2 ^ 53 := by decide +kernel
  exact ⟨position, given, itself short⟩

/-- The least number that is rounded is none of the candidates, but its neighbour is found. -/
theorem neighbour_found :
    evaluate epoch "field" [.integer 9007199254740993, .integer 9007199254740992] =
        .ok (.integer 1) ∧
      IsFirst (· = 9007199254740993) ([9007199254740992] : List Int64) 0 := by
  have accepted : fieldPosition epoch.catalog
      (.integer 9007199254740993 :: [9007199254740992].map .integer) = .integer 1 := by
    have same : nearestDouble (9007199254740992 : Int64).toInt =
        nearestDouble (9007199254740993 : Int64).toInt := by
      decide +kernel
    rw [fieldPosition_integers, List.findIdx?_cons, decide_eq_true same]
    rfl
  constructor
  · rw [← accepted]
    apply evaluate_name epoch .field
    decide
  · apply IsFirst.absent
    intro candidate listed same
    rw [List.mem_singleton.mp listed] at same
    have different : (9007199254740992 : Int64).toInt ≠ (9007199254740993 : Int64).toInt := by
      decide +kernel
    exact different (congrArg Int64.toInt same)

end DialectBridge.Emulation
