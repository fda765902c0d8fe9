import DialectBridge.Diagnostic.Report
import DialectBridge.Proofs.Diagnostic.EditDistance
import Mathlib.Data.List.Induction

/-!
# The best suggestion

For a function that has no emulation the known name is suggested that takes the fewest edits,
and of several such names the one that sorts first, if it takes no more than three edits.

The names are scanned in sorted order, and a later one is kept only if it is strictly nearer.
So what is kept is the first of the nearest, which in sorted names is the least of them. The
order in which the names are given does not matter, because names have only one sorted order.
-/

namespace DialectBridge.Diagnostic

/-! ## The scan -/

/-- What is kept of options: nothing as long as all of them are too far, and otherwise the
first of those at the least distance. -/
def Keeps (target : String) (options : List String) : Option (String × Nat) → Prop
  | none => ∀ option ∈ options, maxDistance < editDistance target.toList option.toList
  | some (name, least) =>
    editDistance target.toList name.toList = least ∧ least ≤ maxDistance ∧
      ∃ front back, options = front ++ name :: back ∧
        (∀ option ∈ front, least < editDistance target.toList option.toList) ∧
        ∀ option ∈ back, least ≤ editDistance target.toList option.toList

variable {target : String}

/-- Another option is kept exactly if it is nearer than what is kept so far. -/
theorem keeps_better {options : List String} {best : Option (String × Nat)} (option : String)
    (kept : Keeps target options best) :
    Keeps target (options ++ [option]) (better target best option) := by
  cases best with
  | none =>
    unfold better
    dsimp only
    split
    · next near =>
      refine ⟨rfl, near, options, [], rfl, ?_, by simp⟩
      intro earlier member
      exact Nat.lt_of_le_of_lt near (kept earlier member)
    · next far =>
      intro other member
      rcases List.mem_append.mp member with earlier | last
      · exact kept other earlier
      · obtain rfl := List.mem_singleton.mp last
        exact Nat.lt_of_not_le far
  | some found =>
    obtain ⟨name, least⟩ := found
    obtain ⟨distance, near, front, back, rfl, farther, notNearer⟩ := kept
    unfold better
    dsimp only
    split
    · next nearer =>
      refine ⟨rfl, Nat.le_trans (Nat.le_of_lt nearer) near, front ++ name :: back, [], rfl, ?_,
        by simp⟩
      intro earlier member
      rcases List.mem_append.mp member with inFront | behind
      · exact Nat.lt_trans nearer (farther earlier inFront)
      · rcases List.mem_cons.mp behind with rfl | inBack
        · rwa [distance]
        · exact Nat.lt_of_lt_of_le nearer (notNearer earlier inBack)
    · next notBetter =>
      refine ⟨distance, near, front, back ++ [option], by simp, farther, ?_⟩
      intro later member
      rcases List.mem_append.mp member with inBack | last
      · exact notNearer later inBack
      · obtain rfl := List.mem_singleton.mp last
        exact Nat.le_of_not_lt notBetter

/-- What is kept in the end is the first of the options at the least distance. -/
theorem keeps_foldl (target : String) (options : List String) :
    Keeps target options (options.foldl (better target) none) := by
  induction options using List.reverseRecOn with
  | nil => simp [Keeps]
  | append_singleton options option inductionHypothesis =>
    rw [List.foldl_append]
    exact keeps_better option inductionHypothesis

/-! ## Sorted names -/

namespace Report

/-- Sorting keeps the names. -/
theorem sortedNames_perm (names : List String) : (sortedNames names).Perm names :=
  List.mergeSort_perm names _

/-- Sorted names are in order. -/
theorem sortedNames_pairwise (names : List String) : (sortedNames names).Pairwise (· ≤ ·) := by
  unfold sortedNames
  have notBefore (a b : String) : (!decide (b < a)) = true ↔ a ≤ b := by
    rw [Bool.not_eq_true', decide_eq_false_iff_not, String.not_lt]
  have sorted := @List.pairwise_mergeSort String (fun a b => !decide (b < a))
    (by simpa only [notBefore] using fun _ _ _ => String.le_trans)
    (by simpa only [Bool.or_eq_true, notBefore] using String.le_total) names
  simpa only [notBefore] using sorted

/-- The same names in any order have the same sorted order. -/
theorem sortedNames_eq_of_perm {names others : List String} (same : names.Perm others) :
    sortedNames names = sortedNames others :=
  List.Perm.eq_of_pairwise (fun _ _ _ _ => String.le_antisymm) (sortedNames_pairwise names)
    (sortedNames_pairwise others)
    ((sortedNames_perm names).trans (same.trans (sortedNames_perm others).symm))

end Report

/-! ## The suggestion -/

/-- A known name at most three edits away from a text, such that every other one takes more
edits, or as many and does not sort before it. -/
structure IsBest (target : String) (known : List String) (name : String) : Prop where
  listed : name ∈ known
  nearest : ∃ count ≤ 3, IsDistance count target.toList name.toList ∧
    ∀ other ∈ known, ∀ edits, IsDistance edits target.toList other.toList →
      count < edits ∨ count = edits ∧ name ≤ other

/-- Every known name is more than three edits away from a text. -/
def NoneNear (target : String) (known : List String) : Prop :=
  ∀ name ∈ known, ∀ count, Edits count target.toList name.toList → 3 < count

/-- There is only one best name. -/
theorem IsBest.unique {known : List String} {name other : String}
    (best : IsBest target known name) (otherBest : IsBest target known other) : name = other := by
  obtain ⟨count, _, distance, least⟩ := best.nearest
  obtain ⟨otherCount, _, otherDistance, otherLeast⟩ := otherBest.nearest
  have before := least other otherBest.listed otherCount otherDistance
  have after := otherLeast name best.listed count distance
  rcases before with less | ⟨_, before⟩
  · rcases after with more | ⟨same, _⟩ <;> omega
  · rcases after with more | ⟨_, after⟩
    · omega
    · exact String.le_antisymm before after

/-- Where there is a best name, not all are far. -/
theorem IsBest.not_noneNear {known : List String} {name : String}
    (best : IsBest target known name) : ¬NoneNear target known := by
  intro far
  obtain ⟨count, near, distance, _⟩ := best.nearest
  have beyond := far name best.listed count distance.reached
  omega

/-- The closest of sorted names is the best of the names, and there is none exactly if all of
them are far. -/
theorem closest_sortedNames (target : String) (known : List String) :
    match closest target (Report.sortedNames known) with
    | some name => IsBest target known name
    | none => NoneNear target known := by
  have members (name : String) : name ∈ Report.sortedNames known ↔ name ∈ known :=
    (Report.sortedNames_perm known).mem_iff
  have kept := keeps_foldl target (Report.sortedNames known)
  unfold closest
  cases scanned : (Report.sortedNames known).foldl (better target) none with
  | none =>
    rw [scanned] at kept
    intro name member count edits
    exact Nat.lt_of_lt_of_le (kept name ((members name).mpr member))
      ((isDistance_editDistance _ _).least count edits)
  | some found =>
    obtain ⟨name, least⟩ := found
    rw [scanned] at kept
    obtain ⟨rfl, near, front, back, listed, farther, notNearer⟩ := kept
    refine ⟨(members name).mp (by simp [listed]), _, near, isDistance_editDistance _ _, ?_⟩
    intro other member edits distance
    obtain rfl := distance.eq_editDistance
    have sorted := Report.sortedNames_pairwise known
    have place := (members other).mpr member
    rw [listed] at sorted place
    rcases List.mem_append.mp place with inFront | behind
    · exact .inl (farther other inFront)
    · rcases List.mem_cons.mp behind with same | inBack
      · exact .inr ⟨by rw [same], same ▸ String.le_refl other⟩
      · have order := (List.pairwise_cons.mp (List.pairwise_append.mp sorted).2.1).1 other inBack
        exact (Nat.lt_or_eq_of_le (notNearer other inBack)).imp_right fun same => ⟨same, order⟩

namespace Report

/-- The hint that suggests a name. -/
def suggestionHint (name : String) : String := "Did you mean '" ++ name ++ "'?"

/-- Hints that suggest different names are different. -/
theorem suggestionHint_inj {name other : String} :
    suggestionHint name = suggestionHint other ↔ name = other := by
  unfold suggestionHint
  rw [String.append_left_inj, String.append_right_inj]

/-- A hint that suggests a name is not the one for no similar name. -/
theorem suggestionHint_ne (name : String) : suggestionHint name ≠ noEmulationHint := by
  intro same
  have front := congrArg (fun text => text.toList.head?) same
  simp [suggestionHint, noEmulationHint] at front

/-- The hint for a function that has no emulation suggests the best known name, or is the one
for no similar name where all known names are far. -/
theorem hint_unsupportedFunction_cases (function : String) (known : List String) :
    (∃ name, IsBest (Text.lowercased function) known name ∧
        (unsupportedFunction function known).hint = some (suggestionHint name)) ∨
      NoneNear (Text.lowercased function) known ∧
        (unsupportedFunction function known).hint = some noEmulationHint := by
  have found := closest_sortedNames (Text.lowercased function) known
  unfold unsupportedFunction
  cases suggested : closest (Text.lowercased function) (sortedNames known) with
  | none =>
    rw [suggested] at found
    exact .inr ⟨found, by simp [suggested]⟩
  | some name =>
    rw [suggested] at found
    exact .inl ⟨name, found, by simp [suggested, suggestionHint]⟩

/-- The report on a function that has no emulation suggests a name exactly if that is the best
known name for the function in lower case, and none exactly if all known names are far. Its
hint and the names in its context, which are the known ones in sorted order, do not depend on
the order in which these are given.

Proof: the hint is that of the best name, or the other one if none is near. There is only one
best name, and none where all are far, so the hint tells which it is. -/
theorem suggestion_is_best (function : String) (known : List String) :
    let report := unsupportedFunction function known
    let target := Text.lowercased function
    (∀ name, report.hint = some ("Did you mean '" ++ name ++ "'?") ↔ IsBest target known name) ∧
      (report.hint = some noEmulationHint ↔ NoneNear target known) ∧
      ((∃ name, IsBest target known name) ∨ NoneNear target known) ∧
      (∃ sorted, report.context = some (.unsupportedFunction function sorted) ∧
        sorted.Perm known ∧ sorted.Pairwise (· ≤ ·)) ∧
      ∀ others, known.Perm others →
        (unsupportedFunction function others).hint = report.hint ∧
          (unsupportedFunction function others).context = report.context := by
  intro report target
  have ordered : ∃ sorted, report.context = some (.unsupportedFunction function sorted) ∧
      sorted.Perm known ∧ sorted.Pairwise (· ≤ ·) :=
    ⟨sortedNames known, rfl, sortedNames_perm known, sortedNames_pairwise known⟩
  have rearranged (others : List String) (same : known.Perm others) :
      (unsupportedFunction function others).hint = report.hint ∧
        (unsupportedFunction function others).context = report.context := by
    unfold report unsupportedFunction
    rw [sortedNames_eq_of_perm same]
    exact ⟨rfl, rfl⟩
  rcases hint_unsupportedFunction_cases function known with ⟨best, isBest, hint⟩ | ⟨far, hint⟩
  · refine ⟨fun name => ?_, ?_, .inl ⟨best, isBest⟩, ordered, rearranged⟩
    · change report.hint = some (suggestionHint name) ↔ _
      rw [hint, Option.some_inj, suggestionHint_inj]
      exact ⟨fun same => same ▸ isBest, isBest.unique⟩
    · rw [hint, Option.some_inj]
      exact ⟨fun same => absurd same (suggestionHint_ne best),
        fun far => absurd far isBest.not_noneNear⟩
  · refine ⟨fun name => ?_, ?_, .inr far, ordered, rearranged⟩
    · change report.hint = some (suggestionHint name) ↔ _
      rw [hint, Option.some_inj]
      exact ⟨fun same => absurd same.symm (suggestionHint_ne name),
        fun best => absurd far best.not_noneNear⟩
    · exact ⟨fun _ => far, fun _ => hint⟩

/-- Two known names are one edit away from a function, and the one that sorts first is
suggested, although the other one is given first. -/
theorem first_of_equals_suggested :
    IsBest "case" ["ucase", "lcase"] "lcase" ∧
      (unsupportedFunction "CASE" ["lcase", "ucase"]).hint = some "Did you mean 'lcase'?" := by
  have lower : Text.lowercased "CASE" = "case" := by decide +kernel
  have best : IsBest "case" ["ucase", "lcase"] "lcase" := by
    refine ⟨by decide, 1, by decide, isDistance_editDistance "case".toList "lcase".toList, ?_⟩
    intro other member edits distance
    obtain rfl := distance.eq_editDistance
    obtain rfl | rfl : other = "ucase" ∨ other = "lcase" := by simpa using member
    · exact .inr (by decide)
    · exact .inr ⟨rfl, String.le_refl _⟩
  obtain ⟨suggests, _, _, _, rearranged⟩ := suggestion_is_best "CASE" ["ucase", "lcase"]
  rw [lower] at suggests
  have swapped := (rearranged ["lcase", "ucase"] (.swap _ _ _)).1
  exact ⟨best, swapped.trans ((suggests "lcase").mpr best)⟩

end Report

end DialectBridge.Diagnostic
