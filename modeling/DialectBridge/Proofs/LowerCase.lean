import DialectBridge.Text.Lowercase
import DialectBridge.Text.Blank
import DialectBridge.Proofs.Characters
import Mathlib.Data.List.Infix

/-!
# Lower case, character by character

But for the two forms of the small sigma, a text is put in lower case one character after
another, whatever stands around them. So whether a stretch without a sigma occurs in the lower
case of a text is a matter of its characters alone.

A text that has been put in lower case has no capital of the ASCII letters and no sign for
Kelvin. Those are all that become ASCII letters, so that a name of ASCII letters is found in
what is put in lower case twice only if it is found when it is done once.
-/

namespace DialectBridge.Text

/-! ## Lower case without endings of words -/

/-- The lower-case form of a character that does not end a word. -/
def lowerImage (c : Char) : List Char :=
  if c.toNat = 0x130 then ['i', Char.ofNat 0x307] else [lowerChar c]

/-- The two forms of the small sigma. -/
def sigmas : List Char := [Char.ofNat 0x3C2, Char.ofNat 0x3C3]

/-- The final sigma as any other. -/
def unfinal (c : Char) : Char := if c = Char.ofNat 0x3C2 then Char.ofNat 0x3C3 else c

/-- But for the final sigma, a text is put in lower case character by character. -/
theorem map_unfinal_lowerAfter (before text : List Char) :
    (lowerAfter before text).map unfinal = (text.flatMap lowerImage).map unfinal := by
  induction text generalizing before with
  | nil => rfl
  | cons c rest inductionHypothesis =>
    rw [lowerAfter, List.flatMap_cons, List.map_append, List.map_append, inductionHypothesis]
    congr 1
    unfold lowerImage
    by_cases sigma : c.toNat = 0x3A3
    · obtain rfl : c = Char.ofNat 0x3A3 := by rw [← sigma, Char.ofNat_toNat]
      rw [if_pos sigma]
      split <;> decide +kernel
    · rw [if_neg sigma]

/-- A word without a sigma is a text without regard to final ones only if it is the text. -/
theorem map_unfinal_eq_iff {word text : List Char} (noSigma : ∀ c ∈ word, c ∉ sigmas) :
    text.map unfinal = word ↔ text = word := by
  have kept {c : Char} (plain : c ∉ sigmas ∨ unfinal c ∉ sigmas) : unfinal c = c := by
    unfold unfinal at plain ⊢
    split
    · next final =>
      rw [if_pos final] at plain
      exact absurd plain (by simp [final, sigmas])
    · rfl
  constructor
  · rintro rfl
    have same : ∀ c ∈ text, unfinal c = c := fun c member =>
      kept (.inr (noSigma _ (List.mem_map_of_mem member)))
    rw [List.map_congr_left same, List.map_id']
  · rintro rfl
    rw [List.map_congr_left fun c member => kept (.inl (noSigma c member)), List.map_id']

/-- A stretch without a sigma occurs in a text where it does without regard to final ones. -/
theorem infix_map_unfinal {stretch text : List Char} (noSigma : ∀ c ∈ stretch, c ∉ sigmas) :
    stretch <:+: text.map unfinal ↔ stretch <:+: text := by
  constructor
  · rintro ⟨front, back, whole⟩
    obtain ⟨before, after, rfl, beginning, -⟩ := List.map_eq_append_iff.mp whole.symm
    obtain ⟨left, middle, rfl, -, same⟩ := List.map_eq_append_iff.mp beginning
    obtain rfl := (map_unfinal_eq_iff noSigma).mp same
    exact ⟨left, after, rfl⟩
  · intro occurs
    rw [← (map_unfinal_eq_iff noSigma).mpr rfl]
    exact occurs.map unfinal

/-- A stretch without a sigma occurs in the lower case of a text where it does in that of its
characters. -/
theorem infix_lower_iff {stretch text : List Char} (noSigma : ∀ c ∈ stretch, c ∉ sigmas) :
    stretch <:+: lower text ↔ stretch <:+: text.flatMap lowerImage := by
  unfold lower
  rw [← infix_map_unfinal noSigma, map_unfinal_lowerAfter, infix_map_unfinal noSigma]

/-- A stretch occurs in a text if it is found there. -/
theorem occursIn_iff {stretch text : List Char} :
    occursIn stretch text = true ↔ stretch <:+: text := by
  induction text with
  | nil => simp [occursIn]
  | cons c rest inductionHypothesis =>
    rw [occursIn, Bool.or_eq_true, inductionHypothesis, List.isPrefixOf_iff_prefix,
      List.infix_cons_iff]

/-! ## Lower case of lower case -/

/-- The sign for Kelvin, which is the only one beyond ASCII to become an ASCII letter alone. -/
def kelvin : Nat := 0x212A

/-- No run leads to a capital of the ASCII letters or to the sign for Kelvin, and one run, which
holds nothing else, leads from that sign to an ASCII letter. -/
theorem runs_apart {run : CaseRun} (listed : run ∈ lowercaseRuns) {code : Nat}
    (holds : run.holds code = true) :
    (code + run.shift < 65 ∨ 90 < code + run.shift) ∧ code + run.shift ≠ kelvin ∧
      (code + run.shift < 128 → code = kelvin) := by
  have bounds : ∀ run ∈ lowercaseRuns.toList, (90 : Int) < run.first + run.shift ∧
      ((run.last : Int) + run.shift < kelvin ∨ (kelvin : Int) < run.first + run.shift) ∧
      ((128 : Int) ≤ run.first + run.shift ∨ run.first = kelvin ∧ run.last = kelvin) := by
    decide +kernel
  obtain ⟨high, notKelvin, far⟩ := bounds run (Array.mem_toList_iff.mpr listed)
  simp only [CaseRun.holds, Bool.and_eq_true, decide_eq_true_eq] at holds
  omega

/-- The image of a code is under a run that holds it, or it is the code itself. -/
theorem image_cases (runs : Array CaseRun) (code : Nat) :
    (∃ run ∈ runs, run.holds code = true ∧
      CaseRun.image runs code = ((code : Int) + run.shift).toNat) ∨
    (∀ run ∈ runs, run.holds code = false) ∧ CaseRun.image runs code = code := by
  unfold CaseRun.image
  split
  · next run found =>
    exact .inl ⟨run, Array.mem_of_find?_eq_some found, by simpa using Array.find?_some found, rfl⟩
  · next none =>
    exact .inr ⟨by simpa using none, rfl⟩

/-- Beyond ASCII, the image of a code is apart from the codes of capitals and of Kelvin, and it
is a code of ASCII only for Kelvin. -/
theorem image_apart {code : Nat} (beyond : 128 ≤ code) :
    (CaseRun.image lowercaseRuns code < 65 ∨ 90 < CaseRun.image lowercaseRuns code) ∧
      CaseRun.image lowercaseRuns code ≠ kelvin ∧
      (CaseRun.image lowercaseRuns code < 128 → code = kelvin) := by
  rcases image_cases lowercaseRuns code with ⟨run, listed, holds, same⟩ | ⟨free, same⟩
  · have apart := runs_apart listed holds
    omega
  · have held : ∃ run ∈ lowercaseRuns.toList, run.holds kelvin = true := by decide +kernel
    have notKelvin : code ≠ kelvin := by
      rintro rfl
      obtain ⟨run, listed, holds⟩ := held
      exact Bool.false_ne_true ((free run (Array.mem_toList_iff.mp listed)).symm.trans holds)
    omega

/-- A character has the code that it is made from, or none. -/
theorem toNat_ofNat (code : Nat) :
    (Char.ofNat code).toNat = code ∨ (Char.ofNat code).toNat = 0 := by
  by_cases valid : code.isValidChar
  · rw [Char.ofNat, dif_pos valid]
    exact .inl rfl
  · rw [Char.ofNat, dif_neg valid]
    exact .inr rfl

/-- Whether a character can stand in a text that has been put in lower case: it is no capital
of the ASCII letters and not the sign for Kelvin. -/
def isLowered (c : Char) : Bool := (c.toNat < 65 || 90 < c.toNat) && c.toNat != kelvin

/-- A character is put in lower case. -/
theorem isLowered_lowerChar (c : Char) : isLowered (lowerChar c) = true := by
  unfold lowerChar
  by_cases ascii : c.toNat < 128
  · rw [if_pos ascii]
    exact of_codes_below (fun c => isLowered c.toLower = true) (by decide) ascii
  · obtain ⟨noCapital, notKelvin, -⟩ := image_apart (Nat.le_of_not_lt ascii)
    rw [if_neg ascii]
    simp only [isLowered, Bool.and_eq_true, Bool.or_eq_true, decide_eq_true_eq, bne_iff_ne]
    rcases toNat_ofNat (CaseRun.image lowercaseRuns c.toNat) with same | same
    · rw [same]
      exact ⟨noCapital, notKelvin⟩
    · rw [same]
      decide

/-- A text is put in lower case. -/
theorem isLowered_of_mem_lowerAfter {before text : List Char} {c : Char}
    (member : c ∈ lowerAfter before text) : isLowered c = true := by
  induction text generalizing before with
  | nil => exact absurd member List.not_mem_nil
  | cons first rest inductionHypothesis =>
    rw [lowerAfter, List.mem_append] at member
    rcases member with inImage | behind
    · split at inImage
      · rw [List.mem_singleton] at inImage
        subst inImage
        split <;> decide
      · split at inImage
        · have dotted : ∀ d ∈ ['i', Char.ofNat 0x307], isLowered d = true := by decide
          exact dotted c inImage
        · rw [List.mem_singleton] at inImage
          exact inImage ▸ isLowered_lowerChar first
    · exact inductionHypothesis behind

/-- Whether a character can be in a name of small letters and low lines. -/
def isSmall (c : Char) : Bool := 95 ≤ c.toNat && c.toNat < 128

/-- A character of a text in lower case stays as it is if it becomes letters of names. -/
theorem lowerImage_of_isLowered {c : Char} (lowered : isLowered c = true)
    (small : ∀ d ∈ lowerImage c, isSmall d = true) : lowerImage c = [c] := by
  simp only [isLowered, Bool.and_eq_true, Bool.or_eq_true, decide_eq_true_eq, bne_iff_ne]
    at lowered
  unfold lowerImage at small ⊢
  split
  · next dotted =>
    rw [if_pos dotted] at small
    exact absurd (small (Char.ofNat 0x307) (by simp)) (by decide)
  · next notDotted =>
    rw [if_neg notDotted, List.forall_mem_singleton] at small
    unfold lowerChar at small ⊢
    by_cases ascii : c.toNat < 128
    · rw [if_pos ascii, toLower_of_not_capital (by omega)]
    · have apart := image_apart (Nat.le_of_not_lt ascii)
      have code := toNat_ofNat (CaseRun.image lowercaseRuns c.toNat)
      rw [if_neg ascii] at small
      simp only [isSmall, Bool.and_eq_true, decide_eq_true_eq] at small
      omega

/-- A text that is put in lower case to a word of small letters and low lines is so character by
character. -/
theorem flatMap_lowerImage_of_lower {word text : List Char}
    (small : ∀ c ∈ word, isSmall c = true) (same : lower text = word) :
    text.flatMap lowerImage = word := by
  have noSigma : ∀ c ∈ word, c ∉ sigmas := by
    intro c member final
    have all : ∀ c ∈ sigmas, isSmall c = false := by decide
    exact Bool.false_ne_true ((all c final).symm.trans (small c member))
  rw [← map_unfinal_eq_iff noSigma, ← map_unfinal_lowerAfter []]
  exact (map_unfinal_eq_iff noSigma).mpr same

/-- A word of small letters and low lines that is what a text is put in lower case to twice is
what it is put in lower case to. -/
theorem lower_eq_of_lower_lower {word text : List Char}
    (small : ∀ c ∈ word, isSmall c = true) (same : lower (lower text) = word) :
    lower text = word := by
  have images := flatMap_lowerImage_of_lower small same
  have kept : ∀ c ∈ lower text, lowerImage c = [c] := by
    intro c member
    refine lowerImage_of_isLowered (isLowered_of_mem_lowerAfter member) fun d inImage => ?_
    exact small d (images ▸ List.mem_flatMap_of_mem member inImage)
  rw [← images, List.flatMap_congr kept, List.flatMap_singleton']

/-- No blank becomes letters of names. -/
theorem isBlank_of_small {c : Char} (small : ∀ d ∈ lowerImage c, isSmall d = true) :
    isBlank c = false := by
  rw [Bool.eq_false_iff]
  intro blank
  unfold lowerImage at small
  by_cases dotted : c.toNat = 0x130
  · rw [if_pos dotted] at small
    exact absurd (small (Char.ofNat 0x307) (by simp)) (by decide)
  · rw [if_neg dotted, List.forall_mem_singleton] at small
    unfold lowerChar at small
    simp only [isBlank, Bool.or_eq_true, Bool.and_eq_true, beq_iff_eq, decide_eq_true_eq] at blank
    by_cases ascii : c.toNat < 128
    · rw [if_pos ascii, toLower_of_not_capital (by omega)] at small
      simp only [isSmall, Bool.and_eq_true, decide_eq_true_eq] at small
      omega
    · -- beyond ASCII only the sign for Kelvin becomes a small letter
      have apart := image_apart (Nat.le_of_not_lt ascii)
      have code := toNat_ofNat (CaseRun.image lowercaseRuns c.toNat)
      rw [if_neg ascii] at small
      simp only [isSmall, Bool.and_eq_true, decide_eq_true_eq] at small
      unfold kelvin at apart
      omega

/-- A text that is put in lower case to a word of small letters and low lines has no blanks. -/
theorem isBlank_of_mem_of_lower {word text : List Char} (small : ∀ c ∈ word, isSmall c = true)
    (same : lower text = word) : ∀ c ∈ text, isBlank c = false := by
  intro c member
  have images := flatMap_lowerImage_of_lower small same
  refine isBlank_of_small fun d inImage => ?_
  exact small d (images ▸ List.mem_flatMap_of_mem member inImage)

end DialectBridge.Text
