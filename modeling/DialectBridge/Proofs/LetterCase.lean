import DialectBridge.Proofs.LowerCase

/-!
# Texts up to the case of ASCII letters

Putting the ASCII letters of a text in lower case, and leaving all other characters as they are,
commutes with what is done to names: with dropping blanks at the ends, with cutting at a point and
with putting the whole text in lower case, since no letter is a blank or a point and the case of a
letter does not decide whether a sigma ends a word. So texts that differ in the case of ASCII
letters only are taken for the same name.
-/

namespace DialectBridge.Text

/-- A text with its ASCII letters in lower case. -/
def smallLetters (text : List Char) : List Char := text.map Char.toLower

/-- Whether two texts differ in nothing but the case of ASCII letters. -/
def SameLetters (first second : List Char) : Prop := smallLetters first = smallLetters second

instance (first second : List Char) : Decidable (SameLetters first second) :=
  inferInstanceAs (Decidable (_ = _))

/-! ## Characters -/

/-- What is not changed for the capitals of ASCII is changed for no character. -/
theorem toLower_congr {α : Type} {f : Char → α}
    (capitals : ∀ index < 26, f (Char.ofNat (65 + index)).toLower = f (Char.ofNat (65 + index)))
    (c : Char) : f c.toLower = f c := by
  by_cases capital : 65 ≤ c.toNat ∧ c.toNat ≤ 90
  · have same := capitals (c.toNat - 65) (by omega)
    rwa [Nat.add_sub_cancel' capital.1, Char.ofNat_toNat] at same
  · rw [toLower_of_not_capital capital]

/-- A letter of either case is no blank. -/
theorem isBlank_toLower (c : Char) : isBlank c.toLower = isBlank c :=
  toLower_congr (by decide) c

/-- A letter is cased in either case. -/
theorem isCased_toLower (c : Char) : isCased c.toLower = isCased c :=
  toLower_congr (by decide) c

/-- Casing looks through no letter. -/
theorem isCaseIgnorable_toLower (c : Char) : isCaseIgnorable c.toLower = isCaseIgnorable c :=
  toLower_congr (by decide) c

/-- A letter of either case becomes the same. -/
theorem lowerChar_toLower (c : Char) : lowerChar c.toLower = lowerChar c :=
  toLower_congr (by decide) c

/-- No letter is a point. -/
theorem beq_point_toLower (c : Char) : ('.' == c.toLower) = ('.' == c) :=
  toLower_congr (f := ('.' == ·)) (by decide) c

/-- A character without case is what no other character becomes. -/
theorem toLower_eq_iff {c mark : Char} (noLetter : mark.isAlpha = false) :
    c.toLower = mark ↔ c = mark := by
  constructor
  · rintro rfl
    have sameClass : c.toLower.isAlpha = c.isAlpha := toLower_congr (by decide) c
    rw [sameClass] at noLetter
    apply (toLower_of_not_capital _).symm
    intro capital
    exact Bool.false_ne_true (noLetter.symm.trans (isAlpha_iff.mpr (.inl capital)))
  · rintro rfl
    apply toLower_of_not_capital
    intro capital
    exact Bool.false_ne_true (noLetter.symm.trans (isAlpha_iff.mpr (.inl capital)))

/-! ## Texts -/

/-- What is dropped from the front is dropped in either case, if it is of a class that has the
letters of both cases or of none. -/
theorem dropWhile_smallLetters {holds : Char → Bool} (same : ∀ c : Char, holds c.toLower = holds c)
    (text : List Char) :
    (smallLetters text).dropWhile holds = smallLetters (text.dropWhile holds) := by
  have composed : holds ∘ Char.toLower = holds := funext same
  unfold smallLetters
  rw [List.dropWhile_map, composed]

/-- A stretch without letters stands in front of a text in either case. -/
theorem prefix_smallLetters_iff {front : List Char} (noLetters : ∀ c ∈ front, c.isAlpha = false)
    (text : List Char) : front <+: smallLetters text ↔ front <+: text := by
  induction front generalizing text with
  | nil => simp
  | cons mark front inductionHypothesis =>
    obtain ⟨noLetter, others⟩ := List.forall_mem_cons.mp noLetters
    cases text with
    | nil => rfl
    | cons c rest =>
      change mark :: front <+: c.toLower :: smallLetters rest ↔ _
      rw [List.cons_prefix_cons, List.cons_prefix_cons, inductionHypothesis others, eq_comm,
        toLower_eq_iff noLetter, eq_comm]

/-- Blanks at the ends are dropped in either case. -/
theorem trim_smallLetters (text : List Char) :
    trim (smallLetters text) = smallLetters (trim text) := by
  have reversed (part : List Char) : (smallLetters part).reverse = smallLetters part.reverse :=
    List.map_reverse.symm
  unfold trim trimEnd trimStart
  rw [dropWhile_smallLetters isBlank_toLower, reversed, dropWhile_smallLetters isBlank_toLower,
    reversed]

/-- A text is cut at its first point in either case. -/
theorem cutAtFirst_smallLetters (text : List Char) : cutAtFirst ['.'] (smallLetters text) =
    (cutAtFirst ['.'] text).map (Prod.map smallLetters smallLetters) := by
  induction text with
  | nil => rfl
  | cons c rest inductionHypothesis =>
    have first : ['.'].isPrefixOf (c.toLower :: smallLetters rest) =
        ['.'].isPrefixOf (c :: rest) := by
      simp [List.isPrefixOf, beq_point_toLower]
    change cutAtFirst ['.'] (c.toLower :: smallLetters rest) = _
    unfold cutAtFirst
    rw [first, inductionHypothesis]
    by_cases point : ['.'].isPrefixOf (c :: rest) = true
    · rw [if_pos point, if_pos point]
      rfl
    · rw [if_neg point, if_neg point, Option.map_map, Option.map_map]
      rfl

/-- Whether a cased character comes next does not depend on the case of letters. -/
theorem meetsCased_smallLetters (text : List Char) :
    meetsCased (smallLetters text) = meetsCased text := by
  unfold meetsCased
  rw [dropWhile_smallLetters isCaseIgnorable_toLower]
  cases text.dropWhile isCaseIgnorable with
  | nil => rfl
  | cons c rest => exact isCased_toLower c

/-- A text behind others becomes the same in lower case, in whatever case their letters are. -/
theorem lowerAfter_smallLetters (before text : List Char) :
    lowerAfter (smallLetters before) (smallLetters text) = lowerAfter before text := by
  induction text generalizing before with
  | nil => rfl
  | cons c rest inductionHypothesis =>
    have behind := inductionHypothesis (c :: before)
    have sigma : (c.toLower.toNat = 0x3A3) = (c.toNat = 0x3A3) :=
      toLower_congr (f := (·.toNat = 0x3A3)) (by decide) c
    have dotted : (c.toLower.toNat = 0x130) = (c.toNat = 0x130) :=
      toLower_congr (f := (·.toNat = 0x130)) (by decide) c
    change lowerAfter (smallLetters before) (c.toLower :: smallLetters rest) = _
    unfold lowerAfter
    simp only [sigma, dotted, meetsCased_smallLetters, lowerChar_toLower]
    congr 1

/-- A text becomes the same in lower case, in whatever case its letters are. -/
theorem lower_smallLetters (text : List Char) : lower (smallLetters text) = lower text :=
  lowerAfter_smallLetters [] text

namespace SameLetters

variable {first second : List Char} (same : SameLetters first second)

include same

/-- Texts with the same letters are equal in lower case. -/
theorem lower : Text.lower first = Text.lower second := by
  rw [← lower_smallLetters first, same, lower_smallLetters]

/-- Texts with the same letters have the same letters without the blanks at their ends. -/
theorem trim : SameLetters (Text.trim first) (Text.trim second) := by
  unfold SameLetters
  rw [← trim_smallLetters, same, trim_smallLetters]

/-- Texts with the same letters have the same letters behind as many characters. -/
theorem drop (count : Nat) : SameLetters (first.drop count) (second.drop count) := by
  have dropped := congrArg (List.drop count) same
  unfold smallLetters at dropped
  rwa [← List.map_drop, ← List.map_drop] at dropped

end SameLetters

end DialectBridge.Text
