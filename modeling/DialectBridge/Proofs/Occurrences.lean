import DialectBridge.Diagnostic.EngineFailure
import Mathlib.Data.List.Infix

/-!
# Where a stretch occurs in a text

A text is cut at the first or at the last occurrence of a stretch, if it has one. The front
of the first cut has no occurrence that begins in it, and behind the beginning of the last
there is none.

Where a text is put together from parts, an occurrence lies in one part or reaches over the
end of a part. It does not reach over an end that has no piece of it.
-/

namespace DialectBridge.Text

/-! ## Texts put together -/

variable {stretch front back : List Char}

/-- No occurrence of a stretch begins in a text, whatever is behind it. -/
def NoneBegins (stretch front : List Char) : Prop :=
  ¬stretch <:+: front ∧ ∀ first ∈ stretch.inits, first <:+ front → first = []

/-- No occurrence of a stretch ends in a text, whatever is in front of it. -/
def NoneEnds (stretch back : List Char) : Prop :=
  ¬stretch <:+: back ∧ ∀ last ∈ stretch.tails, last <+: back → last = []

instance (stretch front : List Char) : Decidable (NoneBegins stretch front) :=
  inferInstanceAs (Decidable (_ ∧ _))

instance (stretch back : List Char) : Decidable (NoneEnds stretch back) :=
  inferInstanceAs (Decidable (_ ∧ _))

/-- Where none begins in a text, none begins in the end of it. -/
theorem NoneBegins.of_append (free : NoneBegins stretch (front ++ back)) :
    NoneBegins stretch back :=
  ⟨fun occurs => free.1 (occurs.trans (List.suffix_append _ _).isInfix),
    fun first listed ended => free.2 first listed (ended.trans (List.suffix_append _ _))⟩

/-- Behind a text in which none begins are all occurrences. -/
theorem NoneBegins.infix_iff (free : NoneBegins stretch front) (back : List Char) :
    stretch <:+: front ++ back ↔ stretch <:+: back := by
  constructor
  · intro occurs
    rcases List.infix_append_iff.mp occurs with inFront | behind | straddling
    · exact absurd inFront free.1
    · exact behind
    · obtain ⟨first, last, rfl, ended, begun⟩ := straddling
      have listed : first ∈ (first ++ last).inits :=
        (List.mem_inits _ _).mpr (List.prefix_append first last)
      obtain rfl : first = [] := free.2 first listed ended
      exact begun.isInfix
  · intro behind
    exact behind.trans (List.suffix_append front back).isInfix

/-- In front of a text in which none ends are all occurrences. -/
theorem NoneEnds.infix_iff (free : NoneEnds stretch back) (front : List Char) :
    stretch <:+: front ++ back ↔ stretch <:+: front := by
  constructor
  · intro occurs
    rcases List.infix_append_iff.mp occurs with inFront | behind | straddling
    · exact inFront
    · exact absurd behind free.1
    · obtain ⟨first, last, rfl, ended, begun⟩ := straddling
      have listed : last ∈ (first ++ last).tails :=
        (List.mem_tails _ _).mpr (List.suffix_append first last)
      obtain rfl : last = [] := free.2 last listed begun
      rw [List.append_nil]
      exact ended.isInfix
  · intro inFront
    exact inFront.trans (List.prefix_append front back).isInfix

/-- No occurrence ends in a text that begins with a character that the stretch does not have,
as long as there is none behind the character. -/
theorem NoneEnds.cons {c : Char} (absent : c ∉ stretch) (nowhere : ¬stretch <:+: back) :
    NoneEnds stretch (c :: back) := by
  have noPiece {last : List Char} (into : last <+: c :: back) (part : last ⊆ stretch) :
      last = [] := by
    cases last with
    | nil => rfl
    | cons d last =>
      obtain ⟨rfl, _⟩ := List.cons_prefix_cons.mp into
      exact absurd (part List.mem_cons_self) absent
  constructor
  · intro occurs
    rcases List.infix_cons_iff.mp occurs with begins | behind
    · rw [noPiece begins (List.Subset.refl _)] at nowhere
      exact nowhere List.nil_infix
    · exact nowhere behind
  · exact fun last listed into => noPiece into ((List.mem_tails _ _).mp listed).subset

/-- A character that a stretch does not have is in no occurrence of it. -/
theorem infix_append_cons {c : Char} (absent : c ∉ stretch) :
    stretch <:+: front ++ c :: back ↔ stretch <:+: front ∨ stretch <:+: back := by
  by_cases behind : stretch <:+: back
  · have whole : stretch <:+: front ++ c :: back :=
      behind.trans ((List.suffix_cons _ _).trans (List.suffix_append _ _)).isInfix
    simp [behind, whole]
  · rw [(NoneEnds.cons absent behind).infix_iff]
    simp [behind]

/-- No occurrence begins in a text with a character that the stretch does not have, as long
as there is none in front of the character and none begins behind it. -/
theorem NoneBegins.append_cons {c : Char} (absent : c ∉ stretch) (nowhere : ¬stretch <:+: front)
    (free : NoneBegins stretch back) : NoneBegins stretch (front ++ c :: back) := by
  constructor
  · rw [infix_append_cons absent]
    exact fun occurs => occurs.elim nowhere free.1
  · intro first listed ended
    have noMember : c ∉ first := fun member =>
      absent (((List.mem_inits _ _).mp listed).subset member)
    rcases List.suffix_or_suffix_of_suffix ended (List.suffix_append front (c :: back)) with
      short | long
    · rcases List.suffix_cons_iff.mp short with rfl | behind
      · exact absurd List.mem_cons_self noMember
      · exact free.2 first listed behind
    · exact absurd (long.subset List.mem_cons_self) noMember

/-! ## The first occurrence -/

/-- A text is not cut exactly when the stretch does not occur in it. -/
theorem cutAtFirst_eq_none_iff {stretch text : List Char} :
    cutAtFirst stretch text = none ↔ ¬stretch <:+: text := by
  induction text with
  | nil => simp [cutAtFirst]
  | cons c rest inductionHypothesis =>
    simp only [cutAtFirst, List.infix_cons_iff, not_or]
    split
    · next begins => simp [List.isPrefixOf_iff_prefix.mp begins]
    · next noPrefix =>
      rw [Option.map_eq_none_iff, inductionHypothesis, ← List.isPrefixOf_iff_prefix]
      simp [noPrefix]

/-- A text is cut behind a front that does not have the first character of the stretch. -/
theorem cutAtFirst_append {c : Char} (absent : c ∉ front) (stretch back : List Char) :
    cutAtFirst (c :: stretch) (front ++ (c :: stretch ++ back)) = some (front, back) := by
  induction front with
  | nil => simp [cutAtFirst]
  | cons d front inductionHypothesis =>
    have other : c ≠ d := fun same => absent (same ▸ List.mem_cons_self)
    have later := inductionHypothesis fun member => absent (List.mem_cons_of_mem _ member)
    rw [List.cons_append, cutAtFirst, later]
    simp [other]

/-- The parts of a text that is cut, with the stretch between them, are the text. -/
theorem eq_append_of_cutAtFirst {stretch text before after : List Char}
    (cut : cutAtFirst stretch text = some (before, after)) :
    text = before ++ (stretch ++ after) := by
  induction text generalizing before with
  | nil =>
    rw [cutAtFirst] at cut
    split at cut
    · next empty =>
      obtain ⟨rfl, rfl⟩ := Prod.mk.inj (Option.some.inj cut)
      rw [List.isEmpty_iff.mp empty, List.append_nil, List.append_nil]
    · exact absurd cut nofun
  | cons c rest inductionHypothesis =>
    rw [cutAtFirst] at cut
    split at cut
    · next begins =>
      obtain ⟨behind, whole⟩ := List.isPrefixOf_iff_prefix.mp begins
      obtain ⟨rfl, rfl⟩ := Prod.mk.inj (Option.some.inj cut)
      rw [← whole, List.drop_left, List.nil_append]
    · obtain ⟨⟨inner, behind⟩, later, same⟩ := Option.map_eq_some_iff.mp cut
      obtain ⟨rfl, rfl⟩ := Prod.mk.inj same
      exact congrArg (c :: ·) (inductionHypothesis later)

end DialectBridge.Text

namespace DialectBridge.Diagnostic

/-! ## The last occurrence -/

variable {stretch text before after : List Char}

/-- A text is not cut exactly when the stretch does not occur in it. -/
theorem cutAtLast_eq_none_iff (nonempty : stretch ≠ []) :
    cutAtLast stretch text = none ↔ ¬stretch <:+: text := by
  induction text with
  | nil => simp [cutAtLast, nonempty]
  | cons c rest inductionHypothesis =>
    unfold cutAtLast
    rw [List.infix_cons_iff, not_or, ← inductionHypothesis, ← List.isPrefixOf_iff_prefix]
    cases cutAtLast stretch rest with
    | none => simp
    | some cut => simp

/-- A text is cut at an occurrence exactly when no other begins behind the beginning of it. -/
theorem cutAtLast_eq_some_iff (nonempty : stretch ≠ []) :
    cutAtLast stretch text = some (before, after) ↔
      text = before ++ (stretch ++ after) ∧ ¬stretch <:+: stretch.tail ++ after := by
  obtain ⟨first, others, rfl⟩ := List.exists_cons_of_ne_nil nonempty
  constructor
  · intro cut
    induction text generalizing before with
    | nil => simp [cutAtLast] at cut
    | cons c rest inductionHypothesis =>
      unfold cutAtLast at cut
      split at cut
      · next inner after' later =>
        obtain ⟨rfl, rfl⟩ := by simpa using cut
        obtain ⟨rfl, last⟩ := inductionHypothesis later
        exact ⟨rfl, last⟩
      · next nowhere =>
        split at cut
        · next begins =>
          obtain ⟨rest', whole⟩ := List.isPrefixOf_iff_prefix.mp begins
          obtain ⟨rfl, rfl⟩ := List.cons.inj whole
          obtain ⟨rfl, rfl⟩ : [] = before ∧ rest' = after := by simpa using cut
          exact ⟨rfl, (cutAtLast_eq_none_iff nonempty).mp nowhere⟩
        · simp at cut
  · rintro ⟨rfl, last⟩
    induction before with
    | nil =>
      have nowhere := (cutAtLast_eq_none_iff nonempty).mpr last
      simp only [List.tail_cons] at nowhere
      simp [cutAtLast, nowhere]
    | cons c before inductionHypothesis => rw [List.cons_append, cutAtLast, inductionHypothesis]

end DialectBridge.Diagnostic
