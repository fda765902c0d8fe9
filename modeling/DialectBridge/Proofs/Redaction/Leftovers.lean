import DialectBridge.Proofs.Redaction.Matching
import DialectBridge.Proofs.Trimming
import DialectBridge.Redaction.Sensitive

/-!
# What is left after hiding

Three replacements run one after the other, and each could undo what an earlier one has done:
a marker, or the removal of a stretch, might complete a match of a shape that had been replaced
already. None does. Where a match would begin in front of a marker, the shape had begun there
before the stretch gave way to the marker: the marks are made of characters at which mail
addresses and telephone numbers end, and of a password hash that reaches a marker its opening
stands in front of it, so that any other character that is neither a blank nor a quote had
completed it as well. Cutting the text and marking the cut completes nothing either.
-/

namespace DialectBridge.Redaction

namespace Shape

/-! ## Replacements -/

/-- How a text may come out when stretches of a shape give way to a marker: a character is kept
where the shape does not begin, and a stretch that the shape matches is left out for a marker. -/
inductive Replaced (shape : Shape) (marker : List Char) : List Char → List Char → Prop
  | nil : Replaced shape marker [] []
  | keep {c : Char} {text outcome : List Char} (none : ¬shape.Begins (c :: text))
      (behind : Replaced shape marker text outcome) :
      Replaced shape marker (c :: text) (c :: outcome)
  | mark {taken text outcome : List Char} (matched : shape.Matches taken)
      (nonempty : taken ≠ []) (behind : Replaced shape marker text outcome) :
      Replaced shape marker (taken ++ text) (marker ++ outcome)

/-- Replacing the stretches of a shape that matches more than nothing keeps characters where the
shape does not begin, and puts the marker in the place of stretches that it matches.

Proof: by induction on the length of the text. A stretch is left out as a whole. -/
theorem replaced_replaceFrom {shape : Shape} (nonempty : shape.nullable = false)
    (marker text : List Char) :
    Replaced shape marker text (shape.replaceFrom marker 0 text) := by
  induction count : text.length using Nat.strongRecOn generalizing text with
  | ind count inductionHypothesis =>
    subst count
    cases text with
    | nil => exact .nil
    | cons c rest =>
      rw [replaceFrom]
      cases first : (shape.remainders (c :: rest)).head? with
      | none =>
        have none : ¬shape.Begins (c :: rest) := by
          rw [begins_iff, not_not]
          exact List.head?_eq_none_iff.mp first
        exact .keep none (inductionHypothesis _ (Nat.lt_succ_self _) rest rfl)
      | some remainder =>
        obtain ⟨taken, same, matched⟩ := mem_remainders_iff.mp (List.mem_of_mem_head? first)
        cases taken with
        | nil => exact absurd (nullable_of_matches_nil matched) (by simp [nonempty])
        | cons d stretch =>
          rw [List.cons_append] at same
          obtain ⟨rfl, rfl⟩ := List.cons.inj same
          have within : remainder.length ≤ (stretch ++ remainder).length := by simp
          have covered : (stretch ++ remainder).length - remainder.length = stretch.length := by
            simp
          have shorter : remainder.length < (c :: (stretch ++ remainder)).length := by
            simp only [List.length_cons, List.length_append]
            omega
          simp only [within, if_true, covered, replaceFrom_append]
          exact .mark matched (List.cons_ne_nil c stretch)
            (inductionHypothesis _ shorter remainder rfl)

/-- Up to the first marker the outcome is the text, and there a stretch of the shape stood. -/
theorem Replaced.first_marker {shape : Shape} {marker text outcome : List Char}
    (replaced : Replaced shape marker text outcome) : outcome = text ∨
      ∃ front taken rest behind, text = front ++ taken ++ rest ∧
        outcome = front ++ marker ++ behind ∧ shape.Matches taken ∧ taken ≠ [] := by
  induction replaced with
  | nil => exact .inl rfl
  | @keep c text outcome none replaced inductionHypothesis =>
    rcases inductionHypothesis with rfl | ⟨front, taken, rest, behind, rfl, rfl, matched, nonempty⟩
    · exact .inl rfl
    · exact .inr ⟨c :: front, taken, rest, behind, rfl, rfl, matched, nonempty⟩
  | @mark taken text outcome matched nonempty replaced inductionHypothesis =>
    exact .inr ⟨[], taken, text, outcome, rfl, rfl, matched, nonempty⟩

/-- Replacing the stretches of one shape leaves no stretch of a shape, if this one begins nowhere
in a marker, begins in front of a stretch where it begins in front of the marker in its place,
and is absent from where characters are kept. -/
theorem Replaced.absentFrom {replacedShape shape : Shape} {marker text outcome : List Char}
    (replaced : Replaced replacedShape marker text outcome)
    (noMarker : ∀ part behind, part ≠ [] → part <:+ marker → ¬shape.Begins (part ++ behind))
    (inFront : ∀ front taken rest behind, replacedShape.Matches taken → taken ≠ [] →
      shape.Begins (front ++ marker ++ behind) → shape.Begins (front ++ taken ++ rest))
    (keptWithout : ∀ rest, rest <:+ text → ¬replacedShape.Begins rest → ¬shape.Begins rest)
    (nonempty : shape.nullable = false) : shape.AbsentFrom outcome := by
  induction replaced with
  | nil =>
    rintro _ within matched
    obtain rfl := List.infix_nil.mp within
    exact absurd (nullable_of_matches_nil matched) (by simp [nonempty])
  | @keep c text outcome none replaced inductionHypothesis =>
    refine absentFrom_cons.mpr ⟨fun begins => ?_, inductionHypothesis fun rest ending =>
      keptWithout rest (ending.trans (List.suffix_cons c text))⟩
    -- a match from here on was one in the text already
    refine keptWithout (c :: text) List.suffix_rfl none ?_
    rcases replaced.first_marker with rfl | ⟨front, taken, rest, behind, rfl, rfl, matched, long⟩
    · exact begins
    · exact inFront (c :: front) taken rest behind matched long begins
  | @mark taken text outcome matched long replaced inductionHypothesis =>
    have behindAbsent : shape.AbsentFrom outcome := inductionHypothesis fun rest ending =>
      keptWithout rest (ending.trans (List.suffix_append taken text))
    exact behindAbsent.prepend fun part => noMarker part outcome

/-! ## Markers between brackets -/

/-- A shape that looks at no bracket is absent after a replacement by a marker between brackets,
if it is absent from what is written there and from where characters are kept: a match ends at
the bracket that opens the marker, and none begins in the marker and reaches out of it. -/
theorem absentFrom_replace {replacedShape shape : Shape} {marker : String} {word text : List Char}
    (bracketed : marker.toList = '[' :: word ++ [']']) (opening : shape.mentions '[' = false)
    (closing : shape.mentions ']' = false) (inWord : shape.AbsentFrom ('[' :: word))
    (keptWithout : ∀ rest, rest <:+ text → ¬replacedShape.Begins rest → ¬shape.Begins rest)
    (replacedNonempty : replacedShape.nullable = false) (nonempty : shape.nullable = false) :
    shape.AbsentFrom (replacedShape.replace marker text) := by
  refine (replaced_replaceFrom replacedNonempty marker.toList text).absentFrom ?_ ?_ keptWithout
    nonempty
  · intro part behind long ending begins
    rw [bracketed, List.suffix_concat_iff] at ending
    obtain ⟨inner, rfl, inMarker⟩ := ending.resolve_left long
    rw [List.append_assoc] at begins
    exact absentFrom_iff.mp inWord inner inMarker (begins.of_append_cons closing)
  · intro front taken rest behind matched long begins
    rw [bracketed, List.append_assoc] at begins
    rw [List.append_assoc]
    exact (begins.of_append_cons opening).append (taken ++ rest)

/-- What is absent from a text begins nowhere in it, whether a character is kept there or not. -/
theorem AbsentFrom.keptWithout {replacedShape shape : Shape} {text : List Char}
    (absent : shape.AbsentFrom text) (rest : List Char) (ending : rest <:+ text)
    (_ : ¬replacedShape.Begins rest) : ¬shape.Begins rest :=
  absentFrom_iff.mp absent rest ending

end Shape

open Shape

/-! ## Password hashes -/

/-- Characters that may stand behind the scheme of a password hash. -/
def isHashChar (c : Char) : Bool := !Text.isBlank c && c != '\''

/-- A password hash begins where a scheme stands between dollar signs and any character of a
hash stands behind. -/
theorem begins_passwordHash_iff {text : List Char} : passwordHash.Begins text ↔
    ∃ scheme c rest, text = '$' :: (scheme ++ ['$']) ++ c :: rest ∧
      hashScheme.Matches scheme ∧ isHashChar c = true := by
  constructor
  · rintro ⟨_, behind, rfl, first, _, rfl, isFirst, scheme, _, rfl, matched, second, _, rfl,
      isSecond, stretch, _, rfl, ⟨long, all⟩, _⟩
    obtain rfl := matches_exactly.mp isFirst
    obtain rfl := matches_exactly.mp isSecond
    obtain ⟨c, more, rfl⟩ := List.exists_cons_of_length_pos long
    exact ⟨scheme, c, _, by simp; rfl, matched, all c List.mem_cons_self⟩
  · rintro ⟨scheme, c, rest, rfl, matched, accepted⟩
    refine ⟨'$' :: (scheme ++ ['$', c]), rest, by simp, ['$'], scheme ++ ['$', c], rfl,
      matches_exactly.mpr rfl, scheme, ['$', c], rfl, matched, ['$'], [c], rfl,
      matches_exactly.mpr rfl, [c], [], rfl, ⟨Nat.le_refl 1, ?_⟩, Nat.zero_le 0, nofun⟩
    rintro d listed
    obtain rfl := List.mem_singleton.mp listed
    exact accepted

/-- What begins a text and does not hold a character ends in front of it. -/
theorem prefix_of_append_eq {opening more front rest : List Char} {mark : Char}
    (same : opening ++ more = front ++ mark :: rest) (absent : mark ∉ opening) :
    opening <+: front := by
  rcases List.append_eq_append_iff.mp same with ⟨between, whole, _⟩ | ⟨between, whole, cut⟩
  · exact ⟨between, whole.symm⟩
  · cases between with
    | nil => exact ⟨[], by rw [whole, List.append_nil, List.append_nil]⟩
    | cons d others =>
      obtain ⟨rfl, _⟩ := List.cons.inj cut
      exact absurd (whole ▸ List.mem_append_right front List.mem_cons_self) absent

/-- No password hash is completed by a marker in the place of a stretch that begins with a
character of a hash: up to the marker stands what opens the hash, and more of it or nothing. -/
theorem absentFrom_replace_passwordHash {replacedShape : Shape} {marker : String}
    {word text : List Char} (bracketed : marker.toList = '[' :: word) (noDollar : '$' ∉ word)
    (opensHash : ∀ c, replacedShape.opens c = true → isHashChar c = true)
    (keptWithout : ∀ rest, rest <:+ text → ¬replacedShape.Begins rest →
      ¬passwordHash.Begins rest)
    (replacedNonempty : replacedShape.nullable = false) :
    passwordHash.AbsentFrom (replacedShape.replace marker text) := by
  refine (replaced_replaceFrom replacedNonempty marker.toList text).absentFrom ?_ ?_ keptWithout
    (by decide)
  · intro part behind long ending begins
    obtain ⟨scheme, c, rest, same, _⟩ := begins_passwordHash_iff.mp begins
    obtain ⟨d, others, rfl⟩ := List.exists_cons_of_ne_nil long
    obtain ⟨rfl, _⟩ := List.cons.inj same
    rw [bracketed] at ending
    rcases List.mem_cons.mp (ending.subset List.mem_cons_self) with bracket | inWord
    · exact absurd bracket (by decide)
    · exact noDollar inWord
  · intro front taken rest behind matched long begins
    obtain ⟨scheme, c, more, same, isScheme, accepted⟩ := begins_passwordHash_iff.mp begins
    have noBracket : '[' ∉ '$' :: (scheme ++ ['$']) := by
      have inScheme : '[' ∉ scheme := fun member =>
        absurd (mentions_of_matches isScheme member) (by decide +kernel)
      simp [inScheme]
    rw [bracketed, List.append_assoc, List.cons_append] at same
    rw [begins_passwordHash_iff, List.append_assoc]
    -- no opening of a hash holds a bracket, so it ends in front of the marker
    have opened : '$' :: (scheme ++ ['$']) <+: front := prefix_of_append_eq same.symm noBracket
    obtain ⟨between, rfl⟩ := opened
    rw [List.append_assoc]
    cases between with
    | nil =>
      obtain ⟨d, others, rfl⟩ := List.exists_cons_of_ne_nil long
      exact ⟨scheme, d, others ++ rest, rfl, isScheme, opensHash d (opens_of_matches matched)⟩
    | cons d others =>
      rw [List.append_assoc, List.append_cancel_left_eq] at same
      obtain ⟨rfl, _⟩ := List.cons.inj same
      exact ⟨scheme, d, others ++ (taken ++ rest), rfl, isScheme, accepted⟩

/-! ## What opens the shapes -/

/-- Neither a blank nor the mark of a cut is a decimal digit of any script. -/
theorem isDecimalDigit_of_listed {c : Char} (listed : c.toNat ∈ '…'.toNat :: Text.blankCodes) :
    Text.isDecimalDigit c = false := by
  -- one evaluation for all codes, so that the table of digits is read only once
  have noDigits : ∀ code ∈ '…'.toNat :: Text.blankCodes,
      Text.isDecimalDigit (Char.ofNat code) = false := by
    decide +kernel
  have none := noDigits c.toNat listed
  rwa [Char.ofNat_toNat] at none

/-- No decimal digit is a blank. -/
theorem isBlank_of_isDecimalDigit {c : Char} (digit : Text.isDecimalDigit c = true) :
    Text.isBlank c = false := by
  by_contra blank
  rw [Bool.not_eq_false] at blank
  have none := isDecimalDigit_of_listed (List.mem_cons_of_mem _ (Text.toNat_mem_blankCodes blank))
  exact absurd digit (by rw [none]; decide)

/-- A telephone number looks only at decimal digits and at what stands around and between them. -/
theorem mentions_telephoneNumber {c : Char} (noDigit : Text.isDecimalDigit c = false)
    (others : c ∉ ['+', '1', '-', '.', ' ', '(', ')']) : telephoneNumber.mentions c = false := by
  simp only [List.mem_cons, List.not_mem_nil, or_false, not_or] at others
  simp [telephoneNumber, Shape.sequence, exactly, times, groupMark, mentions, Shape.empty,
    List.replicate, noDigit, others]

/-- A password hash begins with a character that may stand in one. -/
theorem isHashChar_of_opens_passwordHash {c : Char} (opens : passwordHash.opens c = true) :
    isHashChar c = true := by
  obtain rfl : c = '$' := by
    simpa [passwordHash, Shape.sequence, exactly, Shape.opens, nullable] using opens
  decide

/-- A telephone number begins with a character that may stand in a password hash. -/
theorem isHashChar_of_opens_telephoneNumber {c : Char}
    (opens : telephoneNumber.opens c = true) : isHashChar c = true := by
  have begins : c = '+' ∨ c = '1' ∨ c = '(' ∨ Text.isDecimalDigit c = true := by
    simpa [telephoneNumber, Shape.sequence, exactly, times, Shape.opens, nullable, Shape.empty,
      List.replicate, or_assoc] using opens
  rcases begins with rfl | rfl | rfl | digit
  · decide
  · decide
  · decide
  · have noQuote : c ≠ '\'' := by
      rintro rfl
      exact absurd digit (by decide)
    simp [isHashChar, isBlank_of_isDecimalDigit digit, noQuote]

/-! ## After hiding -/

/-- Nothing that is sensitive is left in a text in which all that is sensitive has been hidden. -/
theorem absentFrom_hidden (text : List Char) : mailAddress.AbsentFrom (hidden text) ∧
    passwordHash.AbsentFrom (hidden text) ∧ telephoneNumber.AbsentFrom (hidden text) := by
  have emailMarker : "[EMAIL]".toList = '[' :: "EMAIL".toList ++ [']'] := rfl
  have hashMarker : "[HASH]".toList = '[' :: "HASH".toList ++ [']'] := rfl
  have phoneMarker : "[PHONE]".toList = '[' :: "PHONE".toList ++ [']'] := rfl
  unfold hidden
  set withoutMail := mailAddress.replace "[EMAIL]" text
  set withoutHash := passwordHash.replace "[HASH]" withoutMail
  have firstMail : mailAddress.AbsentFrom withoutMail :=
    absentFrom_replace emailMarker (by decide) (by decide) (by decide +kernel)
      (fun _ _ none => none) rfl rfl
  have secondMail : mailAddress.AbsentFrom withoutHash :=
    absentFrom_replace hashMarker (by decide) (by decide) (by decide +kernel)
      firstMail.keptWithout rfl rfl
  have secondHash : passwordHash.AbsentFrom withoutHash :=
    absentFrom_replace_passwordHash hashMarker (by decide)
      (fun _ => isHashChar_of_opens_passwordHash) (fun _ _ none => none) rfl
  refine ⟨?_, ?_, ?_⟩
  · exact absentFrom_replace phoneMarker (by decide) (by decide) (by decide +kernel)
      secondMail.keptWithout rfl rfl
  · exact absentFrom_replace_passwordHash phoneMarker (by decide)
      (fun _ => isHashChar_of_opens_telephoneNumber) secondHash.keptWithout rfl
  · exact absentFrom_replace phoneMarker (by decide) (by decide) (by decide +kernel)
      (fun _ _ none => none) rfl rfl

/-! ## After the cut -/

/-- A cut text has the mark of the cut more than it may keep, at the most. -/
theorem length_shortened (limit : Nat) (text : List Char) :
    (shortened limit text).length ≤ limit + 1 := by
  unfold shortened
  split
  · next whole =>
    have short : text.length - limit = 0 := by
      rw [← List.length_drop, List.isEmpty_iff.mp whole, List.length_nil]
    omega
  · rw [List.length_append, List.length_take, List.length_singleton]
    omega

/-- Cutting a text completes no stretch of a shape that does not look at the mark of the cut. -/
theorem Shape.AbsentFrom.shortened {shape : Shape} {text : List Char}
    (absent : shape.AbsentFrom text) (unmentioned : shape.mentions '…' = false) (limit : Nat) :
    shape.AbsentFrom (shortened limit text) := by
  unfold Redaction.shortened
  split
  · exact absent
  · have kept : shape.AbsentFrom (text.take limit) :=
      absent.of_infix (List.take_prefix limit text).isInfix
    have nowhere := absentFrom_iff.mp kept
    have inMark : shape.AbsentFrom ['…'] :=
      absentFrom_cons.mpr ⟨fun begins => nowhere [] List.nil_suffix
        (Begins.of_append_cons unmentioned begins), absent.of_infix List.nil_infix⟩
    exact inMark.prepend fun part _ ending begins =>
      nowhere part ending (begins.of_append_cons unmentioned)

end DialectBridge.Redaction
