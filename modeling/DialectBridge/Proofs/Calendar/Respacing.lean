import DialectBridge.Calendar.Interval
import DialectBridge.Proofs.Pieces
import DialectBridge.Proofs.Trimming
import DialectBridge.Proofs.Characters

/-!
# Texts with single spaces

The quantity of an interval is taken apart into words and put together again with single
spaces. That changes no more than the stretches of blanks: every character that is no blank
stays, in its order, blanks are left between characters exactly where there were some, and
the pieces between blanks and further separators are the same.
-/

namespace DialectBridge.Calendar.Interval

open Text (isBlank words pieces)

/-- A text with single spaces between its words and no other blanks. -/
def respaced (text : List Char) : List Char := joinWords (words text)

/-- A word with further ones behind it. -/
theorem joinWords_cons (word : List Char) {others : List (List Char)} (nonempty : others ≠ []) :
    joinWords (word :: others) = word ++ ' ' :: joinWords others := by
  cases others with
  | nil => exact absurd rfl nonempty
  | cons next rest => rfl

/-- Joined words have the characters of the words and spaces. -/
theorem of_mem_joinWords {listed : List (List Char)} {c : Char} (member : c ∈ joinWords listed) :
    c = ' ' ∨ ∃ word ∈ listed, c ∈ word := by
  induction listed with
  | nil => exact absurd member List.not_mem_nil
  | cons word others inductionHypothesis =>
    by_cases alone : others = []
    · subst alone
      exact .inr ⟨word, List.mem_cons_self, member⟩
    · rw [joinWords_cons word alone, List.mem_append, List.mem_cons] at member
      rcases member with inWord | space | later
      · exact .inr ⟨word, List.mem_cons_self, inWord⟩
      · exact .inl space
      · refine (inductionHypothesis later).imp_right ?_
        rintro ⟨other, inOthers, inside⟩
        exact ⟨other, List.mem_cons_of_mem _ inOthers, inside⟩

/-- The characters of a text with single spaces are spaces or in the text. -/
theorem of_mem_respaced {text : List Char} {c : Char} (member : c ∈ respaced text) :
    c = ' ' ∨ c ∈ text := by
  refine (of_mem_joinWords member).imp_right ?_
  rintro ⟨word, listed, inside⟩
  exact (Text.of_mem_pieces listed inside).1

/-! ## Ends -/

section

variable {blanks : List Char} (blank : ∀ c ∈ blanks, isBlank c = true) (text : List Char)

include blank

/-- Blanks in front are left out. -/
theorem respaced_blanks_append : respaced (blanks ++ text) = respaced text := by
  unfold respaced
  rw [Text.words_eq, Text.words_eq, Text.pieces_append_of_separators blank]

/-- Blanks at the end are left out. -/
theorem respaced_append_blanks : respaced (text ++ blanks) = respaced text := by
  unfold respaced
  rw [Text.words_eq, Text.words_eq, Text.pieces_append_separators text blank]

end

/-- The space that stays in front of a text that begins with a blank. -/
def spaceBefore (text : List Char) : List Char :=
  match text.head? with
  | some c => if isBlank c then [' '] else []
  | none => []

/-- What stays in front of a text is a space. -/
theorem of_mem_spaceBefore {text : List Char} {c : Char} (member : c ∈ spaceBefore text) :
    c = ' ' := by
  unfold spaceBefore at member
  split at member
  · split at member
    · exact List.mem_singleton.mp member
    · exact absurd member List.not_mem_nil
  · exact absurd member List.not_mem_nil

/-- No space stays in front of a text that begins with no blank. -/
theorem spaceBefore_of_visible {c : Char} (visible : isBlank c = false) (rest : List Char) :
    spaceBefore (c :: rest) = [] := by
  simp [spaceBefore, visible]

/-- A character that is no blank stays, and a space behind it if blanks were there. -/
theorem respaced_cons {c : Char} (visible : isBlank c = false) {text : List Char}
    (nonempty : words text ≠ []) :
    respaced (c :: text) = c :: (spaceBefore text ++ respaced text) := by
  cases text with
  | nil => exact absurd rfl nonempty
  | cons d rest =>
    unfold respaced spaceBefore
    simp only [List.head?_cons]
    by_cases blank : isBlank d = true
    · have apart : words (c :: d :: rest) = [c] :: words rest := by
        have cut := Text.pieces_append_cons blank [c] rest
        have alone : pieces isBlank [c] = [[c]] := Text.pieces_piece (List.cons_ne_nil c [])
          (List.forall_mem_singleton.mpr visible)
        rwa [alone] at cut
      have behind : words (d :: rest) = words rest :=
        Text.pieces_append_of_separators (List.forall_mem_singleton.mpr blank) rest
      rw [behind] at nonempty
      rw [apart, behind, joinWords_cons [c] nonempty, if_pos blank]
      rfl
    · obtain ⟨piece, others, next, whole⟩ :=
        Text.pieces_cons_cons visible (Bool.eq_false_iff.mpr blank) rest
      rw [Text.words_eq, Text.words_eq, next, whole, if_neg blank, List.nil_append]
      cases others <;> rfl

/-- One character that is no blank is a word. -/
theorem respaced_singleton {c : Char} (visible : isBlank c = false) : respaced [c] = [c] := by
  unfold respaced
  rw [Text.words_eq, Text.pieces_piece (List.cons_ne_nil c [])
    (List.forall_mem_singleton.mpr visible)]
  rfl

/-- A text has no words if it has nothing but blanks. -/
theorem words_eq_nil_iff {text : List Char} :
    words text = [] ↔ ∀ c ∈ text, isBlank c = true := by
  constructor
  · intro none
    induction text with
    | nil => exact Text.all_blank_nil
    | cons c rest inductionHypothesis =>
      by_cases blank : isBlank c = true
      · have dropped := Text.pieces_append_of_separators (List.forall_mem_singleton.mpr blank) rest
        rw [Text.words_eq, ← List.singleton_append, dropped] at none
        exact List.forall_mem_cons.mpr ⟨blank, inductionHypothesis none⟩
      · have visible : isBlank c = false := Bool.eq_false_iff.mpr blank
        have kept : respaced (c :: rest) ≠ [] := by
          by_cases alone : words rest = []
          · have blankRest := respaced_append_blanks (inductionHypothesis alone) [c]
            rw [← List.singleton_append, blankRest, respaced_singleton visible]
            exact List.cons_ne_nil _ _
          · rw [respaced_cons visible alone]
            exact List.cons_ne_nil _ _
        unfold respaced at kept
        rw [none] at kept
        exact absurd rfl kept
  · intro blank
    have dropped := Text.pieces_append_of_separators blank []
    rwa [List.append_nil] at dropped

/-- A text with a character that is no blank has words. -/
theorem words_ne_nil_of_mem {text : List Char} {c : Char} (member : c ∈ text)
    (visible : isBlank c = false) : words text ≠ [] := fun none =>
  Bool.false_ne_true (visible.symm.trans (words_eq_nil_iff.mp none c member))

/-- A character in front that is no blank stays in front. -/
theorem exists_respaced_cons {c : Char} (visible : isBlank c = false) (text : List Char) :
    ∃ rest, respaced (c :: text) = c :: rest := by
  by_cases alone : words text = []
  · have front := respaced_append_blanks (words_eq_nil_iff.mp alone) [c]
    refine ⟨[], ?_⟩
    rw [← List.singleton_append, front, respaced_singleton visible]
  · exact ⟨_, respaced_cons visible alone⟩

/-- A character that is no blank stays at the end, and perhaps a space in front of it. Proof: by
the characters in front, each of which stays as it does without the last one. -/
theorem respaced_append {c : Char} (visible : isBlank c = false) {text : List Char}
    (nonempty : words text ≠ []) :
    ∃ gap, (∀ d ∈ gap, d = ' ') ∧ respaced (text ++ [c]) = respaced text ++ (gap ++ [c]) := by
  induction text with
  | nil => exact absurd rfl nonempty
  | cons d rest inductionHypothesis =>
    have ended : words (rest ++ [c]) ≠ [] := words_ne_nil_of_mem (by simp) visible
    by_cases blank : isBlank d = true
    · have single : ∀ e ∈ [d], isBlank e = true := List.forall_mem_singleton.mpr blank
      have dropped : words ([d] ++ rest) = words rest :=
        Text.pieces_append_of_separators single rest
      have front := respaced_blanks_append single rest
      have whole := respaced_blanks_append single (rest ++ [c])
      rw [List.singleton_append] at dropped front whole
      rw [dropped] at nonempty
      rw [List.cons_append, whole, front]
      exact inductionHypothesis nonempty
    · have stays : isBlank d = false := Bool.eq_false_iff.mpr blank
      rw [List.cons_append, respaced_cons stays ended]
      by_cases alone : words rest = []
      · -- only blanks stand between the two characters
        have blanks := words_eq_nil_iff.mp alone
        have front : respaced (d :: rest) = [d] := by
          rw [← List.singleton_append, respaced_append_blanks blanks, respaced_singleton stays]
        refine ⟨spaceBefore (rest ++ [c]), fun e => of_mem_spaceBefore, ?_⟩
        rw [front, respaced_blanks_append blanks, respaced_singleton visible,
          List.singleton_append]
      · obtain ⟨gap, spaces, kept⟩ := inductionHypothesis alone
        have sameHead : spaceBefore (rest ++ [c]) = spaceBefore rest := by
          cases rest with
          | nil => exact absurd rfl alone
          | cons e others => rfl
        refine ⟨gap, spaces, ?_⟩
        rw [kept, sameHead, respaced_cons stays alone, List.cons_append, List.append_assoc]

/-- Words that are joined are some text. -/
theorem joinWords_ne_nil {listed : List (List Char)} (nonempty : listed ≠ [])
    (words : ∀ word ∈ listed, word ≠ []) : joinWords listed ≠ [] := by
  obtain ⟨first, rest, rfl⟩ := List.exists_cons_of_ne_nil nonempty
  have firstNonempty := words first List.mem_cons_self
  cases rest with
  | nil => exact firstNonempty
  | cons _ _ => exact List.append_ne_nil_of_left_ne_nil firstNonempty _

/-- Words that are joined have no blank in front of the first and behind the last. -/
theorem trimmed_joinWords {listed : List (List Char)}
    (visible : ∀ word ∈ listed, word ≠ [] ∧ ∀ c ∈ word, isBlank c = false) :
    Text.Trimmed (joinWords listed) := by
  induction listed with
  | nil => constructor <;> simp [joinWords]
  | cons word others inductionHypothesis =>
    obtain ⟨⟨nonempty, visibleWord⟩, visibleOthers⟩ := List.forall_mem_cons.mp visible
    by_cases alone : others = []
    · subst alone
      constructor
      · exact fun c head => visibleWord c (List.mem_of_mem_head? head)
      · exact fun c last => visibleWord c (List.mem_of_getLast? last)
    · have trimmed := inductionHypothesis visibleOthers
      have joined : joinWords others ≠ [] :=
        joinWords_ne_nil alone fun next listed => (visibleOthers next listed).1
      rw [joinWords_cons word alone]
      constructor
      · intro c head
        rw [List.head?_append, List.head?_eq_some_head nonempty, Option.some_or] at head
        obtain rfl := Option.some.inj head
        exact visibleWord _ (List.head_mem nonempty)
      · intro c last
        have behind : (' ' :: joinWords others).getLast? = (joinWords others).getLast? :=
          List.getLast?_cons_of_ne_nil joined
        rw [List.getLast?_append, behind, List.getLast?_eq_some_getLast joined,
          Option.some_or] at last
        exact trimmed.back c ((List.getLast?_eq_some_getLast joined).trans last)

/-- A text with words has some with single spaces. -/
theorem respaced_ne_nil {text : List Char} (nonempty : words text ≠ []) : respaced text ≠ [] :=
  joinWords_ne_nil nonempty fun _ listed => Text.ne_nil_of_mem_pieces listed

/-- A text with single spaces has no blanks at its ends. -/
theorem trimmed_respaced (text : List Char) : Text.Trimmed (respaced text) := by
  apply trimmed_joinWords
  intro word listed
  constructor
  · exact Text.ne_nil_of_mem_pieces listed
  · exact fun c member => (Text.of_mem_pieces listed member).2

/-! ## Pieces -/

/-- What blanks and further separators cut out of a text is the same with single spaces. -/
theorem pieces_respaced {separator : Char → Bool}
    (wide : ∀ c, isBlank c = true → separator c = true) (text : List Char) :
    pieces separator (respaced text) = pieces separator text := by
  have joined (listed : List (List Char)) :
      pieces separator (joinWords listed) = listed.flatMap (pieces separator) := by
    induction listed with
    | nil => rfl
    | cons word others inductionHypothesis =>
      by_cases alone : others = []
      · subst alone
        rw [List.flatMap_singleton]
        rfl
      · rw [joinWords_cons word alone, Text.pieces_append_cons (wide ' ' (by decide)),
          inductionHypothesis, List.flatMap_cons]
  unfold respaced
  rw [joined, Text.words_eq, ← Text.pieces_eq_flatMap wide]

end DialectBridge.Calendar.Interval
