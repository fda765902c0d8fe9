import DialectBridge.Text.Blank

/-!
# Pieces of a text

A text is cut at every separator, and the pieces that are not empty are kept. So separators
at the ends or next to each other make no difference, and where one separator stands, what is
in front of it and what is behind it are cut on their own. The words of a text are its pieces
between blanks.
-/

namespace DialectBridge.Text

/-- Cutting is that of the library. -/
theorem splitAt_eq_splitOnP (separator : Char → Bool) (text : List Char) :
    splitAt separator text = text.splitOnP separator := by
  induction text with
  | nil => rfl
  | cons c rest inductionHypothesis =>
    rw [splitAt, inductionHypothesis, List.splitOnP_cons_eq_if_modifyHead]
    by_cases separates : separator c = true
    · rw [if_pos separates, if_pos separates]
    · rw [if_neg separates, if_neg separates]
      cases cut : rest.splitOnP separator with
      | nil => exact absurd cut (List.splitOnP_ne_nil separator rest)
      | cons piece pieces => rfl

/-- What is put together has its elements from the parts and from what is between them. -/
theorem mem_intercalate {α : Type} {between : List α} {parts : List (List α)} {c : α}
    (member : c ∈ between.intercalate parts) : c ∈ between ∨ ∃ part ∈ parts, c ∈ part := by
  induction parts with
  | nil => exact absurd member List.not_mem_nil
  | cons part others inductionHypothesis =>
    cases others with
    | nil =>
      rw [List.intercalate_singleton] at member
      exact .inr ⟨part, List.mem_singleton_self part, member⟩
    | cons next others =>
      rw [List.intercalate_cons_cons, List.mem_append, List.mem_append] at member
      rcases member with (first | separator) | later
      · exact .inr ⟨part, List.mem_cons_self, first⟩
      · exact .inl separator
      · rcases inductionHypothesis later with separator | ⟨other, listed, inside⟩
        · exact .inl separator
        · exact .inr ⟨other, List.mem_cons_of_mem _ listed, inside⟩

/-- The pieces of a text that are not empty, in order. -/
def pieces (separator : Char → Bool) (text : List Char) : List (List Char) :=
  (splitAt separator text).filter (!·.isEmpty)

/-- Words are pieces between blanks. -/
theorem words_eq (text : List Char) : words text = pieces isBlank text := rfl

section

variable {separator : Char → Bool}

/-- Nothing has no pieces. -/
theorem pieces_nil : pieces separator [] = [] := rfl

/-- What is in front of a separator and what is behind it are cut on their own. -/
theorem pieces_append_cons {c : Char} (separates : separator c = true) (front rest : List Char) :
    pieces separator (front ++ c :: rest) = pieces separator front ++ pieces separator rest := by
  unfold pieces
  rw [splitAt_eq_splitOnP, splitAt_eq_splitOnP, splitAt_eq_splitOnP,
    List.splitOnP_append_cons front rest separates, List.filter_append]

/-- Separators in front make no difference. -/
theorem pieces_append_of_separators {gap : List Char} (separate : ∀ c ∈ gap, separator c = true)
    (rest : List Char) : pieces separator (gap ++ rest) = pieces separator rest := by
  induction gap with
  | nil => rfl
  | cons c gap inductionHypothesis =>
    have first := pieces_append_cons (separate c (by simp)) [] (gap ++ rest)
    rw [pieces_nil, List.nil_append, List.nil_append] at first
    rw [List.cons_append, first]
    apply inductionHypothesis
    intro d member
    exact separate d (List.mem_cons_of_mem _ member)

/-- A text without separators is one piece. -/
theorem pieces_piece {piece : List Char} (nonempty : piece ≠ [])
    (none : ∀ c ∈ piece, separator c = false) : pieces separator piece = [piece] := by
  unfold pieces
  rw [splitAt_eq_splitOnP, List.splitOnP_eq_singleton none]
  simp [nonempty]

/-- A piece that separators end is followed by the pieces behind them. -/
theorem pieces_piece_append {piece gap : List Char} (nonempty : piece ≠ [])
    (none : ∀ c ∈ piece, separator c = false) (apart : gap ≠ [])
    (separate : ∀ c ∈ gap, separator c = true) (rest : List Char) :
    pieces separator (piece ++ (gap ++ rest)) = piece :: pieces separator rest := by
  obtain ⟨c, gap, rfl⟩ := List.exists_cons_of_ne_nil apart
  have others : ∀ d ∈ gap, separator d = true := by
    intro d member
    exact separate d (List.mem_cons_of_mem _ member)
  rw [List.cons_append, pieces_append_cons (separate c (by simp)), pieces_piece nonempty none,
    pieces_append_of_separators others, List.singleton_append]

/-- A text that begins with no separator has what is in front of its first separator for its
first piece. -/
theorem pieces_cons_of_inside {c : Char} (inside : separator c = false) (rest : List Char) :
    pieces separator (c :: rest) =
      (c :: rest.takeWhile (!separator ·)) :: pieces separator (rest.dropWhile (!separator ·)) := by
  have none : ∀ d ∈ c :: rest.takeWhile (!separator ·), separator d = false := by
    refine List.forall_mem_cons.mpr ⟨inside, fun d member => ?_⟩
    simpa using List.all_eq_true.mp List.all_takeWhile d member
  have whole : c :: rest =
      (c :: rest.takeWhile (!separator ·)) ++ rest.dropWhile (!separator ·) := by
    rw [List.cons_append, List.takeWhile_append_dropWhile]
  rw [whole]
  cases behind : rest.dropWhile (!separator ·) with
  | nil => rw [List.append_nil, pieces_piece (List.cons_ne_nil _ _) none, pieces_nil]
  | cons d others =>
    have separates : separator d = true := by
      have first := List.head?_dropWhile_not (!separator ·) rest
      simpa [behind] using first
    have alone := pieces_append_of_separators (List.forall_mem_singleton.mpr separates) others
    rw [List.singleton_append] at alone
    rw [pieces_append_cons separates, pieces_piece (List.cons_ne_nil _ _) none, alone,
      List.singleton_append]

/-- A character in front of another one that is no separator either makes the first piece
longer. -/
theorem pieces_cons_cons {c d : Char} (inside : separator c = false) (next : separator d = false)
    (rest : List Char) : ∃ piece others,
      pieces separator (d :: rest) = piece :: others ∧
        pieces separator (c :: d :: rest) = (c :: piece) :: others := by
  have cut (e : Char) (text : List Char) (noSeparator : separator e = false) :
      splitAt separator (e :: text) = (splitAt separator text).modifyHead (e :: ·) := by
    rw [splitAt_eq_splitOnP, splitAt_eq_splitOnP, List.splitOnP_cons_eq_if_modifyHead,
      if_neg (by simp [noSeparator])]
  cases behind : splitAt separator rest with
  | nil =>
    rw [splitAt_eq_splitOnP] at behind
    exact absurd behind (List.splitOnP_ne_nil separator rest)
  | cons first others =>
    refine ⟨d :: first, others.filter (!·.isEmpty), ?_, ?_⟩
    · simp [pieces, cut d rest next, behind]
    · simp [pieces, cut c (d :: rest) inside, cut d rest next, behind]

/-- Separators at the end make no difference. -/
theorem pieces_append_separators (text : List Char) {gap : List Char}
    (separate : ∀ c ∈ gap, separator c = true) : pieces separator (text ++ gap) =
      pieces separator text := by
  cases gap with
  | nil => rw [List.append_nil]
  | cons c gap =>
    obtain ⟨first, others⟩ := List.forall_mem_cons.mp separate
    have nothing := pieces_append_of_separators others []
    rw [List.append_nil] at nothing
    rw [pieces_append_cons first, nothing, pieces_nil, List.append_nil]

/-- No piece is empty. -/
theorem ne_nil_of_mem_pieces {text piece : List Char} (listed : piece ∈ pieces separator text) :
    piece ≠ [] := by
  have kept := (List.mem_filter.mp listed).2
  simpa using kept

/-- A piece has its characters from the text, and none of them is a separator. -/
theorem of_mem_pieces {text piece : List Char} (listed : piece ∈ pieces separator text) {c : Char}
    (member : c ∈ piece) : c ∈ text ∧ separator c = false := by
  have cut : piece ∈ splitAt separator text := (List.mem_filter.mp listed).1
  clear listed
  induction text generalizing piece with
  | nil =>
    obtain rfl := List.mem_singleton.mp cut
    exact absurd member List.not_mem_nil
  | cons first rest inductionHypothesis =>
    have behind {piece : List Char} (cut : piece ∈ splitAt separator rest) (member : c ∈ piece) :
        c ∈ first :: rest ∧ separator c = false := by
      obtain ⟨inRest, noSeparator⟩ := inductionHypothesis member cut
      exact ⟨List.mem_cons_of_mem _ inRest, noSeparator⟩
    rw [splitAt] at cut
    by_cases separates : separator first = true
    · rw [if_pos separates, List.mem_cons] at cut
      rcases cut with rfl | later
      · exact absurd member List.not_mem_nil
      · exact behind later member
    · have inside : separator first = false := Bool.eq_false_iff.mpr separates
      rw [if_neg separates] at cut
      split at cut
      · obtain rfl := List.mem_singleton.mp cut
        obtain rfl := List.mem_singleton.mp member
        exact ⟨List.mem_cons_self, inside⟩
      · next next others pieces =>
        rcases List.mem_cons.mp cut with rfl | later
        · rcases List.mem_cons.mp member with rfl | further
          · exact ⟨List.mem_cons_self, inside⟩
          · exact behind (by rw [pieces]; exact List.mem_cons_self) further
        · exact behind (by rw [pieces]; exact List.mem_cons_of_mem _ later) member

/-- What is cut at a class of characters is cut further at a wider class. Proof: a text is a
stretch without the first class, a character of it and the rest, which is shorter. -/
theorem pieces_eq_flatMap {wider : Char → Bool}
    (wide : ∀ c, separator c = true → wider c = true) (text : List Char) :
    pieces wider text = (pieces separator text).flatMap (pieces wider) := by
  have whole := text.takeWhile_append_dropWhile (p := (!separator ·))
  have none : ∀ c ∈ text.takeWhile (!separator ·), separator c = false := by
    intro c member
    simpa using List.all_eq_true.mp List.all_takeWhile c member
  generalize text.takeWhile (!separator ·) = word at whole none
  have alone : (pieces separator word).flatMap (pieces wider) = pieces wider word := by
    by_cases empty : word = []
    · rw [empty]
      rfl
    · rw [pieces_piece empty none, List.flatMap_singleton]
  cases behind : text.dropWhile (!separator ·) with
  | nil =>
    rw [behind, List.append_nil] at whole
    rw [← whole, alone]
  | cons c rest =>
    have separates : separator c = true := by
      have first := List.head?_dropWhile_not (!separator ·) text
      simpa [behind] using first
    rw [behind] at whole
    have shorter : rest.length < text.length := by
      rw [← whole, List.length_append, List.length_cons]
      omega
    rw [← whole, pieces_append_cons separates, pieces_append_cons (wide c separates),
      List.flatMap_append, alone, pieces_eq_flatMap wide rest]
termination_by text.length

end

end DialectBridge.Text
