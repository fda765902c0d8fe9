import DialectBridge.Proofs.Batches.Joining

/-!
# Statements that are split stay split

What a batch is split into is a normal form: joined with semicolons, it is split into the
same statements again, and each of them is split into itself. This holds of every text,
whatever quotes and comments are left open in it. What is left open ends with the text, so
it is in the last statement, and nothing follows it when the statements are joined.

The blank that stands for a comment is enough to put in its place. When the text that the
scan leaves is scanned again, the same characters are kept and each of them stands between
the same quotes as before.
-/

namespace DialectBridge.Schema.Batch

open Text (isBlank trim)

/-! ## Scanning again -/

/-- The scan of a text, with where each mark stands. -/
def trace : Place → List Char → List (Mark × Quoting)
  | .lineComment, [] => [(.kept '\n', .outside)]
  | .blockComment _, [] => [(.kept ' ', .outside)]
  | _, [] => []
  | .outside, c :: rest =>
    if isQuote c then (.kept c, .outside) :: trace (.quoted c) rest
    else if c = ';' then (.stop, .outside) :: trace .outside rest
    else if c = '#' ∨ (c = '-' ∧ rest.head? = some '-') then trace .lineComment rest
    else if c = '/' ∧ rest.head? = some '*' then trace .commentOpening rest
    else (.kept c, .outside) :: trace .outside rest
  | .quoted quote, c :: rest =>
    (.kept c, .inside quote) ::
      (if c = '\\' ∧ escapes quote then trace (.escaped quote) rest
      else if c = quote then trace .outside rest
      else trace (.quoted quote) rest)
  | .escaped quote, c :: rest =>
    (.kept c, .afterBackslash quote) :: trace (.quoted quote) rest
  | .lineComment, c :: rest =>
    if c = '\n' then (.kept '\n', .outside) :: trace .outside rest else trace .lineComment rest
  | .commentOpening, _ :: rest => trace (.blockComment false) rest
  | .blockComment afterStar, c :: rest =>
    if afterStar ∧ c = '/' then (.kept ' ', .outside) :: trace .outside rest
    else trace (.blockComment (c == '*')) rest

/-- A trace has the marks of the scan. -/
theorem map_fst_trace (place : Place) (text : List Char) :
    (trace place text).map Prod.fst = scan place text := by
  fun_induction trace place text with
  | case1 | case2 | case3 | case4 | case5 | case6 | case7 => simp_all [scan]
  | case8 c rest noQuote noStop noLine noBlock inductionHypothesis =>
    rw [List.map_cons, scan, if_neg noQuote, if_neg noStop, if_neg noLine, if_neg noBlock,
      inductionHypothesis]
  | case9 quote c rest afterBackslash outside inside =>
    simp only [List.map_cons, scan]
    split
    · rw [afterBackslash]
    · split
      · rw [outside]
      · rw [inside]
  | case10 | case11 | case12 | case13 | case14 | case15 => simp_all [scan]

/-- The character of a mark. -/
def Mark.char : Mark → Char
  | kept c => c
  | stop => ';'

/-- A text with a blank in the place of every comment. -/
def uncommented (place : Place) (text : List Char) : List Char := (scan place text).map Mark.char

/-- One character that can begin a text is kept where it stands. -/
theorem trace_cons (start : Quoting) {c : Char} {rest : List Char}
    (opens : start = .outside → Opens c rest) :
    trace start.place (c :: rest) = (.kept c, start) :: trace (start.next c).place rest := by
  cases start with
  | outside =>
    obtain ⟨noStop, noHash, noDashes, noBlock⟩ := opens rfl
    cases quote : isQuote c with
    | true => simp [Quoting.place, Quoting.next, trace, quote]
    | false => simp [Quoting.place, Quoting.next, trace, quote, noStop, noHash, noDashes, noBlock]
  | inside quote =>
    simp only [Quoting.place, Quoting.next, trace]
    split
    · rfl
    · split <;> rfl
  | afterBackslash quote => rfl

/-- Outside of quotes, the text that is left begins with a character other than a blank only
where the text did. -/
theorem head?_uncommented {text : List Char} {c : Char} (noBlank : isBlank c = false)
    (noStop : c ≠ ';') (head : (uncommented .outside text).head? = some c) :
    text.head? = some c := by
  refine head?_scan_outside noBlank ?_
  rw [uncommented, List.head?_map, Option.map_eq_some_iff] at head
  obtain ⟨mark, first, same⟩ := head
  cases mark with
  | kept d => rw [first, ← same, Mark.char]
  | stop => exact absurd same.symm noStop

/-- A blank outside of quotes is kept there. -/
theorem trace_of_isBlank {c : Char} (blank : isBlank c = true) (rest : List Char) :
    trace .outside (c :: rest) = (.kept c, .outside) :: trace .outside rest := by
  have kept := trace_cons .outside fun _ => opens_of_isBlank blank rest
  rwa [Quoting.next_of_isBlank blank] at kept

/-- The text that is left is traced as the text was. Induct along the scan: a character that
is kept begins no comment the second time either, as what follows it is what followed it
before or a blank. -/
theorem trace_uncommented (place : Place) (text : List Char) :
    trace place.quoting.place (uncommented place text) = trace place text := by
  unfold uncommented
  fun_induction scan place text with
  | case1 => rfl
  | case2 => rfl
  | case3 place noLine noBlock => cases place <;> simp_all [trace, Place.quoting, Quoting.place]
  | case4 c rest quote inductionHypothesis =>
    have kept := trace_cons .outside fun _ =>
      opens_of_isQuote quote (uncommented (.quoted c) rest)
    simp only [Quoting.next, quote, if_true] at kept
    rw [trace, if_pos quote, ← inductionHypothesis]
    exact kept
  | case5 rest noQuote inductionHypothesis =>
    rw [List.map_cons, Mark.char, trace, if_neg noQuote, if_pos rfl, ← inductionHypothesis]
    simp only [Place.quoting, Quoting.place, trace, if_neg noQuote, if_pos]
  | case6 c rest noQuote noStop line inductionHypothesis =>
    rw [trace, if_neg noQuote, if_neg noStop, if_pos line]
    exact inductionHypothesis
  | case7 c rest noQuote noStop noLine block inductionHypothesis =>
    rw [trace, if_neg noQuote, if_neg noStop, if_neg noLine, if_pos block]
    exact inductionHypothesis
  | case8 c rest noQuote noStop noLine noBlock inductionHypothesis =>
    have opens : Opens c (uncommented .outside rest) := by
      refine ⟨noStop, fun hash => noLine (.inl hash), fun both => noLine (.inr ⟨both.1, ?_⟩),
        fun both => noBlock ⟨both.1, ?_⟩⟩
      · exact head?_uncommented (by decide) (by decide) both.2
      · exact head?_uncommented (by decide) (by decide) both.2
    have kept := trace_cons .outside fun _ => opens
    simp only [Quoting.next, noQuote] at kept
    rw [trace, if_neg noQuote, if_neg noStop, if_neg noLine, if_neg noBlock, ← inductionHypothesis]
    exact kept
  | case9 quote c rest afterBackslash outside inside =>
    refine (@trace_cons (.inside quote) c _ (by simp)).trans ?_
    simp only [Quoting.next, trace]
    split
    · rw [← afterBackslash]
      rfl
    · split
      · rw [← outside]
        rfl
      · rw [← inside]
        rfl
  | case10 quote c rest inductionHypothesis =>
    rw [trace, ← inductionHypothesis]
    exact trace_cons (.afterBackslash quote) (by simp)
  | case11 rest inductionHypothesis =>
    rw [trace, if_pos rfl, ← inductionHypothesis]
    exact trace_of_isBlank (by decide) _
  | case12 c rest goesOn inductionHypothesis =>
    rw [trace, if_neg goesOn]
    exact inductionHypothesis
  | case13 c rest inductionHypothesis =>
    rw [trace]
    exact inductionHypothesis
  | case14 afterStar c rest closes inductionHypothesis =>
    rw [trace, if_pos closes, ← inductionHypothesis]
    exact trace_of_isBlank (by decide) _
  | case15 afterStar c rest goesOn inductionHypothesis =>
    rw [trace, if_neg goesOn]
    exact inductionHypothesis

/-! ## Joining what has been split -/

/-- Stretches that are separated hold statements, of which each but the last ends outside of
quotes. -/
theorem Separated.exists_statements {start : Quoting} {texts : List (List Char)}
    (separated : Separated start texts) (begun : start = .outside) :
    ∃ found : List Statement,
      (texts.map trim).filter (!·.isEmpty) = found.map (·.text) ∧
        ∀ statement ∈ found.dropLast, Quoting.outside.after statement.text = .outside := by
  induction separated with
  | last unbroken =>
    subst begun
    rename_i text
    cases empty : (trim text).isEmpty with
    | true => exact ⟨[], by simp [empty], by simp⟩
    | false =>
      refine ⟨[⟨trim text, by simpa using empty, Text.trimmed_trim text, unbroken.trim⟩], ?_, ?_⟩
      · simp [empty]
      · simp
  | followed unbroken closed _ inductionHypothesis =>
    subst begun
    rename_i text others _
    obtain ⟨found, same, ends⟩ := inductionHypothesis rfl
    cases empty : (trim text).isEmpty with
    | true => exact ⟨found, by simp [empty, same], ends⟩
    | false =>
      refine ⟨⟨trim text, by simpa using empty, Text.trimmed_trim text, unbroken.trim⟩ :: found,
        ?_, ?_⟩
      · simp [empty, same]
      · intro statement member
        cases found with
        | nil => simp at member
        | cons next found =>
          rcases List.mem_cons.mp member with rfl | later
          · exact Quoting.after_trim closed
          · exact ends statement later

/-- A text is split into statements, of which each but the last ends outside of quotes. -/
theorem exists_statements (text : List Char) :
    ∃ found : List Statement, statements text = found.map (·.text) ∧
      ∀ statement ∈ found.dropLast, Quoting.outside.after statement.text = .outside :=
  (separated_scan .outside text).exists_statements rfl

/-- Statements that are joined with semicolons are what that is split into. Induct on the
statements: only the last can end between quotes, and nothing is behind it. -/
theorem statements_intercalate (found : List Statement)
    (closed : ∀ statement ∈ found.dropLast, Quoting.outside.after statement.text = .outside) :
    statements ([';'].intercalate (found.map (·.text))) = found.map (·.text) := by
  induction found with
  | nil => rfl
  | cons statement found inductionHypothesis =>
    cases found with
    | nil => simpa using statement.statements_text
    | cons next found =>
      have ended : Quoting.outside.after statement.text = .outside := closed statement (by simp)
      have others := inductionHypothesis fun later member =>
        closed later (List.mem_cons_of_mem _ member)
      have kept (rest : List Char) : scan .outside (statement.text ++ ';' :: rest) =
          statement.text.map .kept ++ .stop :: scan .outside rest := by
        have left := scan_append statement.unbroken (apart_stop rest)
        rw [ended] at left
        exact left.trans (congrArg _ (Filler.scan_text .stop rest))
      have cut (marks : List Mark) := statement.statementsOf_append_stop Text.all_blank_nil marks
      simp only [List.append_nil] at cut
      simp only [List.map_cons, List.intercalate_cons_cons, List.append_assoc,
        List.singleton_append] at others ⊢
      rw [statements_eq, kept, cut, ← statements_eq, others]

/-- What a text is split into is a normal form. Joined with semicolons it is split into the
same statements again, and each statement is split into itself: outside of its quotes there
is no end of a statement and no beginning of a comment. The text with blanks for its
comments is scanned like the text, with the same characters between the same quotes. -/
theorem split_normal_form (batch : String) :
    split (";".intercalate (split batch)) = split batch ∧
      (∀ statement ∈ split batch,
        split statement = [statement] ∧ Unbroken .outside statement.toList) ∧
      trace .outside (uncommented .outside batch.toList) = trace .outside batch.toList := by
  obtain ⟨found, same, closed⟩ := exists_statements batch.toList
  have listed : split batch = found.map fun statement => String.ofList statement.text := by
    rw [split, same, List.map_map]
    rfl
  refine ⟨?_, ?_, trace_uncommented .outside batch.toList⟩
  · have joined : (";".intercalate (split batch)).toList =
        [';'].intercalate (found.map (·.text)) := by
      rw [listed, String.toList_intercalate, List.map_map]
      simp [Function.comp_def]
    rw [split, joined, statements_intercalate found closed, listed, List.map_map]
    rfl
  · intro statement member
    rw [listed] at member
    obtain ⟨one, _, rfl⟩ := List.mem_map.mp member
    refine ⟨?_, ?_⟩
    · rw [split, String.toList_ofList, one.statements_text]
      rfl
    · rw [String.toList_ofList]
      exact one.unbroken

/-- A statement that ends between quotes, behind a backslash, and is the last of its batch is
split into itself. -/
theorem open_quote_split :
    "SELECT 'a;\\" ∈ split "SELECT 1 -/* ; */- 2; -- it's\nSELECT 'a;\\ " ∧
      split "SELECT 'a;\\" = ["SELECT 'a;\\"] ∧ Unbroken .outside "SELECT 'a;\\".toList := by
  have member : "SELECT 'a;\\" ∈ split "SELECT 1 -/* ; */- 2; -- it's\nSELECT 'a;\\ " := by
    decide +kernel
  exact ⟨member, (split_normal_form _).2.1 _ member⟩

end DialectBridge.Schema.Batch
