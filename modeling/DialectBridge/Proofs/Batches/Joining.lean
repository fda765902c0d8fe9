import DialectBridge.Proofs.Batches.Quoting

/-!
# Splitting undoes joining

A batch is put together from statements and from fillers before, between and after them:
blanks, ends of statements and comments. The scan leaves one mark of every filler, a blank
or the end of a statement, so nothing but the statements is left when blanks are dropped
and empty statements are skipped. The main statement is that splitting gives the
statements back, whatever the fillers are, as long as one between any two of them ends a
statement and none completes a comment that begins in a statement.
-/

namespace DialectBridge.Schema.Batch

open Text (isBlank trim Trimmed)

/-! ## Statements -/

/-- A statement as it can stand in a batch: there is something in it, it has no blanks at
its ends, and nothing outside of its quotes ends it or begins a comment. -/
structure Statement where
  text : List Char
  nonempty : text ≠ []
  trimmed : Trimmed text
  unbroken : Unbroken .outside text

/-- The statements in what the scan leaves. -/
def statementsOf (marks : List Mark) : List (List Char) :=
  ((stretches marks).map trim).filter (!·.isEmpty)

/-- Splitting a text is finding the statements in what the scan leaves of it. -/
theorem statements_eq (text : List Char) : statements text = statementsOf (scan .outside text) :=
  rfl

/-- There is no statement in nothing. -/
@[simp] theorem statementsOf_nil : statementsOf [] = [] := by
  decide

/-- Nothing stands before the end of a statement in front. -/
@[simp] theorem statementsOf_stop (marks : List Mark) :
    statementsOf (.stop :: marks) = statementsOf marks := by
  have nothing : trim [] = [] := rfl
  simp [statementsOf, stretches, nothing]

/-- A blank in front belongs to no statement. -/
theorem statementsOf_blank {c : Char} (blank : isBlank c = true) (marks : List Mark) :
    statementsOf (.kept c :: marks) = statementsOf marks := by
  obtain ⟨first, others, cut⟩ := stretches_cons marks
  simp [statementsOf, stretches_kept cut, cut, Text.trim_cons_of_isBlank blank]

/-- Characters that are kept go in front of the first stretch. -/
theorem stretches_append {marks : List Mark} {first : List Char} {others : List (List Char)}
    (cut : stretches marks = first :: others) (text : List Char) :
    stretches (text.map .kept ++ marks) = (text ++ first) :: others := by
  induction text with
  | nil => exact cut
  | cons c text inductionHypothesis => exact stretches_kept inductionHypothesis c

/-- The end of a statement behind everything else changes nothing. -/
theorem statementsOf_concat_stop (marks : List Mark) :
    statementsOf (marks ++ [.stop]) = statementsOf marks := by
  have cut : stretches (marks ++ [.stop]) = stretches marks ++ [[]] := by
    induction marks with
    | nil => rfl
    | cons mark marks inductionHypothesis =>
      obtain ⟨first, others, cut⟩ := stretches_cons marks
      cases mark with
      | stop => simp [stretches, inductionHypothesis]
      | kept c =>
        rw [cut] at inductionHypothesis
        rw [List.cons_append, stretches_kept inductionHypothesis, stretches_kept cut]
        rfl
  have nothing : trim [] = [] := rfl
  simp [statementsOf, cut, nothing]

namespace Statement

variable (statement : Statement) {blanks : List Char}

/-- Blanks after a statement do not belong to it. -/
theorem trim_append (all : ∀ c ∈ blanks, isBlank c = true) :
    trim (statement.text ++ blanks) = statement.text :=
  Text.trim_append statement.trimmed Text.all_blank_nil all

/-- A statement is found before its end, with blanks after it or without. -/
theorem statementsOf_append_stop (all : ∀ c ∈ blanks, isBlank c = true) (marks : List Mark) :
    statementsOf ((statement.text ++ blanks).map .kept ++ .stop :: marks) =
      statement.text :: statementsOf marks := by
  have cut : stretches ((statement.text ++ blanks).map .kept ++ .stop :: marks) =
      (statement.text ++ blanks) :: stretches marks := by
    rw [stretches_append (stretches_stop marks), List.append_nil]
  rw [statementsOf, cut]
  simp [statementsOf, statement.trim_append all, statement.nonempty]

/-- A statement is what it is split into, also when it ends between quotes. -/
theorem statements_text : statements statement.text = [statement.text] := by
  have kept : scan .outside statement.text = statement.text.map .kept :=
    scan_of_unbroken statement.unbroken
  have found := statement.statementsOf_append_stop Text.all_blank_nil []
  rw [List.append_nil, statementsOf_concat_stop, statementsOf_nil] at found
  rw [statements_eq, kept, found]

end Statement

/-! ## Fillers -/

/-- What can stand between statements: a blank, the end of a statement, a comment that ends
with its line, and a comment that is closed. -/
inductive Filler where
  | blank (c : Char) (blank : isBlank c = true)
  | stop
  | lineComment (opening body : List Char) (opens : opening ∈ [['#'], ['-', '-']])
      (oneLine : '\n' ∉ body)
  | blockComment (body : List Char) (inside : ¬['*', '/'] <:+: body)

namespace Filler

/-- The text of a filler. -/
def text : Filler → List Char
  | blank c _ => [c]
  | stop => [';']
  | lineComment opening body _ _ => opening ++ body ++ ['\n']
  | blockComment body _ => ['/', '*'] ++ body ++ ['*', '/']

/-- The text of fillers. -/
def textOf (fillers : List Filler) : List Char := fillers.flatMap text

/-- What the scan leaves of a filler. -/
def mark : Filler → Mark
  | blank c _ => .kept c
  | stop => .stop
  | lineComment .. => .kept '\n'
  | blockComment .. => .kept ' '

/-- A filler that ends no statement leaves a blank. -/
theorem mark_cases (filler : Filler) :
    filler = stop ∨ ∃ c, isBlank c = true ∧ filler.mark = .kept c := by
  cases filler with
  | blank c blank => exact .inr ⟨c, blank, rfl⟩
  | stop => exact .inl rfl
  | lineComment => exact .inr ⟨'\n', by decide, rfl⟩
  | blockComment => exact .inr ⟨' ', by decide, rfl⟩

/-- A comment goes on to the end of its line. -/
theorem scan_line {body : List Char} (oneLine : '\n' ∉ body) (rest : List Char) :
    scan .lineComment (body ++ '\n' :: rest) = .kept '\n' :: scan .outside rest := by
  induction body with
  | nil => simp [scan]
  | cons c body inductionHypothesis =>
    have noEnd : c ≠ '\n' := fun same => oneLine (by simp [same])
    have later : '\n' ∉ body := fun member => oneLine (List.mem_cons_of_mem _ member)
    simp [scan, noEnd, inductionHypothesis later]

/-- A comment goes on to the first slash after a star. Induct on what stands before its end;
where the last character was a star, that star counts. -/
theorem scan_block {body : List Char} {afterStar : Bool}
    (inside : ¬['*', '/'] <:+: (if afterStar then '*' :: body else body)) (rest : List Char) :
    scan (.blockComment afterStar) (body ++ ['*', '/'] ++ rest) =
      .kept ' ' :: scan .outside rest := by
  induction body generalizing afterStar with
  | nil => simp [scan]
  | cons c body inductionHypothesis =>
    have goesOn : ¬(afterStar = true ∧ c = '/') := by
      rintro ⟨rfl, rfl⟩
      exact inside ⟨[], body, rfl⟩
    have later : ¬['*', '/'] <:+: (if (c == '*') = true then '*' :: body else body) := by
      have shorter : (if (c == '*') = true then '*' :: body else body) <:+:
          (if afterStar = true then '*' :: c :: body else c :: body) := by
        have whole : c :: body <:+: (if afterStar = true then '*' :: c :: body else c :: body) := by
          split
          · exact (List.suffix_cons '*' (c :: body)).isInfix
          · exact List.infix_rfl
        split
        · next star =>
          obtain rfl : c = '*' := by simpa using star
          exact whole
        · exact (List.suffix_cons c body).isInfix.trans whole
      exact fun found => inside (found.trans shorter)
    rw [List.cons_append, List.cons_append, scan, if_neg goesOn]
    exact inductionHypothesis later

/-- The scan leaves one mark of a filler and goes on behind it. -/
theorem scan_text (filler : Filler) (rest : List Char) :
    scan .outside (filler.text ++ rest) = filler.mark :: scan .outside rest := by
  cases filler with
  | blank c blank =>
    have kept := scan_cons .outside fun _ => opens_of_isBlank blank rest
    rwa [Quoting.next_of_isBlank blank] at kept
  | stop =>
    have noQuote : isQuote ';' = false := by decide
    simp [text, mark, scan, noQuote]
  | lineComment opening body opens oneLine =>
    have ended := scan_line oneLine rest
    rcases (by simpa using opens : opening = ['#'] ∨ opening = ['-', '-']) with rfl | rfl
    · have noQuote : isQuote '#' = false := by decide
      simpa [text, mark, scan, noQuote] using ended
    · have noQuote : isQuote '-' = false := by decide
      simpa [text, mark, scan, noQuote] using ended
  | blockComment body inside =>
    have noQuote : isQuote '/' = false := by decide
    have ended := @scan_block body false (by simpa using inside) rest
    simpa [text, mark, scan, noQuote] using ended

/-- The scan leaves the marks of fillers. -/
theorem scan_textOf (fillers : List Filler) (rest : List Char) :
    scan .outside (textOf fillers ++ rest) = fillers.map mark ++ scan .outside rest := by
  induction fillers with
  | nil => rfl
  | cons filler fillers inductionHypothesis =>
    have text : textOf (filler :: fillers) ++ rest = filler.text ++ (textOf fillers ++ rest) := by
      simp [textOf]
    rw [text, scan_text, inductionHypothesis]
    rfl

/-- Fillers are no statements. -/
theorem statementsOf_append (fillers : List Filler) (marks : List Mark) :
    statementsOf (fillers.map mark ++ marks) = statementsOf marks := by
  induction fillers with
  | nil => rfl
  | cons filler fillers inductionHypothesis =>
    rw [List.map_cons, List.cons_append]
    rcases filler.mark_cases with rfl | ⟨c, blank, left⟩
    · rw [mark, statementsOf_stop, inductionHypothesis]
    · rw [left, statementsOf_blank blank, inductionHypothesis]

end Filler

/-- A statement is found before fillers one of which ends it. Induct on the fillers: those
before the first end are blanks after the statement, and those behind it are no statements. -/
theorem Statement.statementsOf_append_fillers (statement : Statement) {fillers : List Filler}
    (ended : Filler.stop ∈ fillers) {blanks : List Char} (all : ∀ c ∈ blanks, isBlank c = true)
    (marks : List Mark) :
    statementsOf ((statement.text ++ blanks).map .kept ++ (fillers.map Filler.mark ++ marks)) =
      statement.text :: statementsOf marks := by
  induction fillers generalizing blanks with
  | nil => simp at ended
  | cons filler fillers inductionHypothesis =>
    rw [List.map_cons, List.cons_append]
    rcases filler.mark_cases with rfl | ⟨c, blank, left⟩
    · rw [Filler.mark, statement.statementsOf_append_stop all, Filler.statementsOf_append]
    · have later : Filler.stop ∈ fillers := by
        rcases List.mem_cons.mp ended with rfl | later
        · simp [Filler.mark] at left
        · exact later
      have longer : ∀ d ∈ blanks ++ [c], isBlank d = true := by
        intro d member
        rcases List.mem_append.mp member with before | last
        · exact all d before
        · rwa [List.mem_singleton.mp last]
      have found := inductionHypothesis later longer
      rw [left]
      simpa using found

/-- A statement is found before fillers with which the marks end, whether one of them ends
it or not. -/
theorem Statement.statementsOf_append_last (statement : Statement) (fillers : List Filler) :
    statementsOf (statement.text.map .kept ++ fillers.map Filler.mark) = [statement.text] := by
  have ended : Filler.stop ∈ fillers ++ [.stop] := by simp
  have found := statement.statementsOf_append_fillers ended Text.all_blank_nil []
  rw [← statementsOf_concat_stop]
  simpa [Filler.mark] using found

/-! ## Batches -/

/-- A statement that ends outside of quotes, with the fillers after it. They begin with a
blank or the end of the statement, so that they complete no comment that begins in it. -/
structure Entry extends Statement where
  closed : Quoting.outside.after text = .outside
  fillers : List Filler
  apart : ∀ c, (Filler.textOf fillers).head? = some c → isBlank c = true ∨ c = ';'

namespace Entry

/-- The text of a statement with its fillers. -/
def written (entry : Entry) : List Char := entry.text ++ Filler.textOf entry.fillers

/-- The scan keeps the statement and leaves the marks of its fillers. -/
theorem scan_written (entry : Entry) {rest : List Char}
    (begun : Filler.textOf entry.fillers = [] → rest = []) :
    scan .outside (entry.written ++ rest) =
      entry.text.map .kept ++ (entry.fillers.map Filler.mark ++ scan .outside rest) := by
  have apart : Apart (Filler.textOf entry.fillers ++ rest) := by
    cases written : Filler.textOf entry.fillers with
    | nil =>
      rw [begun written]
      exact apart_nil
    | cons c more =>
      rcases entry.apart c (by simp [written]) with blank | rfl
      · have noDash : c ≠ '-' := ne_of_isBlank blank (by decide)
        have noStar : c ≠ '*' := ne_of_isBlank blank (by decide)
        exact ⟨by simpa using noDash, by simpa using noStar⟩
      · exact apart_stop _
  have kept := scan_append entry.unbroken apart
  rw [entry.closed] at kept
  simp only [Quoting.place, Filler.scan_textOf] at kept
  rw [written, List.append_assoc, kept]

/-- The statements of entries are found, as long as each but the last is ended. -/
theorem statements_written (entries : List Entry)
    (separated : ∀ entry ∈ entries.dropLast, Filler.stop ∈ entry.fillers) :
    statements (entries.flatMap written) = entries.map (·.text) := by
  induction entries with
  | nil => rfl
  | cons entry entries inductionHypothesis =>
    cases entries with
    | nil =>
      have left := entry.scan_written fun _ => rfl
      have found := entry.statementsOf_append_last entry.fillers
      have nothing : scan .outside [] = [] := rfl
      simp only [List.append_nil, nothing] at left
      simpa [statements_eq, left] using found
    | cons next entries =>
      have ended : Filler.stop ∈ entry.fillers := separated entry (by simp)
      have others := inductionHypothesis fun later member =>
        separated later (List.mem_cons_of_mem _ member)
      have begun : Filler.textOf entry.fillers ≠ [] := by
        have inside : ';' ∈ Filler.textOf entry.fillers :=
          List.mem_flatMap.mpr ⟨.stop, ended, by simp [Filler.text]⟩
        exact List.ne_nil_of_mem inside
      have left := @scan_written entry ((next :: entries).flatMap written)
        fun empty => absurd empty begun
      have found := entry.statementsOf_append_fillers ended Text.all_blank_nil
        (scan .outside ((next :: entries).flatMap written))
      rw [List.append_nil] at found
      rw [List.flatMap_cons, statements_eq, left, found, ← statements_eq, others]
      rfl

end Entry

/-- Splitting a batch gives the statements back that it was put together from: in order, each
once, and as they were, whatever blanks, ends of statements and comments are put before,
between and after them, as long as any two are kept apart by the end of a statement. -/
theorem split_joined (front : List Filler) (entries : List Entry)
    (separated : ∀ entry ∈ entries.dropLast, Filler.stop ∈ entry.fillers) :
    split (String.ofList (Filler.textOf front ++ entries.flatMap Entry.written)) =
      entries.map fun entry => String.ofList entry.text := by
  have found := Entry.statements_written entries separated
  rw [statements_eq] at found
  have whole : statements (Filler.textOf front ++ entries.flatMap Entry.written) =
      entries.map (·.text) := by
    rw [statements_eq, Filler.scan_textOf, Filler.statementsOf_append, found]
  rw [split, String.toList_ofList, whole, List.map_map]
  rfl

/-- A statement between whose quotes stand ends of statements, a comment and a quote after a
backslash. A blank, an end and a comment follow it. -/
def quotedEnds : Entry where
  text := "SELECT 'a;--\\';'' /*' - 1".toList
  nonempty := by decide
  trimmed := by decide +kernel
  unbroken := by decide +kernel
  closed := by decide +kernel
  fillers := [.blank ' ' (by decide), .stop,
    .lineComment ['#'] "it's".toList (by decide) (by decide)]
  apart := by
    intro c begun
    obtain rfl : ' ' = c := by simpa [Filler.textOf, Filler.text] using begun
    decide

/-- A statement that nothing follows, with a backslash between back-ticks. -/
def backtickedSlash : Entry where
  text := "SELECT `\\`".toList
  nonempty := by decide
  trimmed := by decide +kernel
  unbroken := by decide +kernel
  closed := by decide +kernel
  fillers := []
  apart := by simp [Filler.textOf]

/-- Two statements come back from between comments, one of which holds an end of a statement
and the other a quote. -/
theorem quoted_statements_split :
    (∀ entry ∈ [quotedEnds, backtickedSlash].dropLast, Filler.stop ∈ entry.fillers) ∧
      split "/* ; **/SELECT 'a;--\\';'' /*' - 1 ;#it's\nSELECT `\\`" =
        ["SELECT 'a;--\\';'' /*' - 1", "SELECT `\\`"] := by
  have separated : ∀ entry ∈ [quotedEnds, backtickedSlash].dropLast,
      Filler.stop ∈ entry.fillers := by
    intro entry member
    obtain rfl : entry = quotedEnds := List.mem_singleton.mp member
    exact List.mem_cons_of_mem _ List.mem_cons_self
  have written : String.ofList
      (Filler.textOf [.blockComment " ; *".toList (by decide +kernel)] ++
        [quotedEnds, backtickedSlash].flatMap Entry.written) =
      "/* ; **/SELECT 'a;--\\';'' /*' - 1 ;#it's\nSELECT `\\`" := by
    decide +kernel
  refine ⟨separated, ?_⟩
  rw [← written, split_joined _ _ separated]
  decide +kernel

end DialectBridge.Schema.Batch
