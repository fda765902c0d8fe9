import DialectBridge.Proofs.Trimming
import DialectBridge.Schema.Batch

/-!
# What is quoted in a statement

Where a character stands between quotes is decided by the characters before it: a quote
opens and closes, and a backslash takes the next character with it, except between
back-ticks. A text is unbroken when nothing in it that stands outside the quotes ends a
statement or begins a comment.

The scan of a batch keeps an unbroken text as it is, whatever follows, as long as that
cannot complete the beginning of a comment. In the other direction, all that the scan
leaves between the ends of statements is unbroken: what stands for a comment keeps the
characters on both sides of it apart. Only what comes last can end between quotes.
-/

namespace DialectBridge.Schema.Batch

open Text (isBlank)

/-- Where the next character of a text stands. -/
inductive Quoting where
  | outside
  | inside (quote : Char)
  | afterBackslash (quote : Char)
  deriving DecidableEq, Repr

namespace Quoting

/-- Where the character after another one stands. A doubled quote closes and opens again. -/
def next : Quoting → Char → Quoting
  | outside, c => if isQuote c then inside c else outside
  | inside quote, c =>
    if c = '\\' ∧ escapes quote then afterBackslash quote
    else if c = quote then outside
    else inside quote
  | afterBackslash quote, _ => inside quote

/-- Where the character after a text stands. -/
def after (start : Quoting) (text : List Char) : Quoting := text.foldl next start

/-- The place of the scan that stands there. -/
def place : Quoting → Place
  | outside => .outside
  | inside quote => .quoted quote
  | afterBackslash quote => .escaped quote

@[simp] theorem after_nil (start : Quoting) : start.after [] = start := rfl

@[simp] theorem after_cons (start : Quoting) (c : Char) (rest : List Char) :
    start.after (c :: rest) = (start.next c).after rest := rfl

@[simp] theorem after_append (start : Quoting) (front back : List Char) :
    start.after (front ++ back) = (start.after front).after back :=
  List.foldl_append

end Quoting

/-- What ends a statement or begins a comment outside of quotes. -/
def breaks : List (List Char) := [[';'], ['#'], ['-', '-'], ['/', '*']]

/-- Nothing of a text that stands outside of quotes ends a statement or begins a comment. -/
def Unbroken (start : Quoting) (text : List Char) : Prop :=
  ∀ before later, text = before ++ later → start.after before = .outside →
    ∀ mark ∈ breaks, ¬mark <+: later

/-- Whether a text can begin with a character and go on with another text, outside of
quotes, without the end of a statement or the beginning of a comment. -/
def Opens (c : Char) (rest : List Char) : Prop :=
  c ≠ ';' ∧ c ≠ '#' ∧ ¬(c = '-' ∧ rest.head? = some '-') ∧ ¬(c = '/' ∧ rest.head? = some '*')

instance (c : Char) (rest : List Char) : Decidable (Opens c rest) :=
  inferInstanceAs (Decidable (_ ∧ _))

/-- No end of a statement and no beginning of a comment stands in front of a text exactly
when it can begin as it does. -/
theorem opens_iff {c : Char} {rest : List Char} :
    Opens c rest ↔ ∀ mark ∈ breaks, ¬mark <+: c :: rest := by
  have pair (first second : Char) :
      [first, second] <+: c :: rest ↔ c = first ∧ rest.head? = some second := by
    cases rest with
    | nil => simp
    | cons d rest => simp [List.cons_prefix_cons, eq_comm]
  simp only [breaks, List.forall_mem_cons, List.not_mem_nil, false_implies, implies_true,
    and_true, pair, List.cons_prefix_cons, List.nil_prefix, Opens, eq_comm (b := c), ne_eq]

namespace Unbroken

variable {start : Quoting} {text front back : List Char} {c : Char}

/-- Nothing is broken in no characters. -/
theorem nil (start : Quoting) : Unbroken start [] := by
  intro before later cut _ mark listed front
  obtain ⟨rfl, rfl⟩ := List.append_eq_nil_iff.mp cut.symm
  have empty : mark = [] := List.prefix_nil.mp front
  subst empty
  simp [breaks] at listed

/-- A text is unbroken when it begins as it can, and the rest is unbroken. -/
theorem cons_iff : Unbroken start (c :: text) ↔
    (start = .outside → Opens c text) ∧ Unbroken (start.next c) text := by
  constructor
  · intro unbroken
    refine ⟨fun begun => opens_iff.mpr (unbroken [] _ rfl begun), ?_⟩
    intro before later cut
    exact unbroken (c :: before) later (by rw [cut, List.cons_append])
  · rintro ⟨opens, unbroken⟩ before later cut reached
    cases before with
    | nil =>
      obtain rfl : c :: text = later := cut
      exact opens_iff.mp (opens reached)
    | cons d before =>
      obtain ⟨rfl, rest⟩ := List.cons.inj cut
      exact unbroken before later rest reached

instance decide : (start : Quoting) → (text : List Char) → Decidable (Unbroken start text)
  | start, [] => .isTrue (nil start)
  | start, c :: text =>
    have := decide (start.next c) text
    decidable_of_iff _ cons_iff.symm

/-- The front of an unbroken text is unbroken. -/
theorem of_append (unbroken : Unbroken start (front ++ back)) : Unbroken start front := by
  rintro before later rfl reached mark listed ⟨rest, rfl⟩
  exact unbroken before (mark ++ rest ++ back) (by simp) reached mark listed ⟨rest ++ back, by simp⟩

/-- What follows a part of an unbroken text is unbroken from there on. -/
theorem after_of_append (unbroken : Unbroken start (front ++ back)) :
    Unbroken (start.after front) back := by
  rintro before later rfl reached
  exact unbroken (front ++ before) later (by simp) (by simpa using reached)

end Unbroken

/-! ## Blanks -/

/-- A blank is none of the characters that mean something to the scan. -/
theorem ne_of_isBlank {c : Char} (blank : isBlank c = true) {d : Char}
    (meant : isBlank d = false) : c ≠ d := by
  rintro rfl
  simp [blank] at meant

/-- A blank is no quote. -/
theorem isQuote_of_isBlank {c : Char} (blank : isBlank c = true) : isQuote c = false := by
  have backtick : c.toNat ≠ 0x60 := by
    intro code
    have value : c = Char.ofNat 0x60 := by rw [← code, Char.ofNat_toNat]
    exact ne_of_isBlank blank (by decide) value
  simp [isQuote, ne_of_isBlank blank (d := '\'') (by decide),
    ne_of_isBlank blank (d := '"') (by decide), backtick]

/-- A statement can begin with a blank, whatever follows. -/
theorem opens_of_isBlank {c : Char} (blank : isBlank c = true) (rest : List Char) :
    Opens c rest :=
  ⟨ne_of_isBlank blank (by decide), ne_of_isBlank blank (by decide),
    fun ⟨dash, _⟩ => ne_of_isBlank blank (by decide) dash,
    fun ⟨slash, _⟩ => ne_of_isBlank blank (by decide) slash⟩

namespace Quoting

/-- A blank outside of quotes opens none. -/
theorem next_of_isBlank {c : Char} (blank : isBlank c = true) : outside.next c = outside := by
  simp [next, isQuote_of_isBlank blank]

/-- Blanks outside of quotes open none. -/
theorem after_blanks {blanks : List Char} (all : ∀ c ∈ blanks, isBlank c = true) :
    outside.after blanks = outside := by
  induction blanks with
  | nil => rfl
  | cons c rest inductionHypothesis =>
    rw [after_cons, next_of_isBlank (all c (by simp))]
    exact inductionHypothesis fun d member => all d (List.mem_cons_of_mem _ member)

/-- What a text stands between is a quote. -/
def Proper : Quoting → Prop
  | outside => True
  | inside quote => isQuote quote = true
  | afterBackslash quote => isQuote quote = true

/-- Only quotes are opened. -/
theorem Proper.next {start : Quoting} (proper : start.Proper) (c : Char) :
    (start.next c).Proper := by
  cases start with
  | outside =>
    simp only [Quoting.next]
    split
    · next quote => exact quote
    · trivial
  | inside quote =>
    simp only [Quoting.next]
    split
    · exact proper
    · split
      · trivial
      · exact proper
  | afterBackslash quote => exact proper

/-- Only quotes are open after a text. -/
theorem Proper.after {start : Quoting} (proper : start.Proper) (text : List Char) :
    (start.after text).Proper := by
  induction text generalizing start with
  | nil => exact proper
  | cons c rest inductionHypothesis => exact inductionHypothesis (proper.next c)

/-- Blanks close no quotes. -/
theorem outside_of_after_blanks {start : Quoting} (proper : start.Proper) {blanks : List Char}
    (all : ∀ c ∈ blanks, isBlank c = true) (closed : start.after blanks = outside) :
    start = outside := by
  induction blanks generalizing start with
  | nil => exact closed
  | cons c rest inductionHypothesis =>
    have blank : isBlank c = true := all c (by simp)
    have reached : start.next c = outside :=
      inductionHypothesis (proper.next c) (fun d member => all d (List.mem_cons_of_mem _ member))
        closed
    cases start with
    | outside => rfl
    | inside quote =>
      have noQuote : c ≠ quote := by
        rintro rfl
        have quoted : isQuote c = true := proper
        simp [isQuote_of_isBlank blank] at quoted
      have noBackslash : c ≠ '\\' := ne_of_isBlank blank (by decide)
      simp [Quoting.next, noQuote, noBackslash] at reached
    | afterBackslash quote => simp [Quoting.next] at reached

end Quoting

/-- An unbroken text stays so without the blanks at its ends. -/
theorem Unbroken.trim {text : List Char} (unbroken : Unbroken .outside text) :
    Unbroken .outside (Text.trim text) := by
  obtain ⟨front, back, cut, blankFront, _⟩ := Text.exists_trim text
  rw [cut] at unbroken
  have inner := unbroken.of_append.after_of_append
  rwa [Quoting.after_blanks blankFront] at inner

/-- A text that ends outside of quotes does so without the blanks at its ends. -/
theorem Quoting.after_trim {text : List Char} (closed : outside.after text = outside) :
    outside.after (Text.trim text) = outside := by
  obtain ⟨front, back, cut, blankFront, blankBack⟩ := Text.exists_trim text
  rw [cut] at closed
  simp only [after_append, after_blanks blankFront] at closed
  have begun : outside.Proper := trivial
  exact outside_of_after_blanks (begun.after _) blankBack closed

/-! ## What the scan keeps -/

/-- What can follow a text without completing the beginning of a comment. -/
def Apart (rest : List Char) : Prop := rest.head? ≠ some '-' ∧ rest.head? ≠ some '*'

/-- The end of the text completes no comment. -/
theorem apart_nil : Apart [] := ⟨by simp, by simp⟩

/-- The end of a statement completes no comment. -/
theorem apart_stop (rest : List Char) : Apart (';' :: rest) := ⟨by simp, by simp⟩

/-- One character that can begin a text is kept, and the scan goes on behind it. -/
theorem scan_cons (start : Quoting) {c : Char} {rest : List Char}
    (opens : start = .outside → Opens c rest) :
    scan start.place (c :: rest) = .kept c :: scan (start.next c).place rest := by
  cases start with
  | outside =>
    obtain ⟨noStop, noHash, noDashes, noBlock⟩ := opens rfl
    cases quote : isQuote c with
    | true => simp [Quoting.place, Quoting.next, scan, quote]
    | false => simp [Quoting.place, Quoting.next, scan, quote, noStop, noHash, noDashes, noBlock]
  | inside quote =>
    simp only [Quoting.place, Quoting.next, scan]
    split
    · rfl
    · split <;> rfl
  | afterBackslash quote => rfl

/-- The scan keeps an unbroken text as it is. Induct on the text: what follows matters to
its last character only. -/
theorem scan_append {start : Quoting} {text rest : List Char} (unbroken : Unbroken start text)
    (apart : Apart rest) :
    scan start.place (text ++ rest) =
      text.map .kept ++ scan (start.after text).place rest := by
  induction text generalizing start with
  | nil => rfl
  | cons c text inductionHypothesis =>
    obtain ⟨opens, unbroken⟩ := Unbroken.cons_iff.mp unbroken
    have opens : start = .outside → Opens c (text ++ rest) := by
      intro begun
      cases text with
      | nil =>
        obtain ⟨noStop, noHash, _⟩ := opens begun
        exact ⟨noStop, noHash, fun both => apart.1 both.2, fun both => apart.2 both.2⟩
      | cons d text => exact opens begun
    rw [List.cons_append, scan_cons start opens, inductionHypothesis unbroken]
    rfl

/-- The scan of no characters leaves nothing between quotes or outside. -/
theorem scan_nil (start : Quoting) : scan start.place [] = [] := by
  cases start <;> rfl

/-- The scan keeps an unbroken text at the end as it is. -/
theorem scan_of_unbroken {start : Quoting} {text : List Char} (unbroken : Unbroken start text) :
    scan start.place text = text.map .kept := by
  have whole := scan_append unbroken apart_nil
  rwa [List.append_nil, scan_nil, List.append_nil] at whole

/-! ## What the scan leaves -/

/-- Where the next character that is kept stands: comments are outside of quotes. -/
def Place.quoting : Place → Quoting
  | outside => .outside
  | quoted quote => .inside quote
  | escaped quote => .afterBackslash quote
  | lineComment => .outside
  | commentOpening => .outside
  | blockComment _ => .outside

/-- Whether a place is in a comment. -/
def Place.isComment : Place → Bool
  | lineComment | commentOpening | blockComment _ => true
  | _ => false

/-- What stands for a comment begins with a blank, or there is nothing. -/
theorem head?_scan_comment (text : List Char) (place : Place) (comment : place.isComment = true)
    {mark : Mark} (first : (scan place text).head? = some mark) :
    ∃ c, isBlank c = true ∧ mark = .kept c := by
  fun_induction scan place text with
  | case1 => exact ⟨'\n', by decide, by simpa using first.symm⟩
  | case2 => exact ⟨' ', by decide, by simpa using first.symm⟩
  | case3 => simp at first
  | case4 | case5 | case6 | case7 | case8 | case9 | case10 => simp [Place.isComment] at comment
  | case11 => exact ⟨'\n', by decide, by simpa using first.symm⟩
  | case12 _ _ _ inductionHypothesis => exact inductionHypothesis rfl first
  | case13 _ _ inductionHypothesis => exact inductionHypothesis rfl first
  | case14 => exact ⟨' ', by decide, by simpa using first.symm⟩
  | case15 _ _ _ _ inductionHypothesis => exact inductionHypothesis rfl first

/-- Outside of quotes, a character other than a blank is the first that the scan leaves only
where the text begins with it. -/
theorem head?_scan_outside {text : List Char} {c : Char} (noBlank : isBlank c = false)
    (first : (scan .outside text).head? = some (.kept c)) : text.head? = some c := by
  have noComment {place : Place} {rest : List Char} (comment : place.isComment = true)
      (first : (scan place rest).head? = some (.kept c)) : False := by
    obtain ⟨d, blank, same⟩ := head?_scan_comment rest place comment first
    obtain rfl : c = d := by simpa using same
    simp [noBlank] at blank
  cases text with
  | nil => simp [scan] at first
  | cons d rest =>
    unfold scan at first
    split at first
    · simpa using first
    · split at first
      · simp at first
      · split at first
        · exact (noComment rfl first).elim
        · split at first
          · exact (noComment rfl first).elim
          · simpa using first

/-- Stretches between the ends of statements: each is unbroken, and each but the last ends
outside of quotes. -/
inductive Separated : Quoting → List (List Char) → Prop where
  | last {start : Quoting} {text : List Char} (unbroken : Unbroken start text) :
      Separated start [text]
  | followed {start : Quoting} {text : List Char} {others : List (List Char)}
      (unbroken : Unbroken start text) (closed : start.after text = .outside)
      (separated : Separated .outside others) : Separated start (text :: others)

/-- A character that can begin the first stretch goes in front of it. -/
theorem Separated.cons {start : Quoting} {c : Char} {text : List Char}
    {others : List (List Char)} (separated : Separated (start.next c) (text :: others))
    (opens : start = .outside → Opens c text) : Separated start ((c :: text) :: others) := by
  cases separated with
  | last unbroken => exact .last (Unbroken.cons_iff.mpr ⟨opens, unbroken⟩)
  | followed unbroken closed separated =>
    exact .followed (Unbroken.cons_iff.mpr ⟨opens, unbroken⟩) closed separated

/-- The end of a statement separates nothing from what follows. -/
theorem Separated.stop {others : List (List Char)} (separated : Separated .outside others) :
    Separated .outside ([] :: others) :=
  .followed (.nil _) rfl separated

/-- There is a first stretch. -/
theorem stretches_cons (marks : List Mark) :
    ∃ first others, stretches marks = first :: others := by
  fun_cases stretches marks with
  | case1 => exact ⟨_, _, rfl⟩
  | case2 => exact ⟨_, _, rfl⟩
  | case3 => exact ⟨_, _, rfl⟩
  | case4 => exact ⟨_, _, rfl⟩

/-- The end of a statement ends an empty stretch. -/
theorem stretches_stop (marks : List Mark) : stretches (.stop :: marks) = [] :: stretches marks :=
  rfl

/-- A character that is kept goes in front of the first stretch. -/
theorem stretches_kept {marks : List Mark} {first : List Char} {others : List (List Char)}
    (cut : stretches marks = first :: others) (c : Char) :
    stretches (.kept c :: marks) = (c :: first) :: others := by
  simp [stretches, cut]

/-- The first stretch begins with the first character that is kept. -/
theorem head?_of_stretches {marks : List Mark} {first : List Char} {others : List (List Char)}
    {c : Char} (cut : stretches marks = first :: others) (head : first.head? = some c) :
    marks.head? = some (.kept c) := by
  cases marks with
  | nil =>
    obtain ⟨rfl, rfl⟩ : [] = first ∧ [] = others := by simpa [stretches] using cut
    simp at head
  | cons mark marks =>
    cases mark with
    | stop =>
      obtain ⟨rfl, -⟩ : [] = first ∧ stretches marks = others := by simpa [stretches] using cut
      simp at head
    | kept d =>
      obtain ⟨inner, more, cutInner⟩ := stretches_cons marks
      rw [stretches_kept cutInner] at cut
      obtain ⟨rfl, rfl⟩ := List.cons.inj cut
      simpa using head

/-- A character that is kept is in front of a stretch that is separated from the others. -/
theorem separated_kept {start : Quoting} {c : Char} {marks : List Mark}
    (separated : Separated (start.next c) (stretches marks))
    (opens : ∀ text others, stretches marks = text :: others → start = .outside → Opens c text) :
    Separated start (stretches (.kept c :: marks)) := by
  obtain ⟨first, others, cut⟩ := stretches_cons marks
  rw [stretches_kept cut]
  rw [cut] at separated
  exact separated.cons (opens first others cut)

/-- A quote can begin a text, whatever follows. -/
theorem opens_of_isQuote {c : Char} (quote : isQuote c = true) (rest : List Char) :
    Opens c rest := by
  have other {d : Char} (noQuote : isQuote d = false) : c ≠ d := by
    rintro rfl
    simp [quote] at noQuote
  exact ⟨other (by decide), other (by decide), fun both => other (by decide) both.1,
    fun both => other (by decide) both.1⟩

/-- What the scan leaves between the ends of statements is unbroken, and only what comes last
can end between quotes. Induct along the scan: the blank that stands for a comment is what
keeps two characters apart that were not next to each other. -/
theorem separated_scan (place : Place) (text : List Char) :
    Separated place.quoting (stretches (scan place text)) := by
  fun_induction scan place text with
  | case1 => exact separated_kept (.last (.nil _)) fun _ _ _ _ => opens_of_isBlank (by decide) _
  | case2 => exact separated_kept (.last (.nil _)) fun _ _ _ _ => opens_of_isBlank (by decide) _
  | case3 => exact .last (.nil _)
  | case4 c rest quote inductionHypothesis =>
    refine separated_kept ?_ fun _ _ _ _ => opens_of_isQuote quote _
    simpa [Place.quoting, Quoting.next, quote] using inductionHypothesis
  | case5 rest _ inductionHypothesis => exact inductionHypothesis.stop
  | case6 c rest _ _ _ inductionHypothesis => exact inductionHypothesis
  | case7 c rest _ _ _ _ inductionHypothesis => exact inductionHypothesis
  | case8 c rest noQuote noStop noLine noBlock inductionHypothesis =>
    refine separated_kept ?_ ?_
    · simpa [Place.quoting, Quoting.next, noQuote] using inductionHypothesis
    · intro first others cut _
      -- What is left behind this character was behind it before, or is a blank for a comment.
      have begun {d : Char} (noBlank : isBlank d = false) (head : first.head? = some d) :
          rest.head? = some d :=
        head?_scan_outside noBlank (head?_of_stretches cut head)
      exact ⟨noStop, fun hash => noLine (.inl hash),
        fun both => noLine (.inr ⟨both.1, begun (by decide) both.2⟩),
        fun both => noBlock ⟨both.1, begun (by decide) both.2⟩⟩
  | case9 quote c rest afterBackslash outside inside =>
    refine separated_kept ?_ ?_
    · simp only [Place.quoting, Quoting.next]
      split
      · exact afterBackslash
      · split
        · exact outside
        · exact inside
    · simp [Place.quoting]
  | case10 quote c rest inductionHypothesis =>
    refine separated_kept inductionHypothesis ?_
    simp [Place.quoting]
  | case11 rest inductionHypothesis =>
    exact separated_kept inductionHypothesis fun _ _ _ _ => opens_of_isBlank (by decide) _
  | case12 _ _ _ inductionHypothesis => exact inductionHypothesis
  | case13 _ _ inductionHypothesis => exact inductionHypothesis
  | case14 _ _ _ _ inductionHypothesis =>
    exact separated_kept inductionHypothesis fun _ _ _ _ => opens_of_isBlank (by decide) _
  | case15 _ _ _ _ inductionHypothesis => exact inductionHypothesis

end DialectBridge.Schema.Batch
