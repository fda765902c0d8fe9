import DialectBridge.Statement.Rewriting
import DialectBridge.Proofs.LowerCase
import DialectBridge.Proofs.Occurrences
import Mathlib.Data.List.TakeWhile

/-!
# Texts that name no rewritten function

The name of a rewritten function is looked for in two ways: in lower case, where functions
are looked up, and in capitals, where the keyword of a part of a text is told. A text is
silent if neither finds a name in it, be it at the borders of words or inside them.

Names are made of letters and low lines. So silence is decided between the other ASCII
characters, each of which separates what stands before it from what stands behind it: where
two silent texts meet at a separator, the whole is silent. The tokens of a silent text are
silent, and so is a name in its quotes.
-/

namespace DialectBridge.Statement

open Text (lowerImage upperToAscii)

/-! ## Separators -/

/-- An ASCII character that no name of a rewritten function has. -/
def isSeparator (c : Char) : Bool := decide (c.toNat < 0x80) && !c.isAlpha && c != '_'

/-- A way to find a name: what is looked for, and what it is looked for in the place of each
character. -/
structure Mark where
  fold : Char → List Char
  stretch : List Char

/-- The way to find the keyword of a part of a text. -/
def capitals : Mark := ⟨upperToAscii, "SUBSTRING".toList⟩

/-- The ways to find the name of a rewritten function. -/
def marks : List Mark :=
  ⟨upperToAscii, "SUBSTRING".toList⟩ ::
    Emulation.rewriteNames.map fun name => ⟨lowerImage, name.toList⟩

/-- A text in which no name of a rewritten function is found. -/
def Silent (text : List Char) : Prop := ∀ mark ∈ marks, ¬mark.stretch <:+: text.flatMap mark.fold

instance (text : List Char) : Decidable (Silent text) :=
  inferInstanceAs (Decidable (∀ mark ∈ marks, _))

/-- A text in which no name of a rewritten function is found in any of the ways that are
hushed. -/
def SilentTo (hushed : Mark → Prop) (text : List Char) : Prop :=
  ∀ mark ∈ marks, hushed mark → ¬mark.stretch <:+: text.flatMap mark.fold

/-- A silent text is silent whatever is hushed. -/
theorem Silent.to {text : List Char} (silent : Silent text) (hushed : Mark → Prop) :
    SilentTo hushed text :=
  fun mark known _ => silent mark known

/-- A text is silent if it is with everything hushed. -/
theorem silentTo_all_iff {text : List Char} : SilentTo (fun _ => True) text ↔ Silent text :=
  ⟨fun silent mark known => silent mark known trivial, fun silent => silent.to _⟩

/-- What is looked for has no separators. -/
theorem not_separator_of_mem {mark : Mark} (known : mark ∈ marks) {c : Char}
    (member : c ∈ mark.stretch) : isSeparator c = false := by
  have all : ∀ mark ∈ marks, ∀ c ∈ mark.stretch, isSeparator c = false := by decide
  exact all mark known c member

/-- Separators are looked at as they are. -/
theorem fold_separator {mark : Mark} (known : mark ∈ marks) {c : Char}
    (separates : isSeparator c = true) : mark.fold c = [c] := by
  simp only [isSeparator, Bool.and_eq_true, decide_eq_true_eq, Bool.not_eq_true',
    ← Bool.not_eq_true, Text.isAlpha_iff] at separates
  obtain ⟨⟨ascii, noLetter⟩, -⟩ := separates
  have upper : upperToAscii c = [c] := by
    have same : c.toUpper = c := by
      refine dif_neg fun bounds => noLetter (.inr ?_)
      have low : 'a'.toNat ≤ c.toNat := bounds.1
      have high : c.toNat ≤ 'z'.toNat := bounds.2
      exact ⟨low, high⟩
    rw [upperToAscii, if_pos ascii, same]
  have lower : lowerImage c = [c] := by
    unfold lowerImage Text.lowerChar
    rw [if_neg (by omega), if_pos ascii, Text.toLower_of_not_capital (by omega)]
  rcases List.mem_cons.mp known with rfl | named
  · exact upper
  · obtain ⟨name, -, rfl⟩ := List.mem_map.mp named
    exact lower

/-! ## Texts put together -/

variable {hushed : Mark → Prop} {front back text : List Char}

/-- The empty text is silent. -/
theorem silent_nil : SilentTo hushed [] := Silent.to (by decide) hushed

/-- A text that is silent in some ways is silent in fewer of them. -/
theorem SilentTo.mono {fewer : Mark → Prop} (silent : SilentTo hushed text)
    (imply : ∀ mark, fewer mark → hushed mark) : SilentTo fewer text :=
  fun mark known applies => silent mark known (imply mark applies)

/-- The parts of a silent text are silent. -/
theorem SilentTo.of_infix (silent : SilentTo hushed text) (part : front <:+: text) :
    SilentTo hushed front := by
  obtain ⟨before, after, rfl⟩ := part
  intro mark known applies occurs
  refine silent mark known applies (occurs.trans ?_)
  rw [List.flatMap_append, List.flatMap_append]
  exact ⟨_, _, rfl⟩

/-- Silence is decided on both sides of a separator. -/
theorem silent_append_cons {c : Char} (separates : isSeparator c = true) :
    SilentTo hushed (front ++ c :: back) ↔ SilentTo hushed front ∧ SilentTo hushed back := by
  unfold SilentTo
  rw [← forall₂_and]
  refine forall₂_congr fun mark known => ?_
  rw [← imp_and]
  refine imp_congr_right fun _ => ?_
  have absent : c ∉ mark.stretch := fun member => by
    simp [not_separator_of_mem known member] at separates
  rw [List.flatMap_append, List.flatMap_cons, fold_separator known separates,
    List.singleton_append, Text.infix_append_cons absent, not_or]

/-- A separator in front of a text changes nothing. -/
theorem silent_cons {c : Char} (separates : isSeparator c = true) :
    SilentTo hushed (c :: back) ↔ SilentTo hushed back := by
  have split := @silent_append_cons hushed [] back c separates
  simpa [silent_nil] using split

/-- A separator behind a text changes nothing. -/
theorem silent_concat {c : Char} (separates : isSeparator c = true) :
    SilentTo hushed (front ++ [c]) ↔ SilentTo hushed front := by
  rw [silent_append_cons separates, and_iff_left silent_nil]

/-- Whether a text begins with a separator, if it is not empty. -/
def startsApart (text : List Char) : Bool := text.head?.all isSeparator

/-- Whether a text ends with a separator, if it is not empty. -/
def endsApart (text : List Char) : Bool := text.getLast?.all isSeparator

/-- A text that begins with a separator still does with more behind it. -/
theorem startsApart_append_of_ne (nonempty : front ≠ []) (starts : startsApart front = true) :
    startsApart (front ++ back) = true := by
  cases front with
  | nil => exact absurd rfl nonempty
  | cons c rest => exact starts

/-- Texts begin with a separator if both of them do. -/
theorem startsApart_append (before : startsApart front = true) (after : startsApart back = true) :
    startsApart (front ++ back) = true := by
  cases front with
  | nil => exact after
  | cons c rest => exact before

/-- A text that ends with a separator still does with more in front of it. -/
theorem endsApart_append_of_ne (nonempty : back ≠ []) (ends : endsApart back = true) :
    endsApart (front ++ back) = true := by
  unfold endsApart at ends ⊢
  rwa [List.getLast?_append_of_ne_nil front nonempty]

/-- Silent texts that meet at a separator make a silent text. -/
theorem SilentTo.append (before : SilentTo hushed front) (after : SilentTo hushed back)
    (apart : endsApart front = true ∨ startsApart back = true) :
    SilentTo hushed (front ++ back) := by
  rcases apart with ends | starts
  · rcases List.eq_nil_or_concat front with rfl | ⟨init, last, rfl⟩
    · exact after
    · have separates : isSeparator last = true := by simpa [endsApart] using ends
      rw [List.concat_eq_append] at before ⊢
      rw [List.append_assoc, List.singleton_append, silent_append_cons separates]
      exact ⟨(silent_concat separates).mp before, after⟩
  · cases back with
    | nil => rwa [List.append_nil]
    | cons c rest =>
      have separates : isSeparator c = true := by simpa [startsApart] using starts
      exact (silent_append_cons separates).mpr ⟨before, (silent_cons separates).mp after⟩

/-- Separators and the letters of numbers make a silent text. -/
theorem silent_of_numeric (numeric : ∀ c ∈ text, isSeparator c = true ∨ c ∈ ['e', 'E', 'L']) :
    SilentTo hushed text := by
  have missing : ∀ mark ∈ marks, ∃ d ∈ mark.stretch, ∀ c ∈ ['e', 'E', 'L'], d ∉ mark.fold c := by
    decide
  intro mark known _ occurs
  obtain ⟨d, wanted, absent⟩ := missing mark known
  obtain ⟨c, member, found⟩ := List.mem_flatMap.mp (occurs.subset wanted)
  rcases numeric c member with separates | letter
  · rw [fold_separator known separates, List.mem_singleton] at found
    subst found
    simp [not_separator_of_mem known wanted] at separates
  · exact absent c letter found

/-! ## Lower case -/

/-- Whether what is looked for is not the keyword, so that it is looked for in lower case. -/
def InSmallLetters (mark : Mark) : Prop := mark.stretch ≠ capitals.stretch

/-- The names of rewritten functions are looked for in lower case. -/
theorem inSmallLetters_of_mem {name : String} (listed : name ∈ Emulation.rewriteNames) :
    InSmallLetters ⟨lowerImage, name.toList⟩ := by
  have small : ∀ name ∈ Emulation.rewriteNames, name.toList ≠ capitals.stretch := by decide
  exact small name listed

/-- A text is silent exactly if it is silent in lower case and the keyword is not found in it
in capitals. -/
theorem silent_iff : Silent text ↔
    SilentTo InSmallLetters text ∧ ¬capitals.stretch <:+: text.flatMap capitals.fold := by
  constructor
  · exact fun silent => ⟨silent.to InSmallLetters, silent capitals List.mem_cons_self⟩
  · rintro ⟨silent, absent⟩ mark known
    rcases List.mem_cons.mp known with rfl | named
    · exact absent
    · obtain ⟨name, listed, rfl⟩ := List.mem_map.mp named
      exact silent _ known (inSmallLetters_of_mem listed)

/-- A text is silent in lower case exactly if no name of a rewritten function is found in the
text that is put in lower case. -/
theorem silentTo_smallLetters_iff : SilentTo InSmallLetters text ↔
    ∀ name ∈ Emulation.rewriteNames, ¬name.toList <:+: Text.lower text := by
  have noSigma : ∀ name ∈ Emulation.rewriteNames, ∀ c ∈ name.toList, c ∉ Text.sigmas := by decide
  constructor
  · intro silent name listed
    rw [Text.infix_lower_iff (noSigma name listed)]
    exact silent ⟨lowerImage, name.toList⟩ (List.mem_cons_of_mem _ (List.mem_map_of_mem listed))
      (inSmallLetters_of_mem listed)
  · intro absent mark known inSmallLetters
    rcases List.mem_cons.mp known with rfl | named
    · exact absurd rfl inSmallLetters
    · obtain ⟨name, listed, rfl⟩ := List.mem_map.mp named
      have notFound := absent name listed
      rwa [Text.infix_lower_iff (noSigma name listed)] at notFound

/-- A text mentions no rewritten function exactly if it is silent in lower case. -/
theorem mentionsRewritten_eq_false_iff {text : String} :
    mentionsRewritten text = false ↔ SilentTo InSmallLetters text.toList := by
  rw [silentTo_smallLetters_iff, ← Bool.not_eq_true, mentionsRewritten, List.any_eq_true,
    not_exists]
  refine forall_congr' fun name => ?_
  rw [Text.occursIn_iff, not_and]

/-- A silent text does not mention a rewritten function. -/
theorem Silent.not_mentions {text : String} (silent : Silent text.toList) :
    mentionsRewritten text = false :=
  mentionsRewritten_eq_false_iff.mpr (silent.to InSmallLetters)

/-- A name that is silent in lower case is not that of a rewritten function, although it is put in
lower case twice before it is looked up. -/
theorem SilentTo.lookup_ne {name : String} (silent : SilentTo InSmallLetters name.toList)
    (function : Emulation.RewriteFunction) :
    Emulation.lookup (Text.lowercased name) ≠ some (.rewrite function) := by
  intro found
  have listed : Text.lowercased (Text.lowercased name) ∈ Emulation.rewriteNames := by
    obtain ⟨before, after, cut, -⟩ := List.lookup_eq_some_iff.mp found
    rw [Emulation.rewriteNames, cut]
    simp [Emulation.Function.isRewrite]
  have small : ∀ name ∈ Emulation.rewriteNames, ∀ c ∈ name.toList, Text.isSmall c = true := by
    decide
  have twice : Text.lower (Text.lower name.toList) =
      (Text.lowercased (Text.lowercased name)).toList := by
    simp only [Text.lowercased, String.toList_ofList]
  refine silentTo_smallLetters_iff.mp silent _ listed ?_
  rw [Text.lower_eq_of_lower_lower (small _ listed) twice]

/-! ## Quotes -/

/-- What is left behind the closing quote is the end of the text. -/
theorem scanQuoted_suffix {closing : Char} {source taken rest : List Char}
    (run : Token.scanQuoted closing source = some (taken, rest)) : rest <:+ source := by
  induction source using Token.scanQuoted.induct closing generalizing taken rest with
  | case1 => simp [Token.scanQuoted] at run
  | case2 =>
    simp only [Token.scanQuoted, if_true, Option.some.injEq, Prod.mk.injEq] at run
    exact run.2 ▸ List.nil_suffix
  | case3 c other => simp [Token.scanQuoted, other] at run
  | case4 c d more other inductionHypothesis =>
    rw [Token.scanQuoted, if_pos other, Option.map_eq_some_iff] at run
    obtain ⟨⟨inner, left⟩, scanned, same⟩ := run
    obtain ⟨-, rfl⟩ := Prod.mk.inj same
    exact (inductionHypothesis scanned).trans (List.suffix_cons _ _)
  | case5 c more isClosing inductionHypothesis =>
    rw [Token.scanQuoted, if_neg isClosing, if_pos rfl, Option.map_eq_some_iff] at run
    obtain ⟨⟨inner, left⟩, scanned, same⟩ := run
    obtain ⟨-, rfl⟩ := Prod.mk.inj same
    exact (inductionHypothesis scanned).trans ((List.suffix_cons _ _).trans (List.suffix_cons _ _))
  | case6 c d more isClosing other =>
    rw [Token.scanQuoted, if_neg isClosing, if_neg other, Option.some.injEq] at run
    obtain ⟨-, rfl⟩ := Prod.mk.inj run
    exact List.suffix_cons _ _

/-- What is between quotes is silent if the whole is, also where doubled quotes stand for one.

Proof: along the scan, with what stands in front of the rest since the last quote. -/
theorem silent_scanQuoted {closing : Char} (separates : isSeparator closing = true)
    {source taken rest : List Char} (run : Token.scanQuoted closing source = some (taken, rest))
    (front : List Char) (silent : SilentTo hushed (front ++ source)) :
    SilentTo hushed (front ++ taken) := by
  induction source using Token.scanQuoted.induct closing generalizing front taken rest with
  | case1 => simp [Token.scanQuoted] at run
  | case2 =>
    simp only [Token.scanQuoted, if_true, Option.some.injEq, Prod.mk.injEq] at run
    rw [← run.1, List.append_nil]
    exact (silent_concat separates).mp silent
  | case3 c other => simp [Token.scanQuoted, other] at run
  | case4 c d more other inductionHypothesis =>
    rw [Token.scanQuoted, if_pos other, Option.map_eq_some_iff] at run
    obtain ⟨⟨inner, left⟩, scanned, same⟩ := run
    obtain ⟨rfl, -⟩ := Prod.mk.inj same
    rw [List.append_cons] at silent ⊢
    exact inductionHypothesis scanned _ silent
  | case5 c more isClosing inductionHypothesis =>
    rw [Token.scanQuoted, if_neg isClosing, if_pos rfl, Option.map_eq_some_iff] at run
    obtain ⟨⟨inner, left⟩, scanned, same⟩ := run
    obtain ⟨rfl, -⟩ := Prod.mk.inj same
    obtain rfl := Decidable.of_not_not isClosing
    rw [silent_append_cons separates, silent_cons separates] at silent
    exact (silent_append_cons separates).mpr
      ⟨silent.1, inductionHypothesis scanned [] silent.2⟩
  | case6 c d more isClosing other =>
    rw [Token.scanQuoted, if_neg isClosing, if_neg other, Option.some.injEq] at run
    obtain ⟨rfl, -⟩ := Prod.mk.inj run
    rw [List.append_nil]
    exact silent.of_infix (List.prefix_append _ _).isInfix

/-- A silent text stays silent when its quotes are doubled. -/
theorem silent_doubleQuotes {quote : Char} (separates : isSeparator quote = true)
    (previous : Char) (text front : List Char) (silent : SilentTo hushed (front ++ text)) :
    SilentTo hushed (front ++ doubleQuotes quote previous text) := by
  induction previous, text using doubleQuotes.induct quote generalizing front with
  | case1 previous => exact silent
  | case2 previous c isQuote =>
    rw [doubleQuotes, if_pos isQuote]
    obtain ⟨rfl, -⟩ := isQuote
    rw [silent_append_cons separates, silent_cons separates]
    exact ⟨(silent_concat separates).mp silent, silent_nil⟩
  | case3 previous c other => rwa [doubleQuotes, if_neg other]
  | case4 previous c d rest other inductionHypothesis =>
    rw [doubleQuotes, if_pos other]
    rw [List.append_cons] at silent ⊢
    exact inductionHypothesis _ silent
  | case5 c d rest isQuote inductionHypothesis =>
    rw [doubleQuotes, if_neg isQuote, if_pos rfl]
    rw [List.append_cons] at silent ⊢
    exact inductionHypothesis _ silent
  | case6 previous c rest isQuote unescaped inductionHypothesis =>
    rw [doubleQuotes, if_neg isQuote, if_neg unescaped, if_pos rfl]
    rw [List.append_cons, List.append_cons] at silent ⊢
    exact inductionHypothesis _ silent
  | case7 previous c d rest isQuote unescaped single inductionHypothesis =>
    rw [doubleQuotes, if_neg isQuote, if_neg unescaped, if_neg single]
    obtain rfl := Decidable.of_not_not isQuote
    rw [silent_append_cons separates] at silent
    rw [silent_append_cons separates, silent_cons separates]
    exact ⟨silent.1, inductionHypothesis [] silent.2⟩

/-- All quotes are separators. -/
theorem closing_separates (quote : Quote) : isSeparator quote.closing = true := by
  cases quote <;> decide

/-- A silent text is silent between quotes. -/
theorem silent_quoted {quote : Char} (separates : isSeparator quote = true) {text : String}
    (silent : SilentTo hushed text.toList) : SilentTo hushed (quoted quote text).toList := by
  rw [quoted, String.toList_ofList, silent_concat separates, silent_cons separates]
  exact silent_doubleQuotes separates _ _ [] silent

/-- A silent name is silent as it is written. -/
theorem Identifier.silent_render {identifier : Identifier}
    (silent : SilentTo hushed identifier.text.toList) :
    SilentTo hushed identifier.render.toList := by
  unfold render
  split
  · exact silent
  · rw [String.toList_append, String.toList_append]
    refine (silent_concat (by decide)).mpr ?_
    exact (silent_cons (by decide)).mpr silent
  · next quote _ _ => exact silent_quoted (closing_separates quote) silent

/-! ## Tokens -/

namespace Token

/-- A token in which no name of a rewritten function is found in any of the ways that are
hushed. -/
def SilentTo (hushed : Mark → Prop) : Token → Prop
  | .word identifier keyword => Statement.SilentTo hushed identifier.text.toList ∧
      (hushed capitals → keyword ≠ "SUBSTRING")
  | .number digits => Statement.SilentTo hushed digits.toList
  | .text value => Statement.SilentTo hushed value.toList
  | .nationalText value => Statement.SilentTo hushed value.toList
  | .hexadecimal digits => Statement.SilentTo hushed digits.toList
  | .placeholder name => Statement.SilentTo hushed name.toList
  | .sign _ => True

/-- A silent word has no keyword that names a rewritten function. -/
theorem silent_ofName {name : List Char} (silent : Statement.SilentTo hushed name) :
    (ofName name).SilentTo hushed := by
  have known : capitals ∈ marks := List.mem_cons_self
  refine ⟨by rwa [String.toList_ofList], fun inCapitals same => silent _ known inCapitals ?_⟩
  change "SUBSTRING".toList <:+: name.flatMap upperToAscii
  rw [← same, String.toList_ofList]

/-- The characters of a number: separators, and the letters of exponents and suffixes. -/
def isNumeric (c : Char) : Bool := isSeparator c || ['e', 'E', 'L'].contains c

/-- Numbers are silent. -/
theorem silent_of_isNumeric {text : List Char} (numeric : ∀ c ∈ text, isNumeric c = true) :
    Statement.SilentTo hushed text := by
  refine silent_of_numeric fun c member => ?_
  simpa [isNumeric] using numeric c member

/-- Digits are separators. -/
theorem isNumeric_of_digit {c : Char} (digit : c.isDigit = true) : isNumeric c = true := by
  have bounds := Text.isDigit_iff.mp digit
  have noLetter : c.isAlpha = false := by
    rw [← Bool.not_eq_true, Text.isAlpha_iff]
    omega
  have noLowLine : c ≠ '_' := by
    rintro rfl
    exact absurd digit (by decide)
  simp [isNumeric, isSeparator, noLetter, noLowLine, show c.toNat < 128 by omega]

/-- The exponent of a number is numeric. -/
theorem isNumeric_exponent {source : List Char} {c : Char} (member : c ∈ exponentOf source) :
    isNumeric c = true := by
  unfold exponentOf at member
  split at member
  · exact absurd member List.not_mem_nil
  · next mark rest =>
    split at member
    · exact absurd member List.not_mem_nil
    · next isMark =>
      dsimp only at member
      split at member
      · exact absurd member List.not_mem_nil
      · rcases List.mem_cons.mp member with rfl | inside
        · have isMark : c = 'e' ∨ c = 'E' := by
            by_cases small : c = 'e'
            · exact .inl small
            · exact .inr (Decidable.of_not_not fun other => isMark ⟨small, other⟩)
          rcases isMark with rfl | rfl <;> decide
        · rcases List.mem_append.mp inside with signed | digits
          · have sign := List.mem_takeWhile_imp (List.mem_of_mem_take signed)
            simp only [Bool.or_eq_true, beq_iff_eq] at sign
            rcases sign with rfl | rfl <;> decide
          · exact isNumeric_of_digit (List.mem_takeWhile_imp digits)

/-- A stretch of one numeric character, of which one may be taken, is numeric. -/
theorem isNumeric_take {mark : Char} (numeric : isNumeric mark = true) {source : List Char}
    {c : Char} (member : c ∈ (source.takeWhile (· == mark)).take 1) : isNumeric c = true := by
  have same := List.mem_takeWhile_imp (List.mem_of_mem_take member)
  rw [beq_iff_eq] at same
  exact same ▸ numeric

/-- What is left of a text is the end of it, and the token that is taken from it, if any, is
silent if the text is. -/
structure Takes (hushed : Mark → Prop) (source : List Char) (found : Option Token)
    (left : List Char) : Prop where
  ended : left <:+ source
  silent : Statement.SilentTo hushed source → ∀ token ∈ found, token.SilentTo hushed

section

variable {source whole left : List Char} {found : Option Token} {token : Token}

/-- What is taken from the end of a text is taken from the text. -/
theorem Takes.behind (takes : Takes hushed source found left) (ended : source <:+ whole) :
    Takes hushed whole found left :=
  ⟨takes.ended.trans ended, fun silent => takes.silent (silent.of_infix ended.isInfix)⟩

/-- Nothing is taken from a text. -/
theorem takes_none (ended : left <:+ source) : Takes hushed source none left :=
  ⟨ended, fun _ => nofun⟩

/-- One token is taken from a text. -/
theorem takes_some (ended : left <:+ source)
    (silent : Statement.SilentTo hushed source → token.SilentTo hushed) :
    Takes hushed source (some token) left :=
  ⟨ended, fun silentSource _ same => Option.some.inj same ▸ silent silentSource⟩

/-- A stretch that a text begins with is taken from it. -/
theorem takes_stretch {c : Char} {rest : List Char} (holds : Char → Bool)
    (silent : Statement.SilentTo hushed (c :: rest.takeWhile holds) → token.SilentTo hushed)
    (ended : left <:+ rest) : Takes hushed (c :: rest) (some token) left := by
  refine takes_some (ended.trans (List.suffix_cons _ _)) fun silentSource => silent ?_
  refine silentSource.of_infix (List.IsPrefix.isInfix ?_)
  rw [List.prefix_cons_inj]
  exact List.takeWhile_prefix _

end

/-- A number is taken from a text. -/
theorem takes_scanNumber {afterWord : Bool} {source rest : List Char} {token : Token}
    (run : scanNumber afterWord source = some (token, rest)) :
    Takes hushed source (some token) rest := by
  unfold scanNumber at run
  dsimp only at run
  split at run
  · next left _ dropped =>
    split at run
    · obtain ⟨rfl, rfl⟩ := Prod.mk.inj (Option.some.inj run)
      have ended : '.' :: '_' :: left <:+ source := dropped ▸ List.drop_suffix _ _
      exact takes_some ((List.suffix_cons _ _).trans ended) fun _ => trivial
    · exact absurd run nofun
  · next left _ dropped =>
    obtain ⟨rfl, rfl⟩ := Prod.mk.inj (Option.some.inj run)
    have ended : left <:+ source := (List.suffix_cons _ _).trans (dropped ▸ List.drop_suffix _ _)
    refine takes_some ((List.drop_suffix _ _).trans ended) fun silent => ?_
    refine silent.of_infix (List.IsInfix.trans ?_ ended.isInfix)
    rw [String.toList_ofList]
    exact (List.takeWhile_prefix _).isInfix
  · split at run
    · obtain ⟨rfl, rfl⟩ := Prod.mk.inj (Option.some.inj run)
      simp only [List.drop_drop]
      exact takes_some (List.drop_suffix _ _) fun _ => trivial
    · obtain ⟨rfl, rfl⟩ := Prod.mk.inj (Option.some.inj run)
      simp only [List.drop_drop]
      refine takes_some (List.drop_suffix _ _) fun _ => silent_of_isNumeric ?_
      have digits (source : List Char) : ∀ c ∈ source.takeWhile Char.isDigit, isNumeric c = true :=
        fun c member => isNumeric_of_digit (List.mem_takeWhile_imp member)
      simp only [String.toList_ofList, List.forall_mem_append]
      exact ⟨⟨⟨⟨digits _, fun c => isNumeric_take (by decide)⟩, digits _⟩,
        fun c => isNumeric_exponent⟩, fun c => isNumeric_take (by decide)⟩

/-- What is left behind a comment is the end of the text. -/
theorem dropComment_suffix {source rest : List Char} (run : dropComment source = some rest) :
    rest <:+ source := by
  induction source using dropComment.induct with
  | case1 => exact absurd run nofun
  | case2 c => exact absurd run nofun
  | case3 c d more ends =>
    rw [dropComment, if_pos ends, Option.some.injEq] at run
    exact run ▸ (List.suffix_cons _ _).trans (List.suffix_cons _ _)
  | case4 c d more other inductionHypothesis =>
    rw [dropComment, if_neg other] at run
    exact (inductionHypothesis run).trans (List.suffix_cons _ _)

/-- A literal is taken from a text behind its opening quote. -/
theorem takes_scanLiteral {token : String → Token} {source rest : List Char}
    {found : Option Token}
    (same : ∀ value, (token value).SilentTo hushed = Statement.SilentTo hushed value.toList)
    (run : scanLiteral token source = some (found, rest)) : Takes hushed source found rest := by
  obtain ⟨⟨value, left⟩, scanned, whole⟩ := Option.map_eq_some_iff.mp run
  obtain ⟨rfl, rfl⟩ := Prod.mk.inj whole
  refine takes_some (scanQuoted_suffix scanned) fun silent => ?_
  rw [same, String.toList_ofList]
  exact silent_scanQuoted (by decide) scanned [] silent

/-- A name is taken from a text behind its opening quote. -/
theorem takes_quotedName {quote : Quote} {source name rest : List Char}
    (scanned : scanQuoted quote.closing source = some (name, rest)) :
    Takes hushed source (some (.word ⟨String.ofList name, some quote⟩ "")) rest := by
  refine takes_some (scanQuoted_suffix scanned) fun silent => ⟨?_, fun _ => by decide⟩
  rw [String.toList_ofList]
  exact silent_scanQuoted (closing_separates quote) scanned [] silent

/-- A placeholder is taken from a text. -/
theorem takes_placeholder (mark : Char) (rest : List Char) (holds : Char → Bool) :
    Takes hushed (mark :: rest) (some (placeholder (String.ofList (mark :: rest.takeWhile holds))))
      (rest.drop (rest.takeWhile holds).length) := by
  refine takes_stretch holds (fun silent => ?_) (List.drop_suffix _ _)
  rwa [SilentTo, String.toList_ofList]

/-- A sign is taken from a text. -/
theorem takes_scanSign (c : Char) (rest : List Char) :
    Takes hushed (c :: rest) (some (scanSign c rest).1) (scanSign c rest).2 := by
  unfold scanSign
  split
  · exact takes_some (List.drop_suffix _ _) fun _ => trivial
  · exact takes_some (List.suffix_cons _ _) fun _ => trivial

/-- One step takes a token from a text, or it takes none. -/
theorem takes_scanStep {afterWord : Bool} {c : Char} {rest left : List Char}
    {found : Option Token} (run : scanStep afterWord c rest = some (found, left)) :
    Takes hushed (c :: rest) found left := by
  have one (c : Char) : rest <:+ c :: rest := List.suffix_cons _ _
  have two (c d : Char) (rest : List Char) : rest <:+ c :: d :: rest :=
    (List.suffix_cons _ _).trans (List.suffix_cons _ _)
  unfold scanStep at run
  split at run
  · exact (takes_scanLiteral (fun _ => rfl) run).behind (two _ _ _)
  · exact (takes_scanLiteral (fun _ => rfl) run).behind (two _ _ _)
  · exact (takes_scanLiteral (fun _ => rfl) run).behind (two _ _ _)
  · exact (takes_scanLiteral (fun _ => rfl) run).behind (two _ _ _)
  · exact (takes_scanLiteral (fun _ => rfl) run).behind (one _)
  · next line =>
    obtain ⟨rfl, rfl⟩ := Prod.mk.inj (Option.some.inj run)
    exact takes_none (((List.drop_suffix _ _).trans (List.dropWhile_suffix _)).trans (two _ _ _))
  · obtain ⟨_, dropped, same⟩ := Option.map_eq_some_iff.mp run
    obtain ⟨rfl, rfl⟩ := Prod.mk.inj same
    exact takes_none ((dropComment_suffix dropped).trans (two _ _ _))
  · obtain ⟨rfl, rfl⟩ := Prod.mk.inj (Option.some.inj run)
    exact takes_placeholder _ _ _
  · obtain ⟨rfl, rfl⟩ := Prod.mk.inj (Option.some.inj run)
    exact takes_placeholder _ _ _
  · split at run
    · next quote opened =>
      obtain ⟨⟨name, others⟩, scanned, same⟩ := Option.map_eq_some_iff.mp run
      obtain ⟨rfl, rfl⟩ := Prod.mk.inj same
      exact (takes_quotedName scanned).behind (one _)
    · split at run
      · obtain ⟨⟨token, others⟩, scanned, same⟩ := Option.map_eq_some_iff.mp run
        obtain ⟨rfl, rfl⟩ := Prod.mk.inj same
        exact takes_scanNumber scanned
      · split at run
        · obtain ⟨rfl, rfl⟩ := Prod.mk.inj (Option.some.inj run)
          exact takes_stretch isNamePart silent_ofName (List.dropWhile_suffix _)
        · split at run
          · obtain ⟨rfl, rfl⟩ := Prod.mk.inj (Option.some.inj run)
            exact takes_none (one _)
          · obtain ⟨rfl, rfl⟩ := Prod.mk.inj (Option.some.inj run)
            exact takes_scanSign c rest

/-- The tokens of the end of a silent text are silent. -/
theorem silent_scanFrom {fuel : Nat} {afterWord : Bool} {source : List Char}
    {tokens : List Token} (run : scanFrom fuel afterWord source = some tokens)
    (silent : Statement.SilentTo hushed source) : ∀ token ∈ tokens, token.SilentTo hushed := by
  induction fuel generalizing afterWord source tokens with
  | zero =>
    rw [scanFrom] at run
    split at run
    · exact Option.some.inj run ▸ nofun
    · exact absurd run nofun
  | succ fuel inductionHypothesis =>
    cases source with
    | nil => exact Option.some.inj run ▸ nofun
    | cons c rest =>
      rw [scanFrom] at run
      cases step : scanStep afterWord c rest with
      | none => simp [step] at run
      | some taken =>
        obtain ⟨found, left⟩ := taken
        obtain ⟨ended, silentStep⟩ := takes_scanStep step
        have silentLeft := silent.of_infix ended.isInfix
        rw [step] at run
        cases found with
        | none => exact inductionHypothesis run silentLeft
        | some token =>
          obtain ⟨others, scanned, rfl⟩ := Option.map_eq_some_iff.mp run
          rw [List.forall_mem_cons]
          exact ⟨silentStep silent token rfl, inductionHypothesis scanned silentLeft⟩

/-- The tokens of a silent text are silent. -/
theorem silent_scan {source : String} {tokens : List Token} (run : scan source = some tokens)
    (silent : Statement.SilentTo hushed source.toList) : ∀ token ∈ tokens, token.SilentTo hushed :=
  silent_scanFrom run silent

end Token

end DialectBridge.Statement
