import DialectBridge.Database.Token
import DialectBridge.Proofs.IndexNames.Recognition
import DialectBridge.Schema.Plan
import Mathlib.Data.List.Basic

/-!
# Index statements as they can be written

The engine takes more names than the ones that are told apart in an index statement: a bare
name may have any character beyond ASCII, and a quoted one may have its quote doubled in it,
or be empty. Where the names are plain, the name that is found is the one that is written,
and the statement waits for the tables. Where they are not, what is found is never that
name.
-/

namespace DialectBridge.Schema.IndexName

open Text (trimStart_of_head? trimStart_append)

/-! ## Words and blanks -/

/-- The keywords that begin an index statement, in capitals. -/
def keywords : List String := ["CREATE", "UNIQUE", "INDEX", "IF", "NOT", "EXISTS", "ON"]

/-- Whether a text is a keyword in letters of any case. -/
def Spells (keyword : String) (text : List Char) : Prop := text.map Char.toUpper = keyword.toList

/-- Whether a text consists of blanks. -/
def Blank (text : List Char) : Prop := ∀ c ∈ text, Text.isBlank c = true

instance (text : List Char) : Decidable (Blank text) :=
  inferInstanceAs (Decidable (∀ c ∈ text, _))

/-- Whether a text begins with a character that is no blank, or is empty. -/
def Settled (text : List Char) : Prop := ∀ c, text.head? = some c → Text.isBlank c = false

/-- Keywords in letters of any case, with blanks after each of them. -/
inductive Keywords : List String → List Char → Prop
  | nil : Keywords [] []
  | cons {keyword : String} {others : List String} {word gap more : List Char}
      (listed : keyword ∈ keywords) (spells : Spells keyword word) (blank : Blank gap)
      (apart : gap ≠ []) (later : Keywords others more) :
      Keywords (keyword :: others) (word ++ (gap ++ more))

/-- Among the small letters, the one of a capital is 32 codes behind it. -/
theorem toUpper_of_small : ∀ code < 123, 97 ≤ code →
    (Char.ofNat code).toUpper.toNat + 32 = code := by
  decide

/-- A character whose capital is a letter is that letter, in capitals or not. -/
theorem toNat_of_toUpper {c letter : Char} (same : c.toUpper = letter) :
    c.toNat = letter.toNat ∨ c.toNat = letter.toNat + 32 := by
  by_cases small : 97 ≤ c.toNat ∧ c.toNat < 123
  · have code := toUpper_of_small c.toNat small.2 small.1
    rw [Char.ofNat_toNat, same] at code
    exact .inr code.symm
  · have unchanged : c.toUpper = c := by
      refine dif_neg fun bounds => small ?_
      have lower : 'a'.toNat ≤ c.toNat := bounds.1
      have upper : c.toNat ≤ 'z'.toNat := bounds.2
      exact ⟨lower, Nat.lt_succ_of_le upper⟩
    rw [unchanged] at same
    exact .inl (congrArg Char.toNat same)

/-- The keywords have letters, all of them capitals. -/
theorem keywords_capital : ∀ keyword ∈ keywords, keyword.toList ≠ [] ∧
    ∀ letter ∈ keyword.toList, 65 ≤ letter.toNat ∧ letter.toNat ≤ 90 := by
  decide

/-- A letter of any case is a variant of its capital, and no blank. -/
theorem sameLetter_of_toUpper {c letter : Char}
    (capital : 65 ≤ letter.toNat ∧ letter.toNat ≤ 90) (same : c.toUpper = letter) :
    sameLetter letter c = true ∧ Text.isBlank c = false := by
  have code := toNat_of_toUpper same
  constructor
  · simp only [sameLetter, beq_iff_eq]
    rw [foldCode_of_ascii (by omega), foldCode_of_ascii (by omega)]
    split <;> split <;> omega
  · refine isBlank_of_isNamePart ?_
    have letters : c.isAlpha = true := Text.isAlpha_iff.mpr (by omega)
    simp [isNamePart, isNameStart, letters]

/-- A keyword in letters of any case is dropped from the front. -/
theorem dropWord_of_spells {letters word : List Char}
    (capital : ∀ letter ∈ letters, 65 ≤ letter.toNat ∧ letter.toNat ≤ 90)
    (spells : word.map Char.toUpper = letters) (rest : List Char) :
    dropWord letters (word ++ rest) = some rest := by
  induction letters generalizing word with
  | nil =>
    obtain rfl := List.map_eq_nil_iff.mp spells
    rfl
  | cons letter letters inductionHypothesis =>
    obtain ⟨c, word, rfl, same, others⟩ := List.map_eq_cons_iff.mp spells
    obtain ⟨variant, _⟩ := sameLetter_of_toUpper (capital letter List.mem_cons_self) same
    have later := inductionHypothesis
      (fun other member => capital other (List.mem_cons_of_mem _ member)) others
    rw [List.cons_append, dropWord, if_pos variant, later]

/-- A keyword begins with a letter. -/
theorem Spells.settled {keyword : String} (listed : keyword ∈ keywords) {word : List Char}
    (spells : Spells keyword word) (rest : List Char) : Settled (word ++ rest) := by
  obtain ⟨nonempty, capital⟩ := keywords_capital keyword listed
  unfold Spells at spells
  generalize keyword.toList = letters at spells nonempty capital
  obtain ⟨letter, letters, rfl⟩ := List.exists_cons_of_ne_nil nonempty
  obtain ⟨c, word, rfl, same, _⟩ := List.map_eq_cons_iff.mp spells
  rintro _ ⟨rfl⟩
  exact (sameLetter_of_toUpper (capital letter List.mem_cons_self) same).2

/-- Keywords begin with a letter, if there are any. -/
theorem Keywords.settled {words : List String} {text rest : List Char}
    (written : Keywords words text) (settled : Settled rest) : Settled (text ++ rest) := by
  cases written with
  | nil => exact settled
  | cons listed spells blank apart later =>
    rw [List.append_assoc]
    exact spells.settled listed _

/-- Blanks before something else are dropped, if there are any. -/
theorem dropBlanks_append {gap rest : List Char} (blank : Blank gap) (apart : gap ≠ [])
    (settled : Settled rest) : dropBlanks (gap ++ rest) = some rest := by
  obtain ⟨c, more, rfl⟩ := List.exists_cons_of_ne_nil apart
  obtain ⟨first, others⟩ := List.forall_mem_cons.mp blank
  rw [List.cons_append, dropBlanks, if_pos first, trimStart_append others,
    trimStart_of_head? settled]

/-- Keywords are dropped with the blanks behind them. -/
theorem Keywords.dropWords {words : List String} {text rest : List Char}
    (written : Keywords words text) (settled : Settled rest) :
    dropWords words (text ++ rest) = some rest := by
  induction written with
  | nil => rfl
  | @cons keyword others word gap more listed spells blank apart later inductionHypothesis =>
    obtain ⟨_, capital⟩ := keywords_capital keyword listed
    have word := dropWord_of_spells capital spells (gap ++ (more ++ rest))
    have gap := dropBlanks_append blank apart (later.settled settled)
    rw [dropWords_cons, List.append_assoc, List.append_assoc, word, Option.bind_some, gap,
      Option.bind_some, inductionHypothesis]

/-! ## Names -/

/-- A name with a quote doubled wherever it occurs. -/
def doubled (quote : Char) (name : List Char) : List Char :=
  name.flatMap fun c => if c = quote then [quote, quote] else [c]

/-- The ways in which the engine lets a name be written, by what opens it, its text and what
closes it: bare, between quotes that are doubled inside, or between brackets. -/
inductive Identifier : List Char → List Char → List Char → Prop
  | bare {first : Char} {more : List Char} (starts : Database.Token.isNameStart first = true)
      (parts : ∀ c ∈ more, Database.Token.isNamePart c = true) :
      Identifier [] (first :: more) []
  | quoted {quote : Char} (opens : quote = '"' ∨ quote.toNat = 0x60) (name : List Char) :
      Identifier [quote] (doubled quote name) [quote]
  | bracketed {text : List Char} (unclosed : ∀ c ∈ text, c ≠ ']') : Identifier ['['] text [']']

/-- A name as it is written. -/
structure Spelling where
  opening : List Char
  text : List Char
  closing : List Char
  identifier : Identifier opening text closing

/-- The characters of a name, with its quotes. -/
def Spelling.chars (name : Spelling) : List Char := name.opening ++ name.text ++ name.closing

/-- Whether a name is one of those that are told apart in an index statement: it is not
empty, a bare one has no character beyond ASCII but the two variants of letters, and a quoted
one has no quote in it. -/
def Spelling.IsPlain (name : Spelling) : Prop :=
  name.text ≠ [] ∧ ∀ c ∈ name.text, c ∉ name.closing ∧ (name.opening = [] → isNamePart c = true)

instance (name : Spelling) : Decidable name.IsPlain := inferInstanceAs (Decidable (_ ∧ _))

/-- Whether a bare name is one word: no character of it is a blank. -/
def Spelling.IsUnbroken (name : Spelling) : Prop :=
  name.opening = [] → ∀ c ∈ name.text, Text.isBlank c = false

/-- The quotes that can be doubled close what they open. -/
theorem closing?_of_quote {quote : Char} (opens : quote = '"' ∨ quote.toNat = 0x60) :
    closing? quote = some quote := by
  rcases opens with rfl | backtick
  · rfl
  · have noDouble : quote ≠ '"' := by
      rintro rfl
      exact absurd backtick (by decide)
    simp [closing?, noDouble, backtick]

/-- What opens a quoted name, and what closes it. -/
theorem Identifier.closing {opening text closing : List Char}
    (identifier : Identifier opening text closing) :
    (opening = [] ∧ closing = []) ∨
      ∃ quote close, opening = [quote] ∧ closing = [close] ∧ closing? quote = some close := by
  cases identifier with
  | bare starts parts => exact .inl ⟨rfl, rfl⟩
  | @quoted quote opens name => exact .inr ⟨quote, quote, rfl, rfl, closing?_of_quote opens⟩
  | bracketed unclosed => exact .inr ⟨'[', ']', rfl, rfl, rfl⟩

/-- The codes of the characters with which the engine lets a bare name start. -/
theorem toNat_of_start {c : Char} (start : Database.Token.isNameStart c = true) :
    (65 ≤ c.toNat ∧ c.toNat ≤ 90) ∨ (97 ≤ c.toNat ∧ c.toNat ≤ 122) ∨ c.toNat = 95 ∨
      0x80 ≤ c.toNat := by
  simp only [Database.Token.isNameStart, Bool.or_eq_true, Text.isAlpha_iff, beq_iff_eq,
    decide_eq_true_eq, ge_iff_le] at start
  rcases start with ((upper | lower) | rfl) | beyond
  · exact .inl upper
  · exact .inr (.inl lower)
  · decide
  · simp [beyond]

/-- The codes of the characters in which the engine lets a bare name go on. -/
theorem toNat_of_part {c : Char} (part : Database.Token.isNamePart c = true) :
    (65 ≤ c.toNat ∧ c.toNat ≤ 90) ∨ (97 ≤ c.toNat ∧ c.toNat ≤ 122) ∨
      (48 ≤ c.toNat ∧ c.toNat ≤ 57) ∨ c.toNat = 95 ∨ c.toNat = 36 ∨ 0x80 ≤ c.toNat := by
  simp only [Database.Token.isNamePart, Bool.or_eq_true, Text.isDigit_iff, beq_iff_eq] at part
  rcases part with (start | digit) | rfl
  · have code := toNat_of_start start
    omega
  · exact .inr (.inr (.inl digit))
  · decide

/-- A character in which a bare name goes on opens no quoted name, and is no point. -/
theorem closing?_of_part {c : Char} (part : Database.Token.isNamePart c = true) :
    closing? c = none ∧ c ≠ '.' := by
  have code := toNat_of_part part
  have differs {other : Char} (outside : ∀ code, code = other.toNat →
      ¬((65 ≤ code ∧ code ≤ 90) ∨ (97 ≤ code ∧ code ≤ 122) ∨ (48 ≤ code ∧ code ≤ 57) ∨
        code = 95 ∨ code = 36 ∨ 0x80 ≤ code)) : c ≠ other := by
    rintro rfl
    exact outside _ rfl code
  have noDouble : c ≠ '"' := differs (by rintro _ rfl; decide)
  have noBracket : c ≠ '[' := differs (by rintro _ rfl; decide)
  have noPoint : c ≠ '.' := differs (by rintro _ rfl; decide)
  have noTick : c.toNat ≠ 0x60 := by omega
  exact ⟨by simp [closing?, noDouble, noTick, noBracket], noPoint⟩

/-- The first character of a bare name is none of those with which it can only go on. -/
theorem isNameStart_of_starts {c : Char} (starts : Database.Token.isNameStart c = true)
    (part : isNamePart c = true) : isNameStart c = true := by
  have code := toNat_of_start starts
  have noDigit : c.isDigit = false := by
    rw [Bool.eq_false_iff, ne_eq, Text.isDigit_iff]
    omega
  have noDollar : c ≠ '$' := by
    rintro rfl
    exact absurd starts (by decide)
  simpa [isNamePart, noDigit, noDollar] using part

/-- A plain name is cut from the front of a text, if nothing that belongs to a bare name
follows it. -/
theorem Spelling.IsPlain.cut {name : Spelling} (plain : name.IsPlain) {rest : List Char}
    (ended : ∀ c, rest.head? = some c → isNamePart c = false) :
    cutName (name.chars ++ rest) = some (name.opening, name.text, name.closing ++ rest) := by
  obtain ⟨opening, text, closing, identifier⟩ := name
  obtain ⟨nonempty, inside⟩ := plain
  refine cutName_eq_some_iff.mpr ⟨List.append_assoc _ _ _, ?_⟩
  rcases identifier.closing with ⟨rfl, rfl⟩ | ⟨quote, close, rfl, rfl, opens⟩
  · have parts := fun c member => (inside c member).2 rfl
    cases identifier with
    | @bare first more starts engineParts =>
      obtain ⟨start, others⟩ := List.forall_mem_cons.mp parts
      have part : Database.Token.isNamePart first = true := by
        simp [Database.Token.isNamePart, starts]
      exact .bare (closing?_of_part part).1 (isNameStart_of_starts starts start) others ended
  · exact .quoted rest opens nonempty fun c member => by simpa using (inside c member).1

/-- What opens a quoted name is no blank and no point. -/
theorem quote_of_closing? {quote close : Char} (opens : closing? quote = some close) :
    Text.isBlank quote = false ∧ quote ≠ '.' := by
  have noBlank : quotePairs.all (fun pair => !Text.isBlank pair.1 && pair.1 != '.') = true := by
    decide
  simpa using List.all_eq_true.mp noBlank _ (mem_quotePairs opens)

/-- A plain name is one word. -/
theorem Spelling.IsPlain.unbroken {name : Spelling} (plain : name.IsPlain) : name.IsUnbroken :=
  fun bare c member => isBlank_of_isNamePart ((plain.2 c member).2 bare)

/-- A name that is one word begins with no blank. -/
theorem Spelling.IsUnbroken.settled {name : Spelling} (unbroken : name.IsUnbroken)
    (rest : List Char) : Settled (name.chars ++ rest) := by
  obtain ⟨opening, text, closing, identifier⟩ := name
  intro c head
  rcases identifier.closing with ⟨rfl, rfl⟩ | ⟨quote, close, rfl, rfl, opens⟩
  · cases identifier with
    | @bare first more starts parts =>
      obtain rfl : first = c := Option.some.inj head
      exact unbroken rfl first List.mem_cons_self
  · obtain rfl : quote = c := Option.some.inj head
    exact (quote_of_closing? opens).1

/-- A name is never written without any character. -/
theorem Spelling.chars_long (name : Spelling) : 1 ≤ name.chars.length := by
  obtain ⟨opening, text, closing, identifier⟩ := name
  cases identifier <;> simp [Spelling.chars]

/-- What follows a name in its quotes is what is left without the quote. -/
theorem Spelling.behind (name : Spelling) (rest : List Char) :
    (if name.opening.isEmpty then name.closing ++ rest else (name.closing ++ rest).drop 1) =
      rest := by
  rcases name.identifier.closing with ⟨opening, closing⟩ | ⟨quote, close, opening, closing, _⟩
  · simp [opening, closing]
  · simp [opening, closing]

/-- The characters that stand behind a name and its blanks, a point or a letter of the last
keyword, are no letters of the words that let an index exist already. -/
theorem sameLetter_behind {next : Char} (behind : next = '.' ∨ next.toUpper = 'O') :
    sameLetter 'F' next = false ∧ sameLetter 'N' next = false ∧ Text.isBlank next = false := by
  rcases behind with rfl | capital
  · simp (disch := decide) [sameLetter, foldCode_of_ascii]
    decide
  · have code : next.toNat = 79 ∨ next.toNat = 111 := toNat_of_toUpper capital
    refine ⟨?_, ?_, (sameLetter_of_toUpper (by decide) capital).2⟩
    · rcases code with code | code <;> simp (disch := decide) [sameLetter, foldCode_of_ascii, code]
    · rcases code with code | code <;> simp (disch := decide) [sameLetter, foldCode_of_ascii, code]

/-- A bare name of one word and what follows it are not the words that let an index exist
already. -/
theorem existsWords_word {text gap rest : List Char} {next : Char} (nonempty : text ≠ [])
    (unbroken : ∀ c ∈ text, Text.isBlank c = false) (blank : Blank gap)
    (behind : next = '.' ∨ next.toUpper = 'O') :
    dropWords existsWords (text ++ (gap ++ next :: rest)) = none := by
  obtain ⟨noF, noN, visible⟩ := sameLetter_behind behind
  have settled : Settled (next :: rest) := by
    rintro _ ⟨rfl⟩
    exact visible
  unfold existsWords
  rw [dropWords_cons]
  match text with
  | [] => exact absurd rfl nonempty
  | [first] =>
    cases gap with
    | nil => simp [dropWord, noF]
    | cons blank' gap => simp [dropWord, sameLetter_of_isBlank (blank blank' List.mem_cons_self)]
  | [first, second] =>
    simp only [String.reduceToList, dropWord, List.cons_append, List.nil_append]
    split
    · split
      · cases gap with
        | nil => simp [dropBlanks, visible]
        | cons blank' gap =>
          have dropped := dropBlanks_append blank (by simp) settled
          rw [List.cons_append] at dropped
          simp [dropped, dropWords_cons, dropWord, noN]
      · rfl
    · rfl
  | first :: second :: third :: more =>
    have noBlank := unbroken third (by simp)
    simp only [String.reduceToList, dropWord, List.cons_append]
    split
    · split
      · simp [dropBlanks, noBlank]
      · rfl
    · rfl

/-- The words that let an index exist already are not in front of a name of one word. -/
theorem existsWords_name {name : Spelling} (unbroken : name.IsUnbroken) {gap rest : List Char}
    {next : Char} (blank : Blank gap) (behind : next = '.' ∨ next.toUpper = 'O') :
    dropWords existsWords (name.chars ++ (gap ++ next :: rest)) = none := by
  obtain ⟨opening, text, closing, identifier⟩ := name
  rcases identifier.closing with ⟨rfl, rfl⟩ | ⟨quote, close, rfl, rfl, opens⟩
  · have nonempty : text ≠ [] := by
      cases identifier
      exact List.cons_ne_nil _ _
    simpa [Spelling.chars] using
      @existsWords_word text gap rest next nonempty (unbroken rfl) blank behind
  · exact existsWords_quoted _ opens

/-! ## Schemas -/

/-- A schema as it is written, with the point after it and blanks around that. -/
structure Qualifier where
  name : Spelling
  before : List Char
  after : List Char
  blankBefore : Blank before
  blankAfter : Blank after

/-- The characters of a schema, up to what it qualifies. -/
def Qualifier.chars (schema : Qualifier) : List Char :=
  schema.name.chars ++ (schema.before ++ '.' :: schema.after)

/-- A blank is no part of a bare name. -/
theorem isNamePart_of_isBlank {c : Char} (blank : Text.isBlank c = true) :
    isNamePart c = false := by
  cases part : isNamePart c with
  | false => rfl
  | true =>
    rw [isBlank_of_isNamePart part] at blank
    exact absurd blank (by decide)

/-- What follows a schema is a blank or the point. -/
theorem Qualifier.ended (schema : Qualifier) (rest : List Char) :
    ∀ c, (schema.before ++ '.' :: rest).head? = some c → isNamePart c = false := by
  have blanks := schema.blankBefore
  intro c head
  cases between : schema.before with
  | nil =>
    rw [between] at head
    obtain rfl : '.' = c := Option.some.inj head
    decide
  | cons d more =>
    rw [between] at head blanks
    obtain rfl : d = c := Option.some.inj head
    exact isNamePart_of_isBlank (blanks d List.mem_cons_self)

/-- A plain schema is dropped with its point. -/
theorem Qualifier.dropSchema {schema : Qualifier} (plain : schema.name.IsPlain)
    {rest : List Char} (settled : Settled rest) :
    dropSchema (schema.chars ++ rest) = some rest := by
  have cut := plain.cut (schema.ended (schema.after ++ rest))
  obtain ⟨name, before, after, blankBefore, blankAfter⟩ := schema
  have closed : if name.opening.isEmpty then name.closing = [] else name.closing.length = 1 := by
    rcases name.identifier.closing with ⟨opening, closing⟩ | ⟨quote, close, opening, closing, _⟩
    · simp [opening, closing]
    · simp [opening, closing]
  have point := afterPoint_append closed blankBefore blankAfter settled
  rw [Qualifier.chars, List.append_assoc, List.append_assoc, List.cons_append,
    dropSchema_of_cutName cut, ← List.append_assoc, point]

/-! ## Statements -/

/-- An index statement as it is written, up to what follows its name. -/
structure Written where
  lead : List Char
  blankLead : Blank lead
  unique : Bool
  command : List Char
  commands : Keywords ("CREATE" :: if unique then ["UNIQUE", "INDEX"] else ["INDEX"]) command
  tolerant : Bool
  condition : List Char
  conditions : Keywords (if tolerant then existsWords else []) condition
  schema : Option Qualifier
  name : Spelling
  gap : List Char
  blankGap : Blank gap
  apart : gap ≠ []
  on : List Char
  spellsOn : Spells "ON" on
  rest : List Char

namespace Written

variable (written : Written)

/-- The characters of the schema, if there is one. -/
def qualification : List Char := written.schema.elim [] Qualifier.chars

/-- What follows the name in its quotes. -/
def tail : List Char := written.gap ++ (written.on ++ written.rest)

/-- The characters from the name on, and those of the schema before it. -/
def qualified : List Char := written.qualification ++ (written.name.chars ++ written.tail)

/-- The characters of the statement. -/
def chars : List Char :=
  written.lead ++ (written.command ++ (written.condition ++ written.qualified))

/-- The statement, cut at its name. -/
def located : IndexName where
  before := written.lead ++ (written.command ++ (written.condition ++
    (written.qualification ++ written.name.opening)))
  name := written.name.text
  after := written.name.closing ++ written.tail

/-- Whether all names are plain. -/
def IsPlain : Prop := written.name.IsPlain ∧ ∀ schema ∈ written.schema, schema.name.IsPlain

/-- The statement is its name with what stands before and after it. -/
theorem chars_eq : written.chars =
    written.located.before ++ written.located.name ++ written.located.after := by
  simp [chars, located, qualified, Spelling.chars]

/-- What follows a name in its quotes is a blank. -/
theorem ended_tail : ∀ c, written.tail.head? = some c → isNamePart c = false := by
  obtain ⟨blank, gap, same⟩ := List.exists_cons_of_ne_nil written.apart
  intro c head
  unfold tail at head
  rw [same] at head
  obtain rfl : blank = c := Option.some.inj head
  exact isNamePart_of_isBlank (written.blankGap blank (by rw [same]; exact List.mem_cons_self))

/-- Behind the blank stands a keyword. -/
theorem trimStart_tail : ∃ c more, Text.trimStart written.tail = c :: more ∧ c.toUpper = 'O' := by
  have settled := written.spellsOn.settled (by decide) written.rest
  have letters : written.on.map Char.toUpper = ['O', 'N'] := written.spellsOn
  obtain ⟨c, more, same, capital, _⟩ := List.map_eq_cons_iff.mp letters
  refine ⟨c, more ++ written.rest, ?_, capital⟩
  unfold tail
  rw [trimStart_append written.blankGap, trimStart_of_head? settled, same]
  rfl

/-- No point follows a name, so that it is no schema. -/
theorem afterPoint_tail (name : Spelling) :
    afterPoint name.opening (name.closing ++ written.tail) = none := by
  obtain ⟨c, more, trimmed, capital⟩ := written.trimStart_tail
  have noPoint : c ≠ '.' := by
    rintro rfl
    exact absurd capital (by decide)
  unfold afterPoint
  rw [name.behind, trimmed]
  split
  · next same => exact absurd (List.cons.inj same).1 noPoint
  · rfl

/-- A plain name is cut where it stands, behind its schema if that is plain, too. -/
theorem cutQualified_plain (plain : written.IsPlain) :
    cutQualified written.qualified =
      some (written.name.opening, written.name.text, written.name.closing ++ written.tail) := by
  obtain ⟨named, schemas⟩ := plain
  have cut := named.cut written.ended_tail
  unfold qualified qualification cutQualified
  cases qualified : written.schema with
  | none =>
    have noSchema := (dropSchema_of_cutName cut).trans (written.afterPoint_tail written.name)
    rw [Option.elim_none, List.nil_append, noSchema, cut]
    rfl
  | some schema =>
    have dropped := Qualifier.dropSchema (schemas schema qualified)
      (named.unbroken.settled written.tail)
    rw [Option.elim_some, dropped, Option.bind_some, cut]
    rfl

/-- The name that comes first: that of the schema, if there is one. -/
def first : Spelling := written.schema.elim written.name Qualifier.name

/-- The words that let an index exist already are not in front of its name and schema. -/
theorem existsWords_qualified (unbroken : written.first.IsUnbroken) :
    dropWords existsWords written.qualified = none := by
  unfold first at unbroken
  unfold qualified qualification
  generalize written.schema = schema at unbroken ⊢
  cases schema with
  | none =>
    have letters : written.on.map Char.toUpper = ['O', 'N'] := written.spellsOn
    obtain ⟨c, more, same, capital, _⟩ := List.map_eq_cons_iff.mp letters
    rw [Option.elim_none, List.nil_append, tail, same]
    exact existsWords_name unbroken written.blankGap (.inr capital)
  | some schema =>
    rw [Option.elim_some, Qualifier.chars, List.append_assoc, List.append_assoc,
      List.cons_append]
    exact existsWords_name unbroken schema.blankBefore (.inl rfl)

/-- What the index is called begins with no blank if its first name is one word. -/
theorem settled_qualified (unbroken : written.first.IsUnbroken) : Settled written.qualified := by
  unfold first at unbroken
  unfold qualified qualification
  generalize written.schema = schema at unbroken ⊢
  cases schema with
  | none => exact unbroken.settled written.tail
  | some schema =>
    rw [Option.elim_some, Qualifier.chars, List.append_assoc]
    exact Spelling.IsUnbroken.settled unbroken _

/-- Without words that let the index exist already, what it is called is read at once. -/
theorem cutIndexName_of_intolerant (unbroken : written.first.IsUnbroken)
    (intolerant : written.tolerant = false) :
    cutIndexName (written.condition ++ written.qualified) = cutQualified written.qualified := by
  have conditions := written.conditions
  unfold cutIndexName
  rw [intolerant, if_neg (by decide)] at conditions
  generalize written.condition = condition at conditions
  cases conditions
  rw [List.nil_append, written.existsWords_qualified unbroken, Option.bind_none, Option.none_or]

/-- What the index is called is read behind the words before it. -/
theorem cutIndexName_condition (unbroken : written.first.IsUnbroken)
    {cut : List Char × List Char × List Char} (qualified : cutQualified written.qualified = some cut) :
    cutIndexName (written.condition ++ written.qualified) = some cut := by
  cases tolerant : written.tolerant with
  | true =>
    have conditions := written.conditions
    unfold cutIndexName
    rw [tolerant, if_pos rfl] at conditions
    rw [conditions.dropWords (written.settled_qualified unbroken), Option.bind_some, qualified,
      Option.some_or]
  | false => rw [written.cutIndexName_of_intolerant unbroken tolerant, qualified]

/-- The words that begin an index statement are dropped. -/
theorem dropIntroduction_append {rest : List Char} (settled : Settled rest) :
    dropIntroduction (written.lead ++ (written.command ++ rest)) = some rest := by
  have begins := written.commands.settled settled
  have dropped := written.commands.dropWords settled
  rw [dropWords_cons] at dropped
  obtain ⟨between, create, others⟩ := Option.bind_eq_some_iff.mp dropped
  have created : dropWords ["CREATE"] (written.command ++ rest) = some between := by
    rw [dropWords_cons, create]
    rfl
  have either : (dropWords ["UNIQUE", "INDEX"] between).or (dropWords ["INDEX"] between) =
      some rest := by
    cases unique : written.unique with
    | true =>
      rw [unique, if_pos rfl] at others
      rw [others]
      rfl
    | false =>
      rw [unique, if_neg (by decide)] at others
      rw [dropWords_unique_of_index others, others]
      rfl
  unfold dropIntroduction
  rw [trimStart_append written.blankLead, trimStart_of_head? begins, created]
  exact either

/-- A statement whose names are plain is cut at its name. -/
theorem locate?_plain (plain : written.IsPlain) :
    locate? written.chars = some written.located := by
  have unbroken : written.first.IsUnbroken := by
    unfold first
    cases schema : written.schema with
    | none => exact plain.1.unbroken
    | some schema' => exact (plain.2 schema' schema).unbroken
  have named := written.cutIndexName_condition unbroken (written.cutQualified_plain plain)
  have introduced := written.dropIntroduction_append
    (written.conditions.settled (written.settled_qualified unbroken))
  have cut : written.condition ++ written.qualified =
      (written.condition ++ (written.qualification ++ written.name.opening)) ++
        written.name.text ++ (written.name.closing ++ written.tail) := by
    simp [qualified, Spelling.chars]
  rw [← List.append_assoc, cut] at introduced
  rw [cut] at named
  have located := locate?_append introduced named
  rw [← cut] at located
  simpa [chars, Written.located] using located

end Written

end DialectBridge.Schema.IndexName
