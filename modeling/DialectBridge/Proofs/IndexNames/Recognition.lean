import DialectBridge.Proofs.Characters
import DialectBridge.Proofs.Trimming
import DialectBridge.Schema.IndexRegistry

/-!
# Reading a name back

A statement whose index gets another name is not read again before it is executed, so
nothing but the way in which statements are read makes the new name the one that is
found in it. Reading is by longest stretches: what has been read stays as it is when
something else follows, as long as that begins with the same character. A number
appended to a name lengthens the stretch of the name and no other, in every way of
quoting, with a schema and without. A name that consists of a first word of the
introduction is no longer that word with a number after it.
-/

namespace DialectBridge.Schema.IndexName

open Text (trimStart_of_head? isBlank_head?_trimStart trimStart_append exists_blanks blankCodes
  toNat_mem_blankCodes)

/-- What is appended to a name that is in use. -/
def numberSuffix (number : Nat) : List Char := '_' :: (toString number).toList

/-- A name in a text: what opens it, its characters, and what follows. A quoted name
ends before the first character that closes it. A bare name goes on as long as it can. -/
inductive NameCut : List Char → List Char → List Char → Prop where
  | quoted {opening close : Char} {name : List Char} (rest : List Char)
      (opens : closing? opening = some close) (begun : name ≠ [])
      (inside : ∀ c ∈ name, (c != close) = true) : NameCut [opening] name (close :: rest)
  | bare {first : Char} {more after : List Char} (plain : closing? first = none)
      (starts : isNameStart first = true) (parts : ∀ c ∈ more, isNamePart c = true)
      (ended : ∀ c, after.head? = some c → isNamePart c = false) :
      NameCut [] (first :: more) after

/-- A reader takes something from the front of texts and leaves the rest. What it takes
is the same whatever follows, as long as that begins with the same character. -/
def ReadsFront (read : List Char → Option (List Char)) : Prop :=
  ∀ text rest, read text = some rest →
    ∃ front, text = front ++ rest ∧
      ∀ other : List Char, other.head? = rest.head? → read (front ++ other) = some other

/-! ## Characters -/

/-- The characters of a number are digits after a low line. -/
theorem mem_numberSuffix {number : Nat} {c : Char} (member : c ∈ numberSuffix number) :
    c = '_' ∨ c.isDigit = true := by
  rcases List.mem_cons.mp member with rfl | inside
  · exact .inl rfl
  · refine .inr ?_
    have digits : c ∈ Nat.toDigits 10 number := by simpa [numberSuffix] using inside
    exact Nat.isDigit_of_mem_toDigits (by decide) (by decide) digits

/-- A bare name can go on with a number. -/
theorem isNamePart_of_mem_numberSuffix {number : Nat} {c : Char}
    (member : c ∈ numberSuffix number) : isNamePart c = true := by
  rcases mem_numberSuffix member with rfl | digit
  · decide
  · simp [isNamePart, digit]

/-- The quotes of names, each with what closes it. -/
def quotePairs : List (Char × Char) :=
  [('"', '"'), (Char.ofNat 0x60, Char.ofNat 0x60), ('[', ']')]

/-- What opens a quoted name is a quote, and what closes it closes that. -/
theorem mem_quotePairs {opening close : Char} (opens : closing? opening = some close) :
    (opening, close) ∈ quotePairs := by
  unfold closing? at opens
  split at opens
  · next double =>
    obtain rfl := Option.some.inj opens
    simp [quotePairs, double]
  · split at opens
    · next backtick =>
      obtain rfl := Option.some.inj opens
      obtain rfl : opening = Char.ofNat 0x60 := by rw [← backtick, Char.ofNat_toNat]
      decide
    · split at opens
      · next bracket =>
        obtain rfl := Option.some.inj opens
        simp [quotePairs, bracket]
      · simp at opens

/-- No character of a number closes a quoted name. -/
theorem ne_close_of_mem_numberSuffix {number : Nat} {c opening close : Char}
    (opens : closing? opening = some close) (member : c ∈ numberSuffix number) :
    (c != close) = true := by
  have noneIsName : quotePairs.all (fun pair => pair.2 != '_' && !pair.2.isDigit) = true := by
    decide
  have noName : close ≠ '_' ∧ close.isDigit = false := by
    simpa using List.all_eq_true.mp noneIsName _ (mem_quotePairs opens)
  rcases mem_numberSuffix member with rfl | digit
  · simpa using noName.1.symm
  · simp only [bne_iff_ne, ne_eq]
    rintro rfl
    simp [noName.2] at digit

/-- The codes of the characters in which a bare name goes on. -/
theorem toNat_of_isNamePart {c : Char} (part : isNamePart c = true) :
    (65 ≤ c.toNat ∧ c.toNat ≤ 90) ∨ (97 ≤ c.toNat ∧ c.toNat ≤ 122) ∨
      (48 ≤ c.toNat ∧ c.toNat ≤ 57) ∨ c.toNat = 95 ∨ c.toNat = 36 ∨ c.toNat = 0x17F ∨
      c.toNat = 0x212A := by
  simp only [isNamePart, isNameStart, Bool.or_eq_true, Text.isAlpha_iff, Text.isDigit_iff,
    beq_iff_eq] at part
  rcases part with (((((upper | lower) | rfl) | long) | kelvin) | digit) | rfl
  · exact .inl upper
  · exact .inr (.inl lower)
  · decide
  · simp [long]
  · simp [kelvin]
  · exact .inr (.inr (.inl digit))
  · decide

/-- Characters in which a bare name goes on are no blanks. -/
theorem isBlank_of_isNamePart {c : Char} (part : isNamePart c = true) :
    Text.isBlank c = false := by
  have code := toNat_of_isNamePart part
  simp only [Text.isBlank, Bool.or_eq_false_iff, Bool.and_eq_false_iff, decide_eq_false_iff_not,
    beq_eq_false_iff_ne]
  omega

/-- Among the ASCII characters, folding maps the capitals to the small letters. -/
theorem foldCode_of_ascii {code : Nat} (ascii : code < 0x80) :
    Text.foldCode code = if 0x41 ≤ code ∧ code ≤ 0x5A then code + 32 else code := by
  have beyond : (Text.foldRuns.toList.all fun run => 0x80 ≤ run.first) = true := by
    decide +kernel
  have unfound : Text.foldRuns.find? (·.holds code) = none := by
    refine Array.find?_eq_none.mpr fun run member => ?_
    have first := List.all_eq_true.mp beyond run (Array.mem_toList_iff.mpr member)
    simp only [decide_eq_true_eq] at first
    simp only [Text.CaseRun.holds, Bool.and_eq_true, decide_eq_true_eq, not_and]
    omega
  simp [Text.foldCode, Text.CaseRun.image, unfound]

/-- Blanks are their own case variants: no run of the folding table holds one. -/
theorem foldCode_of_isBlank {c : Char} (blank : Text.isBlank c = true) :
    Text.foldCode c.toNat = c.toNat := by
  have unheld : (Text.foldRuns.toList.all fun run =>
      blankCodes.all fun code => !run.holds code) = true := by
    decide +kernel
  have listed := toNat_mem_blankCodes blank
  have upper : ¬(0x41 ≤ c.toNat ∧ c.toNat ≤ 0x5A) := by
    have outside : ∀ code ∈ blankCodes, ¬(0x41 ≤ code ∧ code ≤ 0x5A) := by decide
    exact outside _ listed
  have unfound : Text.foldRuns.find? (·.holds c.toNat) = none := by
    refine Array.find?_eq_none.mpr fun run member => ?_
    have none := List.all_eq_true.mp unheld run (Array.mem_toList_iff.mpr member)
    simpa using List.all_eq_true.mp none c.toNat listed
  simp [Text.foldCode, upper, Text.CaseRun.image, unfound]

/-! ## Readers of a front -/

/-- What follows a front decides the first character only where the front is empty. -/
theorem head?_append_congr (front : List Char) {rest other : List Char}
    (same : other.head? = rest.head?) : (front ++ other).head? = (front ++ rest).head? := by
  simp [List.head?_append, same]

/-- Taking nothing reads a front. -/
theorem readsFront_some : ReadsFront some := by
  rintro text _ ⟨rfl⟩
  exact ⟨[], rfl, fun _ _ => rfl⟩

/-- One reader after another reads a front. -/
theorem ReadsFront.bind {first second : List Char → Option (List Char)}
    (before : ReadsFront first) (after : ReadsFront second) :
    ReadsFront fun text => (first text).bind second := by
  intro text rest read
  obtain ⟨between, left, right⟩ := Option.bind_eq_some_iff.mp read
  obtain ⟨front, rfl, again⟩ := before text between left
  obtain ⟨middle, rfl, further⟩ := after between rest right
  refine ⟨front ++ middle, by simp, ?_⟩
  intro other same
  have left : first (front ++ (middle ++ other)) = some (middle ++ other) :=
    again (middle ++ other) (head?_append_congr middle same)
  simp [left, further other same]

/-- A word is read from the front. -/
theorem readsFront_dropWord (word : List Char) : ReadsFront (dropWord word) := by
  induction word with
  | nil =>
    rintro text _ ⟨rfl⟩
    exact ⟨[], rfl, fun _ _ => rfl⟩
  | cons letter word inductionHypothesis =>
    intro text rest read
    cases text with
    | nil => simp [dropWord] at read
    | cons c text =>
      unfold dropWord at read
      split at read
      · next same =>
        obtain ⟨front, rfl, again⟩ := inductionHypothesis text rest read
        refine ⟨c :: front, rfl, ?_⟩
        intro other head
        simp [dropWord, same, again other head]
      · simp at read

/-- Blanks are read from the front, all of them. -/
theorem readsFront_dropBlanks : ReadsFront dropBlanks := by
  intro text rest read
  cases text with
  | nil => simp [dropBlanks] at read
  | cons c text =>
    simp only [dropBlanks] at read
    split at read
    · next blank =>
      obtain rfl : Text.trimStart text = rest := by simpa using read
      obtain ⟨blanks, same, all⟩ := exists_blanks text
      refine ⟨c :: blanks, by simp [← same], ?_⟩
      intro other head
      have settled : Text.trimStart other = other :=
        trimStart_of_head? fun d first => isBlank_head?_trimStart text d (head ▸ first)
      simp [dropBlanks, blank, trimStart_append all, settled]
    · simp at read

/-- Words are read from the front, one after another. -/
theorem readsFront_dropWords (words : List String) : ReadsFront (dropWords words) := by
  induction words with
  | nil => exact readsFront_some
  | cons word words inductionHypothesis =>
    have one := (readsFront_dropWord word.toList).bind readsFront_dropBlanks
    exact one.bind inductionHypothesis

/-! ## Names -/

/-- A name that is cut from a text begins it. -/
theorem NameCut.of_cutName {text opening name after : List Char}
    (cut : cutName text = some (opening, name, after)) :
    text = opening ++ name ++ after ∧ NameCut opening name after := by
  cases text with
  | nil => simp [cutName] at cut
  | cons c rest =>
    simp only [cutName] at cut
    cases opens : closing? c with
    | some close =>
      rw [opens] at cut
      simp only at cut
      split at cut
      · simp at cut
      · next nonempty =>
        simp only [Option.some.injEq, Prod.mk.injEq] at cut
        obtain ⟨rfl, rfl, rfl⟩ := cut
        have inside : ∀ d ∈ rest.takeWhile (· != close), (d != close) = true :=
          fun d member => List.all_eq_true.mp List.all_takeWhile d member
        have closed := List.head?_dropWhile_not (· != close) rest
        simp only [Bool.or_eq_true, List.isEmpty_iff, not_or] at nonempty
        obtain ⟨d, tail, left⟩ := List.exists_cons_of_ne_nil nonempty.2
        obtain rfl : d = close := by simpa [left] using closed
        refine ⟨by simp [List.takeWhile_append_dropWhile], ?_⟩
        rw [left]
        exact .quoted tail opens nonempty.1 inside
    | none =>
      rw [opens] at cut
      simp only at cut
      split at cut
      · next starts =>
        simp only [Option.some.injEq, Prod.mk.injEq] at cut
        obtain ⟨rfl, rfl, rfl⟩ := cut
        refine ⟨by simp [List.takeWhile_append_dropWhile], .bare opens starts ?_ ?_⟩
        · exact fun d member => List.all_eq_true.mp List.all_takeWhile d member
        · intro d head
          have stopped := List.head?_dropWhile_not isNamePart rest
          simpa [head] using stopped
      · simp at cut

/-- A name is cut from a text that begins with it. -/
theorem NameCut.cutName_eq {opening name after : List Char} (cut : NameCut opening name after) :
    cutName (opening ++ name ++ after) = some (opening, name, after) := by
  cases cut with
  | @quoted opening close name rest opens begun inside =>
    have closed : ∀ c, (close :: rest).head? = some c → (c != close) = false := by
      rintro _ ⟨rfl⟩
      simp
    obtain ⟨taken, left⟩ := Text.takeWhile_dropWhile_append inside closed
    simp [cutName, opens, taken, left, begun]
  | bare plain starts parts ended =>
    obtain ⟨taken, left⟩ := Text.takeWhile_dropWhile_append parts ended
    simp [cutName, plain, starts, taken, left]

/-- A name is cut from a text exactly where the text begins with it. -/
theorem cutName_eq_some_iff {text opening name after : List Char} :
    cutName text = some (opening, name, after) ↔
      text = opening ++ name ++ after ∧ NameCut opening name after := by
  constructor
  · exact NameCut.of_cutName
  · rintro ⟨rfl, cut⟩
    exact cut.cutName_eq

/-- A name is never empty. -/
theorem NameCut.begun {opening name after : List Char} (cut : NameCut opening name after) :
    name ≠ [] := by
  cases cut with
  | quoted rest opens begun inside => exact begun
  | bare plain starts parts ended => simp

/-- A name with a number appended is a name with the same quotes. -/
theorem NameCut.lengthened {opening name after : List Char} (number : Nat)
    (cut : NameCut opening name after) :
    NameCut opening (name ++ numberSuffix number) after := by
  cases cut with
  | quoted rest opens begun inside =>
    refine .quoted rest opens (by simp [begun]) ?_
    intro c member
    rcases List.mem_append.mp member with old | new
    · exact inside c old
    · exact ne_close_of_mem_numberSuffix opens new
  | bare plain starts parts ended =>
    refine .bare plain starts ?_ ended
    intro c member
    rcases List.mem_append.mp member with old | new
    · exact parts c old
    · exact isNamePart_of_mem_numberSuffix new

/-- What follows a name matters to it by the first character alone. -/
theorem NameCut.followed {opening name after other : List Char}
    (cut : NameCut opening name after) (same : other.head? = after.head?) :
    NameCut opening name other := by
  cases cut with
  | quoted rest opens begun inside =>
    obtain ⟨tail, rfl⟩ := List.head?_eq_some_iff.mp same
    exact .quoted tail opens begun inside
  | bare plain starts parts ended =>
    exact .bare plain starts parts fun c head => ended c (same ▸ head)

/-! ## Schemas -/

/-- What follows the point after a schema, if there is one. -/
def afterPoint (opening after : List Char) : Option (List Char) :=
  match Text.trimStart (if opening.isEmpty then after else after.drop 1) with
  | '.' :: rest => some (Text.trimStart rest)
  | _ => none

/-- Whether a schema stands in front of a text depends on what follows the name there. -/
theorem dropSchema_of_cutName {text opening name after : List Char}
    (cut : cutName text = some (opening, name, after)) :
    dropSchema text = afterPoint opening after := by
  simp only [dropSchema, cut, afterPoint]
  rfl

/-- The point stands after the closing quote and blanks, and blanks follow it. -/
theorem afterPoint_eq_some {opening after rest : List Char}
    (point : afterPoint opening after = some rest) :
    ∃ close blanks between,
      after = close ++ blanks ++ '.' :: (between ++ rest) ∧
        (if opening.isEmpty then close = [] else close.length = 1) ∧
        (∀ c ∈ blanks, Text.isBlank c = true) ∧ (∀ c ∈ between, Text.isBlank c = true) ∧
        (∀ c, rest.head? = some c → Text.isBlank c = false) := by
  unfold afterPoint at point
  split at point
  · next tail pointed =>
    obtain rfl : Text.trimStart tail = rest := by simpa using point
    obtain ⟨blanks, left, blank⟩ := exists_blanks (if opening.isEmpty then after else after.drop 1)
    obtain ⟨between, right, blank'⟩ := exists_blanks tail
    rw [pointed] at left
    refine ⟨if opening.isEmpty then [] else after.take 1, blanks, between, ?_, ?_, blank,
      blank', isBlank_head?_trimStart tail⟩
    · rw [← right]
      cases opening with
      | nil => simpa using left
      | cons c opening =>
        have parts := List.take_append_drop 1 after
        simp only [List.isEmpty_cons, Bool.false_eq_true, if_false] at left ⊢
        rw [List.append_assoc, ← left, parts]
    · cases opening with
      | nil => rfl
      | cons c opening =>
        have long : 1 ≤ after.length := by
          rcases after with _ | ⟨d, after⟩
          · simp [Text.trimStart] at pointed
          · simp
        simp only [List.isEmpty_cons, Bool.false_eq_true, if_false, List.length_take]
        omega
  · simp at point

/-- A point is found after a closing quote and blanks, and the blanks after it are
dropped. -/
theorem afterPoint_append {opening close blanks between rest : List Char}
    (closed : if opening.isEmpty then close = [] else close.length = 1)
    (before : ∀ c ∈ blanks, Text.isBlank c = true)
    (later : ∀ c ∈ between, Text.isBlank c = true)
    (settled : ∀ c, rest.head? = some c → Text.isBlank c = false) :
    afterPoint opening (close ++ blanks ++ '.' :: (between ++ rest)) = some rest := by
  have opened : (if opening.isEmpty then close ++ blanks ++ '.' :: (between ++ rest)
      else (close ++ blanks ++ '.' :: (between ++ rest)).drop 1) =
        blanks ++ '.' :: (between ++ rest) := by
    cases opening with
    | nil =>
      obtain rfl : close = [] := closed
      rfl
    | cons c opening =>
      obtain ⟨quote, rfl⟩ := List.length_eq_one_iff.mp closed
      rfl
  have point : Text.trimStart ('.' :: (between ++ rest)) = '.' :: (between ++ rest) := rfl
  have rest : Text.trimStart (between ++ rest) = rest := by
    rw [trimStart_append later, trimStart_of_head? settled]
  unfold afterPoint
  rw [opened, trimStart_append before, point]
  simp [rest]

/-- A schema is read from the front, with its point. -/
theorem readsFront_dropSchema : ReadsFront dropSchema := by
  intro text rest read
  cases cut : cutName text with
  | none => simp [dropSchema, cut] at read
  | some parts =>
    obtain ⟨opening, name, after⟩ := parts
    rw [dropSchema_of_cutName cut] at read
    obtain ⟨close, blanks, between, rfl, closed, before, later, settled⟩ :=
      afterPoint_eq_some read
    obtain ⟨rfl, inside⟩ := cutName_eq_some_iff.mp cut
    refine ⟨opening ++ name ++ close ++ blanks ++ '.' :: between, by simp, ?_⟩
    intro other same
    have again : cutName (opening ++ name ++ (close ++ blanks ++ '.' :: (between ++ other))) =
        some (opening, name, close ++ blanks ++ '.' :: (between ++ other)) := by
      refine cutName_eq_some_iff.mpr ⟨rfl, inside.followed ?_⟩
      simp [List.head?_append]
    have pointed := afterPoint_append closed before later fun c head => settled c (same ▸ head)
    rw [← dropSchema_of_cutName again] at pointed
    simpa using pointed

/-- A qualified name is the name after a schema, or else the name in front. -/
theorem cutQualified_cases {text : List Char} {cut : List Char × List Char × List Char}
    (qualified : cutQualified text = some cut) :
    (∃ rest, dropSchema text = some rest ∧ cutName rest = some cut) ∨
      ((dropSchema text).bind cutName = none ∧ cutName text = some cut) := by
  unfold cutQualified at qualified
  cases schema : (dropSchema text).bind cutName with
  | some other =>
    obtain rfl : other = cut := by simpa [schema] using qualified
    obtain ⟨rest, left, right⟩ := Option.bind_eq_some_iff.mp schema
    exact .inl ⟨rest, left, right⟩
  | none => exact .inr ⟨rfl, by simpa [schema] using qualified⟩

/-! ## The words before a name -/

/-- The words that let an index exist already. -/
def existsWords : List String := ["IF", "NOT", "EXISTS"]

/-- Words are dropped one after another. -/
theorem dropWords_cons (word : String) (words : List String) (text : List Char) :
    dropWords (word :: words) text =
      ((dropWord word.toList text).bind dropBlanks).bind (dropWords words) := rfl

/-- What opens a quoted name is no letter of the words. -/
theorem sameLetter_of_closing? {c close : Char} (opens : closing? c = some close) :
    sameLetter 'I' c = false := by
  have noLetter : ∀ pair ∈ quotePairs, sameLetter 'I' pair.1 = false := by
    simp (disch := decide) [quotePairs, sameLetter, foldCode_of_ascii]
  exact noLetter _ (mem_quotePairs opens)

/-- The words are not in front of a quoted name. -/
theorem existsWords_quoted {c close : Char} (text : List Char)
    (opens : closing? c = some close) : dropWords existsWords (c :: text) = none := by
  unfold existsWords
  rw [dropWords_cons]
  simp [dropWord, sameLetter_of_closing? opens]

/-- The first of the words has two letters, so it is not in front of a longer bare name. -/
theorem existsWords_long {first second third : Char} (text : List Char)
    (part : isNamePart third = true) :
    dropWords existsWords (first :: second :: third :: text) = none := by
  unfold existsWords
  rw [dropWords_cons]
  simp only [String.reduceToList, dropWord]
  split
  · split
    · simp [dropBlanks, isBlank_of_isNamePart part]
    · rfl
  · rfl

/-- A blank is no letter of the words. -/
theorem sameLetter_of_isBlank {c : Char} (blank : Text.isBlank c = true) :
    sameLetter 'F' c = false := by
  have notLetter : ∀ code ∈ blankCodes, (102 == code) = false := by decide
  simp (disch := decide) only [sameLetter, foldCode_of_ascii, foldCode_of_isBlank blank]
  exact notLetter _ (toNat_mem_blankCodes blank)

/-- The words are not in front of a schema: a point follows that, where the second of the
words would have to stand. -/
theorem existsWords_of_dropSchema {text rest : List Char}
    (schema : dropSchema text = some rest) : dropWords existsWords text = none := by
  cases cut : cutName text with
  | none => simp [dropSchema, cut] at schema
  | some parts =>
    obtain ⟨opening, name, after⟩ := parts
    rw [dropSchema_of_cutName cut] at schema
    obtain ⟨close, blanks, between, followed, closed, before, _, _⟩ :=
      afterPoint_eq_some schema
    obtain ⟨rfl, inside⟩ := cutName_eq_some_iff.mp cut
    cases inside with
    | quoted tail opens begun inside => exact existsWords_quoted _ opens
    | @bare first more _ plain starts parts ended =>
      obtain rfl : close = [] := closed
      subst followed
      match more with
      | third :: fourth :: more => exact existsWords_long _ (parts fourth (by simp))
      | [second] =>
        have point : Text.trimStart ('.' :: (between ++ rest)) = '.' :: (between ++ rest) := rfl
        have noWord : sameLetter 'N' '.' = false := by
          simp (disch := decide) [sameLetter, foldCode_of_ascii]
        have noBlank : Text.isBlank '.' = false := by decide
        unfold existsWords
        rw [dropWords_cons]
        simp only [String.reduceToList, dropWord, List.nil_append, List.cons_append]
        split
        · split
          · cases blanks with
            | nil => simp [dropBlanks, noBlank]
            | cons blank blanks =>
              have left : Text.trimStart (blanks ++ '.' :: (between ++ rest)) = _ :=
                trimStart_append (fun c member => before c (List.mem_cons_of_mem _ member)) _
              simp [dropBlanks, before blank (by simp), left, point, dropWords_cons, dropWord,
                noWord]
          · rfl
        · rfl
      | [] =>
        have noPoint : sameLetter 'F' '.' = false := by
          simp (disch := decide) [sameLetter, foldCode_of_ascii]
        unfold existsWords
        rw [dropWords_cons]
        cases blanks with
        | nil => simp [dropWord, noPoint]
        | cons blank blanks => simp [dropWord, sameLetter_of_isBlank (before blank (by simp))]

/-- The words are not in front of a name with a number appended: such a name is longer
than the first of them. -/
theorem existsWords_lengthened {opening name after : List Char} (number : Nat)
    (cut : NameCut opening name after) (rest : List Char) :
    dropWords existsWords (opening ++ (name ++ numberSuffix number) ++ rest) = none := by
  cases cut with
  | quoted tail opens begun inside => exact existsWords_quoted _ opens
  | @bare first more _ plain starts parts ended =>
    obtain ⟨digit, digits, written⟩ :
        ∃ digit digits, numberSuffix number = '_' :: digit :: digits := by
      have nonempty : (toString number).toList ≠ [] := by
        simp [Nat.toDigits_ne_nil]
      obtain ⟨digit, digits, same⟩ := List.exists_cons_of_ne_nil nonempty
      exact ⟨digit, digits, by rw [numberSuffix, same]⟩
    have inside : digit ∈ numberSuffix number := by simp [written]
    have part := isNamePart_of_mem_numberSuffix inside
    rw [written]
    match more with
    | [] => exact existsWords_long _ part
    | [second] => exact existsWords_long _ (by decide)
    | second :: third :: more => exact existsWords_long _ (parts third (by simp))

/-! ## Statements -/

/-- What follows a name that is not empty does not decide how a text begins. -/
theorem head?_lengthened {front name : List Char} (begun : name ≠ [])
    (suffix after : List Char) :
    (front ++ (name ++ suffix) ++ after).head? = (front ++ name ++ after).head? := by
  obtain ⟨first, more, rfl⟩ := List.exists_cons_of_ne_nil begun
  simp [List.head?_append]

/-- A qualified name with a number appended is read in its place, and no words before it. -/
theorem cutQualified_lengthened {text opening name after : List Char} (number : Nat)
    (qualified : cutQualified text = some (opening, name, after)) :
    ∃ front, text = front ++ name ++ after ∧ name ≠ [] ∧
      cutQualified (front ++ (name ++ numberSuffix number) ++ after) =
        some (opening, name ++ numberSuffix number, after) ∧
      dropWords existsWords (front ++ (name ++ numberSuffix number) ++ after) = none := by
  rcases cutQualified_cases qualified with ⟨rest, schema, cut⟩ | ⟨noSchema, cut⟩
  · obtain ⟨rfl, inside⟩ := cutName_eq_some_iff.mp cut
    obtain ⟨front, rfl, again⟩ := readsFront_dropSchema _ _ schema
    have schema' := again (opening ++ (name ++ numberSuffix number) ++ after)
      (head?_lengthened inside.begun _ _)
    have cut' : cutName (opening ++ (name ++ numberSuffix number) ++ after) = _ :=
      cutName_eq_some_iff.mpr ⟨rfl, inside.lengthened number⟩
    refine ⟨front ++ opening, by simp, inside.begun, ?_, ?_⟩
    · have whole : cutQualified (front ++ (opening ++ (name ++ numberSuffix number) ++ after)) =
          some (opening, name ++ numberSuffix number, after) := by
        simp only [cutQualified, schema', Option.bind_some, cut', Option.some_or]
      simpa using whole
    · simpa using existsWords_of_dropSchema schema'
  · obtain ⟨rfl, inside⟩ := cutName_eq_some_iff.mp cut
    have cut' : cutName (opening ++ (name ++ numberSuffix number) ++ after) = _ :=
      cutName_eq_some_iff.mpr ⟨rfl, inside.lengthened number⟩
    have noSchema' :
        (dropSchema (opening ++ (name ++ numberSuffix number) ++ after)).bind cutName = none := by
      rw [dropSchema_of_cutName cut', ← dropSchema_of_cutName cut]
      exact noSchema
    refine ⟨opening, rfl, inside.begun, ?_, existsWords_lengthened number inside after⟩
    simp only [cutQualified, noSchema', cut', Option.none_or]

/-- A text that begins with one of the words does not begin with the other: their first
letters differ. -/
theorem dropWords_unique_of_index {text rest : List Char}
    (index : dropWords ["INDEX"] text = some rest) :
    dropWords ["UNIQUE", "INDEX"] text = none := by
  rw [dropWords_cons] at index ⊢
  cases text with
  | nil => rfl
  | cons c text =>
    have letter : sameLetter 'I' c = true := by
      cases same : sameLetter 'I' c with
      | true => rfl
      | false => simp [dropWord, same] at index
    have other : sameLetter 'U' c = false := by
      simp (disch := decide) only [sameLetter, foldCode_of_ascii, beq_iff_eq] at letter ⊢
      rw [← letter]
      decide
    simp [dropWord, other]

/-- The words that begin an index statement are read from the front. -/
theorem readsFront_dropIntroduction : ReadsFront dropIntroduction := by
  intro text rest read
  obtain ⟨blanks, same, all⟩ := exists_blanks text
  obtain ⟨between, create, introduced⟩ := Option.bind_eq_some_iff.mp read
  obtain ⟨front, started, again⟩ := readsFront_dropWords ["CREATE"] _ _ create
  have restart (other : List Char) (head : other.head? = between.head?) :
      dropWords ["CREATE"] (Text.trimStart (blanks ++ (front ++ other))) = some other := by
    have settled : Text.trimStart (front ++ other) = front ++ other := by
      refine trimStart_of_head? fun c first => isBlank_head?_trimStart text c ?_
      rw [started, ← head?_append_congr front head, first]
    rw [trimStart_append all, settled, again other head]
  cases unique : dropWords ["UNIQUE", "INDEX"] between with
  | some found =>
    obtain rfl : found = rest := by simpa [unique] using introduced
    obtain ⟨middle, rfl, further⟩ := readsFront_dropWords _ _ _ unique
    refine ⟨blanks ++ front ++ middle, by rw [same, started]; simp, ?_⟩
    intro other head
    have created := restart (middle ++ other) (head?_append_congr middle head)
    simp [dropIntroduction, created, further other head]
  | none =>
    have index : dropWords ["INDEX"] between = some rest := by simpa [unique] using introduced
    obtain ⟨middle, rfl, further⟩ := readsFront_dropWords _ _ _ index
    refine ⟨blanks ++ front ++ middle, by rw [same, started]; simp, ?_⟩
    intro other head
    have created := restart (middle ++ other) (head?_append_congr middle head)
    have noUnique := dropWords_unique_of_index (further other head)
    simp [dropIntroduction, created, noUnique, further other head]

/-- The name at which an index statement is cut, after its introduction. -/
def cutIndexName (text : List Char) : Option (List Char × List Char × List Char) :=
  ((dropWords existsWords text).bind cutQualified).or (cutQualified text)

/-- The name of an index with a number appended is read in its place. -/
theorem cutIndexName_lengthened {text opening name after : List Char} (number : Nat)
    (named : cutIndexName text = some (opening, name, after)) :
    ∃ front, text = front ++ name ++ after ∧ name ≠ [] ∧
      cutIndexName (front ++ (name ++ numberSuffix number) ++ after) =
        some (opening, name ++ numberSuffix number, after) := by
  unfold cutIndexName at named
  cases excepted : (dropWords existsWords text).bind cutQualified with
  | some other =>
    obtain rfl : other = (opening, name, after) := by simpa [excepted] using named
    obtain ⟨tail, words, inside⟩ := Option.bind_eq_some_iff.mp excepted
    obtain ⟨first, rfl, further⟩ := readsFront_dropWords _ _ _ words
    obtain ⟨second, rfl, begun, again, _⟩ := cutQualified_lengthened number inside
    have dropped := further (second ++ (name ++ numberSuffix number) ++ after)
      (head?_lengthened begun _ _)
    refine ⟨first ++ second, by simp, begun, ?_⟩
    unfold cutIndexName
    rw [List.append_assoc, List.append_assoc, ← List.append_assoc second, dropped,
      Option.bind_some, again, Option.some_or]
  | none =>
    have inside : cutQualified text = some (opening, name, after) := by
      simpa [excepted] using named
    obtain ⟨front, rfl, begun, again, absent⟩ := cutQualified_lengthened number inside
    refine ⟨front, rfl, begun, ?_⟩
    unfold cutIndexName
    rw [absent, again, Option.bind_none, Option.none_or]

/-- A statement is cut where the rest after its introduction is. -/
theorem locate?_append {front middle opening name after : List Char}
    (introduced : dropIntroduction (front ++ (middle ++ name ++ after)) =
      some (middle ++ name ++ after))
    (named : cutIndexName (middle ++ name ++ after) = some (opening, name, after)) :
    locate? (front ++ (middle ++ name ++ after)) = some ⟨front ++ middle, name, after⟩ := by
  have cut : (front ++ (middle ++ name ++ after)).take
      ((front ++ (middle ++ name ++ after)).length - name.length - after.length) =
        front ++ middle := by
    have long : (front ++ (middle ++ name ++ after)).length - name.length - after.length =
        (front ++ middle).length := by
      simp only [List.length_append]
      omega
    rw [long]
    simp only [← List.append_assoc]
    simp only [List.append_assoc (front ++ middle), List.take_left]
  unfold cutIndexName existsWords at named
  simp only [locate?, introduced, named, cut, Option.bind_eq_bind, Option.bind_some,
    Option.pure_def]

/-- Statements are cut at a name. With a number appended to that, they are cut at the same
place, and the number belongs to the name. -/
theorem locate?_lengthened {statement : List Char} {found : IndexName} (number : Nat)
    (located : locate? statement = some found) :
    statement = found.before ++ found.name ++ found.after ∧
      locate? (found.before ++ (found.name ++ numberSuffix number) ++ found.after) =
        some { found with name := found.name ++ numberSuffix number } := by
  obtain ⟨rest, introduced, cut⟩ := Option.bind_eq_some_iff.mp located
  obtain ⟨⟨opening, name, after⟩, named, _⟩ := Option.bind_eq_some_iff.mp cut
  obtain ⟨front, rfl, again⟩ := readsFront_dropIntroduction _ _ introduced
  obtain ⟨middle, rfl, begun, renamed⟩ := cutIndexName_lengthened number named
  have original := locate?_append introduced named
  obtain rfl : ⟨front ++ middle, name, after⟩ = found :=
    Option.some.inj (original.symm.trans located)
  have reread := locate?_append (again _ (head?_lengthened begun _ _)) renamed
  exact ⟨by simp, by simpa using reread⟩

end DialectBridge.Schema.IndexName
