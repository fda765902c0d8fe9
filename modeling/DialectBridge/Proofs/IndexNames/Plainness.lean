import DialectBridge.Proofs.IndexNames.Written
import Mathlib.Data.List.TakeWhile

/-!
# Names that are found as they are written

What is found in an index statement is the name of the index exactly if that is plain, and so
is the schema before it. Of another name a part is found, or what stands before or behind it,
or nothing: then the statement does not wait for the tables.
-/

namespace DialectBridge.Schema.IndexName

open Text (trimStart_of_head?)

/-! ## What is found -/

/-- A qualified name is found in a text as it stands there. -/
theorem cutQualified_cut {text opening name after : List Char}
    (qualified : cutQualified text = some (opening, name, after)) :
    ∃ front, text = front ++ (opening ++ name ++ after) ∧ NameCut opening name after := by
  rcases cutQualified_cases qualified with ⟨rest, schema, cut⟩ | ⟨_, cut⟩
  · obtain ⟨rfl, inside⟩ := cutName_eq_some_iff.mp cut
    obtain ⟨front, same, _⟩ := readsFront_dropSchema _ _ schema
    exact ⟨front, same, inside⟩
  · obtain ⟨rfl, inside⟩ := cutName_eq_some_iff.mp cut
    exact ⟨[], rfl, inside⟩

/-- The name of an index is found in a text as it stands there. -/
theorem cutIndexName_cut {text opening name after : List Char}
    (named : cutIndexName text = some (opening, name, after)) :
    ∃ front, text = front ++ (opening ++ name ++ after) ∧ NameCut opening name after := by
  unfold cutIndexName at named
  rcases Option.or_eq_some_iff.mp named with excepted | ⟨_, plain⟩
  · obtain ⟨rest, words, qualified⟩ := Option.bind_eq_some_iff.mp excepted
    obtain ⟨middle, rfl, inside⟩ := cutQualified_cut qualified
    obtain ⟨front, same, _⟩ := readsFront_dropWords _ _ _ words
    exact ⟨front ++ middle, by rw [same, List.append_assoc front], inside⟩
  · exact cutQualified_cut plain

/-- What is found in a statement is a name with what opens it before it. -/
theorem locate?_cut {statement : List Char} {found : IndexName}
    (located : locate? statement = some found) :
    ∃ front opening, found.before = front ++ opening ∧
      NameCut opening found.name found.after := by
  obtain ⟨rest, introduced, cut⟩ := Option.bind_eq_some_iff.mp located
  obtain ⟨⟨opening, name, after⟩, named, _⟩ := Option.bind_eq_some_iff.mp cut
  obtain ⟨front, rfl, _⟩ := readsFront_dropIntroduction _ _ introduced
  have named' : cutIndexName rest = some (opening, name, after) := named
  obtain ⟨middle, rfl, inside⟩ := cutIndexName_cut named'
  have original := @locate?_append front (middle ++ opening) opening name after
    (by simpa using introduced) (by simpa using named')
  obtain rfl : ⟨front ++ (middle ++ opening), name, after⟩ = found := by
    refine Option.some.inj (original.symm.trans ?_)
    simpa using located
  exact ⟨front ++ middle, opening, by simp, inside⟩

/-! ## Names that are not plain -/

/-- What closes a quoted name is no part of a bare one. -/
theorem isNamePart_of_closing? {quote close : Char} (opens : closing? quote = some close) :
    isNamePart close = false := by
  have noPart : quotePairs.all (fun pair => !isNamePart pair.2) = true := by decide
  simpa using List.all_eq_true.mp noPart _ (mem_quotePairs opens)

/-- All characters of a bare name are parts of one, its first as well. -/
theorem forall_isNamePart {first : Char} {more : List Char} (starts : isNameStart first = true)
    (parts : ∀ c ∈ more, isNamePart c = true) : ∀ c ∈ first :: more, isNamePart c = true := by
  have part : isNamePart first = true := by simp [isNamePart, starts]
  exact List.forall_mem_cons.mpr ⟨part, parts⟩

/-- Whether a text ends in a blank or a point, or is empty. -/
def Apart (text : List Char) : Prop :=
  ∀ c, text.getLast? = some c → Text.isBlank c = true ∨ c = '.'

/-- Blanks end in a blank. -/
theorem Blank.apart {text : List Char} (blank : Blank text) : Apart text :=
  fun c last => .inl (blank c (List.mem_of_getLast? last))

/-- A text ends as its second part does, or as its first if there is no second. -/
theorem Apart.append {first second : List Char} (before : Apart first) (after : Apart second) :
    Apart (first ++ second) := by
  intro c last
  rw [List.getLast?_append, Option.or_eq_some_iff] at last
  rcases last with found | ⟨_, found⟩
  · exact after c found
  · exact before c found

/-- Keywords end in blanks. -/
theorem Keywords.apart {words : List String} {text : List Char}
    (written : Keywords words text) : Apart text := by
  induction written with
  | nil => exact fun c last => absurd last (by simp)
  | @cons keyword others word gap more listed spells blank apart later inductionHypothesis =>
    intro c last
    rw [List.getLast?_append_of_ne_nil _ (by simp [apart])] at last
    exact blank.apart.append inductionHypothesis c last

/-- A schema ends in its point or the blanks behind that. -/
theorem Qualifier.apart (schema : Qualifier) : Apart schema.chars := by
  have point : Apart ('.' :: schema.after) := by
    have single : Apart ['.'] := fun c last => .inr (Option.some.inj last).symm
    exact single.append schema.blankAfter.apart
  intro c last
  rw [Qualifier.chars, ← List.append_assoc, List.getLast?_append_of_ne_nil _ (by simp)] at last
  exact point c last

/-- A name that is cut where it is written is plain: it has no quote inside the ones around
it, and a bare one is not taken for the inside of a quoted one. -/
theorem Spelling.plain_of_cut {name : Spelling} {front before opening after : List Char}
    (cut : NameCut opening name.text after) (placed : before ++ name.opening = front ++ opening)
    (apart : name.opening = [] → Apart before) : name.IsPlain := by
  obtain ⟨opening', text, closing, identifier⟩ := name
  rcases identifier.closing with ⟨rfl, rfl⟩ | ⟨quote, close, rfl, rfl, opens⟩
  · cases cut with
    | @quoted quote close _ rest opens begun inside =>
      have last : before.getLast? = some quote := by
        rw [List.append_nil] at placed
        rw [placed, List.getLast?_concat]
      obtain ⟨visible, noPoint⟩ := quote_of_closing? opens
      rcases apart rfl quote last with blank | point
      · rw [visible] at blank
        exact absurd blank (by decide)
      · exact absurd point noPoint
    | @bare first more _ plain starts parts ended =>
      have all := forall_isNamePart starts parts
      exact ⟨List.cons_ne_nil _ _, fun c member => ⟨by simp, fun _ => all c member⟩⟩
  · cases cut with
    | @quoted quote' close' _ rest opens' begun inside =>
      obtain rfl : quote = quote' := (List.append_inj' placed rfl).2 |> List.singleton_inj.mp
      obtain rfl : close = close' := Option.some.inj (opens.symm.trans opens')
      exact ⟨begun, fun c member => ⟨by simpa using inside c member, by simp⟩⟩
    | @bare first more _ plain starts parts ended =>
      have all := forall_isNamePart starts parts
      refine ⟨List.cons_ne_nil _ _, fun c member => ⟨?_, by simp⟩⟩
      rw [List.mem_singleton]
      rintro rfl
      have inside := all c member
      rw [isNamePart_of_closing? opens] at inside
      exact absurd inside (by decide)

/-- The first quote in a name with doubled quotes is followed by another one. -/
theorem exists_doubled {quote : Char} {name : List Char} (occurs : quote ∈ doubled quote name) :
    ∃ front back, doubled quote name = front ++ quote :: quote :: back ∧
      ∀ c ∈ front, (c != quote) = true := by
  induction name with
  | nil => simp [doubled] at occurs
  | cons c name inductionHypothesis =>
    have written : doubled quote (c :: name) =
      (if c = quote then [quote, quote] else [c]) ++ doubled quote name := List.flatMap_cons
    by_cases same : c = quote
    · rw [written, if_pos same]
      exact ⟨[], doubled quote name, rfl, by simp⟩
    · rw [written, if_neg same] at occurs ⊢
      have later : quote ∈ doubled quote name := by
        rcases List.mem_append.mp occurs with first | later
        · exact absurd (List.mem_singleton.mp first).symm same
        · exact later
      obtain ⟨front, back, cut, plain⟩ := inductionHypothesis later
      refine ⟨c :: front, back, by rw [cut]; rfl, ?_⟩
      exact List.forall_mem_cons.mpr ⟨by simpa using same, plain⟩

/-- No schema is dropped from the front of a text that begins with an empty quoted name. -/
theorem dropSchema_of_empty {quote close : Char} (opens : closing? quote = some close)
    (rest : List Char) : dropSchema (quote :: close :: rest) = none := by
  have uncut : cutName (quote :: close :: rest) = none := by simp [cutName, opens]
  simp [dropSchema, uncut]

/-- No schema is dropped where a quote is doubled in a name: the first of the two ends what is
cut, and the second is no point. -/
theorem dropSchema_of_doubled {quote : Char} (opens : closing? quote = some quote)
    {front : List Char} (plain : ∀ c ∈ front, (c != quote) = true) (back : List Char) :
    dropSchema (quote :: (front ++ quote :: quote :: back)) = none := by
  by_cases empty : front = []
  · rw [empty]
    exact dropSchema_of_empty opens _
  · have cut : cutName (quote :: (front ++ quote :: quote :: back)) =
        some ([quote], front, quote :: quote :: back) :=
      cutName_eq_some_iff.mpr ⟨rfl, .quoted _ opens empty plain⟩
    obtain ⟨visible, noPoint⟩ := quote_of_closing? opens
    have trimmed : Text.trimStart (quote :: back) = quote :: back :=
      trimStart_of_head? (by rintro _ ⟨rfl⟩; exact visible)
    rw [dropSchema_of_cutName cut, afterPoint]
    simp only [List.isEmpty_cons, Bool.false_eq_true, if_false, List.drop_succ_cons, List.drop_zero,
      trimmed]
    split
    · next same => exact absurd (List.cons.inj same).1 noPoint
    · rfl

/-- A word in front of blanks and a point is all that comes before the first of these. -/
theorem takeWhile_word {text before : List Char} (blank : Blank before)
    (word : ∀ c ∈ text, Text.isBlank c = false ∧ c ≠ '.') (rest : List Char) :
    (text ++ (before ++ '.' :: rest)).takeWhile (fun c => !Text.isBlank c && c != '.') = text := by
  refine (Text.takeWhile_dropWhile_append (fun c member => ?_) ?_).1
  · obtain ⟨visible, noPoint⟩ := word c member
    simp [visible, noPoint]
  · intro c head
    cases before with
    | nil =>
      obtain rfl : '.' = c := Option.some.inj head
      simp
    | cons d before =>
      obtain rfl : d = c := Option.some.inj head
      simp [blank d List.mem_cons_self]

/-- No schema is dropped where a bare name goes on with other characters than the ones that
are cut: the point does not come right after these. -/
theorem dropSchema_of_word {text before rest : List Char}
    (parts : ∀ c ∈ text, Database.Token.isNamePart c = true)
    (unbroken : ∀ c ∈ text, Text.isBlank c = false) (blank : Blank before) {c : Char}
    (member : c ∈ text) (other : isNamePart c = false) :
    dropSchema (text ++ (before ++ '.' :: rest)) = none := by
  cases dropped : dropSchema (text ++ (before ++ '.' :: rest)) with
  | none => rfl
  | some left =>
    cases cut : cutName (text ++ (before ++ '.' :: rest)) with
    | none => simp [dropSchema, cut] at dropped
    | some found =>
      obtain ⟨opening, name, after⟩ := found
      rw [dropSchema_of_cutName cut] at dropped
      obtain ⟨close, blanks, between, followed, closed, blank', _, _⟩ := afterPoint_eq_some dropped
      obtain ⟨same, inside⟩ := cutName_eq_some_iff.mp cut
      cases inside with
      | @quoted quote _ _ _ opens begun inside =>
        obtain ⟨first, more, rfl⟩ := List.exists_cons_of_ne_nil (List.ne_nil_of_mem member)
        obtain rfl : first = quote := (List.cons.inj same).1
        rw [(closing?_of_part (parts first List.mem_cons_self)).1] at opens
        simp at opens
      | @bare first more _ plain starts others ended =>
        obtain rfl : close = [] := closed
        have all := forall_isNamePart starts others
        have whole := takeWhile_word blank
          (fun d inside => ⟨unbroken d inside, (closing?_of_part (parts d inside)).2⟩) rest
        have cutWord : ∀ d ∈ first :: more, Text.isBlank d = false ∧ d ≠ '.' := by
          refine fun d inside => ⟨isBlank_of_isNamePart (all d inside), ?_⟩
          rintro rfl
          exact absurd (all '.' inside) (by decide)
        have front := takeWhile_word blank' cutWord (between ++ left)
        have word : text = first :: more := by
          rw [← whole, ← front, same, followed]
          rfl
        rw [all c (word ▸ member)] at other
        exact absurd other (by decide)

/-- A schema that is not plain is not dropped. -/
theorem Qualifier.dropSchema_of_not_plain {schema : Qualifier}
    (unbroken : schema.name.IsUnbroken) (other : ¬schema.name.IsPlain) (rest : List Char) :
    IndexName.dropSchema (schema.chars ++ rest) = none := by
  obtain ⟨⟨opening, text, closing, identifier⟩, before, after, blankBefore, blankAfter⟩ := schema
  unfold Spelling.IsPlain at other
  unfold chars Spelling.chars
  cases identifier with
  | @bare first more starts parts =>
    have start : Database.Token.isNamePart first = true := by
      simp [Database.Token.isNamePart, starts]
    have all : ∀ c ∈ first :: more, Database.Token.isNamePart c = true :=
      List.forall_mem_cons.mpr ⟨start, parts⟩
    obtain ⟨c, member, part⟩ : ∃ c ∈ first :: more, isNamePart c = false := by
      by_contra none
      refine other ⟨List.cons_ne_nil _ _, fun c member => ⟨by simp, fun _ => ?_⟩⟩
      cases part : isNamePart c with
      | true => rfl
      | false => exact absurd ⟨c, member, part⟩ none
    simpa using @dropSchema_of_word _ before (after ++ rest) all (unbroken rfl) blankBefore c
      member part
  | @quoted quote opens name =>
    have opens : closing? quote = some quote := closing?_of_quote opens
    by_cases occurs : quote ∈ doubled quote name
    · obtain ⟨front, back, cut, plain⟩ := exists_doubled occurs
      simpa [cut] using dropSchema_of_doubled opens plain
        (back ++ quote :: (before ++ '.' :: (after ++ rest)))
    · have empty : doubled quote name = [] := by
        by_contra begun
        refine other ⟨begun, fun c member => ⟨?_, by simp⟩⟩
        rw [List.mem_singleton]
        rintro rfl
        exact occurs member
      simpa [empty] using dropSchema_of_empty opens (before ++ '.' :: (after ++ rest))
  | @bracketed text unclosed =>
    have empty : text = [] := by
      by_contra begun
      refine other ⟨begun, fun c member => ⟨?_, by simp⟩⟩
      rw [List.mem_singleton]
      exact unclosed c member
    simpa [empty] using @dropSchema_of_empty '[' ']' rfl (before ++ '.' :: (after ++ rest))

namespace Written

variable (written : Written)

/-- No quote stands before a bare name. -/
theorem apart_before : Apart (written.lead ++ (written.command ++ (written.condition ++
    written.qualification))) := by
  have schema : Apart written.qualification := by
    unfold qualification
    cases written.schema with
    | none => exact fun c last => absurd last (by simp)
    | some schema => exact schema.apart
  have words := written.conditions.apart.append schema
  exact written.blankLead.apart.append (written.commands.apart.append words)

/-- A name that is found where it is written is plain. -/
theorem plain_of_locate? (found : locate? written.chars = some written.located) :
    written.name.IsPlain := by
  obtain ⟨front, opening, placed, cut⟩ := locate?_cut found
  have before : written.lead ++ (written.command ++ (written.condition ++
      written.qualification)) ++ written.name.opening = front ++ opening := by
    rw [← placed]
    simp [located]
  exact Spelling.plain_of_cut cut before fun _ => written.apart_before

/-- Without a schema in front, a qualified name is cut at the front. -/
theorem cutQualified_front {text opening name after : List Char}
    (noSchema : dropSchema text = none)
    (qualified : cutQualified text = some (opening, name, after)) :
    text.length ≤ (name ++ after).length + 1 := by
  rw [cutQualified, noSchema, Option.bind_none, Option.none_or] at qualified
  obtain ⟨rfl, inside⟩ := cutName_eq_some_iff.mp qualified
  have short : opening.length ≤ 1 := by cases inside <;> simp
  simp only [List.length_append]
  omega

/-- Where a schema is not dropped, the name of an index is cut no later than there. -/
theorem cutIndexName_front (unbroken : written.first.IsUnbroken)
    (noSchema : dropSchema written.qualified = none) {opening name after : List Char}
    (named : cutIndexName (written.condition ++ written.qualified) =
      some (opening, name, after)) :
    written.qualified.length ≤ (name ++ after).length + 1 := by
  have conditions := written.conditions
  unfold cutIndexName at named
  cases tolerant : written.tolerant with
  | true =>
    rw [tolerant, if_pos rfl] at conditions
    have words := conditions.dropWords (written.settled_qualified unbroken)
    rw [words, Option.bind_some] at named
    rcases Option.or_eq_some_iff.mp named with found | ⟨_, found⟩
    · exact cutQualified_front noSchema found
    · -- The words themselves are no schema, so that the first of them is taken for the name.
      have noWords : dropSchema (written.condition ++ written.qualified) = none := by
        cases schema : dropSchema (written.condition ++ written.qualified) with
        | none => rfl
        | some rest =>
          rw [existsWords_of_dropSchema schema] at words
          exact absurd words nofun
      have front := cutQualified_front noWords found
      rw [List.length_append] at front
      omega
  | false =>
    rw [tolerant, if_neg (by decide)] at conditions
    generalize written.condition = condition at conditions named
    cases conditions
    rw [List.nil_append, written.existsWords_qualified unbroken, Option.bind_none,
      Option.none_or] at named
    exact cutQualified_front noSchema named

/-- A schema is plain if the name behind it is found where it is written. -/
theorem schema_plain_of_locate? {schema : Qualifier} (qualifies : written.schema = some schema)
    (unbroken : schema.name.IsUnbroken)
    (found : locate? written.chars = some written.located) : schema.name.IsPlain := by
  by_contra other
  have first : written.first.IsUnbroken := by
    rw [Written.first, qualifies]
    exact unbroken
  have noSchema : dropSchema written.qualified = none := by
    unfold qualified qualification
    rw [qualifies]
    exact schema.dropSchema_of_not_plain unbroken other _
  have introduced := written.dropIntroduction_append
    (written.conditions.settled (written.settled_qualified first))
  obtain ⟨rest, introduced', cut⟩ := Option.bind_eq_some_iff.mp found
  obtain rfl : written.condition ++ written.qualified = rest :=
    Option.some.inj (introduced.symm.trans introduced')
  obtain ⟨⟨opening, name, after⟩, named, same⟩ := Option.bind_eq_some_iff.mp cut
  have parts : name = written.name.text ∧ after = written.name.closing ++ written.tail := by
    simpa [located] using (IndexName.mk.inj (Option.some.inj same)).2
  obtain ⟨rfl, rfl⟩ := parts
  have front := written.cutIndexName_front first noSchema named
  have long : 1 ≤ schema.name.chars.length := schema.name.chars_long
  have length : written.qualified.length = schema.name.chars.length + schema.before.length +
      schema.after.length + 1 + written.name.opening.length +
        (written.name.text ++ (written.name.closing ++ written.tail)).length := by
    unfold qualified qualification
    rw [qualifies]
    simp only [Option.elim_some, Qualifier.chars, Spelling.chars, List.length_append,
      List.length_cons]
    omega
  omega

end Written

/-! ## Names that are taken for one -/

/-- Whether a name begins as one of those that are told apart in an index statement. -/
def Spelling.Begins (name : Spelling) : Prop :=
  ∃ c more, name.text = c :: more ∧ c ∉ name.closing ∧ (name.opening = [] → isNameStart c = true)

/-- A name is taken for one, or the front of it is, exactly if it begins as one. -/
theorem Spelling.isSome_cutName (name : Spelling) (rest : List Char) :
    (cutName (name.chars ++ rest)).isSome = true ↔ name.Begins := by
  obtain ⟨opening, text, closing, identifier⟩ := name
  unfold Begins Spelling.chars
  rcases identifier.closing with ⟨rfl, rfl⟩ | ⟨quote, close, rfl, rfl, opens⟩
  · cases identifier with
    | @bare first more starts parts =>
      have part : Database.Token.isNamePart first = true := by
        simp [Database.Token.isNamePart, starts]
      have plain := (closing?_of_part part).1
      simp only [List.nil_append, List.append_nil, List.cons_append, cutName, plain]
      cases start : isNameStart first <;> simp [start]
  · cases text with
    | nil => simp [cutName, opens]
    | cons c more =>
      by_cases closed : c = close
      · simp [cutName, opens, closed]
      · simp [cutName, opens, closed, List.dropWhile_eq_nil_iff]

/-- What the front of a text is taken for does not depend on whether it can be a schema. -/
theorem isSome_cutQualified (text : List Char) :
    (cutQualified text).isSome = (cutName text).isSome := by
  unfold cutQualified
  cases cut : cutName text with
  | some found => cases (dropSchema text).bind cutName <;> rfl
  | none =>
    have noSchema : dropSchema text = none := by simp [dropSchema, cut]
    rw [noSchema]
    rfl

/-- The words that let an index exist already are taken for a name themselves, where no other
follows. -/
theorem Keywords.isSome_cutQualified_existsWords {text : List Char}
    (written : Keywords existsWords text) (rest : List Char) :
    (cutQualified (text ++ rest)).isSome = true := by
  rw [isSome_cutQualified]
  unfold existsWords at written
  cases written with
  | @cons _ _ word gap more listed spells blank apart later =>
    have letters : word.map Char.toUpper = ['I', 'F'] := spells
    obtain ⟨c, letters, rfl, capital, _⟩ := List.map_eq_cons_iff.mp letters
    have code : c.toNat = 73 ∨ c.toNat = 105 := toNat_of_toUpper capital
    have letter : c.isAlpha = true := Text.isAlpha_iff.mpr (by omega)
    have start : isNameStart c = true := by simp [isNameStart, letter]
    have part : Database.Token.isNamePart c = true := by
      simp [Database.Token.isNamePart, Database.Token.isNameStart, letter]
    simp [cutName, (closing?_of_part part).1, start]

namespace Written

variable (written : Written)

/-- The characters from the name on, or from the schema on if there is one, are the first name
and what follows that. -/
theorem qualified_eq : ∃ rest, written.qualified = written.first.chars ++ rest := by
  unfold qualified qualification first
  cases written.schema with
  | none => exact ⟨_, rfl⟩
  | some schema => exact ⟨_, by rw [Option.elim_some, Qualifier.chars, List.append_assoc]; rfl⟩

/-! ## Which names are found, and which statements wait -/

/-- The name of an index that is found in a statement is the one that is written there, in its
place and with all its characters, exactly if it is plain and the schema before it is, too.
Such a statement waits until the tables are there.

Names that are not plain are bare ones with a character beyond ASCII, empty ones, and quoted
ones with a doubled quote. A bare schema has to be one word: the blanks beyond ASCII are parts
of a name for the engine, but separate words here. -/
theorem name_found_iff (unbroken : ∀ schema ∈ written.schema, schema.name.IsUnbroken) :
    (locate? written.chars = some written.located ↔ written.IsPlain) ∧
      (written.IsPlain → isIndexStatement (String.ofList written.chars) = true ∧
        Plan.ofTranslation (.single (String.ofList written.chars)) =
          { indexes := [String.ofList written.chars] }) := by
  constructor
  · refine ⟨fun found => ⟨written.plain_of_locate? found, fun schema qualifies => ?_⟩,
      written.locate?_plain⟩
    exact written.schema_plain_of_locate? qualifies (unbroken schema qualifies) found
  · intro plain
    have recognised : isIndexStatement (String.ofList written.chars) = true := by
      rw [isIndexStatement, String.toList_ofList, written.locate?_plain plain]
      rfl
    exact ⟨recognised, if_pos recognised⟩

/-- A bare name of letters. -/
def bareName : Spelling := ⟨[], "main".toList, [], .bare (by decide) (by decide)⟩

/-- A name between brackets. -/
def bracketedName : Spelling := ⟨['['], "by name".toList, [']'], .bracketed (by decide)⟩

/-- A statement with every part that can be left out, and a name with a blank in it. -/
def spaced : Written where
  lead := ['\n']
  blankLead := by decide
  unique := true
  command := "Create unique  INDEX ".toList
  commands := .cons (by decide) (show Spells "CREATE" "Create".toList by rfl)
    (show Blank [' '] by decide) (by decide)
    (.cons (by decide) (show Spells "UNIQUE" "unique".toList by rfl)
      (show Blank [' ', ' '] by decide) (by decide)
      (.cons (by decide) (show Spells "INDEX" "INDEX".toList by rfl)
        (show Blank [' '] by decide) (by decide) .nil))
  tolerant := true
  condition := "if not exists ".toList
  conditions := .cons (by decide) (show Spells "IF" "if".toList by rfl)
    (show Blank [' '] by decide) (by decide)
    (.cons (by decide) (show Spells "NOT" "not".toList by rfl)
      (show Blank [' '] by decide) (by decide)
      (.cons (by decide) (show Spells "EXISTS" "exists".toList by rfl)
        (show Blank [' '] by decide) (by decide) .nil))
  schema := some ⟨bareName, [' '], [' '], by decide, by decide⟩
  name := bracketedName
  gap := [' ']
  blankGap := by decide
  apart := by decide
  on := "on".toList
  spellsOn := rfl
  rest := " t(x)".toList

/-- The name of the statement with all parts is found. -/
theorem spaced_name_found :
    String.ofList spaced.chars =
        "\nCreate unique  INDEX if not exists main . [by name] on t(x)" ∧
      locate? spaced.chars = some spaced.located ∧
      Plan.ofTranslation (.single (String.ofList spaced.chars)) =
        { indexes := [String.ofList spaced.chars] } := by
  have unbroken : ∀ schema ∈ spaced.schema, schema.name.IsUnbroken := by
    rintro schema ⟨rfl⟩ _
    decide
  have plain : spaced.IsPlain := by
    refine ⟨by decide, ?_⟩
    rintro schema ⟨rfl⟩
    decide
  obtain ⟨found, waits⟩ := name_found_iff spaced unbroken
  exact ⟨rfl, found.mpr plain, (waits plain).2⟩

/-- The plainest statement for an index with a name. -/
def indexOn (name : Spelling) : Written where
  lead := []
  blankLead := by decide
  unique := false
  command := "CREATE INDEX ".toList
  commands := .cons (by decide) (show Spells "CREATE" "CREATE".toList by rfl)
    (show Blank [' '] by decide) (by decide)
    (.cons (by decide) (show Spells "INDEX" "INDEX".toList by rfl)
      (show Blank [' '] by decide) (by decide) .nil)
  tolerant := false
  condition := []
  conditions := .nil
  schema := none
  name := name
  gap := [' ']
  blankGap := by decide
  apart := by decide
  on := "ON".toList
  spellsOn := rfl
  rest := " t(x)".toList

/-- A bare name with a character beyond ASCII. -/
def accentedName : Spelling := ⟨[], ['é'], [], .bare (by decide) (by decide)⟩

/-- A quoted name with a quote in it. -/
def quotedTwice : Spelling := ⟨['"'], "a\"\"b".toList, ['"'], .quoted (.inl rfl) "a\"b".toList⟩

/-- An index whose name is beyond ASCII is not waited with, and one whose name has a quote in
it is taken for another. -/
theorem other_names_missed :
    String.ofList (indexOn accentedName).chars = "CREATE INDEX é ON t(x)" ∧
      isIndexStatement (String.ofList (indexOn accentedName).chars) = false ∧
      String.ofList (indexOn quotedTwice).chars = "CREATE INDEX \"a\"\"b\" ON t(x)" ∧
      (indexOn quotedTwice).located.name = "a\"\"b".toList ∧
      (locate? (indexOn quotedTwice).chars).map (·.name) = some "a".toList := by
  refine ⟨rfl, ?_, rfl, rfl, ?_⟩
  · decide +kernel
  · decide +kernel

/-- A statement waits until the tables are there exactly if it lets the index exist already,
or its first name begins as one that is told apart. -/
theorem isIndexStatement_iff (unbroken : written.first.IsUnbroken) :
    isIndexStatement (String.ofList written.chars) = true ↔
      written.tolerant = true ∨ written.first.Begins := by
  have introduced := written.dropIntroduction_append
    (written.conditions.settled (written.settled_qualified unbroken))
  obtain ⟨rest, front⟩ := written.qualified_eq
  have first : (cutQualified written.qualified).isSome = true ↔ written.first.Begins := by
    rw [isSome_cutQualified, front]
    exact written.first.isSome_cutName rest
  have named : isIndexStatement (String.ofList written.chars) =
      (cutIndexName (written.condition ++ written.qualified)).isSome := by
    have whole : dropIntroduction written.chars = some (written.condition ++ written.qualified) :=
      introduced
    rw [isIndexStatement, String.toList_ofList, locate?, whole, cutIndexName, existsWords,
      Option.bind_eq_bind, Option.bind_some]
    cases ((dropWords ["IF", "NOT", "EXISTS"] (written.condition ++ written.qualified)).bind
      cutQualified).or (cutQualified (written.condition ++ written.qualified)) <;> rfl
  rw [named]
  cases tolerant : written.tolerant with
  | true =>
    have conditions := written.conditions
    unfold cutIndexName
    rw [tolerant, if_pos rfl] at conditions
    have word := conditions.isSome_cutQualified_existsWords written.qualified
    simp [word]
  | false =>
    rw [written.cutIndexName_of_intolerant unbroken tolerant, first]
    simp

end Written

end DialectBridge.Schema.IndexName
