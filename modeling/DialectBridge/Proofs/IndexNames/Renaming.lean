import DialectBridge.Proofs.IndexNames.Uniqueness

/-!
# What a new name changes

A statement is cut at the octets between which the name of its index stands. Another name is put
between the same octets, and nothing else moves but what follows it. Where the new name is the
old one with a number, the statement is cut at the same octet again, in whatever way it was read
the first time: with the words that let an index exist or falling back on them as a name, with a
schema or without, quoted or bare. So it still creates an index, and the index has the new name.
-/

namespace DialectBridge.Text

/-! ## Octets of a part -/

/-- A text stands in another one between two octets: a character begins or the text ends at each
of them, and between them are the octets of the text. -/
structure StandsIn (text whole : String) (start stop : Nat) : Prop where
  begins : (String.Pos.Raw.mk start).IsValid whole
  ends : (String.Pos.Raw.mk stop).IsValid whole
  octets : whole.toUTF8.extract start stop = text.toUTF8

/-- The width of characters is the size of their text. -/
theorem Utf8.width_eq_utf8ByteSize (text : List Char) :
    Utf8.width text = (String.ofList text).utf8ByteSize := by
  induction text with
  | nil => rfl
  | cons c text inductionHypothesis =>
    have first : Utf8.width (c :: text) = c.utf8Size + Utf8.width text := rfl
    have joined : String.ofList (c :: text) = String.singleton c ++ String.ofList text := by
      rw [String.singleton_eq_ofList, ← String.ofList_append, List.singleton_append]
    rw [first, inductionHypothesis, joined, String.utf8ByteSize_append,
      String.utf8ByteSize_singleton]

/-- The octets of the middle part of a text are those behind the octets of the first. -/
theorem octets_middle (first middle last : String) :
    (first ++ middle ++ last).toUTF8.extract first.utf8ByteSize
      (first.utf8ByteSize + middle.utf8ByteSize) = middle.toUTF8 := by
  simp only [String.toUTF8_eq_toByteArray, String.append_assoc, String.toByteArray_append]
  have moved := ByteArray.extract_append_size_add' (a := first.toByteArray)
    (b := middle.toByteArray ++ last.toByteArray) (i := 0) (j := middle.utf8ByteSize)
    first.size_toByteArray.symm
  rw [Nat.add_zero] at moved
  rw [moved]
  exact ByteArray.extract_append_eq_left middle.size_toByteArray.symm

/-- The middle part of a text stands behind the octets of the first. -/
theorem standsIn_middle (first middle last : String) :
    StandsIn middle (first ++ middle ++ last) first.utf8ByteSize
      (first.utf8ByteSize + middle.utf8ByteSize) := by
  constructor
  · apply String.Pos.Raw.isValid_iff_exists_append.mpr
    exact ⟨first, middle ++ last, String.append_assoc, rfl⟩
  · apply String.Pos.Raw.isValid_iff_exists_append.mpr
    rw [← String.utf8ByteSize_append]
    exact ⟨first ++ middle, last, rfl, rfl⟩
  · exact octets_middle first middle last

/-- Another middle part stands between the octets around the first one. -/
theorem octets_replaced (first middle last other : String) :
    (first ++ other ++ last).toUTF8 =
      (first ++ middle ++ last).toUTF8.extract 0 first.utf8ByteSize ++ other.toUTF8 ++
        (first ++ middle ++ last).toUTF8.extract (first.utf8ByteSize + middle.utf8ByteSize)
          (first ++ middle ++ last).utf8ByteSize := by
  have front := octets_middle "" first (middle ++ last)
  have back := octets_middle (first ++ middle) last ""
  simp only [String.empty_append, String.append_empty, String.utf8ByteSize_empty, Nat.zero_add,
    ← String.append_assoc, ← String.utf8ByteSize_append] at front back
  rw [← String.utf8ByteSize_append, front, back]
  simp only [String.toUTF8_eq_toByteArray, String.toByteArray_append]

end DialectBridge.Text

namespace DialectBridge.Schema

/-! ## Drawing -/

namespace IndexRegistry

/-- The first number drawn that makes a name free is taken, and the numbers before it are passed
over. -/
theorem claim_of_drawn (registry : IndexRegistry) {statement : String} {found : IndexName}
    (located : IndexName.locate? statement.toList = some found)
    (inUse : registry.contains (String.ofList found.name) = true) {number : Nat}
    (free : registry.isFree (String.ofList found.name) number = true) {passed : List Nat}
    (taken : ∀ drawn ∈ passed, registry.isFree (String.ofList found.name) drawn = false)
    (rest : List Nat) :
    registry.claim statement (passed ++ number :: rest) =
      ⟨found.renamed (numbered (String.ofList found.name) number).toList,
        some (String.ofList found.name, numbered (String.ofList found.name) number),
        registry.insert (numbered (String.ofList found.name) number), rest⟩ := by
  have chosen : registry.freeNumber (String.ofList found.name) (passed ++ number :: rest) =
      number := by
    have noneBefore : passed.find? (registry.isFree (String.ofList found.name)) = none :=
      List.find?_eq_none.mpr fun drawn listed => by simp [taken drawn listed]
    unfold freeNumber
    rw [List.append_assoc, List.find?_append, noneBefore, List.cons_append,
      List.find?_cons_of_pos free]
    rfl
  have left : ((passed ++ number :: rest).dropWhile
      (!registry.isFree (String.ofList found.name) ·)).drop 1 = rest := by
    rw [List.dropWhile_append_of_pos (by simpa using taken),
      List.dropWhile_cons_of_neg (by simpa using free), List.drop_one, List.tail_cons]
  rw [registry.claim_of_inUse _ located inUse, chosen, left]

end IndexRegistry

/-! ## Statements -/

namespace IndexName

open IndexRegistry (numbered toList_numbered claim_of_drawn)
open Text (StandsIn standsIn_middle octets_replaced)

/-- A statement consists of the parts at which it is cut. -/
theorem eq_parts {statement : String} {found : IndexName}
    (located : locate? statement.toList = some found) :
    statement = String.ofList found.before ++ String.ofList found.name ++
      String.ofList found.after := by
  obtain ⟨parts, _⟩ := locate?_lengthened 0 located
  rw [← String.ofList_append, ← String.ofList_append, ← parts, String.ofList_toList]

/-- The name of an index stands in its statement from where it starts to where it stops. -/
theorem name_standsIn {statement : String} {found : IndexName}
    (located : locate? statement.toList = some found) :
    StandsIn (String.ofList found.name) statement found.start found.stop := by
  have stands := standsIn_middle (String.ofList found.before) (String.ofList found.name)
    (String.ofList found.after)
  unfold stop start
  rw [Text.Utf8.width_eq_utf8ByteSize, Text.Utf8.width_eq_utf8ByteSize, eq_parts located]
  exact stands

/-- A statement with another name has the octets of that between those around the old one. -/
theorem octets_renamed {statement : String} {found : IndexName}
    (located : locate? statement.toList = some found) (name : String) :
    (found.renamed name.toList).toUTF8 =
      statement.toUTF8.extract 0 found.start ++ name.toUTF8 ++
        statement.toUTF8.extract found.stop statement.utf8ByteSize := by
  have other : found.renamed name.toList = String.ofList found.before ++ name ++
      String.ofList found.after := by
    rw [renamed, String.ofList_append, String.ofList_append, String.ofList_toList]
  unfold stop start
  rw [Text.Utf8.width_eq_utf8ByteSize, Text.Utf8.width_eq_utf8ByteSize, eq_parts located, other]
  exact octets_replaced _ _ _ _

/-- With a number appended to its name, a statement is cut at that name, between the same
parts. -/
theorem locate?_renamed {statement : String} {found : IndexName}
    (located : locate? statement.toList = some found) (number : Nat) :
    locate? (found.renamed (numbered (String.ofList found.name) number).toList).toList =
      some { found with name := (numbered (String.ofList found.name) number).toList } := by
  obtain ⟨_, reread⟩ := locate?_lengthened number located
  rw [renamed, String.toList_ofList, toList_numbered, String.toList_ofList]
  exact reread

/-- Where a statement has a name for its index, that name stands in it between two octets at
which characters begin. With a number appended to the name, the octets before and after it are
as they were, the statement still creates an index, and the name read back from it starts at the
same octet and is exactly the one with the number. It is this statement that a claim gives when
the name is in use and the number is the first drawn that makes it free.

Proof: what was read before the name is read again with the number, since the number lengthens
the name and nothing else, and begins no words that were not there. -/
theorem rename_only_name {statement : String} {found : IndexName}
    (located : locate? statement.toList = some found) (number : Nat) :
    let name := String.ofList found.name
    let replacement := numbered name number
    let renamed := found.renamed replacement.toList
    StandsIn name statement found.start found.stop ∧
      renamed.toUTF8 = statement.toUTF8.extract 0 found.start ++ replacement.toUTF8 ++
        statement.toUTF8.extract found.stop statement.utf8ByteSize ∧
      isIndexStatement renamed = true ∧
      (∃ again, locate? renamed.toList = some again ∧ String.ofList again.name = replacement ∧
        again.start = found.start ∧ again.stop = found.start + replacement.utf8ByteSize ∧
        StandsIn replacement renamed again.start again.stop) ∧
      ∀ (registry : IndexRegistry) (passed rest : List Nat), registry.contains name = true →
        registry.isFree name number = true →
        (∀ drawn ∈ passed, registry.isFree name drawn = false) →
          registry.claim statement (passed ++ number :: rest) =
            ⟨renamed, some (name, replacement), registry.insert replacement, rest⟩ := by
  intro name replacement renamed
  have again : locate? renamed.toList = some { found with name := replacement.toList } :=
    locate?_renamed located number
  have stands := name_standsIn again
  rw [String.ofList_toList] at stands
  refine ⟨name_standsIn located, octets_renamed located replacement, ?_, ?_, ?_⟩
  · unfold isIndexStatement
    rw [again]
    rfl
  · refine ⟨_, again, String.ofList_toList, rfl, ?_, stands⟩
    have width := Text.Utf8.width_eq_utf8ByteSize replacement.toList
    rw [String.ofList_toList] at width
    rw [stop, width]
    rfl
  · intro registry passed rest inUse free taken
    exact registry.claim_of_drawn located inUse free taken rest

/-- An index that is called like the first of the words that let one exist, behind a blank of
three octets. -/
def calledIf : IndexName :=
  ⟨"\u3000CREATE INDEX ".toList, "IF".toList, " NOT ON t(x)".toList⟩

/-- The words are given up for the name `IF`, and it gets the second number drawn. -/
theorem rename_calledIf :
    locate? "\u3000CREATE INDEX IF NOT ON t(x)".toList = some calledIf ∧
      StandsIn "IF" "\u3000CREATE INDEX IF NOT ON t(x)" 16 18 ∧
      isIndexStatement "\u3000CREATE INDEX IF_7 NOT ON t(x)" = true ∧
      (IndexRegistry.claim ⟨["if", "if_3"]⟩ "\u3000CREATE INDEX IF NOT ON t(x)"
        [3, 7, 1]).statement = "\u3000CREATE INDEX IF_7 NOT ON t(x)" := by
  have located : locate? "\u3000CREATE INDEX IF NOT ON t(x)".toList = some calledIf := by
    decide +kernel
  have name : String.ofList calledIf.name = "IF" := by decide +kernel
  have start : calledIf.start = 16 := by decide +kernel
  have stop : calledIf.stop = 18 := by decide +kernel
  have renamed : calledIf.renamed (numbered "IF" 7).toList =
      "\u3000CREATE INDEX IF_7 NOT ON t(x)" := by
    decide +kernel
  obtain ⟨stands, _, index, _, claimed⟩ := rename_only_name located 7
  rw [name, renamed] at index claimed
  rw [name, start, stop] at stands
  have claim := claimed ⟨["if", "if_3"]⟩ [3] [1] (by decide +kernel) (by decide +kernel)
    (by decide +kernel)
  exact ⟨located, stands, index, congrArg Claim.statement claim⟩

end IndexName

end DialectBridge.Schema
