import DialectBridge.Proofs.LetterCase
import DialectBridge.Proofs.Emulation.Calling
import Mathlib.Data.List.Forall2

/-!
# Letter case among candidates

A text is found among candidates in whatever case their letters are, unless it is a column of a
known table. What stands in front of its first point is taken for the name of a table without the
prefix of the host, and tables are known in whatever case their names are; only the prefix must be
written as the host writes it. So two lists of texts that differ in the case of ASCII letters give
different positions exactly if one text is found among the candidates, the prefix stands in front
of just one of the two names, and just one of the name and what is left of it without the prefix
is known.
-/

namespace DialectBridge.Emulation

open Text (SameLetters)

/-! ## Columns of known tables -/

/-- The text in front of the first point. -/
def front? (text : String) : Option (List Char) :=
  (Text.cutAtFirst ['.'] text.toList).map Prod.fst

namespace Catalog

variable (catalog : Catalog)

/-- Whether a text without the blanks at its ends is the name of a known table. -/
def knows (name : List Char) : Bool :=
  !(Text.trim name).isEmpty && catalog.hasTable (String.ofList (Text.trim name))

/-- A text without the prefix, if it has it. -/
def unprefixed (name : List Char) : List Char :=
  if catalog.tablePrefix.toList.isPrefixOf name then
    name.drop catalog.tablePrefix.toList.length
  else name

/-- Whether the prefix tells two names apart: it stands in front of just one of them, and a name is
known with it where it is not known without it, or the other way round. -/
def PrefixTells (name other : List Char) : Prop :=
  ¬(catalog.tablePrefix.toList <+: name ↔ catalog.tablePrefix.toList <+: other) ∧
    catalog.knows name ≠ catalog.knows (name.drop catalog.tablePrefix.toList.length)

instance (name other : List Char) : Decidable (catalog.PrefixTells name other) :=
  inferInstanceAs (Decidable (_ ∧ _))

/-- A table is known in whatever case the letters of its name are. -/
theorem knows_congr {name other : List Char} (same : SameLetters name other) :
    catalog.knows name = catalog.knows other := by
  have trimmed := same.trim
  have lowered : Text.lowercased (String.ofList (Text.trim name)) =
      Text.lowercased (String.ofList (Text.trim other)) := by
    unfold Text.lowercased
    rw [String.toList_ofList, String.toList_ofList, trimmed.lower]
  have lengths := congrArg List.isEmpty trimmed
  unfold Text.smallLetters at lengths
  rw [List.isEmpty_map, List.isEmpty_map] at lengths
  unfold knows hasTable
  rw [lowered, lengths]

/-- The prefix is all that can tell names with the same letters apart. Proof: without the prefix of
both, or with that of neither, they have the same letters. -/
theorem knows_unprefixed_iff {name other : List Char} (same : SameLetters name other) :
    catalog.knows (catalog.unprefixed name) = catalog.knows (catalog.unprefixed other) ↔
      ¬catalog.PrefixTells name other := by
  have whole := catalog.knows_congr same
  have rest := catalog.knows_congr (same.drop catalog.tablePrefix.toList.length)
  unfold unprefixed PrefixTells
  simp only [List.isPrefixOf_iff_prefix]
  by_cases first : catalog.tablePrefix.toList <+: name
  · by_cases second : catalog.tablePrefix.toList <+: other
    · simp [first, second, rest]
    · simp [first, second, whole, eq_comm]
  · by_cases second : catalog.tablePrefix.toList <+: other
    · simp [first, second, whole, rest]
    · simp [first, second, whole]

/-- A prefix without letters tells no names with the same letters apart. -/
theorem not_prefixTells {name other : List Char} (same : SameLetters name other)
    (noLetters : ∀ c ∈ catalog.tablePrefix.toList, c.isAlpha = false) :
    ¬catalog.PrefixTells name other := by
  rintro ⟨apart, _⟩
  apply apart
  rw [← Text.prefix_smallLetters_iff noLetters name, same,
    Text.prefix_smallLetters_iff noLetters other]

end Catalog

variable (catalog : Catalog)

/-- A column is qualified if what stands in front of its first point is known without the prefix. -/
theorem isQualifiedColumn_eq (text : String) : isQualifiedColumn catalog text =
    (front? text).any (fun name => catalog.knows (catalog.unprefixed name)) := by
  unfold isQualifiedColumn qualifier? front?
  cases Text.cutAtFirst ['.'] text.toList with
  | none => rfl
  | some parts => rfl

/-- Texts with the same letters have a point both or neither, and the same letters in front of
it. -/
theorem front?_cases {text other : String} (same : SameLetters text.toList other.toList) :
    (front? text = none ∧ front? other = none) ∨
      ∃ name otherName, front? text = some name ∧ front? other = some otherName ∧
        SameLetters name otherName := by
  have cut := congrArg (Text.cutAtFirst ['.']) same
  rw [Text.cutAtFirst_smallLetters, Text.cutAtFirst_smallLetters] at cut
  unfold front?
  cases first : Text.cutAtFirst ['.'] text.toList with
  | none =>
    cases second : Text.cutAtFirst ['.'] other.toList with
    | none => exact .inl ⟨rfl, rfl⟩
    | some parts =>
      rw [first, second] at cut
      exact absurd cut nofun
  | some parts =>
    cases second : Text.cutAtFirst ['.'] other.toList with
    | none =>
      rw [first, second] at cut
      exact absurd cut nofun
    | some otherParts =>
      rw [first, second] at cut
      have fronts := (Prod.mk.inj (Option.some.inj cut)).1
      exact .inr ⟨parts.1, otherParts.1, rfl, rfl, fronts⟩

/-! ## Lists of texts -/

/-- Whether two lists have as many texts, each with the same letters as the other list's. -/
def SameTexts (first second : List String) : Prop :=
  List.Forall₂ (fun text other => SameLetters text.toList other.toList) first second

instance (first second : List String) : Decidable (SameTexts first second) :=
  inferInstanceAs (Decidable (List.Forall₂ _ first second))

/-- Whether the first of some texts is a column of a known table. -/
def guards (texts : List String) : Bool := texts.head?.any (isQualifiedColumn catalog)

/-- The index of the first of the other texts that equals the first one up to letter case. -/
def matchIndex? : List String → Option Nat
  | [] => none
  | needle :: candidates =>
    candidates.findIdx? fun text => Text.lower needle.toList == Text.lower text.toList

/-- Whether the prefix tells apart the names of tables that two lists of texts begin with. -/
def PrefixDecides (first second : List String) : Prop :=
  ∃ needle ∈ first.head?, ∃ other ∈ second.head?, ∃ name ∈ front? needle,
    ∃ otherName ∈ front? other, catalog.PrefixTells name otherName

/-- The position among texts is that of the first match, unless there is a column of a known
table. -/
theorem fieldPosition_texts (texts : List String) : fieldPosition catalog (texts.map .text) =
    if guards catalog texts = true then .integer 0
    else match matchIndex? texts with
      | some index => .ofInt (index + 1)
      | none => .integer 0 := by
  cases texts with
  | nil => rfl
  | cons needle candidates =>
    have found : (candidates.map Value.text).findIdx? ((Value.text needle).looselyEqual ·) =
        matchIndex? (needle :: candidates) := by
      rw [List.findIdx?_map]
      rfl
    change (if isQualifiedColumn catalog needle = true then _ else
      match (candidates.map Value.text).findIdx? ((Value.text needle).looselyEqual ·) with
      | some index => Value.ofInt (index + 1)
      | none => Value.integer 0) = _
    rw [found]
    rfl

section

variable {catalog} {first second : List String} (alike : SameTexts first second)

include alike

/-- The first match is at the same index in lists of texts with the same letters. -/
theorem matchIndex?_congr : matchIndex? first = matchIndex? second := by
  cases alike with
  | nil => rfl
  | @cons needle other candidates others sameNeedle sameCandidates =>
    change candidates.findIdx? (fun text => Text.lower needle.toList == Text.lower text.toList) =
      others.findIdx? fun text => Text.lower other.toList == Text.lower text.toList
    rw [sameNeedle.lower]
    induction sameCandidates with
    | nil => rfl
    | cons same _ inductionHypothesis =>
      rw [List.findIdx?_cons, List.findIdx?_cons, same.lower, inductionHypothesis]

/-- Both lists begin with a column of a known table, or neither, unless the prefix decides. -/
theorem guards_eq_iff : guards catalog first = guards catalog second ↔
    ¬PrefixDecides catalog first second := by
  cases alike with
  | nil => simp [PrefixDecides]
  | @cons needle other candidates others same _ =>
    unfold guards PrefixDecides
    simp only [List.head?_cons, Option.any_some, Option.mem_def, Option.some.injEq,
      exists_eq_left', isQualifiedColumn_eq]
    rcases front?_cases same with ⟨none, otherNone⟩ | ⟨name, otherName, some, otherSome, sameName⟩
    · simp [none, otherNone]
    · simp only [some, otherSome, Option.any_some, Option.some.injEq, exists_eq_left']
      exact catalog.knows_unprefixed_iff sameName

end

/-- The index of a match is below the number of texts. -/
theorem lt_of_matchIndex? {texts : List String} {index : Nat}
    (found : matchIndex? texts = some index) : index + 1 < texts.length := by
  cases texts with
  | nil => exact absurd found nofun
  | cons needle candidates =>
    have inside := (List.findIdx?_eq_some_iff_getElem.mp found).1
    rw [List.length_cons]
    omega

/-- A position that is found is not zero. -/
theorem ofInt_ne_zero {index : Nat} (fits : (index : Int) + 1 ≤ Decimal.maxInt64) :
    Value.ofInt (index + 1) ≠ .integer 0 := by
  intro same
  have number : Int64.ofInt (index + 1) = 0 := Value.integer.inj same
  have back : (Int64.ofInt (index + 1)).toInt = index + 1 := by
    unfold Decimal.maxInt64 at fits
    apply Int64.toInt_ofInt_of_le
    · omega
    · omega
  rw [number] at back
  have none : (0 : Int64).toInt = 0 := rfl
  omega

/-- Two lists of texts that differ in nothing but the case of ASCII letters both begin with a column
of a known table, or neither does, exactly if the prefix does not tell apart the names in front of
the first points; and they give the same position exactly if it does not or the first text is not
among the others. A prefix without letters tells no names apart, such as the empty one.

Proof: the lists have their first match at the same index, which is given unless a column of a known
table is in front. Where the prefix stands in front of both names or of neither, what is left of
them has the same letters, and so it is known in both or in neither. -/
theorem field_position_same_iff (env : Environment) {first second : List String}
    (alike : SameTexts first second)
    (few : (first.length : Int) ≤ Decimal.maxInt64) :
    (guards env.catalog first = guards env.catalog second ↔
        ¬PrefixDecides env.catalog first second) ∧
      (evaluate env "field" (first.map .text) = evaluate env "field" (second.map .text) ↔
        ¬PrefixDecides env.catalog first second ∨ matchIndex? first = none) ∧
      ((∀ c ∈ env.catalog.tablePrefix.toList, c.isAlpha = false) →
        ¬PrefixDecides env.catalog first second) := by
  have guarded : guards env.catalog first = guards env.catalog second ↔
      ¬PrefixDecides env.catalog first second := guards_eq_iff alike
  have given (texts : List String) : evaluate env "field" (texts.map .text) =
      .ok (fieldPosition env.catalog (texts.map .text)) := by
    apply evaluate_name env .field
    exact decide_eq_true (Nat.zero_le (texts.map Value.text).length)
  refine ⟨guarded, ?_, ?_⟩
  · rw [given, given, Except.ok.injEq, fieldPosition_texts, fieldPosition_texts,
      ← matchIndex?_congr alike, ← guarded]
    cases found : matchIndex? first with
    | none => simp
    | some index =>
      have inside := lt_of_matchIndex? found
      have notZero : Value.ofInt (index + 1) ≠ .integer 0 := ofInt_ne_zero (by omega)
      cases guards env.catalog first <;> cases guards env.catalog second <;>
        simp [notZero, notZero.symm]
  · intro noLetters
    cases alike with
    | nil => simp [PrefixDecides]
    | @cons needle other candidates others same _ =>
      rintro ⟨_, ⟨⟩, _, ⟨⟩, name, inNeedle, otherName, inOther, tells⟩
      rcases front?_cases same with ⟨none, _⟩ | ⟨_, _, some, otherSome, sameName⟩
      · rw [none] at inNeedle
        exact absurd inNeedle nofun
      · rw [some] at inNeedle
        rw [otherSome] at inOther
        obtain rfl := Option.some.inj inNeedle
        obtain rfl := Option.some.inj inOther
        exact env.catalog.not_prefixTells sameName noLetters tells

/-- Calls for a host whose tables have a prefix. -/
def prefixed : Environment := { epoch with catalog := .ofNames "wp_" ["posts"] }

/-- The name of a known table is recognised behind the prefix in whatever case its letters are. -/
theorem capital_table_guarded :
    let first := ["wp_posts.ID", "wp_posts.ID"]
    let second := ["wp_POSTS.Id", "WP_Posts.ID"]
    SameTexts first second ∧
      (first.length : Int) ≤ Decimal.maxInt64 ∧ guards prefixed.catalog first = true ∧
      guards prefixed.catalog second = true ∧
      evaluate prefixed "field" (first.map .text) =
        evaluate prefixed "field" (second.map .text) := by
  intro first second
  have alike : SameTexts first second := by decide
  have few : (first.length : Int) ≤ Decimal.maxInt64 := by decide
  have firstGuarded : guards prefixed.catalog first = true := by decide
  have secondGuarded : guards prefixed.catalog second = true := by decide
  obtain ⟨guarded, position, _⟩ := field_position_same_iff prefixed alike few
  refine ⟨alike, few, firstGuarded, secondGuarded, ?_⟩
  apply position.mpr
  left
  exact guarded.mp (firstGuarded.trans secondGuarded.symm)

/-- The prefix is not recognised in another case: a column of a known table is found among the
candidates where it is written with capitals in front. -/
theorem capital_prefix_unguarded :
    let first := ["wp_posts.ID", "wp_posts.ID"]
    let second := ["WP_posts.ID", "WP_posts.ID"]
    SameTexts first second ∧
      guards prefixed.catalog first = true ∧ guards prefixed.catalog second = false ∧
      evaluate prefixed "field" (first.map .text) = .ok (.integer 0) ∧
      evaluate prefixed "field" (second.map .text) = .ok (.integer 1) := by
  intro first second
  have alike : SameTexts first second := by decide
  have guarded : guards prefixed.catalog first = true := by decide
  have unguarded : guards prefixed.catalog second = false := by decide
  exact ⟨alike, guarded, unguarded, rfl, rfl⟩

end DialectBridge.Emulation
