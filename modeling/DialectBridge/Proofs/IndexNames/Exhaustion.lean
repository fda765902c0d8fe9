import DialectBridge.Proofs.Installation.Reporting
import Mathlib.Data.List.Nodup

/-!
# Numbers that are left for a name

Drawing a number for a name that is in use goes on until the name with the number is free.
The numbers are below a limit, so whether it can ever stop is a matter of counting: the names
in use are all different, and the name itself is none of those that it can be replaced by. So
a number is left exactly as long as fewer of those are in use than there are numbers, whether
earlier claims drew them or statements had them from the start. As many claims as there are
numbers cannot use them up. One more can, and then no draw ends.
-/

namespace DialectBridge.Schema.IndexRegistry

open IndexName (namesOf namesOf_cons readBack?)

/-! ## Names in use after claims -/

/-- The registry after the names of statements have been claimed, in order. -/
def afterAll (registry : IndexRegistry) (draws : List Nat) : List String → IndexRegistry
  | [] => registry
  | statement :: rest =>
    let claim := registry.claim statement draws
    claim.registry.afterAll claim.draws rest

/-- The names in use after claims are those that can be read back from their statements, and
those in use before. -/
theorem used_afterAll (registry : IndexRegistry) (draws : List Nat) (statements : List String) :
    (registry.afterAll draws statements).used.Perm
      (namesOf ((registry.claimAll draws statements).map (·.statement)) ++ registry.used) := by
  induction statements generalizing registry draws with
  | nil => exact List.Perm.refl _
  | cons statement rest inductionHypothesis =>
    obtain ⟨used, _⟩ := registry.claim_used statement draws
    have later := inductionHypothesis (registry.claim statement draws).registry
      (registry.claim statement draws).draws
    rw [used] at later
    rw [claimAll, List.map_cons, namesOf_cons]
    apply later.trans
    rw [← List.append_assoc]
    exact List.perm_append_comm.append_right _

/-- A name that is free is claimed as it is. -/
theorem claim_of_free (registry : IndexRegistry) {statement : String} (draws : List Nat)
    (free : ∀ name ∈ namesOf [statement], name ∉ registry.used) :
    (registry.claim statement draws).statement = statement := by
  cases located : IndexName.locate? statement.toList with
  | none => rw [registry.claim_of_unnamed draws located]
  | some found =>
    have unused : registry.contains (String.ofList found.name) = false := by
      have absent := free (Text.lowercased (String.ofList found.name))
        (by simp [namesOf, readBack?, located])
      simpa [contains] using absent
    rw [registry.claim_of_unused draws located unused]

/-- Statements whose names are different from each other and from those in use are claimed as
they are, so that no number is drawn for any of them. -/
theorem claimAll_of_different (registry : IndexRegistry) (draws : List Nat)
    (statements : List String) (different : (namesOf statements).Nodup)
    (free : ∀ name ∈ namesOf statements, name ∉ registry.used) :
    (registry.claimAll draws statements).map (·.statement) = statements := by
  induction statements generalizing registry draws with
  | nil => rfl
  | cons statement rest inductionHypothesis =>
    rw [namesOf_cons] at different free
    obtain ⟨_, others, apart⟩ := List.nodup_append.mp different
    have kept : (registry.claim statement draws).statement = statement :=
      registry.claim_of_free draws fun name member =>
        free name (List.mem_append_left _ member)
    obtain ⟨used, _⟩ := registry.claim_used statement draws
    rw [kept] at used
    have unused : ∀ name ∈ namesOf rest,
        name ∉ (registry.claim statement draws).registry.used := by
      intro name later old
      rw [used] at old
      rcases List.mem_append.mp old with first | before
      · exact apart name first name later rfl
      · exact free name (List.mem_append_right _ later) before
    rw [claimAll, List.map_cons, kept, inductionHypothesis _ _ others unused]

/-! ## Names that a name can be replaced by -/

/-- The names, in lower case, that a name can be replaced by. -/
def replacements (name : String) : List String :=
  (List.range numberLimit).map fun number => Text.lowercased (numbered name number)

/-- A name can be replaced by as many names as there are numbers. -/
theorem length_replacements (name : String) : (replacements name).length = numberLimit := by
  simp [replacements]

/-- The names that a name can be replaced by are different from each other. -/
theorem nodup_replacements (name : String) : (replacements name).Nodup :=
  List.nodup_range.map (lowercased_numbered_injective name)

/-- A name with a number is another name. -/
theorem lowercased_numbered_ne (name : String) (number : Nat) :
    Text.lowercased (numbered name number) ≠ Text.lowercased name := by
  intro same
  rw [lowercased_numbered, Text.lowercased, String.ofList_inj] at same
  have length := congrArg List.length same
  simp [IndexName.numberSuffix] at length

/-- A name is not replaced by itself. -/
theorem lowercased_not_mem_replacements (name : String) :
    Text.lowercased name ∉ replacements name := by
  intro member
  obtain ⟨number, _, same⟩ := List.mem_map.mp member
  exact lowercased_numbered_ne name number same

/-- A number is left for a name exactly if not all names that can replace it are in use. -/
theorem exists_free_iff (registry : IndexRegistry) (name : String) :
    (∃ number < numberLimit, registry.isFree name number = true) ↔
      ∃ other ∈ replacements name, other ∉ registry.used := by
  simp [replacements, isFree, contains]

/-- A number is left for a name exactly as long as fewer names in use can replace it than
there are numbers. Proof: the names in use that can replace it and the replacements that are
in use are the same names, each listed once, so there are as many of them. -/
theorem exists_free_iff_length_lt {registry : IndexRegistry} (different : registry.used.Nodup)
    (name : String) :
    (∃ number < numberLimit, registry.isFree name number = true) ↔
      (registry.used.filter (· ∈ replacements name)).length < numberLimit := by
  have same : (registry.used.filter (· ∈ replacements name)).Perm
      ((replacements name).filter (· ∈ registry.used)) := by
    apply (List.perm_ext_iff_of_nodup (different.filter _)
      ((nodup_replacements name).filter _)).mpr
    intro other
    simp [and_comm]
  rw [exists_free_iff, same.length_eq, ← length_replacements name,
    List.length_filter_lt_length_iff_exists]
  simp

/-! ## Drawing -/

/-- Drawing ends with one of the numbers drawn exactly if one of them makes the name free. -/
theorem freeNumber_mem_iff (registry : IndexRegistry) (name : String) (drawn : List Nat) :
    registry.freeNumber name drawn ∈ drawn ↔ ∃ number ∈ drawn, registry.isFree name number := by
  constructor
  · intro ended
    exact ⟨_, ended, registry.isFree_freeNumber name drawn⟩
  · rintro ⟨number, listed, free⟩
    unfold freeNumber
    rw [List.find?_append]
    cases chosen : drawn.find? (registry.isFree name) with
    | none => exact absurd free (List.find?_eq_none.mp chosen number listed)
    | some first => exact List.mem_of_find?_eq_some chosen

/-- Whether drawing can end: some numbers below the limit have one among them that is taken. -/
def CanDraw (registry : IndexRegistry) (name : String) : Prop :=
  ∃ drawn : List Nat, (∀ number ∈ drawn, number < numberLimit) ∧
    registry.freeNumber name drawn ∈ drawn

/-- Drawing can end exactly if a number is left. -/
theorem canDraw_iff (registry : IndexRegistry) (name : String) :
    registry.CanDraw name ↔ ∃ number < numberLimit, registry.isFree name number = true := by
  unfold CanDraw
  simp only [freeNumber_mem_iff]
  constructor
  · rintro ⟨drawn, below, number, listed, free⟩
    exact ⟨number, below number listed, free⟩
  · rintro ⟨number, below, free⟩
    exact ⟨[number], by simpa using below, number, by simp, free⟩

/-! ## Crowds of names -/

/-- An index, and another one for each of some numbers that has its name with that number. -/
def crowd (numbers : List Nat) : List String :=
  "CREATE INDEX k ON t(x)" :: numbers.map fun number =>
    "CREATE INDEX " ++ numbered "k" number ++ " ON t(x)"

/-- Letter case does not matter to the name of the first index in a crowd. -/
theorem lowercased_crowd : Text.lowercased "k" = "k" := by decide +kernel

/-- The name of the first index in a crowd is found where it stands. -/
theorem locate?_crowd : IndexName.locate? "CREATE INDEX k ON t(x)".toList =
    some ⟨"CREATE INDEX ".toList, ['k'], " ON t(x)".toList⟩ := by decide +kernel

/-- The name with a number is read back from the statement that has it in a crowd. -/
theorem readBack?_crowd (number : Nat) :
    readBack? ("CREATE INDEX " ++ numbered "k" number ++ " ON t(x)") =
      some (numbered "k" number) := by
  have named := readBack?_renamed locate?_crowd number
  simpa only [IndexName.renamed, String.ofList_append, String.ofList_toList] using named

/-- The names in a crowd are the first one and those with the numbers. -/
theorem namesOf_crowd (numbers : List Nat) : namesOf (crowd numbers) =
    "k" :: numbers.map fun number => Text.lowercased (numbered "k" number) := by
  have first : namesOf ["CREATE INDEX k ON t(x)"] = ["k"] := by
    have named : (readBack? "CREATE INDEX k ON t(x)").map Text.lowercased = some "k" := by
      unfold readBack?
      rw [locate?_crowd, Option.map_some, Option.map_some]
      exact congrArg some lowercased_crowd
    exact List.filterMap_cons_some named
  have others : namesOf (numbers.map fun number =>
      "CREATE INDEX " ++ numbered "k" number ++ " ON t(x)") =
        numbers.map fun number => Text.lowercased (numbered "k" number) := by
    induction numbers with
    | nil => rfl
    | cons number rest inductionHypothesis =>
      rw [List.map_cons, namesOf_cons, inductionHypothesis]
      simp only [namesOf, List.filterMap_cons, readBack?_crowd, Option.map_some,
        List.filterMap_nil, List.singleton_append, List.map_cons]
  unfold crowd
  rw [namesOf_cons, first, others]
  rfl

/-- A crowd of different numbers is claimed as it is, and its names are in use then. -/
theorem claimAll_crowd {numbers : List Nat} (different : numbers.Nodup) :
    (claimAll {} [] (crowd numbers)).map (·.statement) = crowd numbers ∧
      (afterAll {} [] (crowd numbers)).contains "k" = true ∧
      ∀ number ∈ numbers, (afterAll {} [] (crowd numbers)).isFree "k" number = false := by
  have apart : (namesOf (crowd numbers)).Nodup := by
    rw [namesOf_crowd, List.nodup_cons]
    refine ⟨?_, different.map (lowercased_numbered_injective "k")⟩
    intro member
    obtain ⟨number, _, same⟩ := List.mem_map.mp member
    exact lowercased_numbered_ne "k" number (same.trans lowercased_crowd.symm)
  have kept : (claimAll {} [] (crowd numbers)).map (·.statement) = crowd numbers :=
    claimAll_of_different {} [] (crowd numbers) apart (by simp)
  have used := used_afterAll {} [] (crowd numbers)
  rw [kept, namesOf_crowd] at used
  refine ⟨kept, ?_, ?_⟩
  · unfold contains
    rw [lowercased_crowd]
    simpa using used.mem_iff.mpr (by simp)
  · intro number listed
    have inUse := used.mem_iff.mpr (List.mem_append_left _ (List.mem_cons_of_mem _
      (List.mem_map_of_mem listed)))
    simpa [isFree, contains] using inUse

/-! ## Numbers that are left -/

/-- After any claims from the start of a run, with any draws, a number below the limit is left
for a name exactly as long as fewer of the names so far can replace it than there are numbers,
and exactly then drawing one can end. A name that is in use has a number left after as many
claims of indexes as there are numbers.

Proof: the names so far are different and are those in use. One of them is the name itself,
which cannot replace itself, so that as many claims leave one number at least. -/
theorem number_left_iff (draws : List Nat) (statements : List String) (name : String) :
    let registry := afterAll {} draws statements
    let names := namesOf ((claimAll {} draws statements).map (·.statement))
    ((∃ number < numberLimit, registry.isFree name number = true) ↔
        (names.filter (· ∈ replacements name)).length < numberLimit) ∧
      (registry.CanDraw name ↔ ∃ number < numberLimit, registry.isFree name number = true) ∧
      (registry.contains name = true → names.length ≤ numberLimit →
        ∃ number < numberLimit, registry.isFree name number = true) := by
  intro registry names
  have used : registry.used.Perm names := by
    have listed := used_afterAll {} draws statements
    rwa [List.append_nil] at listed
  have different : registry.used.Nodup := used.nodup_iff.mpr (nodup_claimAll {} draws statements).1
  have counted : (∃ number < numberLimit, registry.isFree name number = true) ↔
      (names.filter (· ∈ replacements name)).length < numberLimit := by
    rw [exists_free_iff_length_lt different, (used.filter _).length_eq]
  refine ⟨counted, registry.canDraw_iff name, ?_⟩
  intro inUse few
  rw [counted]
  have itself : Text.lowercased name ∈ names := by
    apply used.mem_iff.mp
    simpa [contains] using inUse
  have fewer : (names.filter (· ∈ replacements name)).length < names.length := by
    apply List.length_filter_lt_length_iff_exists.mpr
    exact ⟨_, itself, by simpa using lowercased_not_mem_replacements name⟩
  omega

/-- After an index and one that has its name with a number, a number is left for the next index
of that name. -/
theorem number_left_for_namesake :
    (afterAll {} [] ["CREATE INDEX k ON t(x)", "CREATE INDEX k_0 ON t(x)"]).contains "k" = true ∧
      ∃ number < numberLimit,
        (afterAll {} [] ["CREATE INDEX k ON t(x)", "CREATE INDEX k_0 ON t(x)"]).isFree
          "k" number = true := by
  have two : ["CREATE INDEX k ON t(x)", "CREATE INDEX k_0 ON t(x)"] = crowd [0] := by decide
  rw [two]
  obtain ⟨kept, inUse, _⟩ := claimAll_crowd (List.nodup_singleton 0)
  refine ⟨inUse, (number_left_iff [] (crowd [0]) "k").2.2 inUse ?_⟩
  rw [kept, namesOf_crowd]
  decide

/-- After a crowd of all numbers, none of which was drawn, the first name is in use and no number
is left for it. -/
theorem crowd_uses_up_numbers :
    (claimAll {} [] (crowd (List.range numberLimit))).map (·.statement) =
        crowd (List.range numberLimit) ∧
      (afterAll {} [] (crowd (List.range numberLimit))).contains "k" = true ∧
      ∀ number < numberLimit,
        (afterAll {} [] (crowd (List.range numberLimit))).isFree "k" number = false := by
  obtain ⟨kept, inUse, taken⟩ := claimAll_crowd (List.nodup_range (n := numberLimit))
  exact ⟨kept, inUse, fun number below => taken number (List.mem_range.mpr below)⟩

end DialectBridge.Schema.IndexRegistry
