import DialectBridge.Proofs.IndexNames.Exhaustion
import Mathlib.Data.Finset.Card
import Mathlib.Data.Finset.Dedup

/-!
# Only repeated names are replaced

A name is replaced if it is in use, and what is in use is more than the names of the statements so
far: also the names with numbers that were drawn. As long as no statement has a name that another
one could be given, these do not matter. What is in use is then told apart by where it comes from,
and a statement is renamed exactly if one before it has its name. So there are as many renamings
as there are names beyond the different ones.
-/

namespace DialectBridge.Schema

open IndexName (locate? readBack? namesOf namesOf_append namesOf_cons)

/-! ## New names -/

/-- Of names with one more in front, as many are new as without it, and the one more if it is. -/
theorem card_new_cons {α : Type} [DecidableEq α] (name : α) (old names : List α) :
    ((name :: names).toFinset \ old.toFinset).card =
      (names.toFinset \ (old ++ [name]).toFinset).card + if name ∈ old then 0 else 1 := by
  by_cases known : name ∈ old
  · have same : (name :: names).toFinset \ old.toFinset =
        names.toFinset \ (old ++ [name]).toFinset := by
      ext other
      have itself : other = name → other ∈ old := by
        rintro rfl
        exact known
      simp only [List.toFinset_cons, List.toFinset_append, List.toFinset_nil, Finset.mem_sdiff,
        Finset.mem_insert, Finset.mem_union, List.mem_toFinset, Finset.notMem_empty]
      tauto
    rw [same, if_pos known, Nat.add_zero]
  · have more : (name :: names).toFinset \ old.toFinset =
        insert name (names.toFinset \ (old ++ [name]).toFinset) := by
      ext other
      have itself : other = name → other ∉ old := by
        rintro rfl
        exact known
      simp only [List.toFinset_cons, List.toFinset_append, List.toFinset_nil, Finset.mem_sdiff,
        Finset.mem_insert, Finset.mem_union, List.mem_toFinset, Finset.notMem_empty]
      tauto
    rw [more, if_neg known]
    apply Finset.card_insert_of_notMem
    simp

/-! ## Names of one statement -/

/-- A statement without a name gives none. -/
theorem IndexName.namesOf_unnamed {statement : String}
    (absent : locate? statement.toList = none) : namesOf [statement] = [] := by
  simp [namesOf, readBack?, absent]

/-- A statement with a name gives that one, in lower case. -/
theorem IndexName.namesOf_named {statement : String} {found : IndexName}
    (located : locate? statement.toList = some found) :
    namesOf [statement] = [Text.lowercased (String.ofList found.name)] := by
  simp [namesOf, readBack?, located]

namespace IndexRegistry

open IndexName (namesOf_unnamed namesOf_named)

/-! ## Claims that end -/

/-- Whether the claim of a statement ends with the numbers drawn: its name is not in use, or one
of the numbers makes it free. -/
def returns (registry : IndexRegistry) (statement : String) (draws : List Nat) : Bool :=
  match readBack? statement with
  | none => true
  | some name => !registry.contains name || draws.any (registry.isFree name)

/-- Whether all claims end, each with the numbers that those before it have left. -/
def allReturn (registry : IndexRegistry) (draws : List Nat) : List String → Bool
  | [] => true
  | statement :: rest =>
    registry.returns statement draws &&
      (registry.claim statement draws).registry.allReturn
        (registry.claim statement draws).draws rest

/-- What a claim that ends can do: nothing for a statement without a name, take a name that is not
in use as it is, and put the name with one of the numbers drawn in place of one that is in use. -/
inductive Outcome (registry : IndexRegistry) (statement : String) (draws : List Nat) :
    Claim → Prop where
  | unnamed (absent : locate? statement.toList = none) :
      Outcome registry statement draws ⟨statement, none, registry, draws⟩
  | kept {found : IndexName} (located : locate? statement.toList = some found)
      (unused : registry.contains (String.ofList found.name) = false) :
      Outcome registry statement draws
        ⟨statement, none, registry.insert (String.ofList found.name), draws⟩
  | replaced {found : IndexName} (located : locate? statement.toList = some found)
      (inUse : registry.contains (String.ofList found.name) = true) {number : Nat}
      (drawn : number ∈ draws) {left : List Nat} (among : left ⊆ draws) :
      Outcome registry statement draws
        ⟨found.renamed (numbered (String.ofList found.name) number).toList,
          some (String.ofList found.name, numbered (String.ofList found.name) number),
          registry.insert (numbered (String.ofList found.name) number), left⟩

/-- A claim that ends does one of these. -/
theorem claim_outcome {registry : IndexRegistry} {statement : String} {draws : List Nat}
    (returned : registry.returns statement draws = true) :
    Outcome registry statement draws (registry.claim statement draws) := by
  cases located : locate? statement.toList with
  | none =>
    rw [registry.claim_of_unnamed draws located]
    exact .unnamed located
  | some found =>
    cases taken : registry.contains (String.ofList found.name) with
    | false =>
      rw [registry.claim_of_unused draws located taken]
      exact .kept located taken
    | true =>
      have given : readBack? statement = some (String.ofList found.name) := by
        simp [readBack?, located]
      have ends : ∃ number ∈ draws, registry.isFree (String.ofList found.name) number := by
        simpa [returns, given, taken] using returned
      have drawn := (registry.freeNumber_mem_iff _ draws).mpr ends
      rw [registry.claim_of_inUse draws located taken]
      apply Outcome.replaced located taken drawn
      intro number left
      exact (List.dropWhile_sublist _).subset (List.mem_of_mem_drop left)

/-- The numbers that are left were drawn. -/
theorem Outcome.draws_subset {registry : IndexRegistry} {statement : String} {draws : List Nat}
    {claim : Claim} (outcome : Outcome registry statement draws claim) : claim.draws ⊆ draws := by
  cases outcome with
  | unnamed absent => exact List.Subset.refl _
  | kept located unused => exact List.Subset.refl _
  | replaced located inUse drawn among => exact among

/-! ## Where names come from -/

/-- No statement has a name, in lower case, that replaces the name of one of them. A name never
replaces itself, so this is about different names. -/
def Separate (statements : List String) : Prop :=
  ∀ name ∈ namesOf statements, ∀ other ∈ statements.filterMap readBack?,
    name ∉ replacements other

/-- Statements whose names have no low line are separate. -/
theorem separate_of_no_lowLine {statements : List String}
    (plain : ∀ name ∈ namesOf statements, '_' ∉ name.toList) : Separate statements := by
  intro name listed other _ replaces
  obtain ⟨number, _, rfl⟩ := List.mem_map.mp replaces
  apply plain _ listed
  rw [lowercased_numbered, String.toList_ofList]
  exact List.mem_append_right _ List.mem_cons_self

/-- What is in use after statements: all their names, and besides these only names that replace
one of them. -/
structure Accumulated (registry : IndexRegistry) (earlier : List String) : Prop where
  named : ∀ name ∈ namesOf earlier, name ∈ registry.used
  drawn : ∀ name ∈ registry.used, name ∈ namesOf earlier ∨
    ∃ other ∈ earlier.filterMap readBack?, name ∈ replacements other

/-- At the start nothing is in use. -/
theorem accumulated_nil : Accumulated {} [] where
  named := by simp [namesOf]
  drawn := by simp

variable {registry : IndexRegistry} {earlier : List String} {statement : String}
  {draws : List Nat} {claim : Claim}

/-- Among separate statements, a name is in use exactly if a statement before has it. -/
theorem Accumulated.contains_iff (accumulated : Accumulated registry earlier)
    {later : List String} (separate : Separate (earlier ++ statement :: later))
    {found : IndexName} (located : locate? statement.toList = some found) :
    registry.contains (String.ofList found.name) = true ↔
      Text.lowercased (String.ofList found.name) ∈ namesOf earlier := by
  have contained : registry.contains (String.ofList found.name) = true ↔
      Text.lowercased (String.ofList found.name) ∈ registry.used := by
    simp [contains]
  rw [contained]
  constructor
  · intro inUse
    rcases accumulated.drawn _ inUse with old | ⟨other, among, replaces⟩
    · exact old
    · have listed : Text.lowercased (String.ofList found.name) ∈
          namesOf (earlier ++ statement :: later) := by
        rw [namesOf_append, namesOf_cons, namesOf_named located]
        simp
      have otherListed : other ∈ (earlier ++ statement :: later).filterMap readBack? := by
        rw [List.filterMap_append]
        exact List.mem_append_left _ among
      exact absurd replaces (separate _ listed other otherListed)
  · exact accumulated.named _

/-- Account of what is in use is kept as long as nothing goes out of use and what is new is the
name of the statement or replaces it. -/
theorem Accumulated.extend (accumulated : Accumulated registry earlier) {next : IndexRegistry}
    (remains : registry.used ⊆ next.used)
    (named : ∀ name ∈ namesOf [statement], name ∈ next.used)
    (drawn : ∀ name ∈ next.used, name ∈ registry.used ∨ name ∈ namesOf [statement] ∨
      ∃ other ∈ readBack? statement, name ∈ replacements other) :
    Accumulated next (earlier ++ [statement]) := by
  constructor
  · intro name listed
    rw [namesOf_append] at listed
    rcases List.mem_append.mp listed with old | new
    · exact remains (accumulated.named name old)
    · exact named name new
  · intro name inUse
    rw [namesOf_append, List.filterMap_append]
    rcases drawn name inUse with old | new | ⟨other, given, replaces⟩
    · rcases accumulated.drawn name old with before | ⟨other, among, replaces⟩
      · exact .inl (List.mem_append_left _ before)
      · exact .inr ⟨other, List.mem_append_left _ among, replaces⟩
    · exact .inl (List.mem_append_right _ new)
    · exact .inr ⟨other, List.mem_append_right _ (by simpa using given), replaces⟩

/-- A claim keeps account of what is in use: it adds the name of its statement, or in place of
one that was in use the name that replaces it. -/
theorem Accumulated.step (accumulated : Accumulated registry earlier)
    (below : ∀ number ∈ draws, number < numberLimit)
    (outcome : Outcome registry statement draws claim) :
    Accumulated claim.registry (earlier ++ [statement]) := by
  cases outcome with
  | unnamed absent =>
    have nameless := namesOf_unnamed absent
    apply accumulated.extend (List.Subset.refl _)
    · simp [nameless]
    · exact fun name inUse => .inl inUse
  | @kept found located unused =>
    have named := namesOf_named located
    apply accumulated.extend (List.subset_cons_self _ _)
    · simp [named]
    · intro name inUse
      rcases List.mem_cons.mp inUse with rfl | old
      · exact .inr (.inl (by simp [named]))
      · exact .inl old
  | @replaced found located inUse number drawn left among =>
    have named := namesOf_named located
    have given : String.ofList found.name ∈ readBack? statement := by simp [readBack?, located]
    apply accumulated.extend (List.subset_cons_self _ _)
    · have old : Text.lowercased (String.ofList found.name) ∈ registry.used := by
        simpa [contains] using inUse
      simp [named, old]
    · intro name inUse
      rcases List.mem_cons.mp inUse with rfl | old
      · refine .inr (.inr ⟨_, given, ?_⟩)
        exact List.mem_map.mpr ⟨number, List.mem_range.mpr (below number drawn), rfl⟩
      · exact .inl old

/-! ## Renamings -/

/-- A statement is claimed as it is if its name is new among the statements, and its name is
replaced by itself with one of the numbers drawn if it is not. -/
structure RenamedIfRepeated (draws : List Nat) (earlier : List String) (statement : String)
    (claim : Claim) : Prop where
  kept : (∀ name ∈ namesOf [statement], name ∉ namesOf earlier) →
    claim.statement = statement ∧ claim.renamed = none
  replaced : ∀ found, locate? statement.toList = some found →
    Text.lowercased (String.ofList found.name) ∈ namesOf earlier →
      ∃ number ∈ draws,
        claim.renamed =
            some (String.ofList found.name, numbered (String.ofList found.name) number) ∧
          claim.statement =
            found.renamed (numbered (String.ofList found.name) number).toList

/-- Among separate statements, a claim that ends renames a statement exactly if one before has
its name. -/
theorem Outcome.renamedIfRepeated (outcome : Outcome registry statement draws claim)
    (accumulated : Accumulated registry earlier) {later : List String}
    (separate : Separate (earlier ++ statement :: later)) {drawn : List Nat}
    (among : draws ⊆ drawn) : RenamedIfRepeated drawn earlier statement claim := by
  cases outcome with
  | unnamed absent =>
    constructor
    · exact fun _ => ⟨rfl, rfl⟩
    · intro found located
      simp [absent] at located
  | kept located unused =>
    constructor
    · exact fun _ => ⟨rfl, rfl⟩
    · intro other given repeated
      rw [← accumulated.contains_iff separate given] at repeated
      obtain rfl := Option.some.inj (located.symm.trans given)
      simp [unused] at repeated
  | @replaced found located inUse number chosen left _ =>
    constructor
    · intro new
      have repeated := (accumulated.contains_iff separate located).mp inUse
      exact absurd repeated (new _ (by simp [namesOf_named located]))
    · intro other given repeated
      obtain rfl := Option.some.inj (located.symm.trans given)
      exact ⟨number, among chosen, rfl, rfl⟩

/-- Each of some statements is renamed exactly if one before has its name. -/
inductive EachRenamedIfRepeated (draws : List Nat) :
    (earlier statements : List String) → List Claim → Prop where
  | nil (earlier : List String) : EachRenamedIfRepeated draws earlier [] []
  | cons {earlier rest : List String} {statement : String} {claim : Claim} {claims : List Claim}
      (first : RenamedIfRepeated draws earlier statement claim)
      (others : EachRenamedIfRepeated draws (earlier ++ [statement]) rest claims) :
      EachRenamedIfRepeated draws earlier (statement :: rest) (claim :: claims)

/-- Claims of separate statements that all end rename each exactly if one before has its name.
Induct on the statements: each claim keeps account of what is in use. -/
theorem eachRenamedIfRepeated_claimAll {drawn : List Nat}
    (below : ∀ number ∈ drawn, number < numberLimit) (statements : List String)
    (accumulated : Accumulated registry earlier) (separate : Separate (earlier ++ statements))
    (among : draws ⊆ drawn) (returned : registry.allReturn draws statements = true) :
    EachRenamedIfRepeated drawn earlier statements (registry.claimAll draws statements) := by
  induction statements generalizing registry draws earlier with
  | nil => exact .nil earlier
  | cons statement rest inductionHypothesis =>
    obtain ⟨here, later⟩ := Bool.and_eq_true_iff.mp returned
    have outcome := claim_outcome here
    have next := accumulated.step (fun number listed => below number (among listed)) outcome
    apply EachRenamedIfRepeated.cons (outcome.renamedIfRepeated accumulated separate among)
    apply inductionHypothesis next _ (List.Subset.trans outcome.draws_subset among) later
    rwa [List.append_assoc, List.singleton_append]

/-- One of the statements is renamed exactly if one before it has its name. -/
theorem EachRenamedIfRepeated.at_split {front back : List String} {claims : List Claim}
    (each : EachRenamedIfRepeated draws earlier (front ++ statement :: back) claims) :
    ∃ claim, claims[front.length]? = some claim ∧
      RenamedIfRepeated draws (earlier ++ front) statement claim := by
  induction front generalizing earlier claims with
  | nil =>
    cases each with
    | cons first others => exact ⟨_, rfl, by rwa [List.append_nil]⟩
  | cons other front inductionHypothesis =>
    cases each with
    | cons first others =>
      obtain ⟨claim, listed, renamed⟩ := inductionHypothesis others
      refine ⟨claim, listed, ?_⟩
      rwa [List.append_assoc, List.singleton_append] at renamed

/-- There are as many renamings as there are names of statements beyond those that are new. -/
theorem EachRenamedIfRepeated.count {statements : List String} {claims : List Claim}
    (each : EachRenamedIfRepeated draws earlier statements claims) :
    (claims.filterMap (·.renamed)).length +
        ((namesOf statements).toFinset \ (namesOf earlier).toFinset).card =
      (namesOf statements).length := by
  induction each with
  | nil earlier => simp [namesOf]
  | @cons earlier rest statement claim claims first others inductionHypothesis =>
    rw [namesOf_append] at inductionHypothesis
    rw [namesOf_cons]
    cases located : locate? statement.toList with
    | none =>
      have nameless := namesOf_unnamed located
      have kept := (first.kept (by simp [nameless])).2
      rw [nameless, List.append_nil] at inductionHypothesis
      rw [nameless, List.filterMap_cons_none kept, List.nil_append]
      exact inductionHypothesis
    | some found =>
      have named := namesOf_named located
      rw [named] at inductionHypothesis ⊢
      rw [List.singleton_append, card_new_cons, List.length_cons]
      by_cases repeated : Text.lowercased (String.ofList found.name) ∈ namesOf earlier
      · obtain ⟨number, _, replaced, _⟩ := first.replaced found located repeated
        have counted : ((claim :: claims).filterMap (·.renamed)).length =
            (claims.filterMap (·.renamed)).length + 1 := by
          simp [replaced]
        rw [counted, if_pos repeated]
        omega
      · have kept := (first.kept (by simpa [named] using repeated)).2
        have counted : ((claim :: claims).filterMap (·.renamed)).length =
            (claims.filterMap (·.renamed)).length := by
          simp [kept]
        rw [counted, if_neg repeated]
        omega

end IndexRegistry

namespace Installer

open IndexRegistry (numberLimit Separate claimAll allReturn RenamedIfRepeated)

/-- From the start of a run, claims of separate statements that all end give each statement as it
is if it is the first with its name, and the others with their name replaced by itself with a
number. The renamings are therefore as many as the statements with a name less the different
names, and so are those that the report on an installation lists.

Proof: what is in use comes from the statements before, each name of which is in use, or replaces
one of their names and is none of a statement. -/
theorem renamed_only_if_repeated (draws : List Nat) (statements : List String)
    (below : ∀ number ∈ draws, number < numberLimit) (separate : Separate statements)
    (returned : allReturn {} draws statements = true) :
    (∀ earlier statement later, statements = earlier ++ statement :: later →
        ∃ claim, (claimAll {} draws statements)[earlier.length]? = some claim ∧
          RenamedIfRepeated draws earlier statement claim) ∧
      ((claimAll {} draws statements).filterMap (·.renamed)).length +
          (namesOf statements).toFinset.card = (namesOf statements).length ∧
      ∀ {σ : Type} (installer : Installer) (engine : Engine σ) (batch : String) (state : σ)
        (plan : Plan) (report : InstallReport),
        Plan.ofBatch installer.translate batch = .ok plan → plan.indexes = statements →
          (installer.install engine draws batch state).1 = .ok report →
            report.renamed.length + (namesOf statements).toFinset.card =
              (namesOf statements).length := by
  have each := IndexRegistry.eachRenamedIfRepeated_claimAll below statements
    IndexRegistry.accumulated_nil separate (List.Subset.refl draws) returned
  have count := each.count
  have nothing : (namesOf []).toFinset = ∅ := rfl
  rw [nothing, Finset.sdiff_empty] at count
  refine ⟨?_, count, ?_⟩
  · rintro earlier statement later rfl
    exact each.at_split
  · intro σ installer engine batch state plan report planned indexes installed
    have accounts := (install_accounts planned installed).renamed
    have listed := IndexRegistry.renamed_claimAll {} draws plan.indexes
    have same := congrArg List.length (accounts.trans listed.symm)
    rw [List.length_map, List.length_map, indexes] at same
    rwa [same]

/-- Indexes with a name twice, in another case and another way of quoting the second time, with
a statement without a name and one with another name between them. -/
def namesakes : List String :=
  ["CREATE INDEX k ON t(a)", "CREATE TABLE u(a)", "CREATE INDEX m ON u(a)",
    "CREATE INDEX [K] ON u(a)"]

/-- Only the last of these is renamed, with the first number drawn. -/
theorem namesakes_renamed_once :
    (claimAll {} [5, 7] namesakes).map (·.renamed) = [none, none, none, some ("K", "K_5")] ∧
      ((claimAll {} [5, 7] namesakes).filterMap (·.renamed)).length +
        (namesOf namesakes).toFinset.card = (namesOf namesakes).length := by
  have below : ∀ number ∈ [5, 7], number < numberLimit := by decide
  have separate : Separate namesakes := by
    apply IndexRegistry.separate_of_no_lowLine
    decide +kernel
  have counted := (renamed_only_if_repeated [5, 7] namesakes below separate
    (by decide +kernel)).2.1
  exact ⟨by decide +kernel, counted⟩

end Installer

end DialectBridge.Schema
