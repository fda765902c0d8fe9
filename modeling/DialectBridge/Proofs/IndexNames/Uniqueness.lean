import DialectBridge.Proofs.IndexNames.Recognition
import DialectBridge.Proofs.Installation.Calls
import Mathlib.Data.List.Nodup

/-!
# Index names are not used twice

The names that can be read back from the statements of a run are different from each
other, whatever their case. A name that is in use is replaced, and the replacement is
not in use either: numbers are told apart in lower case as they are otherwise, so among
one more of them than there are names in use, one gives a new name. It is the
replacement that is read back from the statement with the other name, and it is put
into use, so a later statement that has that name from the start is renamed in turn.
-/

namespace DialectBridge.Text

/-- What begins with a low line has no case in front. -/
theorem meetsCased_append_lowLine (text rest : List Char) :
    meetsCased (text ++ '_' :: rest) = meetsCased text := by
  have plain : isCaseIgnorable '_' = false := by decide
  have caseless : isCased '_' = false := by decide
  unfold meetsCased
  rw [List.dropWhile_append]
  cases left : text.dropWhile isCaseIgnorable with
  | nil => simp [plain, caseless]
  | cons c more => simp

/-- Low lines and digits are their own lower case. -/
theorem lowerAfter_of_caseless (before : List Char) {text : List Char}
    (caseless : ∀ c ∈ text, c = '_' ∨ c.isDigit = true) : lowerAfter before text = text := by
  induction text generalizing before with
  | nil => rfl
  | cons c text inductionHypothesis =>
    have same : c.toNat ≠ 0x3A3 ∧ c.toNat ≠ 0x130 ∧ lowerChar c = c := by
      rcases caseless c (by simp) with rfl | digit
      · decide
      · have code := Text.isDigit_iff.mp digit
        have ascii : c.toNat < 0x80 := by omega
        refine ⟨by omega, by omega, ?_⟩
        rw [lowerChar, if_pos ascii, Text.toLower_of_not_capital (by omega)]
    have rest := inductionHypothesis (c :: before)
      fun d member => caseless d (List.mem_cons_of_mem _ member)
    simp [lowerAfter, same, rest]

/-- A low line with digits after it does not change how what stands before it is written in
lower case. -/
theorem lowerAfter_append (before text : List Char) {number : List Char}
    (caseless : ∀ c ∈ '_' :: number, c = '_' ∨ c.isDigit = true) :
    lowerAfter before (text ++ '_' :: number) = lowerAfter before text ++ '_' :: number := by
  induction text generalizing before with
  | nil => exact lowerAfter_of_caseless before caseless
  | cons c text inductionHypothesis =>
    simp only [List.cons_append, lowerAfter, meetsCased_append_lowLine, inductionHypothesis,
      List.append_assoc]

end DialectBridge.Text

namespace DialectBridge.Schema

/-- The name of an index that is read back from a statement, if one is. -/
def IndexName.readBack? (statement : String) : Option String :=
  (locate? statement.toList).map fun found => String.ofList found.name

/-- The names that are read back from statements, in lower case. -/
def IndexName.namesOf (statements : List String) : List String :=
  statements.filterMap fun statement => (readBack? statement).map Text.lowercased

/-- The names of statements are those of the first ones and those of the others. -/
theorem IndexName.namesOf_append (first second : List String) :
    namesOf (first ++ second) = namesOf first ++ namesOf second :=
  List.filterMap_append

/-- The names of statements are those of the first and those of the others. -/
theorem IndexName.namesOf_cons (statement : String) (rest : List String) :
    namesOf (statement :: rest) = namesOf [statement] ++ namesOf rest :=
  namesOf_append [statement] rest

namespace IndexRegistry

open IndexName (locate? locate?_lengthened numberSuffix mem_numberSuffix readBack? namesOf
  namesOf_cons)

/-! ## Free numbers -/

/-- A name with a number appended, as a list of characters. -/
theorem toList_numbered (name : String) (number : Nat) :
    (numbered name number).toList = name.toList ++ numberSuffix number := by
  simp [numbered, numberSuffix]

/-- A number keeps its form in lower case. -/
theorem lowercased_numbered (name : String) (number : Nat) :
    Text.lowercased (numbered name number) =
      String.ofList (Text.lower name.toList ++ numberSuffix number) := by
  unfold Text.lowercased Text.lower
  rw [toList_numbered]
  congr 1
  exact Text.lowerAfter_append [] name.toList fun c member => mem_numberSuffix member

/-- Different numbers make different names, also in lower case. -/
theorem lowercased_numbered_injective (name : String) :
    Function.Injective fun number => Text.lowercased (numbered name number) := by
  intro first second same
  simp only [lowercased_numbered, String.ofList_inj, List.append_cancel_left_eq, numberSuffix,
    List.cons.injEq, true_and] at same
  have digits : Nat.toDigits 10 first = Nat.toDigits 10 second := by simpa using same
  have value := congrArg (fun written => Nat.ofDigitChars 10 written 0) digits
  simpa [Nat.ofDigitChars_toDigits] using value

/-- Among one more number than there are names in use, one makes a name free. -/
theorem exists_free (registry : IndexRegistry) (name : String) :
    ∃ number ∈ List.range (registry.used.length + 1), registry.isFree name number = true := by
  by_contra none
  have taken : (List.range (registry.used.length + 1)).map
      (fun number => Text.lowercased (numbered name number)) ⊆ registry.used := by
    intro lowered member
    obtain ⟨number, listed, rfl⟩ := List.mem_map.mp member
    have inUse : registry.isFree name number = false := by
      cases free : registry.isFree name number with
      | false => rfl
      | true => exact absurd ⟨number, listed, free⟩ none
    simpa [isFree, contains] using inUse
  have numbers : (List.range (registry.used.length + 1)).Nodup := List.nodup_range
  have different := numbers.map (lowercased_numbered_injective name)
  have bounded := different.length_le_of_subset taken
  simp only [List.length_map, List.length_range] at bounded
  omega

/-- The number that is chosen makes a name free, whatever numbers are drawn. -/
theorem isFree_freeNumber (registry : IndexRegistry) (name : String) (draws : List Nat) :
    registry.isFree name (registry.freeNumber name draws) = true := by
  obtain ⟨number, listed, free⟩ := registry.exists_free name
  unfold freeNumber
  cases chosen : (draws ++ List.range (registry.used.length + 1)).find?
      (registry.isFree name) with
  | none =>
    have noneFree := List.find?_eq_none.mp chosen number (List.mem_append_right _ listed)
    exact absurd free noneFree
  | some number => exact List.find?_some chosen

/-! ## Claims -/

/-- The name with a number is what is read back from the statement that has it. -/
theorem readBack?_renamed {statement : List Char} {found : IndexName}
    (located : locate? statement = some found) (number : Nat) :
    readBack? (found.renamed (numbered (String.ofList found.name) number).toList) =
      some (numbered (String.ofList found.name) number) := by
  obtain ⟨_, reread⟩ := locate?_lengthened number located
  have longer : (numbered (String.ofList found.name) number).toList =
      found.name ++ numberSuffix number := by
    rw [toList_numbered, String.toList_ofList]
  simp only [readBack?, IndexName.renamed, String.toList_ofList, longer, reread, Option.map_some]
  rw [← longer, String.ofList_toList]

/-- A statement in which no name is found is claimed as it is. -/
theorem claim_of_unnamed (registry : IndexRegistry) {statement : String} (draws : List Nat)
    (unnamed : locate? statement.toList = none) :
    registry.claim statement draws = ⟨statement, none, registry, draws⟩ := by
  simp only [claim, unnamed]

/-- A statement with a name that is not in use is claimed as it is, and its name is in use. -/
theorem claim_of_unused (registry : IndexRegistry) {statement : String} (draws : List Nat)
    {found : IndexName} (located : locate? statement.toList = some found)
    (unused : registry.contains (String.ofList found.name) = false) :
    registry.claim statement draws =
      ⟨statement, none, registry.insert (String.ofList found.name), draws⟩ := by
  simp only [claim, located, unused, Bool.false_eq_true, if_false]

/-- A statement with a name in use is claimed with that name and the first number that makes
it free, and no number drawn up to that one is left. -/
theorem claim_of_inUse (registry : IndexRegistry) {statement : String} (draws : List Nat)
    {found : IndexName} (located : locate? statement.toList = some found)
    (inUse : registry.contains (String.ofList found.name) = true) :
    registry.claim statement draws =
      ⟨found.renamed (numbered (String.ofList found.name)
          (registry.freeNumber (String.ofList found.name) draws)).toList,
        some (String.ofList found.name, numbered (String.ofList found.name)
          (registry.freeNumber (String.ofList found.name) draws)),
        registry.insert (numbered (String.ofList found.name)
          (registry.freeNumber (String.ofList found.name) draws)),
        (draws.dropWhile (!registry.isFree (String.ofList found.name) ·)).drop 1⟩ := by
  simp only [claim, located, inUse, if_true]

/-- Where a name is read back from the statement of a claim, it was free, and it is the
name that the claim puts into use. A statement without a name changes nothing. -/
theorem claim_readBack (registry : IndexRegistry) (statement : String) (draws : List Nat) :
    match readBack? (registry.claim statement draws).statement with
    | none => (registry.claim statement draws).registry = registry
    | some name => registry.contains name = false ∧
        (registry.claim statement draws).registry = registry.insert name := by
  cases located : locate? statement.toList with
  | none => simp [registry.claim_of_unnamed draws located, readBack?, located]
  | some found =>
    cases taken : registry.contains (String.ofList found.name) with
    | false => simp [registry.claim_of_unused draws located taken, readBack?, located, taken]
    | true =>
      have free := registry.isFree_freeNumber (String.ofList found.name) draws
      simp only [registry.claim_of_inUse draws located taken, readBack?_renamed located]
      exact ⟨by simpa [isFree] using free, trivial⟩

/-- The names in use after a claim are those in use before it and the one that is read
back from its statement, which was not in use. -/
theorem claim_used (registry : IndexRegistry) (statement : String) (draws : List Nat) :
    (registry.claim statement draws).registry.used =
        namesOf [(registry.claim statement draws).statement] ++ registry.used ∧
      ∀ name ∈ namesOf [(registry.claim statement draws).statement], name ∉ registry.used := by
  have back := registry.claim_readBack statement draws
  cases read : readBack? (registry.claim statement draws).statement with
  | none =>
    rw [read] at back
    simp [namesOf, read, back]
  | some name =>
    rw [read] at back
    obtain ⟨free, inserted⟩ := back
    have free : Text.lowercased name ∉ registry.used := by simpa [contains] using free
    simp [namesOf, read, inserted, insert, free]

/-- A statement has one name at most. -/
theorem nodup_namesOf_singleton (statement : String) : (namesOf [statement]).Nodup := by
  unfold namesOf
  cases read : readBack? statement with
  | none => simp [read]
  | some name => simp [read]

/-- The names that are read back from the statements of claims are different from each
other and from those in use before. Induct on the statements: what the first claim puts
into use is in use for the others. -/
theorem nodup_claimAll (registry : IndexRegistry) (draws : List Nat) (statements : List String) :
    (namesOf ((registry.claimAll draws statements).map (·.statement))).Nodup ∧
      ∀ name ∈ namesOf ((registry.claimAll draws statements).map (·.statement)),
        name ∉ registry.used := by
  induction statements generalizing registry draws with
  | nil => simp [claimAll, namesOf]
  | cons statement rest inductionHypothesis =>
    obtain ⟨used, free⟩ := registry.claim_used statement draws
    obtain ⟨different, unused⟩ := inductionHypothesis
      (registry.claim statement draws).registry (registry.claim statement draws).draws
    rw [claimAll, List.map_cons, namesOf_cons]
    refine ⟨?_, ?_⟩
    · refine List.nodup_append.mpr ⟨nodup_namesOf_singleton _, different, ?_⟩
      rintro first claimed _ later rfl
      exact unused first later (used ▸ List.mem_append_left _ claimed)
    · intro name member
      rcases List.mem_append.mp member with claimed | later
      · exact free name claimed
      · exact fun old => unused name later (used ▸ List.mem_append_right _ old)

/-- After a step, the names in use are those that can be read back from the statements so
far, and those in use from the start. -/
theorem mem_used_claimAll (registry : IndexRegistry) (draws : List Nat)
    (statements : List String) {earlier later : List Claim} {claim : Claim}
    (step : registry.claimAll draws statements = earlier ++ claim :: later) (name : String) :
    name ∈ claim.registry.used ↔
      name ∈ namesOf ((earlier ++ [claim]).map (·.statement)) ∨ name ∈ registry.used := by
  induction statements generalizing registry draws earlier with
  | nil => simp [claimAll] at step
  | cons statement rest inductionHypothesis =>
    obtain ⟨used, _⟩ := registry.claim_used statement draws
    simp only [claimAll] at step
    cases earlier with
    | nil =>
      obtain ⟨rfl, rfl⟩ := List.cons.inj step
      simp [used]
    | cons first earlier =>
      rw [List.cons_append, List.cons.injEq] at step
      obtain ⟨same, others⟩ := step
      have before := inductionHypothesis _ _ others
      rw [used] at before
      rw [before, List.cons_append, List.map_cons, ← same,
        namesOf_cons _ ((earlier ++ [claim]).map (·.statement))]
      simp only [List.mem_append, or_assoc, or_left_comm]

end IndexRegistry

/-! ## Installations -/

variable {σ : Type}

/-- The statements that were executed in calls, in order. -/
def statementsExecuted (calls : List Call) : List String :=
  calls.filterMap fun call =>
    match call.request with
    | .execute statement => some statement
    | _ => none

/-- The statements of calls are those of the first ones and those of the others. -/
@[simp] theorem statementsExecuted_append (first second : List Call) :
    statementsExecuted (first ++ second) =
      statementsExecuted first ++ statementsExecuted second :=
  List.filterMap_append

/-- Attempts to begin or to commit execute nothing. -/
theorem Attempts.statementsExecuted_eq {request : Request} {limit : Nat} {calls : List Call}
    (attempts : Attempts request limit calls)
    (boundary : ∀ statement, request ≠ .execute statement) :
    statementsExecuted calls = [] := by
  refine List.filterMap_eq_nil_iff.mpr fun call member => ?_
  rw [attempts.requested call member]
  cases request with
  | execute statement => exact absurd rfl (boundary statement)
  | _ => rfl

/-- Executions that all succeed execute all statements. -/
theorem Executions.statementsExecuted_eq {statements : List String} {calls : List Call}
    (executions : Executions statements calls) (succeeded : calls.all Call.succeeded = true) :
    statementsExecuted calls = statements := by
  have whole := executions.complete (List.all_eq_true.mp succeeded)
  have requests : statementsExecuted calls = (calls.map (·.request)).filterMap fun request =>
      match request with
      | .execute statement => some statement
      | _ => none := by
    rw [List.filterMap_map]
    rfl
  rw [requests, executions.ordered, whole, List.take_length, List.filterMap_map]
  exact List.filterMap_some

/-- A complete phase executes its statements, each once and in order. -/
theorem PhaseCalls.statementsExecuted_eq {limit : Nat} {statements : List String}
    (made : PhaseCalls limit statements) (complete : made.isComplete = true) :
    statementsExecuted made.calls = statements := by
  have executions := made.executed
  have commits := made.committed
  have rollbacks := made.rolledBack
  unfold isComplete at complete
  have opened : endInSuccess made.begins = true ∧ made.executions.all Call.succeeded = true := by
    by_contra stopped
    rw [if_neg (by simpa using stopped)] at commits
    simp [commits, endInSuccess] at complete
  simp only [opened, complete, Bool.and_self, Bool.not_true, Bool.and_false, if_true,
    Bool.false_eq_true, if_false] at executions commits rollbacks
  have noBegin := made.begun.statementsExecuted_eq (by simp)
  have noCommit := commits.statementsExecuted_eq (by simp)
  simp [calls, noBegin, noCommit, rollbacks, executions.statementsExecuted_eq opened.2]

/-- A complete run executes the statements of both phases. -/
theorem RunCalls.statementsExecuted_eq {limit : Nat} {tables indexes : List String}
    (made : RunCalls limit tables indexes) (complete : made.isComplete = true) :
    statementsExecuted made.calls = tables ++ indexes := by
  have ofPhase {statements : List String} (phase : Option (PhaseCalls limit statements))
      (present : phase.isSome = !statements.isEmpty)
      (complete : phase.all PhaseCalls.isComplete = true) :
      statementsExecuted (PhaseCalls.callsIfAny phase) = statements := by
    cases phase with
    | none =>
      obtain rfl : statements = [] := by simpa using present
      rfl
    | some phase => exact phase.statementsExecuted_eq complete
  obtain ⟨tabled, indexed⟩ := Bool.and_eq_true_iff.mp complete
  have present := made.indexPhase_present
  simp only [tabled, Bool.true_and] at present
  unfold calls
  rw [statementsExecuted_append, ofPhase _ made.tablePhase_present tabled,
    ofPhase _ present indexed]

/-- A translator keeps tables apart when what it gives as a table does not create an index. -/
def Translator.KeepsTablesApart (translate : Translator) : Prop :=
  ∀ statement table indexes, translate statement = .ok (.table table indexes) →
    IndexName.isIndexStatement table = false

/-- No name is read back from a statement that creates no index. -/
theorem IndexName.namesOf_of_not_isIndexStatement {statement : String}
    (noIndex : isIndexStatement statement = false) : namesOf [statement] = [] := by
  have absent : locate? statement.toList = none := by simpa [isIndexStatement] using noIndex
  simp [namesOf, readBack?, absent]

namespace Plan

open IndexName (namesOf namesOf_append namesOf_of_not_isIndexStatement)

variable {translate : Translator} {plan : Plan}

/-- No name is read back from the table of a translation, if that is kept apart. -/
theorem namesOf_ofTranslation_tables (apart : translate.KeepsTablesApart) {statement : String}
    {translation : Translation} (translated : translate statement = .ok translation) :
    namesOf (ofTranslation translation).tables = [] := by
  cases translation with
  | table table indexes =>
    exact namesOf_of_not_isIndexStatement (apart statement table indexes translated)
  | single text =>
    cases index : IndexName.isIndexStatement text with
    | true => simp [ofTranslation, index, namesOf]
    | false => simpa [ofTranslation, index] using namesOf_of_not_isIndexStatement index

/-- No name is read back from the tables of statements, if they are kept apart. -/
theorem namesOf_ofStatements_tables (apart : translate.KeepsTablesApart)
    (statements : List String) (planned : ofStatements translate statements = .ok plan) :
    namesOf plan.tables = [] := by
  induction statements generalizing plan with
  | nil =>
    obtain rfl : {} = plan := by simpa [ofStatements] using planned
    rfl
  | cons statement rest inductionHypothesis =>
    obtain ⟨translation, later, translated, others, rfl⟩ :=
      ofStatements_cons_eq_ok_iff.mp planned
    rw [append, namesOf_append, namesOf_ofTranslation_tables apart translated,
      inductionHypothesis others, List.append_nil]

/-- No name is read back from the tables of a batch, if they are kept apart. -/
theorem namesOf_ofBatch_tables (apart : translate.KeepsTablesApart) {batch : String}
    (planned : ofBatch translate batch = .ok plan) : namesOf plan.tables = [] := by
  unfold ofBatch at planned
  split at planned
  · simp at planned
  · exact namesOf_ofStatements_tables apart _ planned

end Plan

namespace Installer

open IndexName (namesOf)

/-- An installation that succeeds executes the tables of its plan as they are, and after
them the indexes with the names that they claim. -/
theorem statementsExecuted_of_installed (installer : Installer) (engine : Engine σ)
    (draws : List Nat) (batch : String) (state : σ) {report : InstallReport}
    (installed : (installer.install engine draws batch state).1 = .ok report) :
    ∃ plan, Plan.ofBatch installer.translate batch = .ok plan ∧
      statementsExecuted (installer.callsOf engine draws batch state) =
        plan.tables ++ plan.claimedIndexes draws := by
  cases planning : Plan.ofBatch installer.translate batch with
  | error fault =>
    obtain ⟨_, failed⟩ := installer.callsOf_of_unplanned engine draws batch state planning
    simp [installed] at failed
  | ok plan =>
    obtain ⟨made, calls, ended, _⟩ :=
      installer.callsOf_of_planned engine draws batch state planning
    rw [installed] at ended
    exact ⟨plan, rfl, by rw [calls, made.statementsExecuted_eq ended]⟩

/-- The names that are read back from the statements of claims are different in every case,
and after every claim the names in use are exactly those so far. The indexes that an
installation executes after the tables therefore have different names, and so have all
its statements if its translator keeps tables apart. -/
theorem index_names_distinct (installer : Installer) (engine : Engine σ) (draws : List Nat)
    (statements : List String) (batch : String) (state : σ) :
    (namesOf ((IndexRegistry.claimAll {} draws statements).map (·.statement))).Nodup ∧
      (∀ earlier claim later,
        IndexRegistry.claimAll {} draws statements = earlier ++ claim :: later →
          ∀ name, claim.registry.contains name = true ↔
            Text.lowercased name ∈ namesOf ((earlier ++ [claim]).map (·.statement))) ∧
      ∀ report, (installer.install engine draws batch state).1 = .ok report →
        ∃ plan, Plan.ofBatch installer.translate batch = .ok plan ∧
          statementsExecuted (installer.callsOf engine draws batch state) =
            plan.tables ++ plan.claimedIndexes draws ∧
          (namesOf (plan.claimedIndexes draws)).Nodup ∧
          (installer.translate.KeepsTablesApart →
            (namesOf (statementsExecuted (installer.callsOf engine draws batch state))).Nodup) := by
  refine ⟨(IndexRegistry.nodup_claimAll {} draws statements).1, ?_, ?_⟩
  · intro earlier claim later step name
    have member := IndexRegistry.mem_used_claimAll {} draws statements step
      (Text.lowercased name)
    simpa [IndexRegistry.contains] using member
  · intro report installed
    obtain ⟨plan, planned, same⟩ :=
      installer.statementsExecuted_of_installed engine draws batch state installed
    have different : (namesOf (plan.claimedIndexes draws)).Nodup :=
      (IndexRegistry.nodup_claimAll {} draws plan.indexes).1
    refine ⟨plan, planned, same, different, ?_⟩
    intro apart
    rw [same, IndexName.namesOf_append, Plan.namesOf_ofBatch_tables apart planned]
    exact different

/-- An engine that grants every request. -/
def agreeable : Engine Unit := fun _ state => (.ok (), state)

/-- A translator that gives an index as a table, with another index of that name. -/
def misfiling : Translator := fun _ =>
  .ok (.table "CREATE INDEX k ON t(x)" ["CREATE INDEX k ON t(y)"])

/-- Where an index is given as a table, it takes no name: another index is executed after it
under its name. -/
theorem misfiled_index_takes_no_name :
    (install ⟨misfiling, 1⟩ agreeable [] "X" ()).1.isOk = true ∧
      ¬(namesOf (statementsExecuted (callsOf ⟨misfiling, 1⟩ agreeable [] "X" ()))).Nodup := by
  decide +kernel

end Installer

end DialectBridge.Schema
