import DialectBridge.Proofs.Diagnostic.Suggesting
import DialectBridge.Proofs.Diagnostic.TextForm
import DialectBridge.Proofs.Emulation.Calling
import DialectBridge.Proofs.Emulation.Provenance

/-!
# Faults that come back through the engine

The engine is given the text form of the report on a fault, and hands it back as the message
of its own failure. What a fault says is fixed, but for what it repeats of what the call was
given. So the report is found again exactly if what is repeated has nothing that the reading
of text forms looks for: the mark of an unknown function, and where the report has no hint,
the opening of one.
-/

namespace DialectBridge.Emulation

open Diagnostic (Code Report unknownFunctionMark sought lead isBusyCode isCannotOpenCode)
open Diagnostic.Report (hintOpening Shows)
open Text (NoneBegins NoneEnds)

/-- What the wording of a problem repeats between quotes. -/
def ArgumentProblem.repeated : ArgumentProblem → String
  | notTimestamp text => text
  | shiftOutOfRange date _ => date
  | positionNotInteger | timestampOutOfRange _ | notEvaluable => ""

namespace Fault

/-- What the message of a fault repeats: a text that the call was given, or the reason why a
pattern or a fragment cannot be read, with the blank in front of it. -/
def repeated (reason : String) : Fault → String
  | unsupported name _ => name
  | arity .. => ""
  | malformedInterval text => text
  | invalidDate _ value => value
  | invalidPattern | unreadableFragment => " " ++ reason
  | invalidArgument _ problem => problem.repeated

/-- The report on a fault, with the reason that a pattern or a fragment cannot be read as its
reader words it. -/
def explained (reason : String) (fault : Fault) : Report :=
  match fault with
  | invalidPattern | unreadableFragment =>
    { fault.report with message := fault.report.message ++ " " ++ reason }
  | _ => fault.report

end Fault

/-! ## Wordings -/

/-- A text without a colon has nothing that is sought. -/
theorem not_infix_of_plain {text stretch : List Char} (listed : stretch ∈ sought)
    (plain : ':' ∉ text) : ¬stretch <:+: text := by
  have colon : ∀ stretch ∈ sought, ':' ∈ stretch := by decide
  exact fun occurs => plain (occurs.subset (colon stretch listed))

/-- Digits have no colon. -/
theorem colon_not_mem_digits (n : Nat) : ':' ∉ Nat.toDigits 10 n := by
  intro member
  have digit : ':'.isDigit = true := Nat.isDigit_of_mem_toDigits (by decide) (by decide) member
  simp at digit

/-- A number with a sign has no colon. -/
theorem colon_not_mem_integer (n : Int) : ':' ∉ n.repr.toList := by
  cases n <;> simp [Int.repr, Nat.repr, colon_not_mem_digits]

/-- The wording of a problem has what is sought where it repeats a text. -/
theorem ArgumentProblem.infix_message_iff (problem : ArgumentProblem) :
    ∀ stretch ∈ sought, (stretch <:+: ' ' :: problem.message.toList ↔
      stretch <:+: problem.repeated.toList) := by
  intro stretch listed
  have nowhere {text : List Char} (plain : ':' ∉ text) :
      stretch <:+: text ↔ stretch <:+: ([] : List Char) :=
    iff_of_false (not_infix_of_plain listed plain) (not_infix_of_plain listed (by simp))
  have begins : ∀ stretch ∈ sought, NoneBegins stretch [' ', '\''] := by decide
  cases problem with
  | positionNotInteger => exact nowhere (by decide)
  | notEvaluable => exact nowhere (by decide)
  | timestampOutOfRange timestamp =>
    have plain := colon_not_mem_integer timestamp
    exact nowhere (by simp [message, plain])
  | notTimestamp text =>
    have ends : ∀ stretch ∈ sought, NoneEnds stretch "' is not a unix timestamp".toList := by
      decide
    have cut : ' ' :: (notTimestamp text).message.toList =
        [' ', '\''] ++ (text.toList ++ "' is not a unix timestamp".toList) := by
      simp [message]
    rw [cut, (begins _ listed).infix_iff, (ends _ listed).infix_iff]
    rfl
  | shiftOutOfRange date unit =>
    have ends : ∀ stretch ∈ sought,
        NoneEnds stretch ("' shifted by " ++ unit.name ++ " is out of range").toList := by
      cases unit <;> decide +kernel
    have cut : ' ' :: (shiftOutOfRange date unit).message.toList = [' ', '\''] ++
        (date.toList ++ ("' shifted by " ++ unit.name ++ " is out of range").toList) := by
      simp [message]
    rw [cut, (begins _ listed).infix_iff, (ends _ listed).infix_iff]
    rfl

/-- The wording of accepted numbers has no colon. -/
theorem Arity.colon_not_mem_text (arity : Arity) : ':' ∉ arity.text.toList := by
  cases arity <;> simp [text, Nat.repr, colon_not_mem_digits]

/-! ## Suggestions -/

/-- The hint of a report on a name that is not in the table suggests a name that is, or none. -/
theorem hint_unsupportedFunction (name : String) :
    ∃ hint, (hint = Report.noEmulationHint ∨
        ∃ entry ∈ table, hint = Report.suggestionHint entry.1) ∧
      Report.unsupportedFunction name names =
        { code := .unsupportedFunction
          message := Report.unsupportedMessage name
          context := some (.unsupportedFunction name (Report.sortedNames names))
          hint := some hint } := by
  rcases Report.hint_unsupportedFunction_cases name names with
    ⟨found, best, suggested⟩ | ⟨-, suggested⟩
  · obtain ⟨entry, member, rfl⟩ := List.mem_map.mp best.listed
    refine ⟨Report.suggestionHint entry.1, .inr ⟨entry, member, rfl⟩, ?_⟩
    rw [← suggested]
    rfl
  · refine ⟨Report.noEmulationHint, .inl rfl, ?_⟩
    rw [← suggested]
    rfl

/-! ## What reports show -/

/-- No name in the table has a colon. -/
theorem table_plain : ∀ entry ∈ table, ':' ∉ entry.1.toList ∧ ':' ∉ entry.2.name.toList := by
  decide

/-- Nothing that is sought has a quote or a closing parenthesis. -/
theorem sought_plain : ∀ stretch ∈ sought, '\'' ∉ stretch ∧ ')' ∉ stretch := by
  decide

/-- The mark of an unknown function is sought. -/
theorem mark_sought : unknownFunctionMark ∈ sought := by simp [sought]

/-- A hint opening is sought. -/
theorem opening_sought : hintOpening.toList ∈ sought := by simp [sought]

/-- Nothing that is sought begins in a wording up to the name of a function, and none behind
it if none does in what is there. -/
theorem noneBegins_named (code : Code) {wording back stretch : List Char}
    (plain : ':' ∉ wording) {entry : String × Function} (listed : entry ∈ table)
    (searched : stretch ∈ sought) (free : NoneBegins stretch back) :
    NoneBegins stretch (lead code ++ (wording ++ entry.2.name.toList ++ '(' :: ')' :: back)) := by
  have named := (table_plain entry listed).2
  have coded := (Diagnostic.Code.text_plain code).2
  have nowhere : ¬stretch <:+: lead code ++ (wording ++ entry.2.name.toList ++ ['(']) :=
    not_infix_of_plain searched (by simp [lead, coded, plain, named])
  have whole := free.append_cons (sought_plain stretch searched).2 nowhere
  simpa using whole

namespace Fault

/-- What a suggestion is put behind has nothing that is sought with the suggestion, either. -/
theorem not_infix_suggestion {front stretch : List Char} (searched : stretch ∈ sought)
    (nowhere : ¬stretch <:+: front ++ "Did you mean ".toList) {entry : String × Function}
    (listed : entry ∈ table) :
    ¬stretch <:+: front ++ ((Report.suggestionHint entry.1).toList ++ [')']) := by
  have plain : ':' ∉ entry.1.toList ++ ['\'', '?', ')'] := by simp [(table_plain entry listed).1]
  have cut : front ++ ((Report.suggestionHint entry.1).toList ++ [')']) =
      front ++ "Did you mean ".toList ++ '\'' :: (entry.1.toList ++ ['\'', '?', ')']) := by
    simp [Report.suggestionHint]
  rw [cut, Text.infix_append_cons (sought_plain stretch searched).1]
  exact fun occurs => occurs.elim nowhere (not_infix_of_plain searched plain)

/-- The report on a name that is not in the table shows the name. -/
theorem unsupported_shows (name : String) :
    Shows (Report.unsupportedFunction name names) name.toList := by
  obtain ⟨hint, suggestion, written⟩ := hint_unsupportedFunction name
  have cut : (Report.unsupportedMessage name).toList =
      "Unsupported function '".toList ++ name.toList ++ "'".toList := by
    unfold Report.unsupportedMessage
    simp only [String.toList_append]
  have begins : NoneBegins unknownFunctionMark
      (lead .unsupportedFunction ++ "Unsupported function '".toList) := by
    decide
  have unmarked : ¬unknownFunctionMark <:+: hintOpening.toList ++ (hint.toList ++ [')']) := by
    rcases suggestion with rfl | ⟨entry, listed, rfl⟩
    · decide +kernel
    · exact not_infix_suggestion mark_sought (by decide) listed
  have last : ¬hintOpening.toList <:+: hintOpening.toList.tail ++ (hint.toList ++ [')']) := by
    rcases suggestion with rfl | ⟨entry, listed, rfl⟩
    · decide +kernel
    · exact not_infix_suggestion opening_sought (by decide) listed
  rw [written]
  exact .of_hint cut begins (.cons (by decide) unmarked) last

/-- The report on a number of arguments repeats nothing. -/
theorem arity_shows {entry : String × Function} (listed : entry ∈ table) (expected : Arity)
    (actual : Nat) : Shows (arity entry.2.name expected actual).report [] := by
  have empty : ∀ stretch ∈ sought, NoneBegins stretch [] := by decide
  have cut : (arityMessage entry.2.name expected actual).toList =
      ([] ++ entry.2.name.toList ++ ['(', ')']) ++
        (" expects " ++ expected.text ++ " argument(s), got " ++ toString actual).toList := by
    simp [arityMessage]
  refine .of_message cut
    (fun stretch searched =>
      noneBegins_named _ (by simp) listed searched (empty stretch searched))
    fun stretch searched => ?_
  have plain : ':' ∉ (" expects " ++ expected.text ++ " argument(s), got " ++
      toString actual).toList := by
    simp [expected.colon_not_mem_text, Nat.repr, colon_not_mem_digits]
  exact iff_of_false (not_infix_of_plain searched plain) (not_infix_of_plain searched (by simp))

/-- The report on an interval shows its text. -/
theorem malformedInterval_shows (text : String) :
    Shows (malformedInterval text).report text.toList := by
  have cut : (malformedInterval text).message.toList =
      "Malformed interval expression '".toList ++ text.toList ++ "'".toList := by
    change ("Malformed interval expression '" ++ text ++ "'").toList = _
    simp only [String.toList_append]
  exact .of_hint cut (by decide +kernel) (by decide +kernel) (by decide +kernel)

/-- The report on a date shows its text. -/
theorem invalidDate_shows {entry : String × Function} (listed : entry ∈ table) (value : String) :
    Shows (invalidDate entry.2.name value).report value.toList := by
  have named := (table_plain entry listed).2
  have cut : (invalidDate entry.2.name value).message.toList =
      "Invalid date value '".toList ++ value.toList ++
        '\'' :: (" passed to ".toList ++ entry.2.name.toList ++ ['('] ++ [')']) := by
    change ("Invalid date value '" ++ value ++ "' passed to " ++ entry.2.name ++ "()").toList = _
    simp
  refine .of_hint cut (by decide +kernel) (.cons (by decide) ?_) (by decide +kernel)
  -- The hint is behind the parenthesis, and there is no colon between the quote and that.
  change ¬unknownFunctionMark <:+: _ ++ [')'] ++ _
  rw [List.append_assoc, List.singleton_append, Text.infix_append_cons (by decide)]
  have plain : ':' ∉ " passed to ".toList ++ entry.2.name.toList ++ ['('] := by simp [named]
  exact fun occurs => occurs.elim (not_infix_of_plain mark_sought plain) (by decide +kernel)

/-- The report on a pattern shows the reason why it cannot be read. -/
theorem invalidPattern_shows (reason : String) :
    Shows (invalidPattern.explained reason) (" " ++ reason).toList := by
  have cut : (invalidPattern.explained reason).message.toList =
      ("Invalid regular expression" ++ ":").toList ++ (" " ++ reason).toList := by
    change ("Invalid regular expression" ++ ":" ++ " " ++ reason).toList = _
    simp only [String.toList_append, List.append_assoc]
  exact .of_message cut (by decide) fun _ _ => Iff.rfl

/-- The report on an argument shows what its problem repeats. -/
theorem invalidArgument_shows {entry : String × Function} (listed : entry ∈ table)
    (problem : ArgumentProblem) :
    Shows (invalidArgument entry.2.name problem).report problem.repeated.toList := by
  have colon : ∀ stretch ∈ sought, NoneBegins stretch [':'] := by decide
  have cut : (invalidArgument entry.2.name problem).message.toList =
      ("Invalid argument for ".toList ++ entry.2.name.toList ++ ['(', ')', ':']) ++
        ' ' :: problem.message.toList := by
    change ("Invalid argument for " ++ entry.2.name ++ "(): " ++ problem.message).toList = _
    simp
  exact .of_message cut
    (fun stretch searched =>
      noneBegins_named _ (by decide) listed searched (colon stretch searched))
    problem.infix_message_iff

/-- The report on a fault of a call shows what the fault repeats. -/
theorem explained_shows {env : Environment} {name : String} {arguments : List Value}
    (fault : Fault) (failed : evaluate env name arguments = .error fault) (reason : String) :
    Shows (fault.explained reason) (fault.repeated reason).toList := by
  rcases fault_of_evaluate failed with rfl | ⟨entry, listed, own⟩
  · exact unsupported_shows name
  · cases fault with
    | unsupported => exact own.elim
    | arity function expected actual =>
      obtain rfl := own
      exact arity_shows listed expected actual
    | malformedInterval text => exact malformedInterval_shows text
    | invalidDate function value =>
      obtain rfl := own
      exact invalidDate_shows listed value
    | invalidPattern => exact invalidPattern_shows reason
    | invalidArgument function problem =>
      obtain rfl := own
      exact invalidArgument_shows listed problem
    | unreadableFragment => exact own.elim

end Fault

/-! ## The trip through the engine -/

/-- The report on a fault of a call is found again in what the engine makes of its text form
exactly if what the fault repeats has no mark of an unknown function and, where the report
has no hint, opens none. The reasons that readers of patterns and fragments give are any
texts, and the engine fails in any way but contention and not being able to open. -/
theorem returned_fault_agrees_iff {env : Environment} {name : String} {arguments : List Value}
    {fault : Fault} (failed : evaluate env name arguments = .error fault) (reason : String)
    {code : Int} (waits : isBusyCode code = false) (opens : isCannotOpenCode code = false) :
    (Report.ofFailure (.failed code (some (fault.explained reason).text))).Agrees
        (fault.explained reason) ↔
      ¬unknownFunctionMark <:+: (fault.repeated reason).toList ∧
        ((fault.explained reason).hint = none →
          ¬hintOpening.toList <:+: (fault.repeated reason).toList) := by
  rw [Diagnostic.ofFailure_failed waits opens]
  exact (fault.explained_shows failed reason).agrees_iff

/-- A timestamp that opens a hint is cut there, since the report on it has no hint. -/
example : (Report.ofFailure (.failed 1 (some (Fault.invalidArgument "from_unixtime"
      (.notTimestamp "1 (Hint: 2)")).report.text))).message =
    "Invalid argument for from_unixtime(): '1" := by
  decide +kernel

/-- The fault of an interval whose text opens a hint. -/
def hintedInterval : Fault := .malformedInterval "1 day (Hint: 2)"

/-- An interval that opens a hint comes back as it is, since the report on it has a hint. -/
theorem hinted_interval_returned :
    evaluate epoch "ADDDATE" [.text "2024-01-01", .text "1 day (Hint: 2)"] =
        .error hintedInterval ∧
      (Report.ofFailure (.failed 1 (some (hintedInterval.explained "").text))).Agrees
        (hintedInterval.explained "") := by
  have failed : evaluate epoch "ADDDATE" [.text "2024-01-01", .text "1 day (Hint: 2)"] =
      .error hintedInterval := by
    have without : (evaluate epoch "ADDDATE" [.text "2024-01-01", .text "1 day (Hint: 2)"]).map
        (fun _ => ()) = .error hintedInterval := by
      decide +kernel
    exact Except.eq_error_of_map without
  refine ⟨failed, (returned_fault_agrees_iff failed "" (by decide) (by decide)).mpr ⟨?_, ?_⟩⟩
  · decide +kernel
  · intro hintless
    simp [hintedInterval, Fault.explained, Fault.report] at hintless

/-- The fault of an interval whose text has the mark of an unknown function. -/
def markedInterval : Fault := .malformedInterval "no such function: x"

/-- An interval with the mark of an unknown function comes back as an unknown function. -/
theorem marked_interval_not_returned :
    evaluate epoch "date_add" [.text "2024-01-01", .text "no such function: x"] =
        .error markedInterval ∧
      ¬(Report.ofFailure (.failed 1 (some (markedInterval.explained "").text))).Agrees
        (markedInterval.explained "") := by
  constructor
  · have without : (evaluate epoch "date_add" [.text "2024-01-01",
        .text "no such function: x"]).map (fun _ => ()) = .error markedInterval := by
      decide +kernel
    exact Except.eq_error_of_map without
  · intro agrees
    have other : (Report.ofFailure (.failed 1 (some (markedInterval.explained "").text))).code =
        .unsupportedFunction := by
      decide +kernel
    exact absurd (other.symm.trans agrees.code) (by decide)

end DialectBridge.Emulation
