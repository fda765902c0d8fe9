import DialectBridge.Proofs.Occurrences

/-!
# What the text form carries

The text form of a report shows its code, its message and its hint, and nothing in it is
escaped. It is taken apart at what separates these parts, wherever that is in the text, and
what the engine writes about a function that it does not know is looked for first. So a
report is found again exactly if its parts do not have what the reading looks for.
-/

namespace DialectBridge.Diagnostic

namespace Code

/-- A written code is read. -/
theorem ofText_text (code : Code) : ofText code.text = .ok code := by
  cases code <;> decide +kernel

/-- A written code has nothing that a code in brackets ends with, and no colon. -/
theorem text_plain (code : Code) : ']' ∉ code.text.toList ∧ ':' ∉ code.text.toList := by
  cases code <;> decide +kernel

end Code

namespace Report

/-- Two reports have the same code, the same message and the same hint. -/
structure Agrees (found expected : Report) : Prop where
  code : found.code = expected.code
  message : found.message = expected.message
  hint : found.hint = expected.hint

/-- Reports that agree have the same text form. -/
theorem Agrees.text_eq {found expected : Report} (agrees : found.Agrees expected) :
    found.text = expected.text := by
  unfold text
  rw [agrees.code, agrees.message, agrees.hint]

/-- The last hint opening of a report is that in front of its hint, or there is none. -/
def OpensLast (report : Report) : Prop :=
  match report.hint with
  | none => ¬hintOpening.toList <:+: report.message.toList
  | some hint => ¬hintOpening.toList <:+: hintOpening.toList.tail ++ (hint.toList ++ [')'])

/-- The message of a report and the hint behind it, as the text form shows them. -/
def body (report : Report) : List Char :=
  report.message.toList ++
    match report.hint with
    | none => []
    | some hint => hintOpening.toList ++ (hint.toList ++ [')'])

/-- The text form is a code in brackets with the body behind it. -/
theorem toList_text (report : Report) :
    report.text.toList = '[' :: (report.code.text.toList ++ (']' :: [' '] ++ report.body)) := by
  unfold text body
  cases report.hint <;> simp

end Report

open Report (hintOpening)

/-- There are characters in a hint opening. -/
theorem hintOpening_nonempty : hintOpening.toList ≠ [] := by decide

/-- A text is left as it is exactly if it opens no hint. -/
theorem splitHint_eq_none_iff {text : List Char} :
    splitHint text = (text, none) ↔ ¬hintOpening.toList <:+: text := by
  rw [← cutAtLast_eq_none_iff hintOpening_nonempty, splitHint]
  cases cut : cutAtLast hintOpening.toList text with
  | none => simp
  | some parts =>
    obtain ⟨before, after⟩ := parts
    -- An opening that is found leaves less in front of it than the whole text.
    have shorter : before ≠ text := by
      intro same
      have whole := ((cutAtLast_eq_some_iff hintOpening_nonempty).mp cut).1
      rw [same] at whole
      exact hintOpening_nonempty (List.append_eq_nil_iff.mp (List.self_eq_append_right.mp whole)).1
    dsimp only
    split <;> simp [shorter]

/-- A text has a hint exactly if that is behind the last hint opening and is closed. -/
theorem splitHint_eq_some_iff {text message hint : List Char} :
    splitHint text = (message, some hint) ↔
      cutAtLast hintOpening.toList text = some (message, hint ++ [')']) := by
  rw [splitHint]
  cases cut : cutAtLast hintOpening.toList text with
  | none => simp
  | some parts =>
    obtain ⟨before, after⟩ := parts
    dsimp only
    split
    · next closed =>
      obtain ⟨inner, rfl⟩ := List.getLast?_eq_some_iff.mp closed
      simp
    · next noClosing =>
      have other : after ≠ hint ++ [')'] := by
        rintro rfl
        simp at noClosing
      simp [other]

/-- A body is taken apart into the message and the hint exactly if no other hint is opened
behind the message. -/
theorem splitHint_body_iff (report : Report) :
    splitHint report.body = (report.message.toList, report.hint.map String.toList) ↔
      report.OpensLast := by
  obtain ⟨code, message, context, hint, traceId⟩ := report
  cases hint with
  | none =>
    simp only [Report.body, Report.OpensLast, List.append_nil, Option.map_none]
    exact splitHint_eq_none_iff
  | some hint =>
    simp only [Report.body, Report.OpensLast, Option.map_some, splitHint_eq_some_iff,
      cutAtLast_eq_some_iff hintOpening_nonempty, true_and]

/-! ## Reading the text form -/

/-- A colon is in no name. -/
theorem colon_not_mem_takeWhile (text : List Char) :
    ':' ∉ text.takeWhile fun c => Text.isAlphanumeric c || c == '_' := by
  intro member
  have kept := List.all_eq_true.mp List.all_takeWhile _ member
  have dropped : (Text.isAlphanumeric ':' || ':' == '_') = false := by decide +kernel
  exact Bool.false_ne_true (dropped.symm.trans kept)

/-- A report on an unknown function has no colon in its text. -/
theorem text_unknownFunction_plain (name : List Char) :
    ':' ∉ (unknownFunction name).text.toList := by
  have plain := colon_not_mem_takeWhile name
  have code := (Code.text_plain .unsupportedFunction).2
  rw [Report.toList_text]
  unfold unknownFunction Report.unsupportedMessage
  generalize (name.takeWhile fun c => Text.isAlphanumeric c || c == '_') = kept at plain ⊢
  simp [Report.body, code, plain]

/-- Behind what is read as a code, in brackets, everything is taken for the body of a report. -/
theorem ofReportText?_of_code {written : String} {code : Code}
    (read : Code.ofText written = .ok code) (plain : ']' ∉ written.toList) (body : List Char) :
    ofReportText? ('[' :: (written.toList ++ (']' :: [' '] ++ body))) = some
      { code
        message := String.ofList (splitHint body).1
        hint := (splitHint body).2.map String.ofList } := by
  have cut := Text.cutAtFirst_append plain [' '] body
  rw [ofReportText?, cut]
  simp only [String.ofList_toList, read]

/-- The text form is taken apart into the code and what its body is taken apart into. -/
theorem ofReportText?_text (report : Report) :
    ofReportText? report.text.toList = some
      { code := report.code
        message := String.ofList (splitHint report.body).1
        hint := (splitHint report.body).2.map String.ofList } := by
  rw [report.toList_text]
  exact ofReportText?_of_code (Code.ofText_text report.code) (Code.text_plain report.code).1
    report.body

/-- A report is found again in its text form exactly if the text has no mark of an unknown
function and no other hint is opened behind the message. -/
theorem ofDiagnostic_text_agrees_iff (report : Report) :
    (ofDiagnostic report.text).Agrees report ↔
      ¬unknownFunctionMark <:+: report.text.toList ∧ report.OpensLast := by
  cases marked : Text.cutAtFirst unknownFunctionMark report.text.toList with
  | some parts =>
    obtain ⟨before, name⟩ := parts
    have occurs : unknownFunctionMark <:+: report.text.toList := by
      by_contra absent
      simp [Text.cutAtFirst_eq_none_iff.mpr absent] at marked
    have other : ¬(unknownFunction name).Agrees report := by
      intro agrees
      refine text_unknownFunction_plain name ?_
      rw [agrees.text_eq]
      exact occurs.subset (by decide)
    simp [ofDiagnostic, marked, occurs, other]
  | none =>
    have absent := Text.cutAtFirst_eq_none_iff.mp marked
    rw [ofDiagnostic, marked, ofReportText?_text, ← splitHint_body_iff]
    cases splitHint report.body with
    | mk message hint =>
      constructor
      · rintro ⟨-, given, givenHint⟩
        dsimp only [Option.getD_some] at given givenHint
        rw [← given, ← givenHint]
        exact ⟨absent, by cases hint <;> simp⟩
      · rintro ⟨-, split⟩
        obtain ⟨rfl, rfl⟩ := Prod.mk.inj split
        exact ⟨rfl, by simp, by simp⟩

/-- Behind a hint opening without its blank, another opening begins in front of a hint or is
in the hint.

The only piece of an opening that such a front ends with is the blank of its end, and the
parenthesis that closes the hint is in no opening. -/
theorem opening_behind_opening_iff (hint : List Char) :
    hintOpening.toList <:+: hintOpening.toList.tail ++ (hint ++ [')']) ↔
      hintOpening.toList.tail <+: hint ∨ hintOpening.toList <:+: hint := by
  have front : hintOpening.toList.tail = "(Hint:".toList ++ [' '] := by decide
  have whole : hintOpening.toList = ' ' :: hintOpening.toList.tail := by decide
  have noneEnds : Text.NoneEnds hintOpening.toList [')'] := by decide
  have noneBegins : Text.NoneBegins hintOpening.toList "(Hint:".toList := by decide
  calc hintOpening.toList <:+: hintOpening.toList.tail ++ (hint ++ [')'])
      ↔ hintOpening.toList <:+: hintOpening.toList.tail ++ hint := by
        rw [← List.append_assoc, noneEnds.infix_iff]
    _ ↔ hintOpening.toList <:+: ' ' :: hint := by
        rw [front, List.append_assoc, noneBegins.infix_iff, List.singleton_append]
    _ ↔ hintOpening.toList.tail <+: hint ∨ hintOpening.toList <:+: hint := by
        rw [List.infix_cons_iff]
        nth_rewrite 1 [whole]
        rw [List.cons_prefix_cons, eq_self_iff_true, true_and]

/-- A report is found again in its text form exactly if the text has no mark of an unknown
function, a message without a hint behind it opens none, and a hint neither opens another one
nor begins as an opening does behind its blank. -/
theorem text_form_carries_iff (report : Report) :
    (ofDiagnostic report.text).Agrees report ↔
      ¬"no such function: ".toList <:+: report.text.toList ∧
        match report.hint with
        | none => ¬" (Hint: ".toList <:+: report.message.toList
        | some hint =>
          ¬"(Hint: ".toList <+: hint.toList ∧ ¬" (Hint: ".toList <:+: hint.toList := by
  rw [ofDiagnostic_text_agrees_iff]
  refine and_congr_right fun _ => ?_
  unfold Report.OpensLast
  cases report.hint with
  | none => rfl
  | some hint =>
    simp only [opening_behind_opening_iff, not_or]
    rfl

/-- The message of a failure that is neither contention nor a database that cannot be opened
is taken for a text form. -/
theorem ofFailure_failed {code : Int} (waits : isBusyCode code = false)
    (opens : isCannotOpenCode code = false) (message : String) :
    Report.ofFailure (.failed code (some message)) = ofDiagnostic message := by
  simp [Report.ofFailure, waits, opens]

/-! ## Texts that are shown -/

/-- What the reading of a text form looks for. -/
def sought : List (List Char) := [unknownFunctionMark, hintOpening.toList]

/-- What a text form begins with. -/
def lead (code : Code) : List Char := '[' :: (code.text.toList ++ [']', ' '])

/-- The text form of a report is the lead of its code and its body. -/
theorem toList_text_eq_lead (report : Report) :
    report.text.toList = lead report.code ++ report.body := by
  rw [report.toList_text]
  simp [lead]

/-- What the reading finds in the text form of a report, it finds in a text that is shown in
it. -/
structure Report.Shows (report : Report) (shown : List Char) : Prop where
  marked : unknownFunctionMark <:+: report.text.toList ↔ unknownFunctionMark <:+: shown
  opensLast : report.OpensLast ↔ (report.hint = none → ¬hintOpening.toList <:+: shown)

namespace Report.Shows

variable {code : Code} {message : String} {context : Option Context} {traceId : Option String}
  {front shown back : List Char}

/-- A report is found again exactly if what it shows has no mark of an unknown function, and
opens no hint when the report has none. -/
theorem agrees_iff {report : Report} (shows : report.Shows shown) :
    (ofDiagnostic report.text).Agrees report ↔
      ¬unknownFunctionMark <:+: shown ∧ (report.hint = none → ¬hintOpening.toList <:+: shown) := by
  rw [ofDiagnostic_text_agrees_iff, shows.marked, shows.opensLast]

/-- A report without a hint shows what is found in its message behind a front that has none
of it. -/
theorem of_message (cut : message.toList = front ++ back)
    (begins : ∀ stretch ∈ sought, Text.NoneBegins stretch (lead code ++ front))
    (same : ∀ stretch ∈ sought, (stretch <:+: back ↔ stretch <:+: shown)) :
    Shows ⟨code, message, context, none, traceId⟩ shown where
  marked := by
    have mark : unknownFunctionMark ∈ sought := by simp [sought]
    rw [toList_text_eq_lead, Report.body, List.append_nil, cut, ← List.append_assoc,
      (begins _ mark).infix_iff, same _ mark]
  opensLast := by
    have opening : hintOpening.toList ∈ sought := by simp [sought]
    simp only [OpensLast, true_implies]
    rw [cut, (begins _ opening).of_append.infix_iff, same _ opening]

/-- A report with a hint shows a part of its message when nothing is found around it. -/
theorem of_hint {hint : String} (cut : message.toList = front ++ shown ++ back)
    (begins : Text.NoneBegins unknownFunctionMark (lead code ++ front))
    (ends : Text.NoneEnds unknownFunctionMark
      (back ++ (hintOpening.toList ++ (hint.toList ++ [')']))))
    (last : ¬hintOpening.toList <:+: hintOpening.toList.tail ++ (hint.toList ++ [')'])) :
    Shows ⟨code, message, context, some hint, traceId⟩ shown where
  marked := by
    have whole : (Report.text ⟨code, message, context, some hint, traceId⟩).toList =
        lead code ++ front ++
          (shown ++ (back ++ (hintOpening.toList ++ (hint.toList ++ [')'])))) := by
      simp only [toList_text_eq_lead, Report.body, cut, List.append_assoc]
    rw [whole, begins.infix_iff, ends.infix_iff]
  opensLast := by simpa [OpensLast] using last

end Report.Shows

end DialectBridge.Diagnostic
