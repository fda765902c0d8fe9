import DialectBridge.Diagnostic.Decoding
import DialectBridge.Proofs.Decimal.WholeNumbers
import DialectBridge.Proofs.Diagnostic.TextForm

/-!
# The spellings of a code

A code is written with the four digits of its number behind the stem. What is behind the stem is
read as a number of sixteen bits, and a number may have a plus sign and any number of zeros in
front of it. So a code has more spellings than the written form: all of these are read as the
code, in a JSON document and at the start of a message of the engine too, and no other text is.
-/

namespace DialectBridge.Diagnostic

namespace Code

/-- A spelling of a code: behind the stem a plus sign or none, and so many zeros in front of the
digits of the number. -/
def spelling (code : Code) (plus : Bool) (zeros : Nat) : String :=
  String.ofList (stem ++ ((if plus then ['+'] else []) ++
    (List.replicate zeros '0' ++ Nat.toDigits 10 code.number)))

variable {code : Code} {number : Nat}

/-- The written form is the spelling without a sign and without zeros in front. -/
theorem text_eq_spelling (code : Code) : code.text = code.spelling false 0 := by
  cases code <;> rfl

/-- A code has four digits. -/
theorem length_digits (code : Code) : (Nat.toDigits 10 code.number).length = 4 := by
  cases code <;> rfl

/-- The characters of a spelling besides those of the stem and of the number are counted. -/
theorem length_spelling (code : Code) (plus : Bool) (zeros : Nat) :
    (code.spelling plus zeros).length = stem.length + ((if plus then 1 else 0) + (zeros + 4)) := by
  rw [spelling, String.length_ofList, List.length_append, List.length_append, List.length_append,
    List.length_replicate, length_digits]
  cases plus <;> rfl

/-- The spellings other than the written form are those with a sign or with zeros in front. -/
theorem spelling_eq_text_iff (code : Code) (plus : Bool) (zeros : Nat) :
    code.spelling plus zeros = code.text ↔ plus = false ∧ zeros = 0 := by
  rw [text_eq_spelling]
  constructor
  · intro same
    have lengths := congrArg String.length same
    rw [length_spelling, length_spelling] at lengths
    cases plus with
    | false =>
      constructor
      · rfl
      · simpa using lengths
    | true =>
      simp only [if_true, Bool.false_eq_true, if_false] at lengths
      omega
  · rintro ⟨rfl, rfl⟩
    rfl

/-- A number is that of a code exactly if the code has it. -/
theorem ofNumber_eq_ok_iff : ofNumber number = .ok code ↔ number = code.number := by
  constructor
  · intro found
    unfold ofNumber at found
    split at found
    · next other listed =>
      obtain rfl : other = code := Except.ok.inj found
      have equal := List.find?_some listed
      exact (beq_iff_eq.mp equal).symm
    · exact absurd found nofun
  · rintro rfl
    cases code <;> rfl

/-- The number of a code has sixteen bits. -/
theorem number_lt (code : Code) : code.number < 0x10000 := by
  cases code <;> decide

/-- A plus sign is no digit. -/
theorem readNatural_plus (digits : List Char) : Decimal.readNatural ('+' :: digits) = none := by
  cases read : Decimal.readNatural ('+' :: digits) with
  | none => rfl
  | some number =>
    have digital := (Decimal.readNatural_eq_some_iff.mp read).2.1
    exact absurd (digital '+' List.mem_cons_self) (by decide)

/-- A number is read from its digits with any number of zeros in front and behind a plus sign or
none, and from no other text, if it has sixteen bits. -/
theorem readNumber_eq_some_iff {digits : List Char} :
    readNumber digits = some number ↔ number < 0x10000 ∧ ∃ (plus : Bool) (zeros : Nat),
      digits = (if plus then ['+'] else []) ++
        (List.replicate zeros '0' ++ Nat.toDigits 10 number) := by
  have limited (read : Option Nat) : read.filter (· < 0x10000) = some number ↔
      number < 0x10000 ∧ read = some number := by
    rw [Option.filter_eq_some_iff, decide_eq_true_eq, and_comm]
  constructor
  · intro read
    unfold readNumber at read
    split at read
    · next rest =>
      obtain ⟨small, signless⟩ := (limited _).mp read
      obtain ⟨zeros, rfl⟩ := Decimal.readNatural_eq_some_iff_zeros.mp signless
      exact ⟨small, true, zeros, rfl⟩
    · obtain ⟨small, signless⟩ := (limited _).mp read
      obtain ⟨zeros, rfl⟩ := Decimal.readNatural_eq_some_iff_zeros.mp signless
      exact ⟨small, false, zeros, rfl⟩
  · rintro ⟨small, plus, zeros, rfl⟩
    have signless : Decimal.readNatural (List.replicate zeros '0' ++ Nat.toDigits 10 number) =
        some number := Decimal.readNatural_eq_some_iff_zeros.mpr ⟨zeros, rfl⟩
    cases plus with
    | true => exact (limited _).mpr ⟨small, signless⟩
    | false =>
      unfold readNumber
      split
      · next rest signed =>
        have digits : List.replicate zeros '0' ++ Nat.toDigits 10 number = '+' :: rest := signed
        rw [digits, readNatural_plus] at signless
        exact absurd signless nofun
      · exact (limited _).mpr ⟨small, signless⟩

/-- A text is read as a code exactly if it is a spelling of the code. -/
theorem ofText_eq_ok_iff {text : String} :
    ofText text = .ok code ↔ ∃ plus zeros, text = code.spelling plus zeros := by
  constructor
  · intro read
    unfold ofText at read
    split at read
    · next begins =>
      obtain ⟨behind, whole⟩ := List.isPrefixOf_iff_prefix.mp begins
      rw [← whole, List.drop_left] at read
      split at read
      · exact absurd read nofun
      · next number numbered =>
        obtain ⟨-, plus, zeros, rfl⟩ := readNumber_eq_some_iff.mp numbered
        split at read
        · next other known =>
          obtain rfl : other = code := Except.ok.inj read
          rw [ofNumber_eq_ok_iff.mp known] at whole
          refine ⟨plus, zeros, ?_⟩
          rw [spelling, whole, String.ofList_toList]
        · exact absurd read nofun
    · exact absurd read nofun
  · rintro ⟨plus, zeros, rfl⟩
    have begins : stem.isPrefixOf (code.spelling plus zeros).toList = true := by
      rw [List.isPrefixOf_iff_prefix, spelling, String.toList_ofList]
      exact List.prefix_append _ _
    have numbered : readNumber ((code.spelling plus zeros).toList.drop stem.length) =
        some code.number := by
      rw [spelling, String.toList_ofList, List.drop_left]
      exact readNumber_eq_some_iff.mpr ⟨number_lt code, plus, zeros, rfl⟩
    have known : ofNumber code.number = .ok code := ofNumber_eq_ok_iff.mpr rfl
    simp only [ofText, begins, if_true, numbered, known]

/-- There is no closing bracket in a spelling. -/
theorem bracket_not_mem_spelling (code : Code) (plus : Bool) (zeros : Nat) :
    ']' ∉ (code.spelling plus zeros).toList := by
  have inStem : ']' ∉ stem := by decide
  have inSign : ']' ∉ if plus then ['+'] else [] := by cases plus <;> decide
  have inZeros : ']' ∉ List.replicate zeros '0' := fun member =>
    absurd (List.eq_of_mem_replicate member) (by decide)
  have inDigits : ']' ∉ Nat.toDigits 10 code.number := fun member =>
    absurd (Decimal.digital_toDigits code.number ']' member) (by decide)
  rw [spelling, String.toList_ofList]
  simp only [List.mem_append, not_or]
  exact ⟨inStem, inSign, inZeros, inDigits⟩

end Code

/-- A value of a JSON document is decoded as a code exactly if it is a text that is a spelling of
the code. -/
theorem Report.decodeCode_eq_some_iff {value : Json} {code : Code} :
    Report.decodeCode value = some code ↔
      ∃ plus zeros, value = .text (code.spelling plus zeros) := by
  constructor
  · intro decoded
    obtain ⟨text, isText, read⟩ := Option.bind_eq_some_iff.mp decoded
    cases value with
    | text written =>
      obtain rfl : written = text := Option.some.inj isText
      cases outcome : Code.ofText written with
      | error problem =>
        rw [outcome] at read
        exact absurd read nofun
      | ok other =>
        rw [outcome] at read
        obtain rfl : other = code := Option.some.inj read
        obtain ⟨plus, zeros, spelled⟩ := Code.ofText_eq_ok_iff.mp outcome
        exact ⟨plus, zeros, congrArg Json.text spelled⟩
    | _ => exact absurd isText nofun
  · rintro ⟨plus, zeros, rfl⟩
    have read : Code.ofText (code.spelling plus zeros) = .ok code :=
      Code.ofText_eq_ok_iff.mpr ⟨plus, zeros, rfl⟩
    rw [Report.decodeCode, Json.text?, Option.bind_eq_bind, Option.bind_some, read]

/-- A message of the engine is taken for the text form of a report with a code exactly if it begins
with a spelling of the code in brackets and a blank. -/
theorem exists_ofReportText?_iff {message : List Char} {code : Code} :
    (∃ report, ofReportText? message = some report ∧ report.code = code) ↔
      ∃ plus zeros, '[' :: ((code.spelling plus zeros).toList ++ [']', ' ']) <+: message := by
  constructor
  · rintro ⟨report, taken, rfl⟩
    unfold ofReportText? at taken
    split at taken
    · next rest =>
      split at taken
      · exact absurd taken nofun
      · next written body cut =>
        split at taken
        · exact absurd taken nofun
        · next other read =>
          obtain rfl := Option.some.inj taken
          obtain ⟨plus, zeros, spelled⟩ := Code.ofText_eq_ok_iff.mp read
          have whole := Text.eq_append_of_cutAtFirst cut
          rw [← String.toList_ofList (l := written), spelled] at whole
          refine ⟨plus, zeros, body, ?_⟩
          rw [whole, List.cons_append, List.append_assoc]
    · exact absurd taken nofun
  · rintro ⟨plus, zeros, body, rfl⟩
    have read : Code.ofText (code.spelling plus zeros) = .ok code :=
      Code.ofText_eq_ok_iff.mpr ⟨plus, zeros, rfl⟩
    have taken := ofReportText?_of_code read (Code.bracket_not_mem_spelling code plus zeros) body
    rw [List.cons_append, List.append_assoc]
    exact ⟨_, taken, rfl⟩

/-- A code is read from its spellings, and from nothing else, whether it is read by itself, in a
JSON document or at the start of a message of the engine. One of them is the written form; the
others have a plus sign or zeros in front of the number. -/
theorem codes_read_iff_spelled (code : Code) :
    Code.ofText code.text = .ok code ∧
      (∀ text, Code.ofText text = .ok code ↔ ∃ plus zeros, text = code.spelling plus zeros) ∧
      (∀ value, Report.decodeCode value = some code ↔
        ∃ plus zeros, value = .text (code.spelling plus zeros)) ∧
      (∀ message, (∃ report, ofReportText? message = some report ∧ report.code = code) ↔
        ∃ plus zeros, '[' :: ((code.spelling plus zeros).toList ++ [']', ' ']) <+: message) ∧
      ∀ plus zeros, code.spelling plus zeros = code.text ↔ plus = false ∧ zeros = 0 := by
  constructor
  · exact Code.ofText_text code
  constructor
  · intro text
    exact Code.ofText_eq_ok_iff
  constructor
  · intro value
    exact Report.decodeCode_eq_some_iff
  constructor
  · intro message
    exact exists_ofReportText?_iff
  · intro plus zeros
    exact Code.spelling_eq_text_iff code plus zeros

/-- A number with a plus sign in front and one with a zero in front are read as a code, and
neither text is the written form of the code: not by itself, not in a JSON document and not at
the start of a message of the engine. -/
theorem signed_and_padded_codes_read :
    (Code.ofText "MYLITE-+1001" = .ok .unsupportedFunction ∧
      "MYLITE-+1001" ≠ Code.unsupportedFunction.text) ∧
    (Code.ofText "MYLITE-01001" = .ok .unsupportedFunction ∧
      "MYLITE-01001" ≠ Code.unsupportedFunction.text) ∧
    Report.decodeCode (.text "MYLITE-+1001") = some .unsupportedFunction ∧
    (ofDiagnostic "[MYLITE-01001] gone").code = .unsupportedFunction := by
  decide +kernel

end DialectBridge.Diagnostic
