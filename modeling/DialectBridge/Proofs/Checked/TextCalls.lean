import DialectBridge.Proofs.Checked.Positions

/-!
# Checked functions of texts, numbers and choices

The text functions count characters, search by octets and compare candidates; an address that is
read is a number of 32 bits, and one that is written must be one. A choice reads the condition
and then one of the two other arguments by its position.
-/

namespace DialectBridge.Checked

variable {call : Call} {value : Value}

/-! ## Texts -/

/-- A function of the text of the first argument that maps null to null. -/
def onText (f : String → Run Value) (call : Call) : Run Value := do
  match ← call.text 0 with
  | none => return .null
  | some text => f text

/-- The number of characters. -/
def charLength : Call → Run Value := onText fun text => integer text.toList.length

/-- The digest of a text or of the octets of a blob. -/
def digest (call : Call) : Run Value := do
  match ← call.argument 0 with
  | .null => return .null
  | .blob octets => return .text (Digest.hexDigest octets)
  | message => do
    let text ← asText message
    return .text (Digest.hexDigest (Text.Utf8.encode (text.getD "")))

/-- The texts of values up to the first that is null; none if there is one. -/
def texts : List Value → Run (Option (List String))
  | [] => return some []
  | value :: others => do
    match ← asText value with
    | none => return none
    | some text =>
      match ← texts others with
      | none => return none
      | some further => return some (text :: further)

/-- The texts of all arguments, one after the other; null if any is null. -/
def concat (call : Call) : Run Value := do
  match ← texts call.arguments with
  | none => return .null
  | some listed => return .text (String.join listed)

/-- The position of a stretch in a text, from a start that must be a whole number. -/
def locateAt (function : String) (stretch text : String) (start : Value) : Run Value := do
  match ← asWhole start with
  | none => throw (.fault (.invalidArgument function .positionNotInteger))
  | some start => do
    let found ← locateFrom stretch.toList text.toList start
    return .ofInt found

/-- The position of a text in another, from a start that is counted from zero. -/
def locate (call : Call) : Run Value := do
  let stretch ← call.text 0
  let text ← call.text 1
  match stretch, text with
  | some stretch, some text =>
    match (call.arguments[2]? : Option Value) with
    | none => do
      let found ← locateFrom stretch.toList text.toList 0
      return .ofInt found
    | some .null => return .null
    | some start => locateAt call.name stretch text start
  | _, _ => return .null

/-- Whether a text matches a pattern, which is read only if there is a text. -/
def regexp (call : Call) : Run Value := do
  match ← call.text 0 with
  | none => return .integer 0
  | some text =>
    match ← call.text 1 with
    | none => return .integer 0
    | some pattern =>
      match Pattern.read pattern.toList with
      | none => throw (.fault .invalidPattern)
      | some pattern => return .integer (if pattern.isMatch text.toList then 1 else 0)

/-- A function of a text runs without a breach where it does for the text. -/
theorem onText_eq (there : call.argument 0 = .ok value) {f : String → Run Value}
    {result : String → Value}
    (each : ∀ text, value.asText? = some text → f text = .ok (result text)) :
    onText f call = .ok (Emulation.onText result value) := by
  unfold onText Emulation.onText
  rw [Call.text_eq there, ok_bind]
  cases written : value.asText? with
  | none => rfl
  | some text => exact each text written

/-- Characters are counted without a breach. -/
theorem charLength_eq (there : call.argument 0 = .ok value) (inMemory : InMemory value) :
    charLength call = .ok (Emulation.charLength value) := by
  apply onText_eq there
  intro text written
  have fits := fitsMemory_of_asText? inMemory written
  have short := length_le_width text.toList
  unfold FitsMemory at fits
  exact integer_eq ⟨Int.le_trans (by decide) (Int.natCast_nonneg _), by omega⟩

/-- A digest is computed without a breach. -/
theorem digest_eq (there : call.argument 0 = .ok value) :
    digest call = .ok (Emulation.digestOf value) := by
  unfold digest
  rw [there, ok_bind]
  cases value with
  | null => rfl
  | blob octets => rfl
  | _ =>
    dsimp only
    rw [asText_eq]
    rfl

/-- The texts of values are found without a breach. -/
theorem texts_eq (values : List Value) : texts values = .ok (values.mapM Value.asText?) := by
  induction values with
  | nil => rfl
  | cons value others inductionHypothesis =>
    unfold texts
    rw [asText_eq, ok_bind, List.mapM_cons]
    cases value.asText? with
    | none => rfl
    | some text =>
      dsimp only
      rw [inductionHypothesis, ok_bind]
      cases others.mapM Value.asText? <;> rfl

/-- Texts are put together without a breach. -/
theorem concat_eq (call : Call) : concat call = .ok (Emulation.concatenate call.arguments) := by
  unfold concat Emulation.concatenate
  rw [texts_eq, ok_bind]
  cases call.arguments.mapM Value.asText? <;> rfl

/-- A text in memory is searched without a breach, from a start that is a whole number or none. -/
theorem locateAt_eq {text : String} (fits : FitsMemory text.toList) (function stretch : String)
    (start : Value) : locateAt function stretch text start =
      unbreached (match start.toInt? with
        | none => .error (.invalidArgument function .positionNotInteger)
        | some start =>
          .ok (.ofInt (Emulation.locateFrom stretch.toList text.toList start.toNat))) := by
  unfold locateAt
  rw [asWhole_eq, ok_bind]
  cases read : start.toInt? with
  | none => rfl
  | some number =>
    dsimp only
    rw [locateFrom_eq fits _ (toInt?_fits read).2]
    rfl

/-- A text is located without a breach, with a start or without one. -/
theorem locate_eq {text : Value} (first : call.argument 0 = .ok value)
    (second : call.argument 1 = .ok text) (inMemory : InMemory text) :
    locate call = unbreached (Emulation.locate call.name value text call.arguments[2]?) := by
  unfold locate Emulation.locate
  rw [Call.text_eq first, ok_bind, Call.text_eq second, ok_bind]
  cases value.asText? with
  | none => rfl
  | some stretch =>
    cases written : text.asText? with
    | none => rfl
    | some text =>
      have fits := fitsMemory_of_asText? inMemory written
      dsimp only
      cases call.arguments[2]? with
      | none =>
        dsimp only
        rw [locateFrom_eq fits _ (by decide)]
        rfl
      | some start =>
        cases start with
        | null => rfl
        | _ => exact locateAt_eq fits call.name stretch _

/-- A text is matched without a breach. -/
theorem regexp_eq {pattern : Value} (first : call.argument 0 = .ok value)
    (second : call.argument 1 = .ok pattern) :
    regexp call = unbreached (Emulation.matchesPattern value pattern) := by
  unfold regexp Emulation.matchesPattern
  rw [Call.text_eq first, ok_bind]
  cases value.asText? with
  | none => rfl
  | some text =>
    dsimp only
    rw [Call.text_eq second, ok_bind]
    cases pattern.asText? with
    | none => rfl
    | some pattern =>
      dsimp only
      cases Pattern.read pattern.toList <;> rfl

/-! ## Addresses -/

/-- The written address of a number; null for what is no address. -/
def inetNtoa (call : Call) : Run Value := do
  let address ← call.argument 0
  match ← asWhole address with
  | none => return .null
  | some n => if 0 ≤ n ∧ n < 0x100000000 then return .text (Address.write n.toNat) else return .null

/-- The number of a written address; zero for what is no address. -/
def inetAton : Call → Run Value :=
  onText fun text => integer ((Address.read (Text.trim text.toList)).getD 0)

/-- An address is written without a breach. -/
theorem inetNtoa_eq (there : call.argument 0 = .ok value) :
    inetNtoa call = .ok (Emulation.writeAddress value) := by
  unfold inetNtoa Emulation.writeAddress
  rw [there, ok_bind, asWhole_eq, ok_bind]
  cases value.toInt? with
  | none => rfl
  | some n =>
    dsimp only
    split <;> rfl

/-- A part of an address that is read is one octet. -/
theorem lt_of_readOctet {part : List Char} {octet : Nat}
    (read : Address.readOctet part = some octet) : octet < 256 := by
  unfold Address.readOctet at read
  split at read
  · simp at read
  · simpa using (Option.filter_eq_some_iff.mp read).2

/-- An address that is read is a number of 32 bits. -/
theorem lt_of_readAddress {text : List Char} {address : Nat}
    (read : Address.read text = some address) : address < 0x100000000 := by
  unfold Address.read at read
  split at read
  · split at read
    · next first second third fourth =>
      obtain rfl := Option.some.inj read
      have highest := lt_of_readOctet first
      have high := lt_of_readOctet second
      have low := lt_of_readOctet third
      have lowest := lt_of_readOctet fourth
      omega
    · simp at read
  · simp at read

/-- An address is read without a breach. -/
theorem inetAton_eq (there : call.argument 0 = .ok value) :
    inetAton call = .ok (Emulation.readAddress value) := by
  apply onText_eq there
  intro text _
  apply integer_eq
  cases read : Address.read (Text.trim text.toList) with
  | none => decide
  | some address =>
    have bounded := lt_of_readAddress read
    unfold Decimal.minInt64 Decimal.maxInt64
    rw [Option.getD_some]
    omega

/-! ## Choices -/

/-- One if the argument is null, else zero. -/
def isNull (call : Call) : Run Value := do
  match ← call.argument 0 with
  | .null => return .integer 1
  | _ => return .integer 0

/-- The argument behind the condition, or the one behind that if the condition counts as false. -/
def choose (call : Call) : Run Value := do
  let condition ← call.argument 0
  call.argument (if condition.isFalsy then 2 else 1)

/-- A value is asked for without a breach. -/
theorem isNull_eq (there : call.argument 0 = .ok value) :
    isNull call = .ok (Emulation.isNull value) := by
  unfold isNull Emulation.isNull
  rw [there, ok_bind]
  cases value <;> rfl

/-- A value is chosen without a breach. -/
theorem choose_eq {yes no : Value} (first : call.argument 0 = .ok value)
    (second : call.argument 1 = .ok yes) (third : call.argument 2 = .ok no) :
    choose call = .ok (Emulation.choose value yes no) := by
  unfold choose Emulation.choose
  rw [first, ok_bind]
  by_cases falsy : value.isFalsy = true
  · rw [if_pos falsy, if_pos falsy, third]
  · rw [if_neg falsy, if_neg falsy, second]

end DialectBridge.Checked
