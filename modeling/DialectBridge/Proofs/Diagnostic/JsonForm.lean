import DialectBridge.Diagnostic.Decoding
import DialectBridge.Proofs.Diagnostic.TextForm
import DialectBridge.Proofs.Json.RoundTrip

/-!
# Reports survive their JSON forms

The JSON form of a report shows the parts that are present, and a context shows its kind in a
member among its facts. Decoding finds each part under its own key and no part twice. So a report
whose facts are of a certain kind comes back from both written forms as it was.
-/

namespace DialectBridge.Diagnostic

open Json (Kept)

/-! ## Members -/

section Lookup

variable {members : List (String × Json)} {key other : String} {value : Json}

/-- Members with other keys are passed over. -/
theorem lookup_cons_of_ne (different : other ≠ key) :
    lookup ((other, value) :: members) key = lookup members key := by
  have skipped : (other == key) = false := beq_false_of_ne different
  simp only [lookup, List.filter_cons, skipped, Bool.false_eq_true, if_false]

/-- There is no other member with the key of a member that is found. -/
theorem lookup_cons_self (absent : lookup members key = some none) :
    lookup ((key, value) :: members) key = some (some value) := by
  have none : members.filter (fun member => member.1 == key) = [] := by
    unfold lookup at absent
    split at absent
    · assumption
    · exact absurd absent nofun
    · exact absurd absent nofun
  simp only [lookup, List.filter_cons, beq_self_eq_true, if_true, none]

/-- A member that is found is decoded. -/
theorem required_of_lookup {α : Type} (decode : Json → Option α)
    (found : lookup members key = some (some value)) :
    required members key decode = decode value := by
  rw [required, found]
  rfl

/-- A part that may be absent is passed over if its key is another one. -/
theorem lookup_optionalMember_of_ne (different : other ≠ key) (part : Option Json) :
    lookup (Report.optionalMember other part ++ members) key = lookup members key := by
  cases part with
  | none => rfl
  | some value => exact lookup_cons_of_ne different

/-- A part that may be absent is found as it is. -/
theorem lookup_optionalMember (part : Option Json) (absent : lookup members key = some none) :
    lookup (Report.optionalMember key part ++ members) key = some part := by
  cases part with
  | none => exact absent
  | some value => exact lookup_cons_self absent

end Lookup

/-! ## Facts -/

/-- Texts are decoded as they were. -/
theorem decodeTexts_texts (names : List String) :
    decodeTexts (.list (names.map .text)) = some names := by
  show (names.map Json.text).mapM Json.text? = some names
  induction names with
  | nil => rfl
  | cons name names inductionHypothesis =>
    rw [List.map_cons, List.mapM_cons, inductionHypothesis]
    rfl

/-- A text that may be absent is decoded as it was. -/
theorem decodeNullable_nullable (text : Option String) :
    decodeNullable (nullable text) = some text := by
  cases text <;> rfl

/-- A whole number below the limit is decoded as it was. -/
theorem decodeBelow_whole {limit number : Nat} (below : number < limit) :
    decodeBelow limit (.whole number) = some number := by
  have within : (0 : Int) ≤ number ∧ (number : Int) < limit := by omega
  rw [decodeBelow, if_pos within, Int.toNat_natCast]

/-- A count is decoded as it was. -/
theorem decodeCount_toNat (count : UInt64) : decodeCount (.whole count.toNat) = some count := by
  rw [decodeCount, decodeBelow_whole count.toNat_lt, Option.map_some, UInt64.ofNat_toNat]

/-- A number of attempts is decoded as it was. -/
theorem decodeAttempts_toNat (attempts : UInt32) :
    decodeAttempts (.whole attempts.toNat) = some attempts := by
  rw [decodeAttempts, decodeBelow_whole attempts.toNat_lt, Option.map_some, UInt32.ofNat_toNat]

/-- A phase is decoded from its name. -/
theorem decodePhase_name (phase : Phase) : decodePhase (.text phase.name) = some phase := by
  cases phase <;> rfl

section OptionalText

variable {members : List (String × Json)} {key : String} {text : Option String}

/-- A text that is shown as null where it is absent is decoded as it was. -/
theorem optionalText_of_nullable (found : lookup members key = some (some (nullable text))) :
    optionalText members key = some text := by
  rw [optionalText, found]
  exact decodeNullable_nullable text

/-- A text that is left out where it is absent is decoded as it was. -/
theorem optionalText_of_lookup (found : lookup members key = some (text.map .text)) :
    optionalText members key = some text := by
  rw [optionalText, found]
  cases text <;> rfl

end OptionalText

/-! ## Contexts -/

/-- A number of at most 64 bits is kept by the written forms. -/
theorem kept_natural {number : Nat} (below : number < 0x10000000000000000) (depth : Nat) :
    Kept depth (.whole number) := by
  apply Kept.whole
  · exact Int.le_trans (by decide) (Int.natCast_nonneg number)
  · exact Int.ofNat_lt.mpr below

/-- A text that may be absent is kept by the written forms. -/
theorem kept_nullable (text : Option String) (depth : Nat) : Kept depth (nullable text) := by
  cases text with
  | none => exact .null
  | some text => exact .text text

namespace Context

variable {context : Context}

/-- Facts of a certain kind are kept by the written forms. -/
theorem kept_members (certain : ∀ data, context ≠ .generic data) (depth : Nat) :
    ∀ member ∈ context.members, Kept (depth + 1) member.2 := by
  cases context with
  | unsupportedFunction function known =>
    have names : Kept (depth + 1) (.list (known.map .text)) :=
      .list (List.forall_mem_map.mpr fun name _ => .text name)
    simp [members, Kept.text, names]
  | arity function expected actual =>
    have count := kept_natural actual.toNat_lt (depth + 1)
    simp [members, Kept.text, count]
  | interval text => simp [members, Kept.text]
  | statement phase sql diagnostic => simp [members, Kept.text]
  | contention attempts sql =>
    have count := kept_natural (Nat.lt_trans attempts.toNat_lt (by decide)) (depth + 1)
    simp [members, Kept.text, count]
  | config filePath field => simp [members, kept_nullable]
  | generic data => exact absurd rfl (certain data)

/-- A context of a certain kind is kept by the written forms. -/
theorem kept_toJson (certain : ∀ data, context ≠ .generic data) (depth : Nat) :
    Kept (depth + 2) context.toJson :=
  .object (List.forall_mem_cons.mpr ⟨.text context.tag, kept_members certain depth⟩)

/-- Facts of a certain kind are decoded as they were. -/
theorem ofMembers?_members (certain : ∀ data, context ≠ .generic data) :
    ofMembers? context.tag context.members = some context := by
  cases context with
  | unsupportedFunction function known =>
    rw [tag, members, ofMembers?, required_of_lookup Json.text? rfl,
      required_of_lookup decodeTexts rfl, decodeTexts_texts]
    rfl
  | arity function expected actual =>
    rw [tag, members, ofMembers?, required_of_lookup Json.text? rfl,
      required_of_lookup Json.text? rfl, required_of_lookup decodeCount rfl, decodeCount_toNat]
    -- Not by `rfl`, which would count the limit of 64 bits down.
    simp only [Json.text?, Option.bind_eq_bind, Option.bind_some, Option.pure_def]
  | interval text =>
    rw [tag, members, ofMembers?, required_of_lookup Json.text? rfl]
    rfl
  | statement phase sql diagnostic =>
    rw [tag, members, ofMembers?, required_of_lookup decodePhase rfl,
      required_of_lookup Json.text? rfl, required_of_lookup Json.text? rfl, decodePhase_name]
    rfl
  | contention attempts sql =>
    rw [tag, members, ofMembers?, required_of_lookup decodeAttempts rfl,
      required_of_lookup Json.text? rfl, decodeAttempts_toNat]
    rfl
  | config filePath field =>
    rw [tag, members, ofMembers?, optionalText_of_nullable rfl, optionalText_of_nullable rfl]
    rfl
  | generic data => exact absurd rfl (certain data)

/-- No fact of a certain kind has the key of the kind. -/
theorem type_not_mem_members (certain : ∀ data, context ≠ .generic data) :
    ∀ member ∈ context.members, member.1 ≠ "type" := by
  cases context with
  | generic data => exact absurd rfl (certain data)
  | _ => simp [members]

/-- A context of a certain kind is decoded as it was: the member with the kind is set apart and
the facts are left. -/
theorem ofJson?_toJson (certain : ∀ data, context ≠ .generic data) :
    ofJson? context.toJson = some context := by
  have others := type_not_mem_members certain
  have alone : lookup context.members "type" = some none := by
    have none : context.members.filter (fun member => member.1 == "type") = [] := by
      simpa [List.filter_eq_nil_iff] using others
    rw [lookup, none]
  have facts : (("type", .text context.tag) :: context.members).filter
      (fun member => member.1 != "type") = context.members := by
    simpa [List.filter_cons, List.filter_eq_self] using others
  rw [toJson, ofJson?, required_of_lookup Json.text? (lookup_cons_self alone), facts]
  exact ofMembers?_members certain

end Context

/-! ## Reports -/

namespace Report

variable {report : Report}

/-- Parts are kept by the written forms if each of them is. -/
theorem kept_optionalMember {part : Option Json} {depth : Nat} (key : String)
    (kept : ∀ value, part = some value → Kept depth value) :
    ∀ member ∈ optionalMember key part, Kept depth member.2 := by
  cases part with
  | none => exact nofun
  | some value => simpa [optionalMember] using kept value rfl

/-- A report whose context is of a certain kind is kept by the written forms. -/
theorem kept_toJson (certain : ∀ data, report.context ≠ some (.generic data)) (depth : Nat) :
    Kept (depth + 3) report.toJson := by
  have head : ∀ member ∈ [("code", Json.text report.code.text), ("message", .text report.message)],
      Kept (depth + 2) member.2 := by
    simp [Kept.text]
  have context : ∀ value, report.context.map Context.toJson = some value →
      Kept (depth + 2) value := by
    intro value shown
    obtain ⟨context, present, rfl⟩ := Option.map_eq_some_iff.mp shown
    apply Context.kept_toJson
    rintro data rfl
    exact certain data present
  have text : ∀ (part : Option String) value, part.map Json.text = some value →
      Kept (depth + 2) value := by
    intro part value shown
    obtain ⟨text, -, rfl⟩ := Option.map_eq_some_iff.mp shown
    exact .text text
  apply Kept.object
  intro member listed
  simp only [List.mem_append] at listed
  rcases listed with ((first | second) | third) | fourth
  · exact head member first
  · exact kept_optionalMember "context" context member second
  · exact kept_optionalMember "hint" (text _) member third
  · exact kept_optionalMember "trace_id" (text _) member fourth

/-- The members of the JSON form, one in front of the others. -/
def parts (report : Report) : List (String × Json) :=
  ("code", .text report.code.text) :: ("message", .text report.message) ::
    (optionalMember "context" (report.context.map Context.toJson) ++
      (optionalMember "hint" (report.hint.map .text) ++
        (optionalMember "trace_id" (report.traceId.map .text) ++ [])))

/-- The JSON form has these members. -/
theorem toJson_eq_object_parts (report : Report) : report.toJson = .object report.parts := by
  simp only [toJson, parts, List.append_assoc, List.append_nil, List.cons_append, List.nil_append]

/-- Each part is found under its own key, and an absent one is not found. -/
theorem lookup_parts (report : Report) :
    lookup report.parts "code" = some (some (.text report.code.text)) ∧
      lookup report.parts "message" = some (some (.text report.message)) ∧
      lookup report.parts "context" = some (report.context.map Context.toJson) ∧
      lookup report.parts "hint" = some (report.hint.map .text) ∧
      lookup report.parts "trace_id" = some (report.traceId.map .text) := by
  have nothing (key : String) : lookup [] key = some none := rfl
  refine ⟨?code, ?message, ?context, ?hint, ?traceId⟩
  case code =>
    apply lookup_cons_self
    simp (disch := decide) only [lookup_cons_of_ne, lookup_optionalMember_of_ne, nothing]
  case message =>
    rw [parts, lookup_cons_of_ne (by decide)]
    apply lookup_cons_self
    simp (disch := decide) only [lookup_optionalMember_of_ne, nothing]
  case context =>
    simp (disch := decide) only [parts, lookup_cons_of_ne]
    apply lookup_optionalMember
    simp (disch := decide) only [lookup_optionalMember_of_ne, nothing]
  case hint =>
    simp (disch := decide) only [parts, lookup_cons_of_ne, lookup_optionalMember_of_ne]
    apply lookup_optionalMember
    simp (disch := decide) only [lookup_optionalMember_of_ne, nothing]
  case traceId =>
    simp (disch := decide) only [parts, lookup_cons_of_ne, lookup_optionalMember_of_ne]
    exact lookup_optionalMember _ (nothing _)

/-- A context of a certain kind is decoded as one that is present. -/
theorem decodeContext_toJson {context : Context} (certain : ∀ data, context ≠ .generic data) :
    decodeContext context.toJson = some (some context) := by
  show (Context.ofJson? context.toJson).map some = some (some context)
  rw [Context.ofJson?_toJson certain, Option.map_some]

/-- A report whose context is of a certain kind is decoded as it was. -/
theorem ofJson?_toJson (certain : ∀ data, report.context ≠ some (.generic data)) :
    ofJson? report.toJson = some report := by
  obtain ⟨code, message, context, hint, traceId⟩ := lookup_parts report
  have coded : decodeCode (.text report.code.text) = some report.code := by
    simp only [decodeCode, Json.text?, Option.bind_eq_bind, Option.bind_some, Code.ofText_text]
  rw [toJson_eq_object_parts, ofJson?, required_of_lookup decodeCode code, coded,
    required_of_lookup Json.text? message, context, optionalText_of_lookup hint,
    optionalText_of_lookup traceId]
  obtain ⟨_, _, facts, _, _⟩ := report
  cases facts with
  | none => rfl
  | some facts =>
    have present : decodeContext facts.toJson = some (some facts) :=
      decodeContext_toJson fun data same => certain data (congrArg some same)
    simp only [Json.text?, Option.map_some, present, Option.bind_eq_bind, Option.bind_some,
      Option.pure_def]

/-- Reports come back from JSON. A report whose context is not of the generic kind is read from its
compact form and from its indented form as it was: with the same code, message, context, hint and
trace identifier, and without the parts that it does not have. -/
theorem json_forms_read_back (report : Report)
    (certain : ∀ data, report.context ≠ some (.generic data)) :
    read report.toJson.compact = some report ∧ read report.toJson.pretty = some report := by
  have kept : Kept Json.maxDepth report.toJson := kept_toJson certain 124
  obtain ⟨compact, pretty⟩ := kept.read_forms
  constructor
  · rw [read, compact]
    exact ofJson?_toJson certain
  · rw [read, pretty]
    exact ofJson?_toJson certain

/-- A report with quotes, a backslash, a line break, a control character and characters beyond
ASCII, of whose context one fact is absent, and which has no trace identifier. -/
theorem json_forms_of_quoted_report :
    let report : Report :=
      { code := .invalidConfig
        message := "expected \"level\" in C:\\naïve\n\t\u0001☃"
        context := some (.config (some "a\"b/😀.toml") none)
        hint := some "" }
    (∀ data, report.context ≠ some (.generic data)) ∧
      read report.toJson.compact = some report ∧ read report.toJson.pretty = some report :=
  ⟨nofun, json_forms_read_back _ nofun⟩

end Report

end DialectBridge.Diagnostic
