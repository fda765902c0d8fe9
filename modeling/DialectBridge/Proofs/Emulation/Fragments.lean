import DialectBridge.Proofs.Database.Reading
import DialectBridge.Proofs.Emulation.Calling

/-!
# Fragments on values

A call of a rewritten function on values gives a fragment with the values as literals. The
engine scans and reads the fragment as the call of the native function on just these values,
whatever the texts among them hold, and finds nothing behind it.
-/

namespace DialectBridge.Emulation

open Database (Lexeme Denotes comma joined)
open Database.Token (ScansAs lexeme scan)

/-! ## Natives -/

/-- The natives of rewritten functions. -/
def natives : List String := ["substr", "upper", "lower", "min", "max"]

/-- The native of a rewritten function is one of them. -/
theorem RewriteFunction.native_mem {function : RewriteFunction} {native : String}
    (found : function.native? = some native) : native ∈ natives := by
  cases function <;> simp [native?] at found <;> simp [← found, natives]

/-- A rewritten function that has a native takes at least one argument. -/
theorem RewriteFunction.arguments_ne_nil {function : RewriteFunction} {native : String}
    {α : Type} {arguments : List α} (found : function.native? = some native)
    (accepted : function.arity.accepts arguments.length = true) : arguments ≠ [] := by
  rintro rfl
  cases function <;> simp_all [native?, arity, Arity.accepts]

/-- The engine takes natives for names of functions. -/
theorem natives_name {native : String} (listed : native ∈ natives) :
    Database.Reader.NamesFunction native.toList := by
  intro offset
  simp only [natives, List.mem_cons, List.not_mem_nil, or_false] at listed
  constructor
  · rcases listed with rfl | rfl | rfl | rfl | rfl <;> rfl
  · intro opening opens
    simp only [Database.Reader.openingWords, List.mem_cons, List.not_mem_nil, or_false] at opens
    rcases listed with rfl | rfl | rfl | rfl | rfl <;>
      rcases opens with rfl | rfl | rfl | rfl <;> rfl

/-- Natives are scanned as words before a parenthesis. -/
theorem scansAs_native {native : String} (listed : native ∈ natives) (rest : List Char) :
    ScansAs native.toList [(.word, native.toList)] ('(' :: rest) := by
  simp only [natives, List.mem_cons, List.not_mem_nil, or_false] at listed
  rcases listed with rfl | rfl | rfl | rfl | rfl <;>
    exact Database.Token.scansAs_of_measure rfl rfl

/-! ## Fragments -/

/-- The fragment of a function that has a native. -/
theorem RewriteFunction.fragment_of_native {function : RewriteFunction} {native : String}
    (found : function.native? = some native) (arguments : List String) :
    function.fragment arguments = native ++ "(" ++ ", ".intercalate arguments ++ ")" := by
  unfold fragment
  rw [found]

/-- A call of a rewritten function with an accepted number of arguments gives its fragment on
their literals. -/
theorem call_of_lookup {name : String} {function : RewriteFunction} {arguments : List Value}
    (env : Environment) (found : lookup name = some (.rewrite function))
    (accepted : function.arity.accepts arguments.length = true) :
    call env name arguments =
      .ok (.fragment (function.fragment (arguments.map Value.sqlLiteral))) := by
  have resolved : resolve name = .ok (.rewrite function) := by
    unfold resolve
    rw [found]
  have checked : checkArity (.rewrite function) arguments.length = .ok () := if_pos accepted
  unfold call
  rw [resolved]
  change (checkArity (.rewrite function) arguments.length >>= _) = _
  rw [checked]
  rfl

/-- The tokens of a call of a native on literals: its name, and between parentheses the
literals with commas between them. -/
def callLexemes (native : String) (pieces : List (List Lexeme)) : List Lexeme :=
  (.word, native.toList) :: (.sign, ['(']) ::
    ([comma].intercalate pieces ++ [(.sign, [')'])])

/-- A fragment is scanned as the call of the native on what its arguments mean. -/
theorem scan_call {Means : List Lexeme → Value → Prop} {native : String}
    (listed : native ∈ natives) {values : List Value} (nonempty : values ≠ [])
    (each : ∀ value ∈ values, Database.IsArgument (Means · value) value.sqlLiteral.toList) :
    ∃ pieces, (scan (native ++ "(" ++ ", ".intercalate (values.map Value.sqlLiteral) ++
        ")").toList).map lexeme = callLexemes native pieces ∧
      List.Forall₂ Means pieces values := by
  obtain ⟨first, others, rfl⟩ := List.exists_cons_of_ne_nil nonempty
  obtain ⟨pieces, scanned, mean⟩ := Database.scansAs_arguments each []
  refine ⟨pieces, Database.Token.scan_of_scansAs ?_, mean⟩
  have closing : ScansAs [')'] [(.sign, [')'])] [] := Database.Token.scansAs_of_measure rfl rfl
  have inside := @ScansAs.append (joined (first :: others)) [')'] [] _ _ scanned closing
  have opening : ScansAs ['('] [(.sign, ['('])] ((joined (first :: others) ++ [')']) ++ []) :=
    Database.Token.scansAs_of_measure rfl rfl
  have whole := (scansAs_native listed _).append (opening.append inside)
  have text : (native ++ "(" ++ ", ".intercalate ((first :: others).map Value.sqlLiteral) ++
      ")").toList = native.toList ++ (['('] ++ (joined (first :: others) ++ [')'])) := by
    simp only [String.toList_append, String.toList_intercalate, List.map_map, joined]
    simp
    rfl
  rw [text]
  exact whole

/-- A fragment on literals is scanned as the call of the native on them. -/
theorem scan_fragment {native : String} (listed : native ∈ natives) {values : List Value}
    (nonempty : values ≠ []) (exact : ∀ value ∈ values, ∀ x, value ≠ .real x) :
    ∃ pieces, (scan (native ++ "(" ++ ", ".intercalate (values.map Value.sqlLiteral) ++
        ")").toList).map lexeme = callLexemes native pieces ∧
      List.Forall₂ Denotes pieces values :=
  scan_call listed nonempty fun value member => Database.isArgument_literal (exact value member)

/-- The engine reads what is scanned as the call of a native as this call, and nothing is left of
it. -/
theorem read_call {native : String} (listed : native ∈ natives)
    {meanings : List Database.Expression} (nonempty : meanings ≠ [])
    {pieces : List (List Lexeme)}
    (mean : List.Forall₂ (Database.Reader.ReadsAs 2) pieces meanings) {text : List Char}
    (scanned : (scan text).map lexeme = callLexemes native pieces)
    (context : Database.ReadContext) :
    Database.Reader.expression context ⟨scan text, 0, []⟩ =
      .ok (.call native false meanings, ⟨[], 0, []⟩) := by
  have read := @Database.Reader.expression_call context 0 [] _ (natives_name listed) _ _ mean
    nonempty _ scanned
  rw [String.ofList_toList] at read
  exact read

/-- The engine reads a fragment on literals as the call of the native on their values, and
nothing is left of it. -/
theorem read_fragment {native : String} (listed : native ∈ natives) {values : List Value}
    (nonempty : values ≠ []) (exact : ∀ value ∈ values, ∀ x, value ≠ .real x)
    (context : Database.ReadContext) :
    Database.Reader.expression context
        ⟨scan (native ++ "(" ++ ", ".intercalate (values.map Value.sqlLiteral) ++ ")").toList,
          0, []⟩ =
      .ok (.call native false (values.map .literal), ⟨[], 0, []⟩) := by
  obtain ⟨pieces, scanned, denote⟩ := scan_fragment listed nonempty exact
  have mean : List.Forall₂ (Database.Reader.ReadsAs 2) pieces
      (values.map Database.Expression.literal) :=
    List.forall₂_map_right_iff.mpr
      (denote.imp fun _ _ denotes => (Database.Reader.readsAs_literal denotes).deeper)
  exact read_call listed (by simpa using nonempty) mean scanned context

/-- Fragments of one native on different values are different. -/
theorem fragment_injective {native : String} (listed : native ∈ natives)
    {first second : List Value} (nonempty : first ≠ []) (others : second ≠ [])
    (exact : ∀ value ∈ first, ∀ x, value ≠ .real x)
    (exactToo : ∀ value ∈ second, ∀ x, value ≠ .real x)
    (same : native ++ "(" ++ ", ".intercalate (first.map Value.sqlLiteral) ++ ")" =
      native ++ "(" ++ ", ".intercalate (second.map Value.sqlLiteral) ++ ")") :
    first = second := by
  have read := read_fragment listed nonempty exact ⟨[], fun _ _ => .ok ()⟩
  rw [same, read_fragment listed others exactToo] at read
  have values : second.map Database.Expression.literal = first.map .literal := by
    simpa using read
  have literal_injective : Function.Injective Database.Expression.literal :=
    fun _ _ => Database.Expression.literal.inj
  exact (List.map_injective_iff.mpr literal_injective values).symm

/-- A call of a rewritten function that has a native, with an accepted number of values, none
of them real, gives a fragment that is nothing but the call of the native on literals of the
values: this is what the engine scans, each literal denotes its value, and what the engine
reads has the values in their order, with nothing left behind it. -/
theorem fragment_holds_values {name native : String} {function : RewriteFunction}
    {arguments : List Value} (env : Environment)
    (found : lookup name = some (.rewrite function)) (rewritten : function.native? = some native)
    (accepted : function.arity.accepts arguments.length = true)
    (exact : ∀ value ∈ arguments, ∀ x, value ≠ .real x) :
    ∃ text pieces, call env name arguments = .ok (.fragment text) ∧
      text = native ++ "(" ++ ", ".intercalate (arguments.map Value.sqlLiteral) ++ ")" ∧
      (scan text.toList).map lexeme = callLexemes native pieces ∧
      List.Forall₂ Denotes pieces arguments ∧
      ∀ context, Database.Reader.expression context ⟨scan text.toList, 0, []⟩ =
        .ok (.call native false (arguments.map .literal), ⟨[], 0, []⟩) := by
  have listed := RewriteFunction.native_mem rewritten
  have nonempty := RewriteFunction.arguments_ne_nil rewritten accepted
  have called := call_of_lookup env found accepted
  rw [RewriteFunction.fragment_of_native rewritten] at called
  obtain ⟨pieces, scanned, denote⟩ := scan_fragment listed nonempty exact
  exact ⟨_, pieces, called, rfl, scanned, denote, read_fragment listed nonempty exact⟩

/-- Values that are all but a call when they are read: a text that closes a literal and opens
a comment, the least number, null, and blobs. -/
def unruly : List Value :=
  [.text "it's', 1) -- ", .integer Int64.minValue, .null, .blob [0, 39], .text "", .blob []]

/-- Unruly values stay in their literals. -/
theorem unruly_values_held :
    ∃ text pieces, call epoch "Least" unruly = .ok (.fragment text) ∧
      text = "min" ++ "(" ++ ", ".intercalate (unruly.map Value.sqlLiteral) ++ ")" ∧
      (scan text.toList).map lexeme = callLexemes "min" pieces ∧
      List.Forall₂ Denotes pieces unruly ∧
      ∀ context, Database.Reader.expression context ⟨scan text.toList, 0, []⟩ =
        .ok (.call "min" false (unruly.map .literal), ⟨[], 0, []⟩) := by
  have found : lookup "Least" = some (.rewrite .least) := by decide
  have exact : ∀ value ∈ unruly, ∀ x, value ≠ .real x := by
    simp [unruly]
  exact fragment_holds_values epoch found rfl rfl exact

end DialectBridge.Emulation
