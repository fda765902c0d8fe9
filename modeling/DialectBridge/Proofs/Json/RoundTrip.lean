import DialectBridge.Proofs.Json.Scanning

/-!
# Written values are read back

Both written forms of a value spell out its tokens, and between two numbers stands what separates
or encloses values. So the tokens are scanned again, and parsing finds where an item or a member
ends by the token behind it. Reals, whole numbers of more than 64 bits and values that are nested
too deep are left out here; every other value is read back from both forms.
-/

namespace DialectBridge.Json

/-- Whether a value has no reals and no whole number of more than 64 bits, and is nested no deeper
than so many levels. -/
inductive Kept : (depth : Nat) → Json → Prop where
  | null {depth : Nat} : Kept depth .null
  | bool {depth : Nat} (value : Bool) : Kept depth (.bool value)
  | whole {depth : Nat} {n : Int} (above : Decimal.minInt64 ≤ n)
    (below : n < 0x10000000000000000) : Kept depth (.whole n)
  | text {depth : Nat} (s : String) : Kept depth (.text s)
  | list {depth : Nat} {items : List Json} (each : ∀ item ∈ items, Kept depth item) :
    Kept (depth + 1) (.list items)
  | object {depth : Nat} {members : List (String × Json)}
    (each : ∀ member ∈ members, Kept depth member.2) : Kept (depth + 1) (.object members)

variable {depth fuel : Nat} {value : Json} {items : List Json} {members : List (String × Json)}
  {chars : List Char} {tokens rest : List Token}

/-! ## Values between commas -/

/-- What is written element by element, with a sign in front of all elements but the first, is what
each element gives, with the sign between them. -/
theorem eq_intercalate {α β : Type} {whole : List α → List β} {part : α → List β} {sign : β}
    (none : whole [] = []) (single : ∀ element, whole [element] = part element)
    (more : ∀ element next rest,
      whole (element :: next :: rest) = part element ++ sign :: whole (next :: rest))
    (elements : List α) : whole elements = [sign].intercalate (elements.map part) := by
  induction elements with
  | nil => exact none
  | cons element rest inductionHypothesis =>
    cases rest with
    | nil => rw [single, List.map_singleton, List.intercalate_singleton]
    | cons next rest =>
      rw [more, inductionHypothesis, List.map_cons, List.map_cons, List.map_cons,
        List.intercalate_cons_cons, List.append_assoc, List.singleton_append]

/-- The tokens of items are those of each, with commas between them. -/
theorem itemTokens_eq (items : List Json) :
    itemTokens items = [.comma].intercalate (items.map Json.tokens) := by
  apply eq_intercalate
  · rw [itemTokens]
  · intro item
    rw [itemTokens]
  · intro item next rest
    rw [itemTokens]

/-- The tokens of a member: its key, a colon and its value. -/
def memberToken (member : String × Json) : List Token :=
  .text member.1 :: .colon :: member.2.tokens

/-- The tokens of members are those of each, with commas between them. -/
theorem memberTokens_eq (members : List (String × Json)) :
    memberTokens members = [.comma].intercalate (members.map memberToken) := by
  apply eq_intercalate
  · rw [memberTokens]
  · intro member
    rw [memberTokens, memberToken]
  · intro member next rest
    rw [memberTokens, memberToken]

/-- Items that are indented stand on lines of their own, with commas between them. -/
theorem indentedItems_eq (level : Nat) (items : List Json) :
    indentedItems level items =
      [','].intercalate (items.map fun item => newLine level ++ item.indented level) := by
  apply eq_intercalate
  · rw [indentedItems]
  · intro item
    rw [indentedItems]
  · intro item next rest
    rw [indentedItems]

/-- A member that is indented stands on a line of its own, with a blank behind the colon. -/
def indentedMember (level : Nat) (member : String × Json) : List Char :=
  newLine level ++ (quote member.1 ++ ':' :: ' ' :: member.2.indented level)

/-- Members that are indented have commas between them. -/
theorem indentedMembers_eq (level : Nat) (members : List (String × Json)) :
    indentedMembers level members = [','].intercalate (members.map (indentedMember level)) := by
  apply eq_intercalate
  · rw [indentedMembers]
  · intro member
    rw [indentedMembers, indentedMember, List.append_assoc]
  · intro member next rest
    rw [indentedMembers, indentedMember, List.append_assoc (newLine level)]

/-! ## Tokens that can be scanned -/

/-- Tokens are exact, and of them and of others behind them no two numbers stand side by side if
the others begin with none. -/
structure Scannable (tokens : List Token) : Prop where
  exact : ∀ token ∈ tokens, token.IsExact
  apart : ∀ rest, Apart rest → (∀ next, rest.head? = some next → ¬next.IsNumber) →
    Apart (tokens ++ rest)

namespace Scannable

/-- A single token can be scanned if it is exact. -/
theorem single {token : Token} (exact : token.IsExact) : Scannable [token] where
  exact := by simpa using exact
  apart := fun _ apart noNumber => ⟨fun _ => noNumber, apart⟩

/-- A token that is no number can be scanned in front of others. -/
theorem cons {token : Token} (exact : token.IsExact) (noNumber : ¬token.IsNumber)
    (scannable : Scannable tokens) : Scannable (token :: tokens) where
  exact := List.forall_mem_cons.mpr ⟨exact, scannable.exact⟩
  apart := fun rest apart begins =>
    ⟨fun number => absurd number noNumber, scannable.apart rest apart begins⟩

/-- Tokens can be scanned one after the other if a token that is no number is between them. -/
theorem append_cons {token : Token} (exact : token.IsExact) (noNumber : ¬token.IsNumber)
    (first : Scannable tokens) (second : Scannable rest) : Scannable (tokens ++ token :: rest) where
  exact := List.forall_mem_append.mpr ⟨first.exact, (second.cons exact noNumber).exact⟩
  apart := by
    intro others apart begins
    rw [List.append_assoc]
    apply first.apart
    · exact (second.cons exact noNumber).apart others apart begins
    · intro next head
      obtain rfl := Option.some.inj head
      exact noNumber

/-- No tokens can be scanned. -/
theorem nil : Scannable [] := ⟨nofun, fun _ apart _ => apart⟩

/-- Tokens can be scanned between two tokens that are no numbers. -/
theorem enclosed {opening closing : Token} (exact : opening.IsExact) (noNumber : ¬opening.IsNumber)
    (exactToo : closing.IsExact) (noNumberToo : ¬closing.IsNumber) (scannable : Scannable tokens) :
    Scannable (opening :: tokens ++ [closing]) :=
  cons exact noNumber (append_cons exactToo noNumberToo scannable nil)

/-- Tokens can be scanned if commas are between them. -/
theorem intercalate {lists : List (List Token)} (each : ∀ tokens ∈ lists, Scannable tokens) :
    Scannable ([Token.comma].intercalate lists) := by
  induction lists with
  | nil => exact nil
  | cons first others inductionHypothesis =>
    obtain ⟨scannable, behind⟩ := List.forall_mem_cons.mp each
    cases others with
    | nil =>
      rw [List.intercalate_singleton]
      exact scannable
    | cons next more =>
      rw [List.intercalate_cons_cons, List.append_assoc]
      exact append_cons trivial id scannable (inductionHypothesis behind)

end Scannable

/-- The tokens of a value can be scanned. -/
theorem Kept.scannable (kept : Kept depth value) : Scannable value.tokens := by
  induction kept with
  | null => exact .single trivial
  | bool value => exact .single trivial
  | whole above below => exact .single ⟨above, below⟩
  | text s => exact .single trivial
  | @list _ items _ inductionHypothesis =>
    rw [Json.tokens, itemTokens_eq]
    have inner : Scannable ([Token.comma].intercalate (items.map Json.tokens)) :=
      .intercalate (List.forall_mem_map.mpr inductionHypothesis)
    exact .enclosed trivial id trivial id inner
  | @object _ members _ inductionHypothesis =>
    rw [Json.tokens, memberTokens_eq]
    have each : ∀ member ∈ members, Scannable (memberToken member) := by
      intro member listed
      exact .cons trivial id (.cons trivial id (inductionHypothesis member listed))
    have inner : Scannable ([Token.comma].intercalate (members.map memberToken)) :=
      .intercalate (List.forall_mem_map.mpr each)
    exact .enclosed trivial id trivial id inner

/-! ## Written forms -/

/-- A text spells out a single token. -/
theorem spells_write (token : Token) : Spells token.write [token] := by
  have single := Spells.token token .nothing
  rw [List.append_nil] at single
  exact single

/-- Blanks spell out nothing. -/
theorem spells_blanks {blanks : List Char} (spaces : ∀ c ∈ blanks, isSpace c = true) :
    Spells blanks [] := by
  induction blanks with
  | nil => exact .nothing
  | cons c blanks inductionHypothesis =>
    obtain ⟨space, others⟩ := List.forall_mem_cons.mp spaces
    exact .blank space (inductionHypothesis others)

/-- A new line and its indentation are blanks. -/
theorem spells_newLine (level : Nat) : Spells (newLine level) [] := by
  refine .blank rfl (spells_blanks fun c member => ?_)
  rw [List.eq_of_mem_replicate member]
  rfl

/-- The written tokens spell them out. -/
theorem spells_flatMap_write (tokens : List Token) :
    Spells (tokens.flatMap Token.write) tokens := by
  induction tokens with
  | nil => exact .nothing
  | cons token tokens inductionHypothesis => exact .token token inductionHypothesis

/-- Texts with commas between them spell out what they spell out, with commas between. -/
theorem Spells.intercalate {α : Type} {elements : List α} {text : α → List Char}
    {tokens : α → List Token}
    (each : ∀ element ∈ elements, Spells (text element) (tokens element)) :
    Spells ([','].intercalate (elements.map text))
      ([.comma].intercalate (elements.map tokens)) := by
  induction elements with
  | nil => exact .nothing
  | cons first others inductionHypothesis =>
    obtain ⟨spells, behind⟩ := List.forall_mem_cons.mp each
    cases others with
    | nil => simpa only [List.map_singleton, List.intercalate_singleton] using spells
    | cons next more =>
      simp only [List.map_cons, List.intercalate_cons_cons, List.append_assoc]
      exact spells.append (.token .comma (inductionHypothesis behind))

/-- What is enclosed and ends with blanks spells out what it encloses, enclosed. -/
theorem Spells.enclosed (spells : Spells chars tokens) (opening closing : Token) (level : Nat) :
    Spells (opening.write ++ (chars ++ newLine level ++ closing.write))
      (opening :: tokens ++ [closing]) := by
  have inner := (spells.append (spells_newLine level)).append (spells_write closing)
  rw [List.append_nil] at inner
  exact .token opening inner

/-- The indented form spells out the tokens, whatever the indentation. -/
theorem Kept.spells_indented (kept : Kept depth value) (level : Nat) :
    Spells (value.indented level) value.tokens := by
  induction kept generalizing level with
  | null => exact spells_write .null
  | bool value => exact spells_write (.bool value)
  | whole _ _ => exact spells_write (.whole _)
  | text s => exact spells_write (.text s)
  | @list _ items _ inductionHypothesis =>
    have inner : Spells (indentedItems (level + 1) items) (itemTokens items) := by
      rw [indentedItems_eq, itemTokens_eq]
      apply Spells.intercalate
      intro item listed
      exact (spells_newLine _).append (inductionHypothesis item listed _)
    cases items with
    | nil => exact .token .openList (spells_write .closeList)
    | cons item more => exact inner.enclosed .openList .closeList level
  | @object _ members _ inductionHypothesis =>
    have inner : Spells (indentedMembers (level + 1) members) (memberTokens members) := by
      rw [indentedMembers_eq, memberTokens_eq]
      apply Spells.intercalate
      intro member listed
      have spelled := inductionHypothesis member listed (level + 1)
      exact (spells_newLine _).append
        (.token (.text member.1) (.token .colon (.blank rfl spelled)))
    cases members with
    | nil => exact .token .openObject (spells_write .closeObject)
    | cons member more => exact inner.enclosed .openObject .closeObject level

/-! ## Parsing -/

/-- A value has a token at least. -/
theorem tokens_length_pos (value : Json) : 0 < value.tokens.length := by
  cases value <;> simp [Json.tokens]

/-- A list is parsed if its items are: what is parsed as items begins with no closing bracket. -/
theorem parseValue_openList (parsed : parseItems fuel depth tokens = some (items, rest)) :
    parseValue (fuel + 1) (depth + 1) (.openList :: tokens) = some (.list items, rest) := by
  rw [parseValue]
  · rw [parsed, Option.map_some]
  · rintro others rfl
    cases fuel with
    | zero => simp [parseItems] at parsed
    | succ fuel => cases fuel <;> simp [parseItems, parseValue] at parsed

/-- An object is parsed if its members are: what is parsed as members begins with no closing
brace. -/
theorem parseValue_openObject (parsed : parseMembers fuel depth tokens = some (members, rest)) :
    parseValue (fuel + 1) (depth + 1) (.openObject :: tokens) = some (.object members, rest) := by
  rw [parseValue]
  · rw [parsed, Option.map_some]
  · rintro others rfl
    simp [parseMembers] at parsed

/-- A value is parsed from its tokens where it is nested at most so deep and there is fuel for
twice as many, whatever is behind them. -/
def Parses (depth : Nat) (value : Json) : Prop :=
  ∀ fuel rest, 2 * value.tokens.length ≤ fuel + 1 →
    parseValue fuel depth (value.tokens ++ rest) = some (value, rest)

/-- Items are parsed up to the end of the list if each of them is parsed. -/
theorem parseItems_itemTokens (nonempty : items ≠ []) (each : ∀ item ∈ items, Parses depth item)
    {fuel : Nat} (enough : 2 * (itemTokens items).length ≤ fuel) (rest : List Token) :
    parseItems fuel depth (itemTokens items ++ .closeList :: rest) = some (items, rest) := by
  induction items generalizing fuel with
  | nil => exact absurd rfl nonempty
  | cons item more inductionHypothesis =>
    obtain ⟨parses, others⟩ := List.forall_mem_cons.mp each
    have positive := tokens_length_pos item
    cases more with
    | nil =>
      rw [itemTokens] at enough ⊢
      obtain ⟨fuel, rfl⟩ : ∃ left, fuel = left + 1 := ⟨fuel - 1, by omega⟩
      rw [parseItems, parses fuel _ (by omega)]
    | cons next more =>
      rw [itemTokens] at enough ⊢
      simp only [List.length_append, List.length_cons] at enough
      obtain ⟨fuel, rfl⟩ : ∃ left, fuel = left + 1 := ⟨fuel - 1, by omega⟩
      rw [List.append_assoc, parseItems, parses fuel _ (by omega), List.cons_append]
      have later := inductionHypothesis (List.cons_ne_nil next more) others
        (by omega : 2 * (itemTokens (next :: more)).length ≤ fuel)
      simp only [later, Option.map_some]

/-- Members are parsed up to the end of the object if the value of each is parsed. -/
theorem parseMembers_memberTokens (nonempty : members ≠ [])
    (each : ∀ member ∈ members, Parses depth member.2)
    {fuel : Nat} (enough : 2 * (memberTokens members).length ≤ fuel) (rest : List Token) :
    parseMembers fuel depth (memberTokens members ++ .closeObject :: rest) =
      some (members, rest) := by
  induction members generalizing fuel with
  | nil => exact absurd rfl nonempty
  | cons member more inductionHypothesis =>
    obtain ⟨parses, others⟩ := List.forall_mem_cons.mp each
    cases more with
    | nil =>
      rw [memberTokens] at enough ⊢
      simp only [List.length_cons] at enough
      obtain ⟨fuel, rfl⟩ : ∃ left, fuel = left + 1 := ⟨fuel - 1, by omega⟩
      rw [List.cons_append, List.cons_append, parseMembers, parses fuel _ (by omega)]
    | cons next more =>
      rw [memberTokens] at enough ⊢
      simp only [List.length_append, List.length_cons] at enough
      obtain ⟨fuel, rfl⟩ : ∃ left, fuel = left + 1 := ⟨fuel - 1, by omega⟩
      have later := inductionHypothesis (List.cons_ne_nil next more) others
        (by omega : 2 * (memberTokens (next :: more)).length ≤ fuel)
      rw [List.append_assoc, List.cons_append, List.cons_append, parseMembers,
        parses fuel _ (by omega), List.cons_append]
      simp only [later, Option.map_some]

/-- A value that is nested no deeper than that is parsed from its tokens.

Induct on what the value is made of. Twice the number of tokens is fuel enough: a list or an object
has two tokens of its own, and the fuel is spent once for it and once for each item or member. -/
theorem Kept.parses (kept : Kept depth value) : Parses depth value := by
  induction kept with
  | null | bool | whole | text =>
    intro fuel rest enough
    rw [Json.tokens] at enough ⊢
    obtain ⟨fuel, rfl⟩ : ∃ left, fuel = left + 1 := ⟨fuel - 1, by simp at enough; omega⟩
    rfl
  | @list depth items _ inductionHypothesis =>
    intro fuel rest enough
    rw [Json.tokens] at enough ⊢
    simp only [List.length_append, List.length_cons] at enough
    obtain ⟨fuel, rfl⟩ : ∃ left, fuel = left + 1 := ⟨fuel - 1, by omega⟩
    cases items with
    | nil => rfl
    | cons item more =>
      have parsed := parseItems_itemTokens (List.cons_ne_nil item more) inductionHypothesis
        (by omega : 2 * (itemTokens (item :: more)).length ≤ fuel) rest
      rw [List.cons_append, List.cons_append, List.append_assoc, List.singleton_append]
      exact parseValue_openList parsed
  | @object depth members _ inductionHypothesis =>
    intro fuel rest enough
    rw [Json.tokens] at enough ⊢
    simp only [List.length_append, List.length_cons] at enough
    obtain ⟨fuel, rfl⟩ : ∃ left, fuel = left + 1 := ⟨fuel - 1, by omega⟩
    cases members with
    | nil => rfl
    | cons member more =>
      have parsed := parseMembers_memberTokens (List.cons_ne_nil member more) inductionHypothesis
        (by omega : 2 * (memberTokens (member :: more)).length ≤ fuel) rest
      rw [List.cons_append, List.cons_append, List.append_assoc, List.singleton_append]
      exact parseValue_openObject parsed

/-! ## Reading -/

/-- What spells out the tokens of a value is read as the value. -/
theorem Kept.read_of_spells (kept : Kept maxDepth value) (spells : Spells chars value.tokens) :
    read (String.ofList chars) = some value := by
  have apart : Apart value.tokens := by
    have alone := kept.scannable.apart [] trivial nofun
    rw [List.append_nil] at alone
    exact alone
  have scanned := scan_of_spells spells apart kept.scannable.exact
  have parsed := kept.parses (2 * value.tokens.length + 1) [] (by omega)
  rw [List.append_nil] at parsed
  rw [read, String.toList_ofList, scanned, Option.bind_some, parse, parsed]

/-- A value that is kept is read back from its compact form and from its indented form. -/
theorem Kept.read_forms (kept : Kept maxDepth value) :
    read value.compact = some value ∧ read value.pretty = some value := by
  constructor
  · exact kept.read_of_spells (spells_flatMap_write value.tokens)
  · exact kept.read_of_spells (kept.spells_indented 0)

end DialectBridge.Json
