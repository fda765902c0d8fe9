import DialectBridge.Statement.DataType

/-!
# Running readers

What the primitive readers do with a list of tokens, as equations. A reader that is made
of others is run by rewriting with them, one primitive after another. Readers that never
nest refuse tokens, if they do, in the way that lets another reading be tried.
-/

namespace DialectBridge.Statement.Reader

variable {α β : Type}

/-! ## Equations -/

/-- One reader after another. -/
theorem bind_apply (first : Reader α) (second : α → Reader β) (tokens : List Token) :
    (first >>= second) tokens =
      match first tokens with
      | .ok (value, rest) => second value rest
      | .error refusal => .error refusal := by
  change StateT.bind first second tokens = _
  unfold StateT.bind
  cases first tokens <;> rfl

/-- Taking nothing. -/
theorem pure_apply (value : α) (tokens : List Token) :
    (pure value : Reader α) tokens = .ok (value, tokens) := rfl

/-- Looking at all tokens. -/
theorem get_apply (tokens : List Token) :
    (get : Reader (List Token)) tokens = .ok (tokens, tokens) := rfl

/-- Refusing. -/
theorem refuse_apply (tokens : List Token) :
    (refuse : Reader α) tokens = .error .unexpected := rfl

/-- Looking at the next token. -/
theorem peek_apply (tokens : List Token) : peek tokens = .ok (tokens.head?, tokens) := rfl

/-- Taking the next token. -/
theorem next_cons (token : Token) (rest : List Token) :
    next (token :: rest) = .ok (token, rest) := rfl

/-- Looking for a sign. -/
theorem takesSign_cons (sign : String) (token : Token) (rest : List Token) :
    takesSign sign (token :: rest) =
      if token = .sign sign then .ok (true, rest) else .ok (false, token :: rest) := by
  unfold takesSign
  simp only [bind_apply, get_apply]
  split <;> rfl

/-- A sign that is not next. -/
theorem takesSign_of_ne {sign : String} {tokens : List Token}
    (other : tokens.head? ≠ some (.sign sign)) : takesSign sign tokens = .ok (false, tokens) := by
  cases tokens with
  | nil => rfl
  | cons token rest =>
    have other : token ≠ .sign sign := by
      rintro rfl
      exact other rfl
    rw [takesSign_cons, if_neg other]

/-- A sign that must be next and is not. -/
theorem expectSign_of_ne {sign : String} {tokens : List Token}
    (other : tokens.head? ≠ some (.sign sign)) : expectSign sign tokens = .error .unexpected := by
  unfold expectSign
  simp only [bind_apply, takesSign_of_ne other]
  rfl

/-- Taking a sign that is next. -/
theorem expectSign_cons (sign : String) (rest : List Token) :
    expectSign sign (.sign sign :: rest) = .ok (⟨⟩, rest) := by
  unfold expectSign
  simp only [bind_apply, takesSign_cons, if_true]
  rfl

/-- The keyword of the first of some tokens. -/
def headKeyword : List Token → String
  | .word _ keyword :: _ => keyword
  | _ => ""

/-- Looking at the keyword that is next. -/
theorem peekKeyword_apply (tokens : List Token) :
    peekKeyword tokens = .ok (headKeyword tokens, tokens) := by
  match tokens with
  | [] => rfl
  | .word _ _ :: _ => rfl
  | .number _ :: _ => rfl
  | .text _ :: _ => rfl
  | .nationalText _ :: _ => rfl
  | .hexadecimal _ :: _ => rfl
  | .placeholder _ :: _ => rfl
  | .sign _ :: _ => rfl

/-- Looking for keywords. -/
theorem takesKeywords_apply (keywords : List String) (tokens : List Token) :
    takesKeywords keywords tokens =
      match dropKeywords keywords tokens with
      | some rest => .ok (true, rest)
      | none => .ok (false, tokens) := by
  unfold takesKeywords
  simp only [bind_apply, get_apply]
  cases dropKeywords keywords tokens <;> rfl

/-- Keywords that begin with one that is not next. -/
theorem takesKeywords_of_ne {keyword : String} (keywords : List String) {tokens : List Token}
    (other : headKeyword tokens ≠ keyword) :
    takesKeywords (keyword :: keywords) tokens = .ok (false, tokens) := by
  rw [takesKeywords_apply]
  have none : dropKeywords (keyword :: keywords) tokens = none := by
    match tokens with
    | .word _ found :: rest =>
      have other : found ≠ keyword := other
      simp [dropKeywords, other]
    | [] => rfl
    | .number _ :: _ => rfl
    | .text _ :: _ => rfl
    | .nationalText _ :: _ => rfl
    | .hexadecimal _ :: _ => rfl
    | .placeholder _ :: _ => rfl
    | .sign _ :: _ => rfl
  rw [none]

/-- A keyword that is not next. -/
theorem takesKeyword_of_ne {keyword : String} {tokens : List Token}
    (other : headKeyword tokens ≠ keyword) :
    takesKeyword keyword tokens = .ok (false, tokens) :=
  takesKeywords_of_ne [] other

/-- None of some keywords is next. -/
theorem takesOneOf_of_not_mem {keywords : List String} {tokens : List Token}
    (other : headKeyword tokens ∉ keywords) : takesOneOf keywords tokens = .ok (none, tokens) := by
  unfold takesOneOf
  simp [bind_apply, peekKeyword_apply, other, pure_apply]

/-- Trying a reader that refuses. -/
theorem attempt_of_unexpected {reader : Reader α} {tokens : List Token}
    (refused : reader tokens = .error .unexpected) :
    attempt reader tokens = .ok (none, tokens) := by
  simp [attempt, refused]

/-! ## Readers that do not nest -/

/-- A reader does not nest if it never refuses tokens for that reason. -/
def Flat (reader : Reader α) : Prop := ∀ tokens, reader tokens ≠ .error .tooDeep

/-- A flat reader reads tokens, or refuses them so that another can be tried. -/
theorem Flat.cases {reader : Reader α} (flat : Flat reader) (tokens : List Token) :
    (∃ value rest, reader tokens = .ok (value, rest)) ∨ reader tokens = .error .unexpected := by
  cases run : reader tokens with
  | ok result => exact .inl ⟨result.1, result.2, rfl⟩
  | error refusal =>
    cases refusal with
    | unexpected => exact .inr rfl
    | tooDeep => exact absurd run (flat tokens)

/-- Taking nothing is flat. -/
theorem flat_pure (value : α) : Flat (pure value : Reader α) := nofun

/-- Refusing is flat. -/
theorem flat_refuse : Flat (refuse : Reader α) := nofun

/-- One flat reader after another is flat. -/
theorem Flat.bind {first : Reader α} {second : α → Reader β} (before : Flat first)
    (after : ∀ value, Flat (second value)) : Flat (first >>= second) := by
  intro tokens
  rw [bind_apply]
  rcases before.cases tokens with ⟨value, rest, read⟩ | refused
  · rw [read]
    exact after value rest
  · rw [refused]
    nofun

/-- Taking the next token is flat. -/
theorem flat_next : Flat next := by
  intro tokens
  cases tokens <;> nofun

/-- Looking for a sign is flat. -/
theorem flat_takesSign (sign : String) : Flat (takesSign sign) := by
  intro tokens
  cases tokens with
  | nil => nofun
  | cons token rest =>
    rw [takesSign_cons]
    split <;> nofun

/-- Taking a sign is flat. -/
theorem flat_expectSign (sign : String) : Flat (expectSign sign) := by
  refine (flat_takesSign sign).bind fun found => ?_
  cases found
  · exact flat_refuse
  · exact flat_pure _

/-- Reading items is flat if reading one is. -/
theorem flat_itemsWhile {goesOn : Reader Bool} {item : Reader α} (condition : Flat goesOn)
    (one : Flat item) (fuel : Nat) : Flat (itemsWhile goesOn item fuel) := by
  induction fuel with
  | zero => exact flat_refuse
  | succ fuel inductionHypothesis =>
    refine condition.bind fun found => ?_
    cases found
    · exact flat_pure _
    · exact one.bind fun first => inductionHypothesis.bind fun rest => flat_pure _

/-- Reading many items is flat if reading one is. -/
theorem flat_many {goesOn : Reader Bool} {item : Reader α} (condition : Flat goesOn)
    (one : Flat item) : Flat (many goesOn item) := by
  intro tokens
  exact flat_itemsWhile condition one (tokens.length + 1) tokens

/-- Reading items with commas is flat if reading one is. -/
theorem flat_commaSeparated {item : Reader α} (one : Flat item) : Flat (commaSeparated item) :=
  one.bind fun _ => (flat_many (flat_takesSign ",") one).bind fun _ => flat_pure _

/-- Reading between parentheses is flat if what is read there is. -/
theorem flat_inParentheses {reader : Reader α} (flat : Flat reader) :
    Flat (inParentheses reader) :=
  (flat_expectSign "(").bind fun _ => flat.bind fun _ =>
    (flat_expectSign ")").bind fun _ => flat_pure _

/-- Reading a name is flat. -/
theorem flat_identifier : Flat identifier := by
  refine flat_next.bind fun token => ?_
  cases token with
  | word identifier keyword => exact flat_pure _
  | text value => exact flat_pure _
  | number digits => exact flat_refuse
  | nationalText value => exact flat_refuse
  | hexadecimal digits => exact flat_refuse
  | placeholder name => exact flat_refuse
  | sign mark => exact flat_refuse

/-- Reading a qualified name is flat. -/
theorem flat_qualifiedName : Flat qualifiedName :=
  flat_identifier.bind fun _ => (flat_many (flat_takesSign ".") flat_identifier).bind fun _ =>
    flat_pure _

end DialectBridge.Statement.Reader

namespace DialectBridge.Statement.DataType

open Reader

/-- Reading the modifiers of a type that is not known is flat. -/
theorem flat_modifiers : Flat modifiers := by
  have flatModifier : Flat modifier := by
    refine flat_next.bind fun token => ?_
    cases token with
    | word identifier keyword => exact flat_pure _
    | number digits => exact flat_pure _
    | text value => exact flat_pure _
    | nationalText value => exact flat_refuse
    | hexadecimal digits => exact flat_refuse
    | placeholder name => exact flat_refuse
    | sign mark => exact flat_refuse
  have flatOpens : Flat opens := nofun
  refine flatOpens.bind fun found => ?_
  cases found
  · exact flat_pure _
  · exact (flat_inParentheses (flat_commaSeparated flatModifier)).bind fun _ => flat_pure _

/-- Where no type that is known is next, none is read. -/
theorem read_of_unknown {tokens : List Token}
    (unknown : shapes.lookup (headKeyword tokens) = none) :
    read tokens = .error .unexpected ∨
      ∃ type rest, read tokens = .ok (type, rest) ∧ type.isKnown = false := by
  unfold read
  simp only [bind_apply, peekKeyword_apply, unknown, peek_apply]
  match tokens with
  | .word identifier keyword :: rest =>
    simp only [List.head?_cons, bind_apply]
    rcases flat_qualifiedName.cases (.word identifier keyword :: rest) with
      ⟨name, left, readName⟩ | refused
    · rcases flat_modifiers.cases left with ⟨text, others, readText⟩ | refused
      · exact .inr ⟨_, others, by rw [readName]; simp only [readText]; rfl, rfl⟩
      · exact .inl (by rw [readName]; simp only [refused])
    · exact .inl (by rw [refused])
  | [] => exact .inl rfl
  | .number _ :: _ => exact .inl rfl
  | .text _ :: _ => exact .inl rfl
  | .nationalText _ :: _ => exact .inl rfl
  | .hexadecimal _ :: _ => exact .inl rfl
  | .placeholder _ :: _ => exact .inl rfl
  | .sign _ :: _ => exact .inl rfl

end DialectBridge.Statement.DataType
