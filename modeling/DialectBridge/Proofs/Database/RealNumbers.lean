import DialectBridge.Proofs.Database.Reading

/-!
# Numbers and names as arguments

What a number is to the engine is decided by its spelling alone. Digits are a whole number if it
fits in 64 bits, and a real if it does not; digits with a point among them are a real. A minus sign
is part of a whole number, and an operator in front of everything else. Letters are no number but
a name.
-/

namespace DialectBridge.Database

/-- The words for what is no finite number are scanned as they are. -/
theorem Token.scansAs_word {word : String} (listed : word ∈ ["NaN", "inf"]) {rest : List Char}
    (ends : EndsArgument rest) : ScansAs word.toList [(.word, word.toList)] rest := by
  simp only [List.mem_cons, List.not_mem_nil, or_false] at listed
  obtain ⟨more, rfl | rfl⟩ := ends <;> rcases listed with rfl | rfl <;>
    exact scansAs_of_measure rfl rfl

namespace Reader

/-- A token that is known up to its place. -/
theorem eq_singleton_of_lexeme {piece : List Token} {kind : TokenKind} {text : List Char}
    (same : piece.map Token.lexeme = [(kind, text)]) : ∃ offset, piece = [⟨kind, text, offset⟩] := by
  obtain ⟨⟨kind, text, offset⟩, others, rfl, first, last⟩ := List.map_eq_cons_iff.mp same
  obtain rfl := List.map_eq_nil_iff.mp last
  obtain ⟨rfl, rfl⟩ := Prod.mk.inj first
  exact ⟨offset, rfl⟩

/-- A token that is read as an operand is an argument by itself. -/
theorem readsAs_token {kind : TokenKind} {text : List Char} {meaning : Expression}
    (read : ∀ (expression : Nat → Reader Expression) (context : ReadContext) (highest : Nat)
      (named : List (String × Nat)) (offset : Nat) (rest : List Token), ArgumentEnds rest →
        operand expression context ⟨⟨kind, text, offset⟩ :: rest, highest, named⟩ =
          .ok (meaning, ⟨rest, highest, named⟩))
    (opens : ∀ offset, OpensArgument ⟨kind, text, offset⟩) : ReadsAs 1 [(kind, text)] meaning := by
  refine readsAs_of_operand (fun expression context highest named piece rest same ends => ?_)
    ⟨kind, text, [], rfl, opens⟩
  obtain ⟨offset, rfl⟩ := eq_singleton_of_lexeme same
  exact read expression context highest named offset rest ends

/-- Digits are read as the number they are without a sign. -/
theorem readsAs_whole (digits : List Char) :
    ReadsAs 1 [(.whole, digits)] (.literal (wholeValue false digits)) :=
  readsAs_token (fun _ _ _ _ _ _ _ => rfl) fun _ => ⟨rfl, rfl, rfl⟩

/-- Digits with a point among them are read as a real. -/
theorem readsAs_real (text : List Char) :
    ReadsAs 1 [(.real, text)] (.literal (.real ((Decimal.readFloat text).getD 0))) :=
  readsAs_token (fun _ _ _ _ _ _ _ => rfl) fun _ => ⟨rfl, rfl, rfl⟩

/-- The words for what is no finite number are read as names of columns. -/
theorem readsAs_word {word : String} (listed : word ∈ ["NaN", "inf"]) :
    ReadsAs 1 [(.word, word.toList)] (.column none word false) := by
  simp only [List.mem_cons, List.not_mem_nil, or_false] at listed
  refine readsAs_token (fun _ _ _ _ _ _ ends => ?_) fun _ => ?_
  · obtain ⟨⟨kind, text, place⟩, more, rfl, ending⟩ := ends
    simp only [endings, comma, Token.lexeme, List.mem_cons, Prod.mk.injEq, List.not_mem_nil,
      or_false] at ending
    rcases ending with ⟨rfl, rfl⟩ | ⟨rfl, rfl⟩ <;> rcases listed with rfl | rfl <;> rfl
  · rcases listed with rfl | rfl <;> exact ⟨rfl, rfl, rfl⟩

/-- A minus sign in front of digits is part of their number. -/
theorem readsAs_negative (digits : List Char) :
    ReadsAs 1 [(.sign, ['-']), (.whole, digits)] (.literal (wholeValue true digits)) := by
  refine readsAs_of_operand (fun _ _ _ _ _ _ same _ => ?_)
    ⟨_, _, _, rfl, fun _ => ⟨rfl, rfl, rfl⟩⟩
  obtain ⟨⟨kind, text, offset⟩, others, rfl, first, last⟩ := List.map_eq_cons_iff.mp same
  obtain ⟨place, rfl⟩ := eq_singleton_of_lexeme last
  obtain ⟨rfl, rfl⟩ := Prod.mk.inj first
  rfl

/-- Digits are read as the number they are, with a minus sign in front or not. -/
theorem readsAs_signed (negative : Bool) (digits : List Char) :
    ReadsAs 1 ((if negative then [(.sign, ['-'])] else []) ++ [(.whole, digits)])
      (.literal (wholeValue negative digits)) := by
  cases negative with
  | false => exact readsAs_whole digits
  | true => exact readsAs_negative digits

/-- A minus sign in front of one token that is no whole number is an operator. -/
theorem readsAs_minus {kind : TokenKind} {text : List Char} {meaning : Expression}
    (reads : ReadsAs 1 [(kind, text)] meaning) (noWhole : kind ≠ .whole) :
    ReadsAs 2 [(.sign, ['-']), (kind, text)] (.unary .negate meaning) where
  read fuel level context highest named piece rest same ends := by
    obtain ⟨minus, others, rfl, first, last⟩ := List.map_eq_cons_iff.mp same
    have negated := reads.read fuel tight context highest named others rest last ends
    obtain ⟨place, rfl⟩ := eq_singleton_of_lexeme last
    obtain ⟨signKind, sign, offset⟩ := minus
    obtain ⟨rfl, rfl⟩ := Prod.mk.inj first
    have operator : (kind == TokenKind.whole) = false := beq_eq_false_iff_ne.mpr noWhole
    have noParenthesis : (⟨.sign, ['-'], offset⟩ : Token).isSign "(" = false := rfl
    have isMinus : (⟨.sign, ['-'], offset⟩ : Token).isSign "-" = true := rfl
    rw [List.cons_append, List.nil_append] at negated
    unfold expressionAt operand
    simp only [takesSign, bind_apply, peek_apply, List.cons_append, List.nil_append,
      List.head?_cons, takes_apply, noParenthesis, isMinus, operator, negated, tokens_apply,
      pure_apply, climb_ended _ _ _ _ ends, Bool.false_eq_true, if_false, if_true]
  opens := ⟨_, _, _, rfl, fun _ => ⟨rfl, rfl, rfl⟩⟩

end Reader

end DialectBridge.Database
