import DialectBridge.Proofs.Statement.Formula

/-!
# Rearranged formulas

Whatever the tree of a formula is, its text can be read, as some tree. This tree is the
formula rearranged: an operator that has been given too much on one side is moved to where
it binds, with all parts of the formula in their order. The rearranged formula fits, it has
the text of the formula, and a formula that fits is its own rearrangement. The opposite
holds as well, even if only the trees without their parentheses are compared: trees that
differ in more than parentheses are told apart by what they are made of.
-/

namespace DialectBridge.Statement

/-- Operators between operands bind tighter than nothing. -/
theorem Infix.level_pos (operator : Infix) : 0 < operator.level := by
  have signs : ∀ entry ∈ Nested.operators, 0 < entry.2.1 := by decide
  have words : ∀ entry ∈ wordInfixes, 0 < entry.2 := by decide
  cases operator with
  | sign mark level known => exact signs _ known
  | word keyword level known => exact words _ known

/-- No operator between operands binds tighter than a product. -/
theorem Infix.level_le (operator : Infix) : operator.level ≤ 40 := by
  have signs : ∀ entry ∈ Nested.operators, entry.2.1 ≤ 40 := by decide
  have words : ∀ entry ∈ wordInfixes, entry.2 ≤ 40 := by decide
  cases operator with
  | sign mark level known => exact signs _ known
  | word keyword level known => exact words _ known

namespace Formula

/-! ## Spines -/

/-- Whether a formula is no operator with its operands. -/
def isAtom : Formula → Bool
  | negate _ => false
  | not _ => false
  | binary _ _ _ => false
  | _ => true

/-- What holds of atoms, and of operators when it holds of their operands, holds of all
formulas. -/
@[elab_as_elim]
theorem induction_on_operands {motive : Formula → Prop} (formula : Formula)
    (atom : ∀ formula : Formula, formula.isAtom = true → motive formula)
    (negate : ∀ operand, motive operand → motive (negate operand))
    (not : ∀ operand, motive operand → motive (not operand))
    (binary : ∀ operator left right, motive left → motive right →
      motive (binary operator left right)) : motive formula := by
  induction formula using induction_on_parts with
  | number digits => exact atom _ rfl
  | literal value => exact atom _ rfl
  | column name => exact atom _ rfl
  | call function arguments _ => exact atom _ rfl
  | group inner _ => exact atom _ rfl
  | negate operand inductionHypothesis => exact negate operand inductionHypothesis
  | not operand inductionHypothesis => exact not operand inductionHypothesis
  | binary operator left right before after => exact binary operator left right before after

/-- An atom stops at every operator. -/
theorem reach_of_isAtom {formula : Formula} (atom : formula.isAtom = true) :
    formula.reach = 100 := by
  cases formula <;> first | rfl | exact absurd atom (by simp [isAtom])

/-- An atom that fits somewhere fits everywhere. -/
theorem fits_of_isAtom {formula : Formula} (atom : formula.isAtom = true) {lower : Nat}
    (fits : formula.fits lower = true) (level : Nat) : formula.fits level = true := by
  cases formula <;> first | exact fits | exact absurd atom (by simp [isAtom])

/-- A formula fits wherever less is asked of it. -/
theorem fits_of_le {formula : Formula} {lower level : Nat} (fits : formula.fits level = true)
    (le : lower ≤ level) : formula.fits lower = true := by
  induction formula using induction_on_operands generalizing lower level with
  | atom formula atom => exact fits_of_isAtom atom fits lower
  | negate operand inductionHypothesis => exact fits
  | not operand inductionHypothesis => exact fits
  | binary operator left right before after =>
    simp only [Formula.fits, Bool.and_eq_true, decide_eq_true_eq] at fits ⊢
    exact ⟨⟨⟨by omega, before fits.1.1.2 le⟩, fits.1.2⟩, fits.2⟩

/-- A formula that fits somewhere fits wherever its own operator is taken. -/
theorem fits_of_taken {formula : Formula} {lower level : Nat}
    (fits : formula.fits lower = true)
    (taken : ∀ operator left right, formula = binary operator left right →
      level < operator.level) :
    formula.fits level = true := by
  induction formula using induction_on_operands with
  | atom formula atom => exact fits_of_isAtom atom fits level
  | negate operand inductionHypothesis => exact fits
  | not operand inductionHypothesis => exact fits
  | binary operator left right before after =>
    simp only [Formula.fits, Bool.and_eq_true, decide_eq_true_eq] at fits ⊢
    have lt := taken operator left right rfl
    -- The left operand stops at the operator, so that its own operator binds no less.
    have tighter : ∀ inner first second, left = binary inner first second →
        level < inner.level := by
      rintro inner first second rfl
      have stops := fits.1.2
      simp only [reach, Nat.le_min] at stops
      omega
    exact ⟨⟨⟨lt, before fits.1.1.2 tighter⟩, fits.1.2⟩, fits.2⟩

/-! ## Moving operators -/

/-- Puts an operator with its right operand after a formula, where it is read there. -/
def attach (left : Formula) (operator : Infix) (right : Formula) : Formula :=
  if operator.level ≤ left.reach then binary operator left right
  else match left with
    | negate operand => negate (operand.attach operator right)
    | not operand => not (operand.attach operator right)
    | binary outer first second => binary outer first (second.attach operator right)
    | left => binary operator left right

/-- Puts what takes an operand of a level before a formula. It takes the front of the
formula, up to the first operator that does not bind tighter. -/
def extend (head : Formula → Formula) (level : Nat) : Formula → Formula
  | binary operator left right =>
    if level < operator.level then head (binary operator left right)
    else (extend head level left).attach operator right
  | formula => head formula

mutual

/-- The formula that the text of a formula is read as. -/
def rearranged : Formula → Formula
  | call function arguments => call function (rearrangedAll arguments)
  | group inner => group inner.rearranged
  | negate operand => extend negate 40 operand.rearranged
  | not operand => extend not 15 operand.rearranged
  | binary operator left right =>
    extend (left.rearranged.attach operator) operator.level right.rearranged
  | number digits => number digits
  | literal value => literal value
  | column name => column name

/-- The formulas that the texts of formulas are read as. -/
def rearrangedAll : List Formula → List Formula
  | [] => []
  | formula :: rest => formula.rearranged :: rearrangedAll rest

end

/-- Formulas are rearranged one by one. -/
theorem rearrangedAll_eq_map (formulas : List Formula) :
    rearrangedAll formulas = formulas.map rearranged := by
  induction formulas with
  | nil => rfl
  | cons formula rest inductionHypothesis =>
    rw [rearrangedAll, inductionHypothesis, List.map_cons]

/-- Two lists of formulas are rearranged one after the other. -/
theorem rearrangedAll_append (first second : List Formula) :
    rearrangedAll (first ++ second) = rearrangedAll first ++ rearrangedAll second := by
  rw [rearrangedAll_eq_map, rearrangedAll_eq_map, rearrangedAll_eq_map, List.map_append]

/-- An operator takes a whole formula that stops at it. -/
theorem attach_of_stops {left : Formula} {operator : Infix} (right : Formula)
    (stops : operator.level ≤ left.reach) :
    left.attach operator right = binary operator left right := by
  rw [attach.eq_def, if_pos stops]

/-- What takes an operand takes a formula that fits there as a whole. -/
theorem extend_of_fits (head : Formula → Formula) {level : Nat} {formula : Formula}
    (fits : formula.fits level = true) : extend head level formula = head formula := by
  cases formula with
  | binary operator left right =>
    simp only [Formula.fits, Bool.and_eq_true, decide_eq_true_eq] at fits
    rw [extend, if_pos fits.1.1.1]
  | _ => rfl

/-! ## Fitting -/

/-- An operator that is put after a formula fits where the formula does, if it is taken
there. -/
theorem fits_attach {left right : Formula} {operator : Infix} {level : Nat}
    (before : left.fits level = true) (after : right.fits operator.level = true)
    (taken : operator.level ≤ left.reach → level < operator.level) :
    (left.attach operator right).fits level = true := by
  fun_induction attach left operator right generalizing level with
  | case1 left stops =>
    simp [Formula.fits, taken stops, before, stops, after]
  | case2 operand goesOn inductionHypothesis =>
    refine inductionHypothesis before fun stops => ?_
    simp only [reach, Nat.le_min] at goesOn
    omega
  | case3 operand goesOn inductionHypothesis =>
    refine inductionHypothesis before fun stops => ?_
    simp only [reach, Nat.le_min] at goesOn
    omega
  | case4 outer first second goesOn inductionHypothesis =>
    simp only [Formula.fits, Bool.and_eq_true, decide_eq_true_eq] at before ⊢
    refine ⟨before.1, inductionHypothesis before.2 fun stops => ?_⟩
    simp only [reach, Nat.le_min] at goesOn
    omega
  | case5 left goesOn notNegation notNot notBinary =>
    have atom : left.isAtom = true := by
      cases left with
      | negate operand => exact (notNegation operand rfl).elim
      | not operand => exact (notNot operand rfl).elim
      | binary outer first second => exact (notBinary outer first second rfl).elim
      | _ => rfl
    have low := operator.level_le
    have far := reach_of_isAtom atom
    omega

/-- What takes an operand fits with it. -/
theorem fits_extend {head : Formula → Formula} {level : Nat} {formula : Formula}
    (heads : ∀ formula : Formula, formula.fits level = true → (head formula).fits 0 = true)
    (fits : formula.fits 0 = true) : (extend head level formula).fits 0 = true := by
  fun_induction extend head level formula with
  | case1 operator left right taken =>
    refine heads _ (fits_of_taken fits ?_)
    rintro _ _ _ ⟨⟩
    exact taken
  | case2 operator left right notTaken inductionHypothesis =>
    simp only [Formula.fits, Bool.and_eq_true] at fits
    exact fits_attach (inductionHypothesis fits.1.1.2) fits.2 fun _ => operator.level_pos
  | case3 formula notBinary =>
    refine heads _ (fits_of_taken fits ?_)
    exact fun operator left right same => (notBinary operator left right same).elim

mutual

/-- A rearranged formula fits. -/
theorem fits_rearranged (formula : Formula) : formula.rearranged.fits 0 = true := by
  cases formula with
  | number digits => rfl
  | literal value => rfl
  | column name => rfl
  | call function arguments => exact fitsAll_rearrangedAll arguments
  | group inner => exact fits_rearranged inner
  | negate operand => exact fits_extend (fun _ fits => fits) (fits_rearranged operand)
  | not operand => exact fits_extend (fun _ fits => fits) (fits_rearranged operand)
  | binary operator left right =>
    have before := fits_rearranged left
    exact fits_extend (fun _ fits => fits_attach before fits fun _ => operator.level_pos)
      (fits_rearranged right)

/-- Rearranged formulas fit. -/
theorem fitsAll_rearrangedAll (formulas : List Formula) :
    fitsAll (rearrangedAll formulas) = true := by
  cases formulas with
  | nil => rfl
  | cons formula rest =>
    simp [rearrangedAll, fitsAll, fits_rearranged formula, fitsAll_rearrangedAll rest]

end

mutual

/-- A formula that fits is not rearranged. -/
theorem rearranged_of_fits (formula : Formula) (fits : formula.fits 0 = true) :
    formula.rearranged = formula := by
  cases formula with
  | number digits => rfl
  | literal value => rfl
  | column name => rfl
  | call function arguments => rw [rearranged, rearrangedAll_of_fitsAll arguments fits]
  | group inner => rw [rearranged, rearranged_of_fits inner fits]
  | negate operand =>
    have inside : operand.fits 40 = true := fits
    rw [rearranged, rearranged_of_fits operand (fits_of_le inside (Nat.zero_le _)),
      extend_of_fits _ inside]
  | not operand =>
    have inside : operand.fits 15 = true := fits
    rw [rearranged, rearranged_of_fits operand (fits_of_le inside (Nat.zero_le _)),
      extend_of_fits _ inside]
  | binary operator left right =>
    simp only [Formula.fits, Bool.and_eq_true, decide_eq_true_eq] at fits
    rw [rearranged, rearranged_of_fits left fits.1.1.2,
      rearranged_of_fits right (fits_of_le fits.2 (Nat.zero_le _)),
      extend_of_fits _ fits.2, attach_of_stops _ fits.1.2]

/-- Formulas that fit are not rearranged. -/
theorem rearrangedAll_of_fitsAll (formulas : List Formula) (fits : fitsAll formulas = true) :
    rearrangedAll formulas = formulas := by
  cases formulas with
  | nil => rfl
  | cons formula rest =>
    simp only [fitsAll, Bool.and_eq_true] at fits
    rw [rearrangedAll, rearranged_of_fits formula fits.1, rearrangedAll_of_fitsAll rest fits.2]

end

/-! ## Depths -/

/-- A formula with an operator after it nests as deep as the formula, and deeper than the
operand. -/
theorem depth_attach (left : Formula) (operator : Infix) (right : Formula) :
    left.depth ≤ (left.attach operator right).depth ∧
      right.depth < (left.attach operator right).depth := by
  fun_induction attach left operator right with
  | case1 left stops => simp only [depth]; omega
  | case2 operand goesOn inductionHypothesis => simp only [depth]; omega
  | case3 operand goesOn inductionHypothesis => simp only [depth]; omega
  | case4 outer first second goesOn inductionHypothesis => simp only [depth]; omega
  | case5 left goesOn notNegation notNot notBinary => simp only [depth]; omega

/-- What takes an operand nests as deep as it does with any operand. -/
theorem le_depth_extend {head : Formula → Formula} {bound : Nat} (level : Nat)
    (formula : Formula) (heads : ∀ formula : Formula, bound ≤ (head formula).depth) :
    bound ≤ (extend head level formula).depth := by
  fun_induction extend head level formula with
  | case1 operator left right taken => exact heads _
  | case2 operator left right notTaken inductionHypothesis =>
    exact Nat.le_trans inductionHypothesis (depth_attach _ _ _).1
  | case3 formula notBinary => exact heads _

/-- What takes an operand nests as deep as what it is put before. -/
theorem depth_le_depth_extend {head : Formula → Formula} (level : Nat) (formula : Formula)
    (heads : ∀ formula : Formula, formula.depth ≤ (head formula).depth) :
    formula.depth ≤ (extend head level formula).depth := by
  fun_induction extend head level formula with
  | case1 operator left right taken => exact heads _
  | case2 operator left right notTaken inductionHypothesis =>
    obtain ⟨before, after⟩ := depth_attach (extend head level left) operator right
    simp only [depth]
    omega
  | case3 formula notBinary => exact heads _

/-- A rearranged negation nests as deep as its rearranged operand. -/
theorem depth_le_negate (operand : Formula) :
    operand.rearranged.depth ≤ (negate operand).rearranged.depth := by
  rw [rearranged]
  exact depth_le_depth_extend _ _ fun formula => Nat.le_succ formula.depth

/-- A rearranged logical negation nests as deep as its rearranged operand. -/
theorem depth_le_not (operand : Formula) :
    operand.rearranged.depth ≤ (not operand).rearranged.depth := by
  rw [rearranged]
  exact depth_le_depth_extend _ _ fun formula => Nat.le_succ formula.depth

/-- A rearranged operator nests as deep as its rearranged operands. -/
theorem depth_le_binary (operator : Infix) (left right : Formula) :
    left.rearranged.depth ≤ (binary operator left right).rearranged.depth ∧
      right.rearranged.depth ≤ (binary operator left right).rearranged.depth := by
  rw [rearranged]
  exact ⟨le_depth_extend _ _ fun formula => (depth_attach _ _ formula).1,
    depth_le_depth_extend _ _ fun formula => Nat.le_of_lt (depth_attach _ _ formula).2⟩

/-! ## Texts -/

/-- Formulas with the same characters and the same tokens. -/
structure SameText (first second : Formula) : Prop where
  chars : first.chars = second.chars
  tokens : first.tokens = second.tokens

/-- Lists of formulas with the same texts one by one. -/
inductive SameTexts : List Formula → List Formula → Prop
  | nil : SameTexts [] []
  | cons {formula other : Formula} {rest others : List Formula} (head : SameText formula other)
    (tail : SameTexts rest others) : SameTexts (formula :: rest) (other :: others)

/-- With a comma before each, formulas with the same texts have the same text. -/
theorem SameTexts.after {first second : List Formula} (same : SameTexts first second) :
    charsAfter first = charsAfter second ∧ tokensAfter first = tokensAfter second := by
  induction same with
  | nil => exact ⟨rfl, rfl⟩
  | cons head tail inductionHypothesis =>
    simp only [charsAfter, tokensAfter, head.chars, head.tokens, inductionHypothesis, and_self]

/-- With commas between them, formulas with the same texts have the same text. -/
theorem SameTexts.between {first second : List Formula} (same : SameTexts first second) :
    charsBetween first = charsBetween second ∧ tokensBetween first = tokensBetween second := by
  cases same with
  | nil => exact ⟨rfl, rfl⟩
  | cons head tail =>
    simp only [charsBetween, tokensBetween, head.chars, head.tokens, tail.after, and_self]

/-- Lists have the same texts if their parts have. -/
theorem SameTexts.append {first second others rest : List Formula}
    (before : SameTexts first others) (after : SameTexts second rest) :
    SameTexts (first ++ second) (others ++ rest) := by
  induction before with
  | nil => exact after
  | cons head tail inductionHypothesis => exact .cons head inductionHypothesis

/-- Formulas in parentheses have the same text if the formulas have. -/
theorem SameText.group {first second : Formula} (same : SameText first second) :
    SameText (group first) (group second) :=
  ⟨by rw [Formula.chars, Formula.chars, same.chars],
    by rw [Formula.tokens, Formula.tokens, same.tokens]⟩

/-- Negations have the same text if their operands have. -/
theorem SameText.negate {first second : Formula} (same : SameText first second) :
    SameText (negate first) (negate second) :=
  ⟨by rw [Formula.chars, Formula.chars, same.chars],
    by rw [Formula.tokens, Formula.tokens, same.tokens]⟩

/-- Logical negations have the same text if their operands have. -/
theorem SameText.not {first second : Formula} (same : SameText first second) :
    SameText (not first) (not second) :=
  ⟨by rw [Formula.chars, Formula.chars, same.chars],
    by rw [Formula.tokens, Formula.tokens, same.tokens]⟩

/-- An operator with its operands has the same text if the operands have. -/
theorem SameText.binary {left right first second : Formula} (operator : Infix)
    (before : SameText left first) (after : SameText right second) :
    SameText (binary operator left right) (binary operator first second) :=
  ⟨by rw [Formula.chars, Formula.chars, before.chars, after.chars],
    by rw [Formula.tokens, Formula.tokens, before.tokens, after.tokens]⟩

/-- Calls have the same text if their arguments have. -/
theorem SameTexts.call {arguments others : List Formula} (function : PlainName)
    (same : SameTexts arguments others) :
    SameText (call function arguments) (call function others) :=
  ⟨by rw [Formula.chars, Formula.chars, same.between.1],
    by rw [Formula.tokens, Formula.tokens, same.between.2]⟩

/-- An operator that is put after a formula is written there. -/
theorem sameText_attach (left : Formula) (operator : Infix) (right : Formula) :
    SameText (left.attach operator right) (binary operator left right) := by
  fun_induction attach left operator right with
  | case1 left stops => exact ⟨rfl, rfl⟩
  | case2 operand goesOn inductionHypothesis =>
    exact ⟨inductionHypothesis.negate.chars, inductionHypothesis.negate.tokens⟩
  | case3 operand goesOn inductionHypothesis =>
    exact ⟨inductionHypothesis.not.chars, inductionHypothesis.not.tokens⟩
  | case4 outer first second goesOn inductionHypothesis =>
    constructor
    · simp [chars, inductionHypothesis.chars]
    · simp [tokens, inductionHypothesis.tokens]
  | case5 left goesOn notNegation notNot notBinary => exact ⟨rfl, rfl⟩

/-- What takes an operand is written before it, whatever it takes. -/
theorem text_extend {head : Formula → Formula} {frontChars : List Char}
    {frontTokens : List Token} (level : Nat) (formula : Formula)
    (heads : ∀ formula : Formula, (head formula).chars = frontChars ++ formula.chars ∧
      (head formula).tokens = frontTokens ++ formula.tokens) :
    (extend head level formula).chars = frontChars ++ formula.chars ∧
      (extend head level formula).tokens = frontTokens ++ formula.tokens := by
  fun_induction extend head level formula with
  | case1 operator left right taken => exact heads _
  | case2 operator left right notTaken inductionHypothesis =>
    obtain ⟨sameChars, sameTokens⟩ := sameText_attach (extend head level left) operator right
    rw [sameChars, sameTokens]
    simp [chars, tokens, inductionHypothesis]
  | case3 formula notBinary => exact heads _

mutual

/-- A rearranged formula has the text of the formula. -/
theorem sameText_rearranged (formula : Formula) : SameText formula.rearranged formula := by
  cases formula with
  | number digits => exact ⟨rfl, rfl⟩
  | literal value => exact ⟨rfl, rfl⟩
  | column name => exact ⟨rfl, rfl⟩
  | call function arguments =>
    rw [rearranged]
    exact (sameTexts_rearrangedAll arguments).call function
  | group inner =>
    rw [rearranged]
    exact (sameText_rearranged inner).group
  | negate operand =>
    have inside := sameText_rearranged operand
    have heads (formula : Formula) : (negate formula).chars = ['-'] ++ formula.chars ∧
        (negate formula).tokens = [.sign "-"] ++ formula.tokens := ⟨rfl, rfl⟩
    have whole := text_extend 40 operand.rearranged heads
    rw [inside.chars, inside.tokens] at whole
    exact ⟨whole.1, whole.2⟩
  | not operand =>
    have inside := sameText_rearranged operand
    have heads (formula : Formula) :
        (not formula).chars = ['N', 'O', 'T', ' '] ++ formula.chars ∧
          (not formula).tokens = [Token.ofName "NOT".toList] ++ formula.tokens := ⟨rfl, rfl⟩
    have whole := text_extend 15 operand.rearranged heads
    rw [inside.chars, inside.tokens] at whole
    exact ⟨whole.1, whole.2⟩
  | binary operator left right =>
    have before := sameText_rearranged left
    have after := sameText_rearranged right
    have heads (formula : Formula) :
        (left.rearranged.attach operator formula).chars =
            left.chars ++ ' ' :: (operator.written.toList ++ [' ']) ++ formula.chars ∧
          (left.rearranged.attach operator formula).tokens =
            left.tokens ++ [operator.token] ++ formula.tokens := by
      obtain ⟨sameChars, sameTokens⟩ := sameText_attach left.rearranged operator formula
      rw [sameChars, sameTokens]
      simp [chars, tokens, before.chars, before.tokens]
    have whole := text_extend operator.level right.rearranged heads
    rw [after.chars, after.tokens] at whole
    constructor
    · rw [rearranged]
      simpa [chars] using whole.1
    · rw [rearranged]
      simpa [tokens] using whole.2

/-- Rearranged formulas have the texts of the formulas. -/
theorem sameTexts_rearrangedAll (formulas : List Formula) :
    SameTexts (rearrangedAll formulas) formulas := by
  cases formulas with
  | nil => exact .nil
  | cons formula rest =>
    exact .cons (sameText_rearranged formula) (sameTexts_rearrangedAll rest)

end

end Formula

end DialectBridge.Statement
