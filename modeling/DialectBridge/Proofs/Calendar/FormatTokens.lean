import DialectBridge.Calendar.Specifier

/-!
# Format texts as tokens

A format text is read from the left: a percent sign and the character behind it are one token,
and every other character is a token by itself. Only at the end can a percent sign be left alone.
Every token is rendered without regard to the others. So a format text may be cut behind any of
its tokens, a text in which every percent sign is doubled is rendered as the text, and a percent
sign with a character that selects nothing is kept wherever it stands.
-/

namespace DialectBridge.Calendar

/-! ## Tokens -/

/-- The tokens of a format text, in order. -/
def formatTokens : List Char → List (List Char)
  | [] => []
  | ['%'] => [['%']]
  | '%' :: c :: rest => ['%', c] :: formatTokens rest
  | c :: rest => [c] :: formatTokens rest

/-- Whether a format text ends behind a token, and not behind a percent sign that waits for its
character. -/
def EndsWhole (format : List Char) : Prop := ['%'] ∉ formatTokens format

instance (format : List Char) : Decidable (EndsWhole format) :=
  inferInstanceAs (Decidable (_ ∉ _))

/-- A format text is gone through token by token. -/
theorem format_induction {motive : List Char → Prop} (nothing : motive [])
    (alone : motive ['%']) (pair : ∀ c rest, motive rest → motive ('%' :: c :: rest))
    (plain : ∀ c rest, c ≠ '%' → motive rest → motive (c :: rest)) (format : List Char) :
    motive format := by
  fun_induction formatTokens format with
  | case1 => exact nothing
  | case2 => exact alone
  | case3 c rest inductionHypothesis => exact pair c rest inductionHypothesis
  | case4 c rest notAlone notPair inductionHypothesis =>
    refine plain c rest ?_ inductionHypothesis
    rintro rfl
    cases rest with
    | nil => exact notAlone rfl rfl
    | cons d others => exact notPair d others rfl rfl

/-- A character that is no percent sign is a token. -/
theorem formatTokens_cons {c : Char} (plain : c ≠ '%') (rest : List Char) :
    formatTokens (c :: rest) = [c] :: formatTokens rest := by
  rw [formatTokens]
  · exact fun same => absurd same plain
  · exact fun _ _ same => absurd same plain

/-- The tokens are the whole format text. -/
theorem flatten_formatTokens (format : List Char) : (formatTokens format).flatten = format := by
  induction format using format_induction with
  | nothing => rfl
  | alone => rfl
  | pair c rest inductionHypothesis =>
    rw [formatTokens, List.flatten_cons, inductionHypothesis]
    rfl
  | plain c rest noPercent inductionHypothesis =>
    rw [formatTokens_cons noPercent, List.flatten_cons, inductionHypothesis]
    rfl

/-! ## Specifiers -/

/-- The characters that select a component. -/
def specifiers : List Char := "abcdefHhIijklMmprSsTUuVvWwXxYy".toList

/-- All other characters select nothing. -/
theorem ofSpecifier?_eq_none_iff {c : Char} :
    Component.ofSpecifier? c = none ↔ c ∉ specifiers := by
  constructor
  · intro nothing listed
    have every : specifiers.all (fun c => (Component.ofSpecifier? c).isSome) = true := by decide
    simpa [nothing] using List.all_eq_true.mp every c listed
  · intro unlisted
    unfold Component.ofSpecifier?
    split
    -- the last case is that of all other characters
    rotate_right
    · rfl
    all_goals exact absurd (by decide) unlisted

/-! ## Rendering -/

/-- A text with every percent sign doubled. -/
def doublePercents (text : List Char) : List Char :=
  text.flatMap fun c => if c = '%' then ['%', '%'] else [c]

variable (moment : Moment)

/-- A character that is no percent sign is kept. -/
theorem renderFormat_cons {c : Char} (plain : c ≠ '%') (rest : List Char) :
    renderFormat moment (c :: rest) = c :: renderFormat moment rest := by
  rw [renderFormat]
  · exact fun same => absurd same plain
  · exact fun _ _ same => absurd same plain

/-- A percent sign is rendered with the character behind it. -/
theorem renderFormat_percent (c : Char) (rest : List Char) :
    renderFormat moment ('%' :: c :: rest) =
      renderSpecifier moment c ++ renderFormat moment rest := by
  rw [renderFormat]

/-- A character that selects nothing is kept with its percent sign. -/
theorem renderSpecifier_of_unknown {c : Char} (noPercent : c ≠ '%') (noOrdinal : c ≠ 'D')
    (unknown : c ∉ specifiers) : renderSpecifier moment c = ['%', c] := by
  unfold renderSpecifier
  rw [if_neg noPercent, if_neg noOrdinal, ofSpecifier?_eq_none_iff.mpr unknown]

/-- A format text is rendered token by token. -/
theorem renderFormat_eq_flatMap (format : List Char) :
    renderFormat moment format = (formatTokens format).flatMap (renderFormat moment) := by
  induction format using format_induction with
  | nothing => rfl
  | alone => rfl
  | pair c rest inductionHypothesis =>
    have single : renderFormat moment ['%', c] = renderSpecifier moment c := by
      rw [renderFormat_percent, renderFormat, List.append_nil]
    rw [formatTokens, List.flatMap_cons, renderFormat_percent, inductionHypothesis, single]
  | plain c rest noPercent inductionHypothesis =>
    have single : renderFormat moment [c] = [c] := by
      rw [renderFormat_cons moment noPercent, renderFormat]
    rw [formatTokens_cons noPercent, List.flatMap_cons, renderFormat_cons moment noPercent,
      inductionHypothesis, single]
    rfl

/-- A format text may be cut behind a token. -/
theorem renderFormat_append {front : List Char} (ends : EndsWhole front) (back : List Char) :
    renderFormat moment (front ++ back) =
      renderFormat moment front ++ renderFormat moment back := by
  induction front using format_induction with
  | nothing => rfl
  | alone => exact absurd (by decide) ends
  | pair c rest inductionHypothesis =>
    have behind : EndsWhole rest := fun last => ends (List.mem_cons_of_mem _ last)
    rw [List.cons_append, List.cons_append, renderFormat_percent, renderFormat_percent,
      inductionHypothesis behind, List.append_assoc]
  | plain c rest noPercent inductionHypothesis =>
    have behind : EndsWhole rest := by
      intro last
      refine ends ?_
      rw [formatTokens_cons noPercent]
      exact List.mem_cons_of_mem _ last
    rw [List.cons_append, renderFormat_cons moment noPercent, renderFormat_cons moment noPercent,
      inductionHypothesis behind, List.cons_append]

/-- A text with its percent signs doubled is rendered as the text. -/
theorem renderFormat_doublePercents (text : List Char) :
    renderFormat moment (doublePercents text) = text := by
  induction text with
  | nil => rfl
  | cons c rest inductionHypothesis =>
    unfold doublePercents at inductionHypothesis ⊢
    rw [List.flatMap_cons]
    by_cases percent : c = '%'
    · rw [if_pos percent, List.cons_append, List.singleton_append, renderFormat_percent,
        inductionHypothesis, percent]
      rfl
    · rw [if_neg percent, List.singleton_append, renderFormat_cons moment percent,
        inductionHypothesis]

/-- Format texts are rendered token by token, the tokens being all of the text. Where a format
text ends behind a token, it is rendered without regard to what follows. Doubled percent signs
stand for single ones, and a percent sign with a character that is neither one nor the ordinal nor
selects a component stands for both characters, whatever is around them. -/
theorem formats_render_token_by_token :
    (∀ format, (formatTokens format).flatten = format ∧
        renderFormat moment format = (formatTokens format).flatMap (renderFormat moment)) ∧
      (∀ front back, EndsWhole front → renderFormat moment (front ++ back) =
        renderFormat moment front ++ renderFormat moment back) ∧
      (∀ text, renderFormat moment (doublePercents text) = text) ∧
      ∀ c, c ≠ '%' → c ≠ 'D' → c ∉ specifiers → ∀ front back, EndsWhole front →
        renderFormat moment (front ++ '%' :: c :: back) =
          renderFormat moment front ++ '%' :: c :: renderFormat moment back := by
  refine ⟨fun format => ⟨flatten_formatTokens format, renderFormat_eq_flatMap moment format⟩,
    fun front back ends => renderFormat_append moment ends back,
    renderFormat_doublePercents moment, ?_⟩
  intro c noPercent noOrdinal unknown front back ends
  rw [renderFormat_append moment ends, renderFormat_percent,
    renderSpecifier_of_unknown moment noPercent noOrdinal unknown]
  rfl

/-- The start of a day in March. -/
def startOfMarchDay : Moment := .startOf ⟨1999, 3, 5, by decide, by decide⟩

/-- A format text is cut behind a doubled percent sign, in front of one with a character that
selects nothing. -/
theorem cut_behind_doubled_percent :
    EndsWhole "100%%".toList ∧ '語' ∉ specifiers ∧
      renderFormat startOfMarchDay ("100%%".toList ++ "%Y".toList) =
        renderFormat startOfMarchDay "100%%".toList ++ renderFormat startOfMarchDay "%Y".toList ∧
      renderFormat startOfMarchDay ("100%%".toList ++ '%' :: '語' :: "%Y".toList) =
        "100%%語1999".toList := by
  obtain ⟨_, cut, _, kept⟩ := formats_render_token_by_token startOfMarchDay
  have ends : EndsWhole "100%%".toList := by decide
  have unknown : '語' ∉ specifiers := by decide
  refine ⟨ends, unknown, cut _ _ ends, ?_⟩
  rw [kept '語' (by decide) (by decide) unknown _ _ ends]
  decide

end DialectBridge.Calendar
