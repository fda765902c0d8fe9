/-!
# Characters and stretches of them

The ASCII classes of characters are ranges of codes. A reader of a text takes characters as
long as they belong to a class: where the rest of the text begins with none of the class,
it takes the whole stretch and nothing else.
-/

namespace DialectBridge.Text

/-- What holds for the characters of all codes below a bound holds for every character with a
code below it, so that ASCII is gone through code by code. -/
theorem of_codes_below (holds : Char → Prop) {bound : Nat}
    (codes : ∀ code < bound, holds (Char.ofNat code)) {c : Char} (below : c.toNat < bound) :
    holds c := by
  have found := codes c.toNat below
  rwa [Char.ofNat_toNat] at found

/-- The digits are ten codes in a row. -/
theorem isDigit_iff {c : Char} : c.isDigit = true ↔ 48 ≤ c.toNat ∧ c.toNat ≤ 57 := by
  have codes : c.isDigit = (decide (48 ≤ c.toNat) && decide (c.toNat ≤ 57)) := rfl
  rw [codes, Bool.and_eq_true, decide_eq_true_eq, decide_eq_true_eq]

/-- The letters are the capitals and the small letters, each in a row. -/
theorem isAlpha_iff {c : Char} : c.isAlpha = true ↔
    (65 ≤ c.toNat ∧ c.toNat ≤ 90) ∨ (97 ≤ c.toNat ∧ c.toNat ≤ 122) := by
  have codes : c.isAlpha = (decide (65 ≤ c.toNat ∧ c.toNat ≤ 90) ||
      (decide (97 ≤ c.toNat) && decide (c.toNat ≤ 122))) := rfl
  rw [codes, Bool.or_eq_true, Bool.and_eq_true, decide_eq_true_eq, decide_eq_true_eq,
    decide_eq_true_eq]

/-- Only capitals have another character in lower case. -/
theorem toLower_of_not_capital {c : Char} (noCapital : ¬(65 ≤ c.toNat ∧ c.toNat ≤ 90)) :
    c.toLower = c :=
  dif_neg noCapital

/-- Whether all characters of a text have a property is decided along the text, and not by going
through all characters that there are. -/
instance decidableForallMem (holds : Char → Prop) [DecidablePred holds] (text : List Char) :
    Decidable (∀ c ∈ text, holds c) :=
  List.decidableBAll holds text

/-- Whether some character of a text has a property is decided along the text as well. -/
instance decidableExistsMem (holds : Char → Prop) [DecidablePred holds] (text : List Char) :
    Decidable (∃ c ∈ text, holds c) :=
  List.decidableBEx holds text

/-- A stretch of a class ends where the rest begins with none of the class. -/
theorem takeWhile_dropWhile_append {holds : Char → Bool} {front rest : List Char}
    (all : ∀ c ∈ front, holds c = true) (ended : ∀ c, rest.head? = some c → holds c = false) :
    (front ++ rest).takeWhile holds = front ∧ (front ++ rest).dropWhile holds = rest := by
  rw [List.takeWhile_append_of_pos all, List.dropWhile_append_of_pos all]
  cases rest with
  | nil => simp
  | cons c rest => simp [ended c rfl]

end DialectBridge.Text
