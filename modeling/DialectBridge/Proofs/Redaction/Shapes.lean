import DialectBridge.Redaction.Shape
import Mathlib.Data.List.Basic

/-!
# Where shapes stop

A shape looks only at characters of its classes. At any other character it stops as it does
at the end of a text, so a text is covered, and its stretches are replaced, on each side of such
a character by itself.

What a shape prefers to leave of a text is the first of its remainders. A run prefers to leave
the least, and of two shapes one after the other the first one gives way only where the second
one does not go on.
-/

namespace DialectBridge.Redaction.Shape

/-! ## Classes -/

/-- Whether a character is in a class that the shape looks at. -/
def mentions : Shape → Char → Bool
  | one accepts, c => accepts c
  | run _ accepts, c => accepts c
  | optional shape, c => shape.mentions c
  | either first second, c => first.mentions c || second.mentions c
  | followed first second, c => first.mentions c || second.mentions c

variable {accepts : Char → Bool} {least : Nat} {c : Char} {front back text : List Char}

/-- What some characters of a class leave of a text with another character in it: the text
goes on behind the character in each case. -/
theorem afterEach_append_cons (stops : accepts c = false) (front back : List Char) :
    afterEach accepts (front ++ c :: back) =
      (afterEach accepts front).map (· ++ c :: back) := by
  induction front with
  | nil => simp [afterEach, stops]
  | cons d rest inductionHypothesis =>
    rw [List.cons_append, afterEach, afterEach, inductionHypothesis]
    cases accepts d <;> simp

/-- A shape leaves of a text what it leaves of the part in front of a character that it does
not look at, with all that is behind. -/
theorem remainders_append_cons {shape : Shape} (unmentioned : shape.mentions c = false)
    (front back : List Char) : shape.remainders (front ++ c :: back) =
      (shape.remainders front).map (· ++ c :: back) := by
  induction shape generalizing front with
  | one accepts =>
    cases front with
    | nil =>
      have stops : accepts c = false := unmentioned
      simp [remainders, stops]
    | cons d rest =>
      rw [List.cons_append, remainders, remainders]
      cases accepts d <;> simp
  | run least accepts =>
    have stops : accepts c = false := unmentioned
    rw [remainders, remainders, afterEach_append_cons stops, ← List.map_drop, List.map_reverse]
  | optional shape inductionHypothesis =>
    rw [remainders, remainders, inductionHypothesis unmentioned, List.map_append,
      List.map_singleton]
  | either first second firstHypothesis secondHypothesis =>
    obtain ⟨inFirst, inSecond⟩ := Bool.or_eq_false_iff.mp unmentioned
    rw [remainders, remainders, firstHypothesis inFirst, secondHypothesis inSecond,
      List.map_append]
  | followed first second firstHypothesis secondHypothesis =>
    obtain ⟨inFirst, inSecond⟩ := Bool.or_eq_false_iff.mp unmentioned
    rw [remainders, remainders, firstHypothesis inFirst, List.flatMap_map, List.map_flatMap]
    exact List.flatMap_congr fun rest _ => secondHypothesis inSecond rest

/-! ## Replacing -/

section

variable {shape : Shape} (unmentioned : shape.mentions c = false) (marker : List Char)
include unmentioned

/-- A character that the shape does not look at is kept. -/
theorem replaceFrom_cons (back : List Char) :
    shape.replaceFrom marker 0 (c :: back) = c :: shape.replaceFrom marker 0 back := by
  have cut := remainders_append_cons unmentioned [] back
  rw [List.nil_append] at cut
  rw [replaceFrom, cut, List.head?_map]
  cases (shape.remainders []).head? with
  | none => rfl
  | some rest =>
    -- whatever is left holds the character, so nothing is covered
    have long : ¬(rest ++ c :: back).length ≤ back.length := by
      rw [List.length_append, List.length_cons]
      omega
    exact if_neg long

/-- A text is replaced on each side of a character that the shape does not look at, if what is
still to be left out ends in front of it.

Proof: by induction on the text in front. What is covered there is covered as if the text
ended in front of the character. -/
theorem replaceFrom_append_cons {covered : Nat} {front : List Char}
    (within : covered ≤ front.length) (back : List Char) :
    shape.replaceFrom marker covered (front ++ c :: back) =
      shape.replaceFrom marker covered front ++ c :: shape.replaceFrom marker 0 back := by
  induction front generalizing covered with
  | nil =>
    obtain rfl := Nat.le_zero.mp within
    exact replaceFrom_cons unmentioned marker back
  | cons d rest inductionHypothesis =>
    cases covered with
    | succ covered =>
      rw [List.cons_append, replaceFrom, replaceFrom]
      exact inductionHypothesis (Nat.le_of_succ_le_succ within)
    | zero =>
      have cut := remainders_append_cons unmentioned (d :: rest) back
      rw [List.cons_append] at cut ⊢
      rw [replaceFrom, replaceFrom, cut, List.head?_map]
      cases (shape.remainders (d :: rest)).head? with
      | none => simp [inductionHypothesis (Nat.zero_le _)]
      | some left =>
        have lengths : (left ++ c :: back).length ≤ (rest ++ c :: back).length ↔
            left.length ≤ rest.length := by simp
        have stretch : (rest ++ c :: back).length - (left ++ c :: back).length =
            rest.length - left.length := by
          rw [List.length_append, List.length_append, Nat.add_sub_add_right]
        simp only [Option.map_some, lengths, stretch]
        split
        · rw [inductionHypothesis (Nat.sub_le _ _), List.append_assoc]
        · rw [inductionHypothesis (Nat.zero_le _), List.cons_append]

/-- A text is replaced on each side of a character that the shape does not look at. -/
theorem replace_append_cons (marker : String) (front back : List Char) :
    shape.replace marker (front ++ c :: back) =
      shape.replace marker front ++ c :: shape.replace marker back :=
  replaceFrom_append_cons unmentioned marker.toList (Nat.zero_le _) back

end

/-- Characters that are still to be left out are left out. -/
theorem replaceFrom_append {shape : Shape} (marker front back : List Char) :
    shape.replaceFrom marker front.length (front ++ back) =
      shape.replaceFrom marker 0 back := by
  induction front with
  | nil => rfl
  | cons c rest inductionHypothesis =>
    rw [List.length_cons, List.cons_append, replaceFrom, inductionHypothesis]

/-! ## Remainders -/

/-- Two shapes one after the other leave what the second one leaves behind the first one. -/
theorem mem_remainders_followed {first second : Shape} {rest : List Char} :
    rest ∈ (followed first second).remainders text ↔
      ∃ middle ∈ first.remainders text, rest ∈ second.remainders middle :=
  List.mem_flatMap

/-- Nothing at all leaves the text. -/
theorem remainders_empty (text : List Char) : empty.remainders text = [text] := by
  cases text <;> rfl

/-! ## Preferences -/

/-- What the shape prefers to leave of a text; none if it does not cover the start of it. -/
def preferred (shape : Shape) (text : List Char) : Option (List Char) :=
  (shape.remainders text).head?

/-- A stretch that the shape prefers to cover is replaced by the marker. -/
theorem replace_of_preferred {shape : Shape} (marker : String) (nonempty : front ≠ [])
    (left : shape.preferred (front ++ back) = some back) :
    shape.replace marker (front ++ back) = marker.toList ++ shape.replace marker back := by
  obtain ⟨c, rest, rfl⟩ := List.exists_cons_of_ne_nil nonempty
  have within : back.length ≤ (rest ++ back).length := by simp
  have stretch : (rest ++ back).length - back.length = rest.length := by simp
  unfold preferred at left
  unfold replace
  rw [List.cons_append] at left ⊢
  rw [replaceFrom, left]
  simp only [within, if_true, stretch]
  rw [replaceFrom_append]

/-- Two shapes one after the other leave what the second one prefers to leave behind the first
remainder of the first one that it goes on with. -/
theorem preferred_followed (first second : Shape) (text : List Char) :
    (followed first second).preferred text =
      (first.remainders text).findSome? second.preferred :=
  List.head?_flatMap

/-- Nothing at all prefers to leave the text. -/
theorem preferred_empty (text : List Char) : empty.preferred text = some text := by
  rw [preferred, remainders_empty]
  rfl

/-! ## Characters that are given -/

/-- The characters that are asked for leave what is behind them. -/
theorem remainders_characters_append (characters rest : List Char) :
    (sequence (characters.map fun c => one (· == c))).remainders (characters ++ rest) =
      [rest] := by
  induction characters with
  | nil => cases rest <;> rfl
  | cons c others inductionHypothesis =>
    change (followed (one (· == c)) (sequence (others.map fun c => one (· == c)))).remainders
      (c :: (others ++ rest)) = _
    rw [remainders, remainders]
    simpa using inductionHypothesis

/-- The characters that are asked for cover no text that begins otherwise. -/
theorem remainders_characters_eq_nil {characters text : List Char}
    (others : ¬characters <+: text) :
    (sequence (characters.map fun c => one (· == c))).remainders text = [] := by
  induction characters generalizing text with
  | nil => exact absurd List.nil_prefix others
  | cons c more inductionHypothesis =>
    change (followed (one (· == c)) (sequence (more.map fun c => one (· == c)))).remainders
      text = _
    cases text with
    | nil => rfl
    | cons d rest =>
      rw [remainders, remainders]
      by_cases same : d = c
      · have behind : ¬more <+: rest := by simpa [same] using others
        simpa [same] using inductionHypothesis behind
      · simp [same]

/-- A text that is asked for leaves what is behind it. -/
theorem mem_remainders_exactly {asked : String} {rest : List Char} :
    rest ∈ (exactly asked).remainders text ↔ text = asked.toList ++ rest := by
  rw [exactly]
  by_cases begins : asked.toList <+: text
  · obtain ⟨behind, rfl⟩ := begins
    rw [remainders_characters_append, List.mem_singleton, List.append_cancel_left_eq, eq_comm]
  · rw [remainders_characters_eq_nil begins]
    refine ⟨nofun, fun whole => absurd ⟨rest, whole.symm⟩ begins⟩

/-- A text that is asked for leaves what is behind it to the shape that follows. -/
theorem preferred_exactly_append (asked : String) (second : Shape) (rest : List Char) :
    (followed (exactly asked) second).preferred (asked.toList ++ rest) =
      second.preferred rest := by
  rw [preferred_followed, exactly, remainders_characters_append]
  simp

/-- A text that is asked for leaves nothing of a text that begins otherwise. -/
theorem preferred_exactly_eq_none {asked : String} (others : ¬asked.toList <+: text)
    (second : Shape) : (followed (exactly asked) second).preferred text = none := by
  rw [preferred_followed, exactly, remainders_characters_eq_nil others]
  rfl

/-! ## Runs -/

/-- What a run leaves is behind characters of its class, at least as many as it must have. -/
theorem exists_taken_of_mem_run {rest : List Char}
    (left : rest ∈ (run least accepts).remainders text) :
    ∃ taken, text = taken ++ rest ∧ least ≤ taken.length ∧ ∀ c ∈ taken, accepts c = true := by
  rw [remainders, List.mem_reverse] at left
  induction text generalizing least with
  | nil =>
    cases least with
    | zero => exact ⟨[], by simpa [afterEach] using left, Nat.le_refl 0, nofun⟩
    | succ least => exact absurd left (by simp [afterEach])
  | cons c text inductionHypothesis =>
    rw [afterEach] at left
    -- the first character is taken, or it is what is left begins with
    have further {fewer : Nat}
        (left : rest ∈ (if accepts c then afterEach accepts text else []).drop fewer) :
        ∃ taken, c :: text = taken ++ rest ∧ fewer + 1 ≤ taken.length ∧
          ∀ c ∈ taken, accepts c = true := by
      cases accepted : accepts c with
      | false => simp [accepted] at left
      | true =>
        rw [accepted, if_pos rfl] at left
        obtain ⟨taken, rfl, long, all⟩ := inductionHypothesis left
        exact ⟨c :: taken, rfl, Nat.succ_le_succ long, List.forall_mem_cons.mpr ⟨accepted, all⟩⟩
    cases least with
    | zero =>
      rcases List.mem_cons.mp left with rfl | behind
      · exact ⟨[], rfl, Nat.le_refl 0, nofun⟩
      · obtain ⟨taken, whole, _, all⟩ := @further 0 behind
        exact ⟨taken, whole, Nat.zero_le _, all⟩
    | succ least => exact further left

/-- Behind characters of the class a run leaves first what it leaves without them. -/
theorem exists_remainders_run_append (all : ∀ c ∈ front, accepts c = true)
    (long : least ≤ front.length) (text : List Char) : ∃ others,
      (run least accepts).remainders (front ++ text) =
        (run 0 accepts).remainders text ++ others := by
  have cut : ∃ longer : List (List Char), longer.length = front.length ∧
      afterEach accepts (front ++ text) = longer ++ afterEach accepts text := by
    clear long
    induction front with
    | nil => exact ⟨[], rfl, rfl⟩
    | cons c rest inductionHypothesis =>
      obtain ⟨accepted, others⟩ := List.forall_mem_cons.mp all
      obtain ⟨longer, count, same⟩ := inductionHypothesis others
      refine ⟨(c :: rest ++ text) :: longer, by simp [count], ?_⟩
      rw [List.cons_append, afterEach, if_pos accepted, same]
      rfl
  obtain ⟨longer, count, same⟩ := cut
  refine ⟨(longer.drop least).reverse, ?_⟩
  rw [remainders, remainders, same, List.drop_append_of_le_length (by omega),
    List.reverse_append, List.drop_zero]

/-- A run takes all characters of its class in front, if the shape that follows goes on
behind them. -/
theorem preferred_run_append {second : Shape} {rest : List Char}
    (all : ∀ c ∈ front, accepts c = true) (long : least ≤ front.length)
    (found : (followed (run 0 accepts) second).preferred text = some rest) :
    (followed (run least accepts) second).preferred (front ++ text) = some rest := by
  obtain ⟨others, cut⟩ := exists_remainders_run_append all long text
  rw [preferred_followed] at found ⊢
  rw [cut, List.findSome?_append, found, Option.some_or]

/-- A run takes nothing of a text that begins with no character of its class. -/
theorem preferred_run_of_stops {second : Shape}
    (stops : ∀ c ∈ text.head?, accepts c = false) :
    (followed (run 0 accepts) second).preferred text = second.preferred text := by
  have cut : (run 0 accepts).remainders text = [text] := by
    cases text with
    | nil => rfl
    | cons c rest =>
      have stopped : accepts c = false := stops c rfl
      simp [remainders, afterEach, stopped]
  rw [preferred_followed, cut]
  simp

/-- A run gives back all characters up to the first one, if the shape that follows does not go
on behind it or anywhere later. -/
theorem preferred_run_of_none {second : Shape} (accepted : accepts c = true)
    (none : ∀ rest ∈ (run 0 accepts).remainders text, second.preferred rest = none) :
    (followed (run 0 accepts) second).preferred (c :: text) = second.preferred (c :: text) := by
  have cut : (run 0 accepts).remainders (c :: text) =
      (run 0 accepts).remainders text ++ [c :: text] := by
    simp [remainders, afterEach, accepted]
  rw [preferred_followed, cut, List.findSome?_append, List.findSome?_eq_none_iff.mpr none]
  simp

end DialectBridge.Redaction.Shape
