import DialectBridge.Proofs.Redaction.Shapes

/-!
# What a shape matches

A shape denotes the stretches of text that look as it says, built up with the shape: a class
matches one of its characters, a run any number from the least one on, and two shapes one after
the other match what falls into a part for each. The remainders that are computed of a text are
just what stands behind a stretch at the start of it that the shape matches, and with that a
shape can be told from the stretches that it matches without looking at how they are searched
for.
-/

namespace DialectBridge.Redaction.Shape

/-- Whether a stretch of text looks as the shape says. -/
def Matches : Shape → List Char → Prop
  | one accepts, stretch => ∃ c, stretch = [c] ∧ accepts c = true
  | run least accepts, stretch => least ≤ stretch.length ∧ ∀ c ∈ stretch, accepts c = true
  | optional shape, stretch => shape.Matches stretch ∨ stretch = []
  | either first second, stretch => first.Matches stretch ∨ second.Matches stretch
  | followed first second, stretch =>
    ∃ front back, stretch = front ++ back ∧ first.Matches front ∧ second.Matches back

variable {shape : Shape} {c : Char} {stretch rest text : List Char}

/-! ## Matching and covering -/

/-- A run leaves what stands behind characters of its class, if these are as many as it must
have. -/
theorem mem_remainders_run {least : Nat} {accepts : Char → Bool} :
    rest ∈ (run least accepts).remainders text ↔
      ∃ taken, text = taken ++ rest ∧ (run least accepts).Matches taken := by
  constructor
  · exact exists_taken_of_mem_run
  · rintro ⟨taken, rfl, long, all⟩
    obtain ⟨others, cut⟩ := exists_remainders_run_append all long rest
    rw [cut]
    -- with nothing more taken, the run leaves all that is behind
    have whole : rest ∈ (run 0 accepts).remainders rest := by
      cases rest <;> simp [remainders, afterEach]
    exact List.mem_append_left others whole

/-- A shape leaves what stands behind a stretch at the start of the text that it matches.

Proof: by induction on the shape. -/
theorem mem_remainders_iff :
    rest ∈ shape.remainders text ↔ ∃ taken, text = taken ++ rest ∧ shape.Matches taken := by
  induction shape generalizing text rest with
  | one accepts =>
    cases text with
    | nil =>
      refine ⟨nofun, ?_⟩
      rintro ⟨_, same, d, rfl, _⟩
      exact absurd same (by simp)
    | cons c others =>
      rw [remainders]
      constructor
      · intro left
        split at left
        · obtain rfl := List.mem_singleton.mp left
          exact ⟨[c], rfl, c, rfl, ‹_›⟩
        · exact absurd left List.not_mem_nil
      · rintro ⟨_, same, d, rfl, accepted⟩
        obtain ⟨rfl, rfl⟩ := List.cons.inj same
        rw [if_pos accepted]
        exact List.mem_singleton.mpr rfl
  | run least accepts => exact mem_remainders_run
  | optional shape inductionHypothesis =>
    rw [remainders, List.mem_append, List.mem_singleton, inductionHypothesis]
    constructor
    · rintro (⟨taken, same, matched⟩ | rfl)
      · exact ⟨taken, same, .inl matched⟩
      · exact ⟨[], rfl, .inr rfl⟩
    · rintro ⟨taken, same, matched | rfl⟩
      · exact .inl ⟨taken, same, matched⟩
      · exact .inr same.symm
  | either first second firstHypothesis secondHypothesis =>
    rw [remainders, List.mem_append, firstHypothesis, secondHypothesis]
    constructor
    · rintro (⟨taken, same, matched⟩ | ⟨taken, same, matched⟩)
      · exact ⟨taken, same, .inl matched⟩
      · exact ⟨taken, same, .inr matched⟩
    · rintro ⟨taken, same, matched | matched⟩
      · exact .inl ⟨taken, same, matched⟩
      · exact .inr ⟨taken, same, matched⟩
  | followed first second firstHypothesis secondHypothesis =>
    rw [mem_remainders_followed]
    constructor
    · rintro ⟨middle, inFirst, inSecond⟩
      obtain ⟨front, rfl, matchedFront⟩ := firstHypothesis.mp inFirst
      obtain ⟨back, rfl, matchedBack⟩ := secondHypothesis.mp inSecond
      exact ⟨front ++ back, (List.append_assoc ..).symm, front, back, rfl, matchedFront,
        matchedBack⟩
    · rintro ⟨_, rfl, front, back, rfl, matchedFront, matchedBack⟩
      exact ⟨back ++ rest, firstHypothesis.mpr ⟨front, List.append_assoc .., matchedFront⟩,
        secondHypothesis.mpr ⟨back, rfl, matchedBack⟩⟩

/-- A text is covered from end to end where the shape matches it. -/
theorem covers_iff_matches : shape.covers text = true ↔ shape.Matches text := by
  rw [covers, List.contains_iff_mem, mem_remainders_iff]
  simp

/-! ## Where a match begins -/

/-- Whether a stretch at the start of the text has the shape. -/
def Begins (shape : Shape) (text : List Char) : Prop :=
  ∃ taken rest, text = taken ++ rest ∧ shape.Matches taken

/-- A shape begins a text of which it leaves something. -/
theorem begins_iff : shape.Begins text ↔ shape.remainders text ≠ [] := by
  constructor
  · rintro ⟨taken, rest, same, matched⟩
    exact List.ne_nil_of_mem (mem_remainders_iff.mpr ⟨taken, same, matched⟩)
  · intro leaves
    obtain ⟨rest, left⟩ := List.exists_mem_of_ne_nil _ leaves
    obtain ⟨taken, same, matched⟩ := mem_remainders_iff.mp left
    exact ⟨taken, rest, same, matched⟩

/-- Whether a shape begins a text is decided by what it leaves of it. -/
instance (shape : Shape) (text : List Char) : Decidable (shape.Begins text) :=
  decidable_of_iff _ begins_iff.symm

/-- What begins a text begins it whatever is put behind. -/
theorem Begins.append (begins : shape.Begins text) (more : List Char) :
    shape.Begins (text ++ more) := by
  obtain ⟨taken, rest, rfl, matched⟩ := begins
  exact ⟨taken, rest ++ more, List.append_assoc .., matched⟩

/-- A match does not reach a character that the shape does not look at. -/
theorem Begins.of_append_cons (unmentioned : shape.mentions c = false) {front back : List Char}
    (begins : shape.Begins (front ++ c :: back)) : shape.Begins front := by
  rw [begins_iff, remainders_append_cons unmentioned] at begins
  exact begins_iff.mpr fun none => begins (by rw [none, List.map_nil])

/-- No stretch of the text has the shape. -/
def AbsentFrom (shape : Shape) (text : List Char) : Prop :=
  ∀ stretch, stretch <:+: text → ¬shape.Matches stretch

/-- A shape is absent from a text that it begins at no place of. -/
theorem absentFrom_iff : shape.AbsentFrom text ↔ ∀ rest, rest <:+ text → ¬shape.Begins rest := by
  constructor
  · rintro absent _ ⟨before, rfl⟩ ⟨taken, rest, rfl, matched⟩
    exact absent taken ⟨before, rest, List.append_assoc ..⟩ matched
  · rintro nowhere stretch ⟨before, behind, rfl⟩ matched
    exact nowhere (stretch ++ behind) ⟨before, (List.append_assoc ..).symm⟩
      ⟨stretch, behind, rfl, matched⟩

/-- A shape is absent from a text that it does not begin if it is absent from all but the first
character. -/
theorem absentFrom_cons :
    shape.AbsentFrom (c :: text) ↔ ¬shape.Begins (c :: text) ∧ shape.AbsentFrom text := by
  simp only [absentFrom_iff, List.suffix_cons_iff, forall_eq_or_imp]

/-- A shape that begins at no place of the text in front is absent from the whole if it is absent
from what is behind. -/
theorem AbsentFrom.prepend {front back : List Char} (absent : shape.AbsentFrom back)
    (nowhere : ∀ part, part ≠ [] → part <:+ front → ¬shape.Begins (part ++ back)) :
    shape.AbsentFrom (front ++ back) := by
  induction front with
  | nil => exact absent
  | cons c front inductionHypothesis =>
    exact absentFrom_cons.mpr ⟨nowhere (c :: front) (List.cons_ne_nil c front) List.suffix_rfl,
      inductionHypothesis fun part nonempty ending =>
        nowhere part nonempty (ending.trans (List.suffix_cons c front))⟩

/-- What is absent from a text is absent from a stretch of it. -/
theorem AbsentFrom.of_infix (absent : shape.AbsentFrom text) {part : List Char}
    (within : part <:+: text) : shape.AbsentFrom part :=
  fun stretch inPart => absent stretch (inPart.trans within)

/-- The search for a shape in a text fails where the shape is absent from it. -/
theorem occursIn_eq_false_iff : shape.occursIn text = false ↔ shape.AbsentFrom text := by
  induction text with
  | nil =>
    rw [occursIn, absentFrom_iff]
    simp [begins_iff]
  | cons c text inductionHypothesis =>
    rw [occursIn, Bool.or_eq_false_iff, inductionHypothesis, absentFrom_cons, begins_iff]
    simp

/-- Whether a shape is absent from a text is decided by searching for it. -/
instance (shape : Shape) (text : List Char) : Decidable (shape.AbsentFrom text) :=
  decidable_of_iff _ occursIn_eq_false_iff

/-! ## The characters of a match -/

/-- A shape looks at all characters of what it matches. -/
theorem mentions_of_matches (matched : shape.Matches stretch) (member : c ∈ stretch) :
    shape.mentions c = true := by
  induction shape generalizing stretch with
  | one accepts =>
    obtain ⟨d, rfl, accepted⟩ := matched
    obtain rfl := List.mem_singleton.mp member
    exact accepted
  | run least accepts => exact matched.2 c member
  | optional shape inductionHypothesis =>
    rcases matched with matched | rfl
    · exact inductionHypothesis matched member
    · exact absurd member List.not_mem_nil
  | either first second firstHypothesis secondHypothesis =>
    rw [mentions, Bool.or_eq_true]
    rcases matched with matched | matched
    · exact .inl (firstHypothesis matched member)
    · exact .inr (secondHypothesis matched member)
  | followed first second firstHypothesis secondHypothesis =>
    obtain ⟨front, back, rfl, matchedFront, matchedBack⟩ := matched
    rw [mentions, Bool.or_eq_true]
    rcases List.mem_append.mp member with inFront | inBack
    · exact .inl (firstHypothesis matchedFront inFront)
    · exact .inr (secondHypothesis matchedBack inBack)

/-- Whether the shape can match nothing at all. -/
def nullable : Shape → Bool
  | one _ => false
  | run least _ => least == 0
  | optional _ => true
  | either first second => first.nullable || second.nullable
  | followed first second => first.nullable && second.nullable

/-- Whether what the shape matches can begin with a character. -/
def opens : Shape → Char → Bool
  | one accepts, c => accepts c
  | run _ accepts, c => accepts c
  | optional shape, c => shape.opens c
  | either first second, c => first.opens c || second.opens c
  | followed first second, c => first.opens c || (first.nullable && second.opens c)

/-- A shape that matches nothing at all is one that can. -/
theorem nullable_of_matches_nil (matched : shape.Matches []) : shape.nullable = true := by
  induction shape with
  | one accepts =>
    obtain ⟨c, same, _⟩ := matched
    exact absurd same (by simp)
  | run least accepts => exact beq_iff_eq.mpr (Nat.le_zero.mp matched.1)
  | optional shape => rfl
  | either first second firstHypothesis secondHypothesis =>
    exact Bool.or_eq_true_iff.mpr (matched.imp firstHypothesis secondHypothesis)
  | followed first second firstHypothesis secondHypothesis =>
    obtain ⟨front, back, same, matchedFront, matchedBack⟩ := matched
    obtain ⟨rfl, rfl⟩ := List.append_eq_nil_iff.mp same.symm
    exact Bool.and_eq_true_iff.mpr ⟨firstHypothesis matchedFront, secondHypothesis matchedBack⟩

/-- What a shape matches begins with a character that it opens with. -/
theorem opens_of_matches (matched : shape.Matches (c :: stretch)) : shape.opens c = true := by
  induction shape generalizing stretch with
  | one accepts =>
    obtain ⟨d, same, accepted⟩ := matched
    obtain ⟨rfl, _⟩ := List.cons.inj same
    exact accepted
  | run least accepts => exact matched.2 c List.mem_cons_self
  | optional shape inductionHypothesis =>
    exact inductionHypothesis (matched.resolve_right (by simp))
  | either first second firstHypothesis secondHypothesis =>
    exact Bool.or_eq_true_iff.mpr (matched.imp firstHypothesis secondHypothesis)
  | followed first second firstHypothesis secondHypothesis =>
    obtain ⟨front, back, same, matchedFront, matchedBack⟩ := matched
    rw [opens, Bool.or_eq_true, Bool.and_eq_true]
    -- the character is the first one of the part in front, unless this part is empty
    cases front with
    | nil =>
      obtain rfl : c :: stretch = back := same
      exact .inr ⟨nullable_of_matches_nil matchedFront, secondHypothesis matchedBack⟩
    | cons d others =>
      obtain ⟨rfl, _⟩ := List.cons.inj same
      exact .inl (firstHypothesis matchedFront)

/-- A text that is asked for is matched by itself only. -/
theorem matches_exactly {asked : String} : (exactly asked).Matches stretch ↔
    stretch = asked.toList := by
  have alone : [] ∈ (exactly asked).remainders stretch ↔ (exactly asked).Matches stretch := by
    rw [mem_remainders_iff]
    simp
  rw [← alone, mem_remainders_exactly, List.append_nil]

end DialectBridge.Redaction.Shape
