import DialectBridge.Proofs.Calendar.Totals
import DialectBridge.Proofs.Checked.Steps
import DialectBridge.Proofs.Emulation.IntervalForms

/-!
# Checked reading of intervals

The keyword of an interval is cut off by its number of octets, components are reached by their
positions, and the sign is multiplied with each of them. The keyword that was compared has only
characters of one octet, so that a character ends where it does; the parts between separators
have no minus sign, so that none of them is the least number, the only one whose opposite does
not fit; and there are as many components as the unit has fields.
-/

namespace DialectBridge.Checked

open Calendar (Duration Interval IntervalUnit)
open Emulation (Fault intervalArgument)
open Text (Utf8.width)

/-- Places the components of a quantity in the fields of its unit, each by its position. Days of
weeks that do not fit in 64 bits are refused. -/
def place (unit : IntervalUnit) (components : List Int) (refused : Halt) : Run Duration :=
  let component := element components
  match unit with
  | .second => return .clock 0 0 0 (← component 0)
  | .minute => return .clock 0 0 (← component 0) 0
  | .hour => return .clock 0 (← component 0) 0 0
  | .day => return .clock (← component 0) 0 0 0
  | .week => do
    let weeks ← component 0
    match Decimal.checked (7 * weeks) with
    | some days => return .clock days 0 0 0
    | none => throw refused
  | .minuteSecond => return .clock 0 0 (← component 0) (← component 1)
  | .hourSecond => return .clock 0 (← component 0) (← component 1) (← component 2)
  | .hourMinute => return .clock 0 (← component 0) (← component 1) 0
  | .daySecond =>
    return .clock (← component 0) (← component 1) (← component 2) (← component 3)
  | .dayMinute => return .clock (← component 0) (← component 1) (← component 2) 0
  | .dayHour => return .clock (← component 0) (← component 1) 0 0
  | .month => return .calendar 0 (← component 0)
  | .year => return .calendar (← component 0) 0
  | .yearMonth => return .calendar (← component 0) (← component 1)

/-- Reads the quantity of a unit. -/
def readQuantity (unit : IntervalUnit) (quantity : List Char) (refused : Halt) :
    Run Duration := do
  let (negative, body) := Interval.takeSign (Text.trim (Interval.strip Interval.isQuote quantity))
  match Interval.readComponents body with
  | none => throw refused
  | some parts =>
    if parts.isEmpty || parts.length > unit.components then throw refused
    else
      let missing ← size ((unit.components : Int) - parts.length)
      let sign : Int := if negative then -1 else 1
      let components ← (List.replicate missing 0 ++ parts).mapM fun part => whole (part * sign)
      place unit components refused

/-- Reads an interval argument. -/
def readInterval (text : String) : Run Interval := do
  let refused : Halt := .fault (.malformedInterval text)
  let trimmed := Text.trim text.toList
  match cutAt? Interval.keyword.length trimmed with
  | none => throw refused
  | some (front, _) =>
    if front.map Char.toLower = Interval.keyword then
      let (_, rest) ← cutAt Interval.keyword.length trimmed
      let words := Text.words rest
      match words.getLast?, words.dropLast with
      | some unitWord, first :: others =>
        match IntervalUnit.ofName? (Text.lower unitWord) with
        | none => throw refused
        | some unit =>
          let duration ← readQuantity unit (Interval.joinWords (first :: others)) refused
          return ⟨unit, duration⟩
      | _, _ => throw refused
    else throw refused

/-! ## The keyword -/

/-- A character whose small form is a small letter has one octet. -/
theorem utf8Size_of_toLower {c : Char} (letter : c.toLower.isAlpha = true) : c.utf8Size = 1 := by
  have ascii : c.toNat ≤ 127 := by
    by_cases capital : 65 ≤ c.toNat ∧ c.toNat ≤ 90
    · omega
    · rw [Text.toLower_of_not_capital capital] at letter
      have codes := Text.isAlpha_iff.mp letter
      omega
  exact Char.utf8Size_eq_one_iff.mpr (UInt32.le_iff_toNat_le.mpr ascii)

/-- A text whose small form has only small letters has one octet for each of them. -/
theorem width_of_toLower {text : List Char} (letters : ∀ c ∈ text, c.toLower.isAlpha = true) :
    Utf8.width text = text.length := by
  induction text with
  | nil => rfl
  | cons c rest inductionHypothesis =>
    obtain ⟨first, others⟩ := List.forall_mem_cons.mp letters
    rw [width_cons, utf8Size_of_toLower first, inductionHypothesis others, List.length_cons,
      Nat.add_comm]

/-- The keyword has as many octets as letters, whatever their case. -/
theorem width_of_keyword {front : List Char}
    (isKeyword : front.map Char.toLower = Interval.keyword) :
    Utf8.width front = Interval.keyword.length := by
  have letters : ∀ c ∈ front, c.toLower.isAlpha = true := by
    intro c member
    have all : ∀ d ∈ Interval.keyword, d.isAlpha = true := by decide
    exact all _ (isKeyword ▸ List.mem_map_of_mem member)
  rw [width_of_toLower letters, ← isKeyword, List.length_map]

/-- A text that begins with the keyword is cut behind it, where its octets end. -/
theorem cutAt?_keyword {text rest : List Char}
    (begins : Interval.afterKeyword? text = some rest) :
    ∃ front, front.map Char.toLower = Interval.keyword ∧
      cutAt? Interval.keyword.length text = some (front, rest) := by
  unfold Interval.afterKeyword? at begins
  split at begins
  · next isKeyword =>
    obtain rfl := Option.some.inj begins
    refine ⟨text.take Interval.keyword.length, isKeyword, ?_⟩
    have cut := cutAt?_width (text.take Interval.keyword.length)
      (text.drop Interval.keyword.length)
    rwa [width_of_keyword isKeyword, List.take_append_drop] at cut
  · simp at begins

/-- A text that does not begin with the keyword is not cut behind it. -/
theorem not_keyword_of_cutAt? {text front rest : List Char}
    (begins : Interval.afterKeyword? text = none)
    (cut : cutAt? Interval.keyword.length text = some (front, rest)) :
    front.map Char.toLower ≠ Interval.keyword := by
  intro isKeyword
  obtain ⟨rfl, _⟩ := of_cutAt? cut
  have followed := Interval.afterKeyword?_append isKeyword rest
  rw [begins] at followed
  simp at followed

/-! ## The quantity -/

/-- As many components as the unit has fields are placed. -/
theorem place_eq {unit : IntervalUnit} {components : List Int}
    (count : components.length = unit.components) (refused : Halt) :
    place unit components refused =
      match Duration.ofComponents? unit components with
      | some duration => .ok duration
      | none => .error refused := by
  cases unit with
  | week =>
    obtain ⟨weeks, rfl⟩ := List.length_eq_one_iff.mp count
    unfold place Duration.ofComponents?
    cases days : Decimal.checked (7 * weeks) with
    | none => simp [element, bind, Except.bind, days, throw, throwThe, MonadExceptOf.throw]
    | some days => simp [element, bind, Except.bind, days, pure, Except.pure]
  | second | minute | hour | day | month | year =>
    obtain ⟨component, rfl⟩ := List.length_eq_one_iff.mp count
    rfl
  | minuteSecond | hourMinute | dayHour | yearMonth =>
    obtain ⟨first, second, rfl⟩ := List.length_eq_two.mp count
    rfl
  | hourSecond | dayMinute =>
    obtain ⟨first, second, third, rfl⟩ := List.length_eq_three.mp count
    rfl
  | daySecond =>
    obtain ⟨first, rest, rfl⟩ := List.exists_cons_of_length_eq_add_one count
    obtain ⟨second, third, fourth, rfl⟩ := List.length_eq_three.mp (Nat.succ.inj count)
    rfl

/-- Components that are not negative have their sign without a breach. -/
theorem mapM_whole {components : List Int}
    (bounds : ∀ n ∈ components, 0 ≤ n ∧ n ≤ Decimal.maxInt64) (negative : Bool) :
    components.mapM (fun part => whole (part * if negative then -1 else 1)) =
      .ok (if negative then components.map (- ·) else components) := by
  induction components with
  | nil =>
    rw [List.mapM_nil]
    cases negative <;> rfl
  | cons first others inductionHypothesis =>
    obtain ⟨⟨least, most⟩, behind⟩ := List.forall_mem_cons.mp bounds
    have signed : whole (first * if negative then -1 else 1) =
        .ok (if negative then -first else first) := by
      unfold Decimal.maxInt64 at most
      cases negative
      · rw [if_neg Bool.false_ne_true, if_neg Bool.false_ne_true, Int.mul_one, whole_eq]
        unfold Decimal.minInt64 Decimal.maxInt64
        omega
      · rw [if_pos rfl, if_pos rfl, Int.mul_neg_one, whole_eq]
        unfold Decimal.minInt64 Decimal.maxInt64
        omega
    rw [List.mapM_cons, signed, inductionHypothesis behind]
    cases negative <;> rfl

/-- A quantity is read without a breach. -/
theorem readQuantity_eq (unit : IntervalUnit) (quantity : List Char) (refused : Halt) :
    readQuantity unit quantity refused =
      match Interval.readQuantity unit quantity with
      | some duration => .ok duration
      | none => .error refused := by
  unfold readQuantity Interval.readQuantity
  generalize Interval.takeSign (Text.trim (Interval.strip Interval.isQuote quantity)) = signed
  obtain ⟨negative, body⟩ := signed
  dsimp only
  cases listed : Interval.readComponents body with
  | none => rfl
  | some parts =>
    unfold Interval.padComponents
    rw [Option.bind_some]
    dsimp only
    by_cases unfit : (parts.isEmpty || parts.length > unit.components) = true
    · rw [if_pos unfit, if_pos unfit]
      rfl
    · have within : parts.length ≤ unit.components := by
        simp only [Bool.or_eq_true, decide_eq_true_eq, not_or, Nat.not_lt] at unfit
        exact unfit.2
      have missing : size ((unit.components : Int) - parts.length) =
          .ok (unit.components - parts.length) := by
        have few : unit.components ≤ 4 := by cases unit <;> decide
        rw [← Int.ofNat_sub within]
        apply size_natCast
        unfold Decimal.maxInt64
        omega
      have bounds : ∀ n ∈ List.replicate (unit.components - parts.length) 0 ++ parts,
          0 ≤ n ∧ n ≤ Decimal.maxInt64 := by
        intro n member
        rcases List.mem_append.mp member with zero | component
        · rw [List.eq_of_mem_replicate zero]
          decide
        · exact Interval.bounds_of_readComponents listed n component
      have count : (if negative then
            (List.replicate (unit.components - parts.length) 0 ++ parts).map (- ·)
          else List.replicate (unit.components - parts.length) 0 ++ parts).length =
          unit.components := by
        cases negative <;> simp <;> omega
      rw [if_neg unfit, if_neg unfit, missing, ok_bind, mapM_whole bounds, ok_bind,
        place_eq count, Option.bind_some]

/-- An interval argument is read without a breach. -/
theorem readInterval_eq (text : String) :
    readInterval text = unbreached (intervalArgument text) := by
  unfold readInterval intervalArgument Interval.read
  dsimp only
  cases begins : Interval.afterKeyword? (Text.trim text.toList) with
  | none =>
    cases cut : cutAt? Interval.keyword.length (Text.trim text.toList) with
    | none => rfl
    | some parts =>
      obtain ⟨front, rest⟩ := parts
      dsimp only
      rw [if_neg (not_keyword_of_cutAt? begins cut)]
      rfl
  | some rest =>
    obtain ⟨front, isKeyword, cut⟩ := cutAt?_keyword begins
    have sliced : cutAt Interval.keyword.length (Text.trim text.toList) = .ok (front, rest) := by
      unfold cutAt
      rw [cut]
    rw [cut]
    dsimp only
    rw [if_pos isKeyword, sliced, ok_bind, Option.bind_some]
    dsimp only
    cases (Text.words rest).getLast? with
    | none => rfl
    | some unitWord =>
      cases (Text.words rest).dropLast with
      | nil => rfl
      | cons first others =>
        dsimp only
        cases IntervalUnit.ofName? (Text.lower unitWord) with
        | none => rfl
        | some unit =>
          rw [Option.bind_some]
          dsimp only
          rw [readQuantity_eq]
          cases Interval.readQuantity unit (Interval.joinWords (first :: others)) <;> rfl

end DialectBridge.Checked
