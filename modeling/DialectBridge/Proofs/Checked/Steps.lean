import DialectBridge.Emulation.Table
import DialectBridge.Proofs.Decimal.WholeNumbers

/-!
# Steps that a machine can fail at

On a machine some steps have no result: reading an argument that is not there, cutting a text
inside of a character, and numbers that do not fit in their bits. Here such a step ends a run
with a breach, which is no fault: a fault is an answer, a breach is none. The steps are those
that are not checked beforehand; where a sum or a product is checked, and gives nothing if it
does not fit, that is part of what is computed and not a breach.
-/

namespace DialectBridge.Checked

open Emulation (Environment Fault)
open Text (Utf8.width)

/-- What a run must not do. -/
inductive Breach where
  | noElement (index : Nat)
  | noBoundary (offset : Nat)
  | outOfRange (number : Int)
  deriving DecidableEq, Repr

/-- What ends a run without a value. -/
inductive Halt where
  | fault (fault : Fault)
  | breach (breach : Breach)
  deriving DecidableEq, Repr

/-- A run of several steps. -/
abbrev Run := Except Halt

variable {α β : Type}

/-- A run of steps none of which can be a breach. -/
def unbreached (run : Except Fault α) : Run α := run.mapError .fault

/-- A value that is given without a breach is given. -/
theorem unbreached_ok (value : α) : unbreached (.ok value) = .ok value := rfl

/-- Steps of which none can be a breach, one after the other. -/
theorem unbreached_bind (first : Except Fault α) (next : α → Except Fault β) :
    unbreached (first >>= next) = unbreached first >>= fun value => unbreached (next value) := by
  cases first <;> rfl

/-- A run goes on with the value that it has. -/
theorem ok_bind (value : α) (next : α → Run β) : (.ok value >>= next) = next value := rfl

/-! ## Elements -/

/-- The element at a position. -/
def element (items : List α) (index : Nat) : Run α :=
  match items[index]? with
  | some item => .ok item
  | none => .error (.breach (.noElement index))

/-- One call of a function that computes a value. -/
structure Call where
  name : String
  arguments : List Value
  env : Environment

/-- The argument at a position. Nothing but the arity of the function makes sure of it. -/
def Call.argument (call : Call) (index : Nat) : Run Value := element call.arguments index

/-! ## Numbers -/

/-- A signed number of 64 bits. -/
def whole (number : Int) : Run Int :=
  if Decimal.minInt64 ≤ number ∧ number ≤ Decimal.maxInt64 then .ok number
  else .error (.breach (.outOfRange number))

/-- An unsigned number of 64 bits, such as counts and offsets are. -/
def size (number : Int) : Run Nat :=
  if 0 ≤ number ∧ number < 0x10000000000000000 then .ok number.toNat
  else .error (.breach (.outOfRange number))

/-- A number within the range is kept. -/
theorem whole_eq {number : Int}
    (fits : Decimal.minInt64 ≤ number ∧ number ≤ Decimal.maxInt64) : whole number = .ok number :=
  if_pos fits

/-- A count below the greatest signed number is kept as one. -/
theorem whole_natCast {count : Nat} (fits : (count : Int) ≤ Decimal.maxInt64) :
    whole count = .ok count :=
  whole_eq ⟨Int.le_trans (by decide) (Int.natCast_nonneg count), fits⟩

/-- A count up to the greatest signed number is an unsigned one. -/
theorem size_natCast {count : Nat} (fits : (count : Int) ≤ Decimal.maxInt64) :
    size count = .ok count := by
  unfold Decimal.maxInt64 at fits
  exact if_pos (by omega)

/-! ## Texts -/

/-- Cuts a text at an offset that counts octets; none if no character begins or ends there. -/
def cutAt? (offset : Nat) (text : List Char) : Option (List Char × List Char) :=
  if offset = 0 then some ([], text)
  else match text with
    | [] => none
    | c :: rest =>
      if c.utf8Size ≤ offset then
        (cutAt? (offset - c.utf8Size) rest).map fun (front, back) => (c :: front, back)
      else none

/-- Cuts a text at an offset, which must be between characters. -/
def cutAt (offset : Nat) (text : List Char) : Run (List Char × List Char) :=
  match cutAt? offset text with
  | some parts => .ok parts
  | none => .error (.breach (.noBoundary offset))

/-- The octets of a text with one more character in front. -/
theorem width_cons (c : Char) (text : List Char) :
    Utf8.width (c :: text) = c.utf8Size + Utf8.width text := rfl

/-- The octets of a text are those of its parts. -/
theorem width_append (front back : List Char) :
    Utf8.width (front ++ back) = Utf8.width front + Utf8.width back := by
  induction front with
  | nil => exact (Nat.zero_add _).symm
  | cons c front inductionHypothesis =>
    rw [List.cons_append, width_cons, width_cons, inductionHypothesis, Nat.add_assoc]

/-- A text has at least as many octets as characters. -/
theorem length_le_width (text : List Char) : text.length ≤ Utf8.width text := by
  induction text with
  | nil => exact Nat.le_refl 0
  | cons c rest inductionHypothesis =>
    have octet := Char.utf8Size_pos c
    rw [width_cons, List.length_cons]
    omega

/-- A text is cut where a part of it ends. -/
theorem cutAt?_width (front back : List Char) :
    cutAt? (Utf8.width front) (front ++ back) = some (front, back) := by
  induction front with
  | nil =>
    unfold cutAt?
    exact if_pos rfl
  | cons c front inductionHypothesis =>
    have octet := Char.utf8Size_pos c
    have rest : c.utf8Size + Utf8.width front - c.utf8Size = Utf8.width front :=
      Nat.add_sub_cancel_left _ _
    unfold cutAt?
    rw [width_cons, List.cons_append, if_neg (by omega)]
    dsimp only
    rw [if_pos (Nat.le_add_right _ _), rest, inductionHypothesis]
    rfl

/-- A text that is cut consists of its parts, and the first one has as many octets as the offset
counts. -/
theorem of_cutAt? {offset : Nat} {text front back : List Char}
    (cut : cutAt? offset text = some (front, back)) :
    text = front ++ back ∧ Utf8.width front = offset := by
  induction text generalizing offset front with
  | nil =>
    unfold cutAt? at cut
    split at cut
    · next start =>
      obtain ⟨rfl, rfl⟩ := Prod.mk.inj (Option.some.inj cut)
      exact ⟨rfl, start.symm⟩
    · simp at cut
  | cons c rest inductionHypothesis =>
    unfold cutAt? at cut
    split at cut
    · next start =>
      obtain ⟨rfl, rfl⟩ := Prod.mk.inj (Option.some.inj cut)
      exact ⟨rfl, start.symm⟩
    · dsimp only at cut
      split at cut
      · next fits =>
        obtain ⟨⟨inner, outer⟩, found, same⟩ := Option.map_eq_some_iff.mp cut
        obtain ⟨rfl, rfl⟩ := Prod.mk.inj same
        obtain ⟨whole, width⟩ := inductionHypothesis found
        refine ⟨congrArg (c :: ·) whole, ?_⟩
        rw [width_cons, width]
        omega
      · simp at cut

/-- A text is cut where a part of it ends, and that is no breach. -/
theorem cutAt_width (front back : List Char) :
    cutAt (Utf8.width front) (front ++ back) = .ok (front, back) := by
  unfold cutAt
  rw [cutAt?_width]

end DialectBridge.Checked
