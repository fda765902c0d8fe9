import DialectBridge.Proofs.Checked.DateCalls
import DialectBridge.Proofs.Checked.TextCalls
import DialectBridge.Proofs.Emulation.Calling

/-!
# Checked calls of the table

A call finds its function under any of its names, and nothing but the arity of the function makes
sure of the arguments that it then reads by their positions. A call is followed step by step, each
of which could be a breach, and comes to what the function is said to give. The arguments are
values in memory and are a list there; which values they are does not matter.
-/

namespace DialectBridge.Checked

open Emulation (Arity Environment Fault Outcome ValueFunction)

/-- What a value function does in a call. -/
def apply (function : ValueFunction) (call : Call) : Run Value :=
  match function with
  | .month => datePart (·.date.month) call
  | .year => datePart (·.date.year) call
  | .day => datePart (·.date.day) call
  | .hour => hour call
  | .minute => datePart (·.clock.minute) call
  | .second => datePart (·.clock.second) call
  | .unixTimestamp => unixTimestamp call
  | .now | .utcTimestamp => return .text (Calendar.writeMoment call.env.now)
  | .currentDate | .utcDate => return .text (Calendar.writeDate call.env.now)
  | .utcTime => return .text (Calendar.writeTime call.env.now)
  | .fromUnixTime => fromUnixTime call
  | .dateFormat => dateFormat call
  | .dateAdd => shiftDate false call
  | .dateSub => shiftDate true call
  | .dateDiff => dateDiff call
  | .charLength => charLength call
  | .md5 => digest call
  | .concat => concat call
  | .field => fieldPosition call.env.catalog call.arguments
  | .locate => locate call
  | .regexp => regexp call
  | .inetNtoa => inetNtoa call
  | .inetAton => inetAton call
  | .rand => return .integer (if call.env.coin then 1 else 0)
  | .log => return Emulation.logarithm call.arguments
  | .isNull => isNull call
  | .choose => choose call
  | .version => return .text call.env.version

/-- A call of the table: the name is looked up, the arguments are counted, and the function is
applied to them, or written with them. -/
def call (env : Environment) (name : String) (arguments : List Value) : Run Outcome := do
  let function ← unbreached (Emulation.resolve name)
  unbreached (Emulation.checkArity function arguments.length)
  match function with
  | .value function => do
    let value ← apply function ⟨function.name, arguments, env⟩
    return .value value
  | .rewrite function => return .fragment (function.fragment (arguments.map Value.sqlLiteral))

/-- Arguments as they can be in memory. -/
structure ArgumentsInMemory (arguments : List Value) : Prop where
  few : (arguments.length : Int) ≤ Decimal.maxInt64
  each : ∀ value ∈ arguments, InMemory value

/-! ## Counted arguments -/

section Counts

variable {arguments : List Value} {least most : Nat}

/-- An exact arity accepts one number of arguments. -/
theorem length_of_exactly (accepted : (Arity.exactly least).accepts arguments.length = true) :
    arguments.length = least :=
  beq_iff_eq.mp accepted

/-- Where one argument is accepted, there is one. -/
theorem exists_one (accepted : (Arity.exactly 1).accepts arguments.length = true) :
    ∃ value, arguments = [value] :=
  List.length_eq_one_iff.mp (length_of_exactly accepted)

/-- Where two arguments are accepted, there are two. -/
theorem exists_two (accepted : (Arity.exactly 2).accepts arguments.length = true) :
    ∃ first second, arguments = [first, second] :=
  List.length_eq_two.mp (length_of_exactly accepted)

/-- A range of numbers of arguments is accepted from the least to the greatest. -/
theorem length_of_between (accepted : (Arity.between least most).accepts arguments.length = true) :
    least ≤ arguments.length ∧ arguments.length ≤ most := by
  unfold Arity.accepts at accepted
  simpa using accepted

/-- Arguments that pass the check are as many as the function accepts. -/
theorem accepted_of_checkArity {function : Emulation.Function} {count : Nat}
    (counted : Emulation.checkArity function count = .ok ()) :
    function.arity.accepts count = true := by
  unfold Emulation.checkArity at counted
  by_contra refused
  rw [if_neg refused] at counted
  simp at counted

end Counts

/-- So many arguments as a function accepts are enough for each position that it reads: it is
applied without a breach.

Proof: by cases on the function. Its arity says how many arguments there are, so that they can be
named, and each position that is read is that of a named one. -/
theorem apply_eq (function : ValueFunction) (env : Environment) {arguments : List Value}
    (accepted : function.arity.accepts arguments.length = true)
    (inMemory : ArgumentsInMemory arguments) :
    apply function ⟨function.name, arguments, env⟩ = unbreached (function.apply env arguments) := by
  have each := inMemory.each
  cases function with
  | now | currentDate | utcDate | utcTime | utcTimestamp | rand | version =>
    obtain rfl := List.length_eq_zero_iff.mp (length_of_exactly accepted)
    rfl
  | year =>
    obtain ⟨date, rfl⟩ := exists_one accepted
    apply datePart_eq rfl
    intro moment
    exact (parts_fit moment).1
  | month | day | minute | second =>
    obtain ⟨date, rfl⟩ := exists_one accepted
    apply datePart_eq rfl
    intro moment
    obtain ⟨_, months, days, _, minutes, seconds⟩ := parts_fit moment
    exact natCast_fits (by omega)
  | hour =>
    obtain ⟨date, rfl⟩ := exists_one accepted
    exact hour_eq rfl
  | unixTimestamp =>
    obtain ⟨least, most⟩ := length_of_between accepted
    have count : arguments.length = 0 ∨ arguments.length = 1 := by omega
    rcases count with none | one
    · obtain rfl := List.length_eq_zero_iff.mp none
      exact integer_eq env.now.timestamp_fits
    · obtain ⟨date, rfl⟩ := List.length_eq_one_iff.mp one
      exact unixTimestamp_eq rfl
  | fromUnixTime =>
    obtain ⟨least, most⟩ := length_of_between accepted
    have count : arguments.length = 1 ∨ arguments.length = 2 := by omega
    rcases count with one | two
    · obtain ⟨timestamp, rfl⟩ := List.length_eq_one_iff.mp one
      exact fromUnixTime_one rfl
    · obtain ⟨timestamp, format, rfl⟩ := List.length_eq_two.mp two
      exact fromUnixTime_two rfl (each format (by simp))
  | dateFormat =>
    obtain ⟨date, format, rfl⟩ := exists_two accepted
    exact dateFormat_eq rfl rfl (each format (by simp))
  | dateAdd | dateSub =>
    obtain ⟨date, interval, rfl⟩ := exists_two accepted
    exact shiftDate_eq _ rfl rfl
  | dateDiff =>
    obtain ⟨left, right, rfl⟩ := exists_two accepted
    exact dateDiff_eq rfl rfl
  | charLength =>
    obtain ⟨text, rfl⟩ := exists_one accepted
    exact charLength_eq rfl (each text (by simp))
  | md5 =>
    obtain ⟨message, rfl⟩ := exists_one accepted
    exact digest_eq rfl
  | concat => exact concat_eq _
  | field => exact fieldPosition_eq env.catalog inMemory.few
  | log => rfl
  | locate =>
    obtain ⟨least, most⟩ := length_of_between accepted
    have count : arguments.length = 2 ∨ arguments.length = 3 := by omega
    rcases count with two | three
    · obtain ⟨stretch, text, rfl⟩ := List.length_eq_two.mp two
      exact locate_eq rfl rfl (each text (by simp))
    · obtain ⟨stretch, text, start, rfl⟩ := List.length_eq_three.mp three
      exact locate_eq rfl rfl (each text (by simp))
  | regexp =>
    obtain ⟨text, pattern, rfl⟩ := exists_two accepted
    exact regexp_eq rfl rfl
  | inetNtoa =>
    obtain ⟨address, rfl⟩ := exists_one accepted
    exact inetNtoa_eq rfl
  | inetAton =>
    obtain ⟨address, rfl⟩ := exists_one accepted
    exact inetAton_eq rfl
  | isNull =>
    obtain ⟨value, rfl⟩ := exists_one accepted
    exact isNull_eq rfl
  | choose =>
    obtain ⟨condition, yes, no, rfl⟩ := List.length_eq_three.mp (length_of_exactly accepted)
    exact choose_eq rfl rfl rfl

/-! ## Every call -/

/-- A call that is followed step by step comes to what the table gives. A name that is not known and
a count that is not accepted are faults before any argument is read; past them a rewritten function
is written with its arguments, and a value function is applied to as many as it accepts. -/
theorem call_eq (env : Environment) (name : String) {arguments : List Value}
    (inMemory : ArgumentsInMemory arguments) :
    call env name arguments = unbreached (Emulation.call env name arguments) := by
  unfold call Emulation.call
  rw [unbreached_bind]
  congr 1
  funext function
  rw [unbreached_bind]
  cases counted : Emulation.checkArity function arguments.length with
  | error fault => rfl
  | ok checked =>
    rw [unbreached_ok, ok_bind, ok_bind]
    cases function with
    | rewrite function => rfl
    | value function =>
      have accepted : function.arity.accepts arguments.length = true :=
        accepted_of_checkArity counted
      dsimp only
      rw [unbreached_bind, apply_eq function env accepted inMemory]
      rfl

end DialectBridge.Checked
