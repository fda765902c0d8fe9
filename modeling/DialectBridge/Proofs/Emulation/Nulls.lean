import DialectBridge.Proofs.Emulation.Calling
import DialectBridge.Proofs.Outcomes

/-!
# Null arguments

Most functions of dates and texts have nothing to say of a null argument and give null. What
else they are given does not matter then, as long as they look for nulls first. Two functions
do not: the difference of two dates reads both before it looks, and a timestamp is read before
its format is looked at. Where such a function has a fault to find in an argument, it finds it
although another argument is null.
-/

namespace DialectBridge.Emulation

open Calendar (Moment Stamp)

/-- The functions that are meant to give null where an argument is null. -/
def ValueFunction.isStrict : ValueFunction → Bool
  | month | year | day | hour | minute | second => true
  | unixTimestamp | fromUnixTime | dateFormat | dateAdd | dateSub | dateDiff => true
  | charLength | md5 | concat | locate | inetNtoa | inetAton => true
  | _ => false

/-- The faults that a function finds in an argument before it sees that another is null: a
format is looked at after the timestamp is read, and dates are told apart from null after
both are read. -/
inductive RefusedBeforeNull : ValueFunction → List Value → Fault → Prop where
  | notTimestamp {timestamp : Value} (present : timestamp ≠ .null)
      (unread : timestamp.toInt? = none) :
      RefusedBeforeNull .fromUnixTime [timestamp, .null]
        (.invalidArgument "from_unixtime" (.notTimestamp (timestamp.asText?.getD "")))
  | timestampOutOfRange {timestamp : Value} {number : Int}
      (read : timestamp.toInt? = some number) (far : Moment.ofTimestamp? number = none) :
      RefusedBeforeNull .fromUnixTime [timestamp, .null]
        (.invalidArgument "from_unixtime" (.timestampOutOfRange number))
  | leftNotDate {date : Value} {text : String} (written : date.asText? = some text)
      (unread : Stamp.read text.toList = none) :
      RefusedBeforeNull .dateDiff [date, .null] (.invalidDate "datediff" text)
  | rightNotDate {date : Value} {text : String} (written : date.asText? = some text)
      (unread : Stamp.read text.toList = none) :
      RefusedBeforeNull .dateDiff [.null, date] (.invalidDate "datediff" text)

/-- A run gives null, unless there is a fault that refuses its arguments, and then it is that
fault. -/
def NullUnless (refused : Fault → Prop) (run : Except Fault Value) : Prop :=
  (run = .ok .null ∧ ∀ fault, ¬refused fault) ∨
    ∃ fault, run = .error fault ∧ ∀ other, refused other ↔ other = fault

namespace NullUnless

variable {refused : Fault → Prop} {run : Except Fault Value}

/-- The faults of a run are those that refuse its arguments. -/
theorem error_iff (nulls : NullUnless refused run) (fault : Fault) :
    run = .error fault ↔ refused fault := by
  rcases nulls with ⟨rfl, never⟩ | ⟨found, rfl, only⟩
  · simp [never fault]
  · rw [only fault, Except.error.injEq, eq_comm]

/-- A run gives null where nothing refuses its arguments. -/
theorem ok_iff (nulls : NullUnless refused run) :
    run = .ok .null ↔ ∀ fault, ¬refused fault := by
  rcases nulls with ⟨rfl, never⟩ | ⟨found, rfl, only⟩
  · exact ⟨fun _ => never, fun _ => rfl⟩
  · exact ⟨nofun, fun never => absurd ((only found).mpr rfl) (never found)⟩

end NullUnless

/-! ## Dates and timestamps -/

section Dates

variable (function : String)

/-- A timestamp that is read is null under a null format; one that is not read is refused. -/
theorem formatTimestamp_null {timestamp : Value} (present : timestamp ≠ .null) :
    formatTimestamp function timestamp .null =
      (momentArgument function timestamp).map fun _ => .null := by
  unfold formatTimestamp
  split
  · exact absurd rfl present
  · cases momentArgument function timestamp <;> rfl

/-- A null date is null under every format. -/
theorem formatDate_of_null (format : Value) : formatDate function .null format = .ok .null := by
  unfold formatDate
  cases format.asText? <;> rfl

/-- A date shifted by a null interval is null, whether it can be read or not. -/
theorem shiftDate_null (subtract : Bool) (now : Moment) (date : Value) :
    shiftDate subtract function now date .null = .ok .null := by
  unfold shiftDate
  cases date.asText? <;> rfl

/-- The days from a null date to another are null, if the other is read. -/
theorem dayDifference_null (date : Value) :
    dayDifference function date .null = (dateArgument function date).map fun _ => .null := by
  unfold dayDifference
  cases dateArgument function date with
  | error fault => rfl
  | ok stamp => cases stamp with
    | none => rfl
    | some stamp => cases stamp <;> rfl

/-- The days from a date to a null one are null, if the date is read. -/
theorem dayDifference_of_null (date : Value) :
    dayDifference function .null date = (dateArgument function date).map fun _ => .null := by
  unfold dayDifference
  cases dateArgument function date <;> rfl

end Dates

/-! ## Texts -/

/-- Texts that are put together with a null are null. -/
theorem concatenate_of_null {values : List Value} (null : .null ∈ values) :
    concatenate values = .null := by
  have missing : values.mapM Value.asText? = none := by
    induction values with
    | nil => exact absurd null List.not_mem_nil
    | cons value rest inductionHypothesis =>
      rw [List.mapM_cons]
      rcases List.mem_cons.mp null with rfl | later
      · rfl
      · rw [inductionHypothesis later]
        cases value.asText? <;> rfl
  unfold concatenate
  rw [missing]

/-- A null text, or a null that is looked for, has no position, whatever the start is. -/
theorem locate_of_null (function : String) {needle text : Value} (start : Option Value)
    (null : needle = .null ∨ text = .null) : locate function needle text start = .ok .null := by
  unfold locate
  rcases null with rfl | rfl
  · rfl
  · cases needle.asText? <;> rfl

/-- There is no position from a null start on. -/
theorem locate_null (function : String) (needle text : Value) :
    locate function needle text (some .null) = .ok .null := by
  unfold locate
  cases needle.asText? <;> cases text.asText? <;> rfl

/-! ## Functions on arguments with a null -/

/-- One argument that is null is all there is. -/
theorem eq_of_null_mem_of_length_one {arguments : List Value} (null : .null ∈ arguments)
    (single : arguments.length = 1) : arguments = [.null] := by
  obtain ⟨value, rfl⟩ := List.length_eq_one_iff.mp single
  rw [List.mem_singleton.mp null]

/-- A null among two arguments is the first or the second. -/
theorem eq_of_null_mem_of_length_two {arguments : List Value} (null : .null ∈ arguments)
    (pair : arguments.length = 2) :
    ∃ other, arguments = [.null, other] ∨ arguments = [other, .null] := by
  match arguments, pair with
  | [first, second], _ =>
    simp only [List.mem_cons, List.not_mem_nil, or_false] at null
    rcases null with rfl | rfl
    · exact ⟨second, .inl rfl⟩
    · exact ⟨first, .inr rfl⟩

/-- A null among three arguments is one of the first two or the last. -/
theorem eq_of_null_mem_of_length_three {arguments : List Value} (null : .null ∈ arguments)
    (triple : arguments.length = 3) :
    ∃ first second third, arguments = [first, second, third] ∧
      ((first = .null ∨ second = .null) ∨ third = .null) := by
  match arguments, triple with
  | [first, second, third], _ =>
    refine ⟨first, second, third, rfl, ?_⟩
    simpa [eq_comm, or_assoc] using null

/-- The days to or from a null date are null, unless the other date cannot be read. -/
theorem nullUnless_dateArgument {date : Value} {refused : Fault → Prop} (function : String)
    (refuses : ∀ fault, refused fault ↔ ∃ text, date.asText? = some text ∧
      Stamp.read text.toList = none ∧ fault = .invalidDate function text) :
    NullUnless refused ((dateArgument function date).map fun _ => .null) := by
  unfold dateArgument
  cases written : date.asText? with
  | none =>
    refine .inl ⟨rfl, fun fault isRefused => ?_⟩
    obtain ⟨text, found, _⟩ := (refuses fault).mp isRefused
    simp [written] at found
  | some text =>
    cases read : Stamp.read text.toList with
    | some stamp =>
      refine .inl ⟨by simp only [read]; rfl, fun fault isRefused => ?_⟩
      obtain ⟨other, found, unread, _⟩ := (refuses fault).mp isRefused
      obtain rfl : text = other := Option.some.inj (written.symm.trans found)
      simp [read] at unread
    | none =>
      refine .inr ⟨.invalidDate function text, by simp only [read]; rfl, fun other => ?_⟩
      rw [refuses]
      constructor
      · rintro ⟨other, found, _, rfl⟩
        rw [Option.some.inj (written.symm.trans found)]
      · rintro rfl
        exact ⟨text, written, read, rfl⟩

/-- A timestamp with a null format is null, unless the timestamp cannot be read. -/
theorem nullUnless_momentArgument {timestamp : Value} {refused : Fault → Prop}
    (function : String)
    (refuses : ∀ fault, refused fault ↔
      (timestamp.toInt? = none ∧ fault = .invalidArgument function
          (.notTimestamp (timestamp.asText?.getD ""))) ∨
        ∃ number, timestamp.toInt? = some number ∧ Moment.ofTimestamp? number = none ∧
          fault = .invalidArgument function (.timestampOutOfRange number)) :
    NullUnless refused ((momentArgument function timestamp).map fun _ => .null) := by
  unfold momentArgument
  cases read : timestamp.toInt? with
  | none =>
    refine .inr ⟨_, rfl, fun other => ?_⟩
    simp [refuses, read]
  | some number =>
    cases far : Moment.ofTimestamp? number with
    | none =>
      refine .inr ⟨_, by simp only [far]; rfl, fun other => ?_⟩
      simp [refuses, read, far]
    | some moment =>
      refine .inl ⟨by simp only [far]; rfl, fun fault => ?_⟩
      simp [refuses, read, far]

namespace ValueFunction

/-- A null timestamp is null under every format. -/
theorem fromUnixTime_of_null (env : Environment) (format : Value) :
    NullUnless (RefusedBeforeNull .fromUnixTime [.null, format])
      (fromUnixTime.apply env [.null, format]) := by
  refine .inl ⟨rfl, ?_⟩
  rintro fault (⟨present, _⟩ | ⟨read, _⟩)
  · exact present rfl
  · simp [Value.toInt?] at read

/-- A timestamp with a null format is refused where the timestamp is. -/
theorem fromUnixTime_null (env : Environment) (timestamp : Value) :
    NullUnless (RefusedBeforeNull .fromUnixTime [timestamp, .null])
      (fromUnixTime.apply env [timestamp, .null]) := by
  by_cases absent : timestamp = .null
  · subst absent
    exact fromUnixTime_of_null env .null
  · have run : fromUnixTime.apply env [timestamp, .null] =
        (momentArgument "from_unixtime" timestamp).map fun _ => .null :=
      formatTimestamp_null _ absent
    rw [run]
    refine nullUnless_momentArgument _ fun fault => ⟨?_, ?_⟩
    · rintro (⟨_, unread⟩ | ⟨read, far⟩)
      · exact .inl ⟨unread, rfl⟩
      · exact .inr ⟨_, read, far, rfl⟩
    · rintro (⟨unread, rfl⟩ | ⟨number, read, far, rfl⟩)
      · exact .notTimestamp absent unread
      · exact .timestampOutOfRange read far

/-- The days to or from a null date are refused where the other date is. -/
theorem dateDiff_null (env : Environment) {arguments : List Value} {date : Value}
    (pair : arguments = [.null, date] ∨ arguments = [date, .null]) :
    NullUnless (RefusedBeforeNull .dateDiff arguments) (dateDiff.apply env arguments) := by
  have run : dateDiff.apply env arguments =
      (dateArgument "datediff" date).map fun _ => .null := by
    rcases pair with rfl | rfl
    · exact dayDifference_of_null _ date
    · exact dayDifference_null _ date
  rw [run]
  refine nullUnless_dateArgument _ fun fault => ⟨?_, ?_⟩
  · -- A null is no text, so that what is refused is the other argument.
    rcases pair with rfl | rfl <;> rintro (_ | _ | ⟨written, unread⟩ | ⟨written, unread⟩) <;>
      exact ⟨_, written, unread, rfl⟩
  · rintro ⟨text, written, unread, rfl⟩
    rcases pair with rfl | rfl
    · exact .rightNotDate written unread
    · exact .leftNotDate written unread

/-- A strict function gives null where an argument is null, unless it refuses another one
before. -/
theorem apply_null (function : ValueFunction) (env : Environment) {arguments : List Value}
    (strict : function.isStrict = true) (accepted : function.arity.accepts arguments.length = true)
    (null : .null ∈ arguments) :
    NullUnless (RefusedBeforeNull function arguments) (function.apply env arguments) := by
  have some : 0 < arguments.length := List.length_pos_of_mem null
  cases function with
  | month | year | day | hour | minute | second | unixTimestamp | charLength | md5 | inetNtoa
  | inetAton =>
    have single : arguments.length = 1 := by
      simp [arity, Arity.accepts] at accepted
      omega
    obtain rfl := eq_of_null_mem_of_length_one null single
    exact .inl ⟨rfl, nofun⟩
  | dateFormat =>
    obtain ⟨other, rfl | rfl⟩ := eq_of_null_mem_of_length_two null
      (by simpa [arity, Arity.accepts] using accepted)
    · exact .inl ⟨formatDate_of_null _ other, nofun⟩
    · exact .inl ⟨rfl, nofun⟩
  | dateAdd | dateSub =>
    obtain ⟨other, rfl | rfl⟩ := eq_of_null_mem_of_length_two null
      (by simpa [arity, Arity.accepts] using accepted)
    · exact .inl ⟨rfl, nofun⟩
    · exact .inl ⟨shiftDate_null _ _ env.now other, nofun⟩
  | dateDiff =>
    obtain ⟨other, pair⟩ := eq_of_null_mem_of_length_two null
      (by simpa [arity, Arity.accepts] using accepted)
    exact dateDiff_null env pair
  | fromUnixTime =>
    simp [arity, Arity.accepts] at accepted
    rcases (by omega : arguments.length = 1 ∨ arguments.length = 2) with single | pair
    · obtain rfl := eq_of_null_mem_of_length_one null single
      exact .inl ⟨rfl, nofun⟩
    · obtain ⟨other, rfl | rfl⟩ := eq_of_null_mem_of_length_two null pair
      · exact fromUnixTime_of_null env other
      · exact fromUnixTime_null env other
  | concat => exact .inl ⟨congrArg _ (concatenate_of_null null), nofun⟩
  | locate =>
    simp [arity, Arity.accepts] at accepted
    rcases (by omega : arguments.length = 2 ∨ arguments.length = 3) with pair | triple
    · obtain ⟨other, rfl | rfl⟩ := eq_of_null_mem_of_length_two null pair
      · exact .inl ⟨rfl, nofun⟩
      · exact .inl ⟨@locate_of_null "locate" other .null none (.inr rfl), nofun⟩
    · obtain ⟨needle, text, start, rfl, absent | rfl⟩ := eq_of_null_mem_of_length_three null triple
      · exact .inl ⟨locate_of_null _ _ absent, nofun⟩
      · exact .inl ⟨locate_null "locate" needle text, nofun⟩
  | _ => simp [isStrict] at strict

end ValueFunction

/-! ## Calls with a null -/

/-- A call of a strict function with an accepted number of arguments, one of them null, gives
null whatever the others hold, unless it refuses another one before it sees the null. What it
refuses it says so of, and nothing else goes wrong.

The functions that look for nulls first have nothing left to refuse. The two that do not come
down to reading one argument: the only date that is not null, or the timestamp. -/
theorem null_argument_result {name : String} {function : ValueFunction} {arguments : List Value}
    (env : Environment) (found : lookup name = some (.value function))
    (strict : function.isStrict = true) (accepted : function.arity.accepts arguments.length = true)
    (null : .null ∈ arguments) :
    (evaluate env name arguments = .ok .null ↔
        ∀ fault, ¬RefusedBeforeNull function arguments fault) ∧
      ∀ fault, evaluate env name arguments = .error fault ↔
        RefusedBeforeNull function arguments fault := by
  have called : evaluate env name arguments = function.apply env arguments :=
    evaluate_of_lookup env found accepted
  have nulls := function.apply_null env strict accepted null
  rw [called]
  exact ⟨nulls.ok_iff, nulls.error_iff⟩

/-- A date that is no date is shifted by a null interval to null. -/
theorem unread_date_shifted_by_null :
    evaluate epoch "SubDate" [.text "no date", .null] = .ok .null := by
  have found : lookup "SubDate" = some (.value .dateSub) := by decide
  refine (null_argument_result epoch found rfl rfl (by simp)).1.mpr fun fault refused => ?_
  cases refused

/-- The days from a text that is no date to a null date are not null. -/
theorem unread_date_refused_before_null :
    lookup "datediff" = some (.value .dateDiff) ∧ ValueFunction.dateDiff.isStrict = true ∧
      ValueFunction.dateDiff.arity.accepts [Value.text "no date", .null].length = true ∧
      evaluate epoch "datediff" [.text "no date", .null] =
        .error (.invalidDate "datediff" "no date") := by
  refine ⟨by decide, rfl, rfl, Except.eq_error_of_fault? ?_⟩
  decide +kernel

end DialectBridge.Emulation
