/-!
# Retrying under contention

An operation that fails for a passing reason is tried again a bounded number of times,
with a delay that doubles from one attempt to the next. The first outcome that is a
success, or a failure that will not pass, or the last one allowed, decides.
-/

namespace DialectBridge.Retry

/-- The failure of an operation that was tried a number of times. It is exhausted when
every attempt allowed was made and failed for a passing reason. -/
structure Failure (ε : Type) where
  error : ε
  attempts : Nat
  exhausted : Bool

/-- Tries an operation after `earlier` attempts, with at most `left` more after this
one. A success comes with the number of attempts before it. -/
def attemptAfter {σ ε α : Type} (isPassing : ε → Bool) (operation : σ → Except ε α × σ)
    (earlier left : Nat) (state : σ) : Except (Failure ε) (α × Nat) × σ :=
  match operation state with
  | (.ok value, state) => (.ok (value, earlier), state)
  | (.error error, state) =>
    if isPassing error then
      match left with
      | 0 => (.error ⟨error, earlier + 1, true⟩, state)
      | left + 1 => attemptAfter isPassing operation (earlier + 1) left state
    else (.error ⟨error, earlier + 1, false⟩, state)

/-- Tries an operation at most `maxAttempts` times, and once if that is zero. -/
def run {σ ε α : Type} (maxAttempts : Nat) (isPassing : ε → Bool)
    (operation : σ → Except ε α × σ) (state : σ) : Except (Failure ε) (α × Nat) × σ :=
  attemptAfter isPassing operation 0 (maxAttempts - 1) state

/-- The greatest number of 64 bits. -/
def limit : Nat := 0xFFFFFFFFFFFFFFFF

/-- A number, or the greatest of 64 bits if it is beyond it. -/
def saturated (n : Nat) : Nat := min n limit

/-- Two to the power of an attempt, saturated. -/
def doublings (attempt : Nat) : Nat := if attempt < 64 then Nat.pow 2 attempt else limit

/-- The part of a base interval that a random number gives; an interval of zero has none. -/
def jitter (base number : Nat) : Nat := if base = 0 then 0 else number % base

/-- The delay after an attempt, in milliseconds: a base interval doubled once for each
attempt, and a part `jitter` of one interval, up to a cap. Attempts count modulo 32
bits. -/
def delay (attempt base cap jitter : Nat) : Nat :=
  min (saturated (saturated (base * doublings (attempt % 0x100000000)) + jitter)) cap

end DialectBridge.Retry
