/-!
# Argument counts
-/

namespace DialectBridge.Emulation

/-- The numbers of arguments that a function accepts. -/
inductive Arity where
  | exactly (count : Nat)
  | between (least most : Nat)
  | atLeast (least : Nat)
  deriving DecidableEq, Repr

namespace Arity

/-- Whether a number of arguments is accepted. -/
def accepts : Arity → Nat → Bool
  | exactly count, n => n == count
  | between least most, n => least ≤ n && n ≤ most
  | atLeast least, n => least ≤ n

/-- The wording of the accepted numbers. -/
def text : Arity → String
  | exactly count => toString count
  | between least most => toString least ++ "..=" ++ toString most
  | atLeast least => "at least " ++ toString least

end Arity

end DialectBridge.Emulation
