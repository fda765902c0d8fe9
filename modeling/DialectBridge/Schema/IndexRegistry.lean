import DialectBridge.Schema.IndexName
import DialectBridge.Text.Lowercase

/-!
# Index names of a run

The engine has one namespace for all indexes, so a name that two tables use is changed
for the second: a number is appended. The numbers are drawn from outside; where every
draw gives a name in use, the least number that does not is taken.
-/

namespace DialectBridge.Schema

/-- The names in use, in lower case. -/
structure IndexRegistry where
  used : List String := []

/-- What claiming the name of a statement gives: the statement to execute, the old and
the new name if it was renamed, and the registry and the draws that are left. -/
structure Claim where
  statement : String
  renamed : Option (String × String)
  registry : IndexRegistry
  draws : List Nat

namespace IndexRegistry

/-- Whether a name is in use, in any case. -/
def contains (registry : IndexRegistry) (name : String) : Bool :=
  registry.used.contains (Text.lowercased name)

/-- Puts a name into use. -/
def insert (registry : IndexRegistry) (name : String) : IndexRegistry :=
  { used := Text.lowercased name :: registry.used }

/-- The numbers that are drawn are below this limit, so that a name can be replaced by so
many others. -/
def numberLimit : Nat := 10000

/-- A name with a number appended. -/
def numbered (name : String) (number : Nat) : String := name ++ "_" ++ toString number

/-- Whether a name with a number appended is free. -/
def isFree (registry : IndexRegistry) (name : String) (number : Nat) : Bool :=
  !registry.contains (numbered name number)

/-- The first number that makes a name free: a draw if one does, and otherwise the
least number. One more number than there are names is enough to find one. -/
def freeNumber (registry : IndexRegistry) (name : String) (draws : List Nat) : Nat :=
  ((draws ++ List.range (registry.used.length + 1)).find? (registry.isFree name)).getD 0

/-- Claims the name of a statement. A name in use is replaced; a statement that creates
no index stays as it is. -/
def claim (registry : IndexRegistry) (statement : String) (draws : List Nat) : Claim :=
  match IndexName.locate? statement.toList with
  | none => ⟨statement, none, registry, draws⟩
  | some found =>
    let name := String.ofList found.name
    if registry.contains name then
      let replacement := numbered name (registry.freeNumber name draws)
      ⟨found.renamed replacement.toList, some (name, replacement), registry.insert replacement,
        (draws.dropWhile (!registry.isFree name ·)).drop 1⟩
    else ⟨statement, none, registry.insert name, draws⟩

/-- Claims the names of statements, in order. -/
def claimAll (registry : IndexRegistry) (draws : List Nat) : List String → List Claim
  | [] => []
  | statement :: rest =>
    let claim := registry.claim statement draws
    claim :: claim.registry.claimAll claim.draws rest

end IndexRegistry

end DialectBridge.Schema
