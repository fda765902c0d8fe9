import DialectBridge.Decimal.Binary
import DialectBridge.Decimal.Integer
import DialectBridge.Decimal.Shortest
import DialectBridge.Text.Blank
import DialectBridge.Text.Lowercase

/-!
# Assignments of configuration keys

A configuration, whatever the notation it was written in, is a list of assignments
of contents to dotted paths, oldest first. A later assignment wins over an earlier
one at the same path; a scalar also does away with everything assigned below its
path before, and an assignment below a path turns what was there into a mapping.
The last assignment that has to do with a path therefore decides what stands there.
-/

namespace DialectBridge.Settings

/-- What a key can be assigned. Of a sequence only its presence matters, since no
setting takes one; a mapping stands for the bare statement that there is one. -/
inductive Content where
  | null
  | truth (value : Bool)
  | whole (value : Int)
  | real (value : Float)
  | text (value : String)
  | sequence
  | mapping

/-- A key's path from the root, and what it is assigned. -/
structure Assignment where
  path : List String
  content : Content

/-- Whether one path leads to or through the other. -/
def related (a b : List String) : Bool := a.isPrefixOf b || b.isPrefixOf a

/-- The content at a path, if there is any. The statement that there is a mapping at
or above the path leaves all that is below it as it was. -/
def contentAt (path : List String) (assignments : List Assignment) : Option Content :=
  let decides (a : Assignment) : Bool :=
    related a.path path &&
      (a.path == path || match a.content with
        | .mapping => path.isPrefixOf a.path
        | _ => true)
  match assignments.reverse.find? decides with
  | none => none
  | some a =>
    if a.path == path then some a.content
    else if path.isPrefixOf a.path then some .mapping
    else none

/-- Characters of the parts of a dotted key. -/
def isKeyChar (c : Char) : Bool := c.isAlphanum || c == '_' || c == '-' || c == ' '

/-- The path that a dotted key spells. A key with a part that is empty or has other
characters is a name of its own. -/
def keyPath (key : String) : List String :=
  let parts := Text.splitAt (· == '.') key.toList
  if parts.all fun part => !part.isEmpty && part.all isKeyChar then parts.map String.ofList
  else [key]

/-- The assignment as keys are compared: in lower case, and with the first key read
as a dotted one. -/
def Assignment.canonical (assignment : Assignment) : Assignment :=
  match assignment.path with
  | [] => assignment
  | first :: rest =>
    { assignment with path := keyPath (Text.lowercased first) ++ rest.map Text.lowercased }

namespace Content

/-- The words for yes and no in texts that are read as something else. -/
def word? (text : String) : Option Bool :=
  match Text.lowercased text with
  | "true" | "on" | "yes" => some true
  | "false" | "off" | "no" => some false
  | _ => none

/-- A scalar as text. -/
def toText? : Content → Option String
  | truth value => some (if value then "true" else "false")
  | whole value => some (toString value)
  | real value => some (Decimal.plain value)
  | text value => some value
  | null | sequence | mapping => none

/-- A scalar as a truth value: numbers that are not zero are true. -/
def toTruth? : Content → Option Bool
  | truth value => some value
  | whole value => some (value != 0)
  | real value => some (value != 0)
  | text "1" => some true
  | text "0" => some false
  | text value => word? value
  | null | sequence | mapping => none

/-- The greatest unsigned 64-bit number. -/
def maxCount : Nat := 0xFFFFFFFFFFFFFFFF

/-- The nearest whole number, halves away from zero, kept in the range of a count. -/
def nearestCount (value : Float) : Nat :=
  match Decimal.Binary.ofFloat? value with
  | some binary => if binary.negative then 0 else min maxCount binary.nearestWhole
  | none => if value > 0 then maxCount else 0

/-- A scalar as a count. Real numbers are rounded; a negative whole number has no
reading. -/
def toCount? : Content → Option Nat
  | truth value => some (if value then 1 else 0)
  | whole value => if 0 ≤ value then some value.toNat else none
  | real value => some (nearestCount value)
  | text value =>
    match word? value with
    | some value => some (if value then 1 else 0)
    | none =>
      let digits := match value.toList with
        | '+' :: rest => rest
        | chars => chars
      (Decimal.readNatural digits).filter (· ≤ maxCount)
  | null | sequence | mapping => none

end Content

end DialectBridge.Settings
