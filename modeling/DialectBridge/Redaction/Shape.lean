/-!
# Shapes of text

A shape says which stretches of text it covers and, where it covers several that
start at one place, which of them it prefers: a run prefers to be long, an optional
part prefers to be there, a choice prefers its first member. Covering is computed
on the remainders of a text, in order of preference, so that a shape followed by
another keeps every way to continue.
-/

namespace DialectBridge.Redaction

/-- What a stretch of text may look like. -/
inductive Shape where
  /-- One character of a class. -/
  | one (accepts : Char → Bool)
  /-- At least so many characters of a class, as many as possible first. -/
  | run (least : Nat) (accepts : Char → Bool)
  /-- The shape, or nothing. -/
  | optional (shape : Shape)
  /-- The first shape, or else the second. -/
  | either (first second : Shape)
  /-- The first shape and then the second. -/
  | followed (first second : Shape)

namespace Shape

/-- The shape of nothing at all. -/
def empty : Shape := .run 0 fun _ => false

/-- The shapes one after the other. -/
def sequence (shapes : List Shape) : Shape := shapes.foldr .followed .empty

/-- Exactly these characters. -/
def exactly (text : String) : Shape := sequence (text.toList.map fun c => .one (· == c))

/-- So many characters of a class. -/
def times (count : Nat) (accepts : Char → Bool) : Shape :=
  sequence (List.replicate count (.one accepts))

/-- What is left of a text after none, one, two … characters of a class. -/
def afterEach (accepts : Char → Bool) : List Char → List (List Char)
  | [] => [[]]
  | c :: rest => (c :: rest) :: if accepts c then afterEach accepts rest else []

/-- What the shape can leave of a text when it covers its start, preferred
remainders first. -/
def remainders : Shape → List Char → List (List Char)
  | .one _, [] => []
  | .one accepts, c :: rest => if accepts c then [rest] else []
  | .run least accepts, text => ((afterEach accepts text).drop least).reverse
  | .optional shape, text => shape.remainders text ++ [text]
  | .either first second, text => first.remainders text ++ second.remainders text
  | .followed first second, text => (first.remainders text).flatMap second.remainders

/-- Whether the shape covers a text from end to end. -/
def covers (shape : Shape) (text : List Char) : Bool := (shape.remainders text).contains []

/-- Whether some stretch of a text has the shape. -/
def occursIn (shape : Shape) : List Char → Bool
  | [] => !(shape.remainders []).isEmpty
  | c :: rest => !(shape.remainders (c :: rest)).isEmpty || occursIn shape rest

/-- Puts a marker in the place of every stretch of the shape, the leftmost first and
each of the preferred length; the search goes on behind it. `covered` counts the
characters still to be left out of a stretch whose marker has been written. A stretch
that covers nothing is passed over. -/
def replaceFrom (shape : Shape) (marker : List Char) : (covered : Nat) → List Char → List Char
  | _, [] => []
  | covered + 1, _ :: rest => replaceFrom shape marker covered rest
  | 0, c :: rest =>
    match (shape.remainders (c :: rest)).head? with
    | some remainder =>
      if remainder.length ≤ rest.length then
        marker ++ replaceFrom shape marker (rest.length - remainder.length) rest
      else c :: replaceFrom shape marker 0 rest
    | none => c :: replaceFrom shape marker 0 rest

/-- Puts a marker in the place of every stretch of the shape. -/
def replace (shape : Shape) (marker : String) (text : List Char) : List Char :=
  replaceFrom shape marker.toList 0 text

end Shape

end DialectBridge.Redaction
