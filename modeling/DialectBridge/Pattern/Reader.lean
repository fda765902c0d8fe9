import DialectBridge.Pattern.Basic
import DialectBridge.Pattern.PropertyName
import DialectBridge.Decimal.Integer
import DialectBridge.Text.Hexadecimal

/-!
# Reading patterns

A pattern is read from left to right under flags, which a group can change for its
own extent. Reading fails on anything that is not a complete pattern: look-around and
back-references are not part of the language, and neither is a pattern that could
match octets that are not text. Patterns nest to a fixed depth and compile to a
limited size.
-/

namespace DialectBridge.Pattern

/-- What the flags of a pattern select. -/
structure Flags where
  caseless : Bool := true
  multiLine : Bool := false
  dotAll : Bool := false
  extended : Bool := false
  unicode : Bool := true
  carriageReturn : Bool := false

namespace Flags

/-- Sets a flag by its letter; none for an unknown letter. Swapping greedy and lazy
repetition changes no match. -/
def set? (flags : Flags) (letter : Char) (value : Bool) : Option Flags :=
  match letter with
  | 'i' => some { flags with caseless := value }
  | 'm' => some { flags with multiLine := value }
  | 's' => some { flags with dotAll := value }
  | 'x' => some { flags with extended := value }
  | 'u' => some { flags with unicode := value }
  | 'R' => some { flags with carriageReturn := value }
  | 'U' => some flags
  | _ => none

/-- Drops a comment up to and with its line end. -/
def dropComment (text : List Char) : List Char := (text.dropWhile (· != '\n')).drop 1

/-- Drops blanks and comments; every step takes a character, so the length of the
text is fuel enough. -/
def dropLayout : (fuel : Nat) → List Char → List Char
  | 0, text => text
  | fuel + 1, text =>
    match text with
    | [] => []
    | c :: rest =>
      if Text.isBlank c then dropLayout fuel rest
      else if c == '#' then dropLayout fuel (dropComment rest)
      else text

/-- Under the extended flag blanks and comments between the parts of a pattern do not
count. -/
def skip (flags : Flags) (text : List Char) : List Char :=
  if flags.extended then dropLayout text.length text else text

/-- A set under the case flag. -/
def fold (flags : Flags) (set : CharSet) : CharSet :=
  if flags.caseless then (if flags.unicode then .folded set else .foldedAscii set) else set

/-- A set that a class closes with: folded, negated if asked, and within ASCII unless
matching is by character. -/
def close? (flags : Flags) (negated : Bool) (set : CharSet) : Option CharSet :=
  let closed := if negated then .complement (flags.fold set) else flags.fold set
  if flags.unicode || closed.isAscii then some closed else none

end Flags

/-- What stands for a single item outside and inside a class: a literal, which may be
an octet beyond ASCII written in hexadecimal, a class, or a condition. -/
inductive Atom where
  | literal (c : Char) (isOctet : Bool)
  | oneOf (set : CharSet)
  | boundary (boundary : Boundary)

/-- Characters that have a meaning of their own and are literal after a backslash. -/
def isMeta (c : Char) : Bool := "\\.+*?()|[]\x7b\x7d^$#&-~".toList.contains c

/-- Whether a backslash makes the character literal: every ASCII character but letters,
digits and the angle brackets. -/
def isEscapable (c : Char) : Bool :=
  isMeta c || (c.toNat < 0x80 && !c.isAlphanum && c != '<' && c != '>')

/-- The character with a code, if there is one. -/
def charOfCode? (code : Nat) : Option Char :=
  if code.isValidChar then some (Char.ofNat code) else none

/-- Reads a fixed number of hexadecimal digits. -/
def readHex (flags : Flags) : (count value : Nat) → List Char → Option (Nat × List Char)
  | 0, value, text => some (value, text)
  | count + 1, value, c :: rest =>
    match Text.hexDigit? c with
    | some digit => readHex flags count (16 * value + digit) (flags.skip rest)
    | none => none
  | _ + 1, _, [] => none

/-- Takes characters up to a closing brace. -/
def takeBraced (flags : Flags) : (fuel : Nat) → List Char → Option (List Char × List Char)
  | 0, _ => none
  | fuel + 1, text =>
    match flags.skip text with
    | [] => none
    | c :: rest =>
      if c.toNat = 0x7D then some ([], rest)
      else (takeBraced flags fuel rest).map fun (taken, rest) => (c :: taken, rest)

/-- Reads the digits of a hexadecimal escape after its letter. -/
def readHexEscape (flags : Flags) (letter : Char) (text : List Char) :
    Option (Atom × List Char) :=
  match flags.skip text with
  | [] => none
  | c :: rest =>
    if c.toNat = 0x7B then do
      let (digits, rest) ← takeBraced flags (rest.length + 1) rest
      let values ← digits.mapM Text.hexDigit?
      if values.isEmpty || values.length > 8 then none
      else
        let character ← charOfCode? (values.foldl (fun n digit => 16 * n + digit) 0)
        return (.literal character false, rest)
    else do
      let count := if letter = 'x' then 2 else if letter = 'u' then 4 else 8
      let (code, rest) ← readHex flags count 0 (c :: rest)
      let character ← charOfCode? code
      return (.literal character (letter == 'x' && 0x80 ≤ code), rest)

/-- Reads a property after its letter. -/
def readProperty (flags : Flags) (negated : Bool) (text : List Char) :
    Option (Atom × List Char) := do
  if !flags.unicode then none
  else
    match flags.skip text with
    | [] => none
    | c :: rest =>
      let (set, rest) ←
        if c.toNat = 0x7B then do
          let (content, rest) ← takeBraced flags (rest.length + 1) rest
          let set ← bracedSet? content
          some (set, rest)
        else (namedSet? [c]).map fun set => (set, rest)
      let set ← flags.close? negated set
      return (.oneOf set, rest)

/-- The sets of the one-letter classes, by character or for ASCII alone. -/
def letterSet (unicode : Bool) (letter : Char) : CharSet :=
  match unicode, letter with
  | true, 'd' => .property .decimalDigit
  | true, 's' => .property .blank
  | true, _ => .property .word
  | false, 'd' => .range 0x30 0x39
  | false, 's' => .union (.range 0x09 0x0D) (.single ' ')
  | false, _ => .unionAll [.range 0x30 0x39, .range 0x41 0x5A, .range 0x61 0x7A, .single '_']

/-- Reads a one-letter class; its upper-case letter negates it. -/
def readLetterSet (flags : Flags) (letter : Char) : Option Atom :=
  let set := letterSet flags.unicode letter.toLower
  if letter.isUpper then
    if flags.unicode then some (.oneOf (.complement set)) else none
  else some (.oneOf set)

/-- The conditions that a braced name after the boundary escape selects. -/
def namedBoundary? (unicode : Bool) : List Char → Option Boundary
  | ['s', 't', 'a', 'r', 't'] => some (.wordStart unicode)
  | ['e', 'n', 'd'] => some (.wordEnd unicode)
  | ['s', 't', 'a', 'r', 't', '-', 'h', 'a', 'l', 'f'] => some (.wordStartHalf unicode)
  | ['e', 'n', 'd', '-', 'h', 'a', 'l', 'f'] => some (.wordEndHalf unicode)
  | _ => none

/-- Reads what follows the boundary escape: a braced name if a letter or dash follows
the brace, and nothing otherwise. -/
def readBoundary (flags : Flags) (text : List Char) : Option (Atom × List Char) :=
  let plain := (Atom.boundary (.wordEdge flags.unicode), text)
  match text with
  | [] => some plain
  | c :: rest =>
    if c.toNat ≠ 0x7B then some plain
    else match flags.skip rest with
      | [] => none
      | d :: _ =>
        if !(d.isAlpha || d == '-') then some plain
        else do
          let (name, rest) ← takeBraced flags (rest.length + 1) rest
          let boundary ← namedBoundary? flags.unicode name
          return (.boundary boundary, rest)

/-- Reads an escape after its backslash. -/
def readEscape (flags : Flags) : List Char → Option (Atom × List Char)
  | [] => none
  | c :: rest =>
    if c == 'x' || c == 'u' || c == 'U' then readHexEscape flags c rest
    else if c == 'p' || c == 'P' then readProperty flags (c == 'P') rest
    else if "dswDSW".toList.contains c then (readLetterSet flags c).map fun atom => (atom, rest)
    else if isEscapable c then some (.literal c false, rest)
    else match c with
      | 'a' => some (.literal (Char.ofNat 0x07) false, rest)
      | 'f' => some (.literal (Char.ofNat 0x0C) false, rest)
      | 't' => some (.literal '\t' false, rest)
      | 'n' => some (.literal '\n' false, rest)
      | 'r' => some (.literal '\r' false, rest)
      | 'v' => some (.literal (Char.ofNat 0x0B) false, rest)
      | 'A' => some (.boundary .textStart, rest)
      | 'z' => some (.boundary .textEnd, rest)
      | 'b' => readBoundary flags rest
      | 'B' => some (.boundary (.noWordEdge flags.unicode), rest)
      | '<' => some (.boundary (.wordStart flags.unicode), rest)
      | '>' => some (.boundary (.wordEnd flags.unicode), rest)
      | _ => none

/-- The ASCII classes that have a name between colons. -/
def asciiClass? (name : String) : Option CharSet :=
  let digits := CharSet.range 0x30 0x39
  let upper := CharSet.range 0x41 0x5A
  let lower := CharSet.range 0x61 0x7A
  match name with
  | "alnum" => some (.unionAll [digits, upper, lower])
  | "alpha" => some (.unionAll [upper, lower])
  | "ascii" => some (.range 0 0x7F)
  | "blank" => some (.unionAll [.single '\t', .single ' '])
  | "cntrl" => some (.unionAll [.range 0 0x1F, .single (Char.ofNat 0x7F)])
  | "digit" => some digits
  | "graph" => some (.range 0x21 0x7E)
  | "lower" => some lower
  | "print" => some (.range 0x20 0x7E)
  | "punct" =>
    some (.unionAll [.range 0x21 0x2F, .range 0x3A 0x40, .range 0x5B 0x60, .range 0x7B 0x7E])
  | "space" => some (.unionAll [.range 0x09 0x0D, .single ' '])
  | "upper" => some upper
  | "word" => some (.unionAll [digits, upper, lower, .single '_'])
  | "xdigit" => some (.unionAll [digits, .range 0x41 0x46, .range 0x61 0x66])
  | _ => none

/-- Reads a named ASCII class after its bracket, if one stands there. -/
def readAsciiClass (flags : Flags) (text : List Char) : Option (CharSet × List Char) :=
  match text with
  | ':' :: rest =>
    let (negated, rest) := match rest with
      | '^' :: rest => (true, rest)
      | _ => (false, rest)
    let name := rest.takeWhile (· != ':')
    match rest.dropWhile (· != ':') with
    | ':' :: ']' :: rest => do
      let set ← asciiClass? (String.ofList name)
      let set ← flags.close? negated set
      return (set, rest)
    | _ => none
  | _ => none

/-- The operators between the operands of a class. -/
inductive SetOperator where
  | intersection
  | difference
  | symmetricDifference

/-- Applies an operator to folded operands. -/
def SetOperator.apply (operator : SetOperator) (flags : Flags) (a b : CharSet) : CharSet :=
  match operator with
  | intersection => .intersection (flags.fold a) (flags.fold b)
  | difference => .difference (flags.fold a) (flags.fold b)
  | symmetricDifference => .symmetricDifference (flags.fold a) (flags.fold b)

/-- What stands to the left of the operand being read. -/
def applyPending (flags : Flags) (pending : Option (SetOperator × CharSet)) (set : CharSet) :
    CharSet :=
  match pending with
  | none => set
  | some (operator, left) => operator.apply flags left set

/-- The operator at the front of a text, with what follows it. -/
def setOperator? : List Char → Option (SetOperator × List Char)
  | '&' :: '&' :: rest => some (.intersection, rest)
  | '-' :: '-' :: rest => some (.difference, rest)
  | '~' :: '~' :: rest => some (.symmetricDifference, rest)
  | _ => none

/-- The set of a literal in a class; matching by octet admits ASCII alone. -/
def literalSet? (flags : Flags) (c : Char) : Option CharSet :=
  if flags.unicode || c.toNat < 0x80 then some (.single c) else none

/-- Reads one item of a class: an escape or any character. -/
def readSetAtom (flags : Flags) : List Char → Option (Atom × List Char)
  | [] => none
  | '\\' :: rest => readEscape flags rest
  | c :: rest => some (.literal c false, rest)

/-- The set of an item; conditions have none. -/
def atomSet? (flags : Flags) : Atom → Option CharSet
  | .literal c _ => literalSet? flags c
  | .oneOf set => some set
  | .boundary _ => none

/-- Reads an item or a range of a class. A dash before the closing bracket or before
another dash makes no range. -/
def readSetRange (flags : Flags) (text : List Char) : Option (CharSet × List Char) := do
  let (first, rest) ← readSetAtom flags text
  let rest := flags.skip rest
  match rest with
  | [] => none
  | '-' :: after =>
    match flags.skip after with
    | [] => none
    | ']' :: _ => return (← atomSet? flags first, rest)
    | '-' :: _ => return (← atomSet? flags first, rest)
    | after => do
      let (second, rest) ← readSetAtom flags after
      match first, second with
      | .literal low _, .literal high _ =>
        if high < low then none
        else do
          let _ ← literalSet? flags low
          let _ ← literalSet? flags high
          return (.range low.toNat high.toNat, rest)
      | _, _ => none
  | _ => return (← atomSet? flags first, rest)

/-- Takes literal dashes at the front of a class, and then, if there were none, a
literal closing bracket. -/
def readSetFront (flags : Flags) (text : List Char) : List CharSet × List Char :=
  let rec dashes : (fuel : Nat) → List Char → List CharSet × List Char
    | fuel + 1, '-' :: rest =>
      let (items, rest) := dashes fuel (flags.skip rest)
      (.single '-' :: items, rest)
    | _, text => ([], text)
  let (items, rest) := dashes text.length text
  match items, rest with
  | [], ']' :: rest => ([.single ']'], flags.skip rest)
  | _, _ => (items, rest)

/-- Reads a class after its opening bracket. Every step takes a character, so the
length of the text is fuel enough. -/
def readSet (flags : Flags) : (fuel : Nat) → List Char → Option (CharSet × List Char)
  | 0, _ => none
  | fuel + 1, text =>
    let text := flags.skip text
    let (negated, text) := match text with
      | '^' :: rest => (true, flags.skip rest)
      | _ => (false, text)
    let (items, rest) := readSetFront flags text
    readSetItems flags negated fuel none items rest
where
  /-- Reads the rest of a class, given the operator and operand to the left and the
  items of the current operand. -/
  readSetItems (flags : Flags) (negated : Bool) :
      (fuel : Nat) → Option (SetOperator × CharSet) → List CharSet → List Char →
        Option (CharSet × List Char)
    | 0, _, _, _ => none
    | fuel + 1, pending, items, text =>
      let text := flags.skip text
      match setOperator? text with
      | some (operator, rest) =>
        let left := applyPending flags pending (.unionAll items)
        readSetItems flags negated fuel (some (operator, left)) [] rest
      | none =>
        match text with
        | [] => none
        | ']' :: rest => do
          let set ← flags.close? negated (applyPending flags pending (.unionAll items))
          return (set, rest)
        | '[' :: rest =>
          match readAsciiClass flags rest with
          | some (set, rest) => readSetItems flags negated fuel pending (items ++ [set]) rest
          | none => do
            let (set, rest) ← readSet flags fuel rest
            readSetItems flags negated fuel pending (items ++ [set]) rest
        | _ => do
          let (set, rest) ← readSetRange flags text
          readSetItems flags negated fuel pending (items ++ [set]) rest

/-- Reads a decimal count between blanks. -/
def readCount (flags : Flags) (text : List Char) : Option (Nat × List Char) :=
  let rec digits : (fuel : Nat) → List Char → List Char × List Char
    | fuel + 1, c :: rest =>
      if c.isDigit then
        let (taken, rest) := digits fuel (flags.skip rest)
        (c :: taken, rest)
      else ([], c :: rest)
    | _, text => ([], text)
  let text := Text.trimStart text
  let (taken, rest) := digits text.length text
  let rest := flags.skip (Text.trimStart rest)
  match Decimal.readNatural taken with
  | some n => if n < 0x100000000 then some (n, rest) else none
  | none => none

/-- Reads the counts of a repetition after its opening brace. -/
def readCounts (flags : Flags) (text : List Char) :
    Option ((Nat × Option Nat) × List Char) := do
  let (low, rest) ← readCount flags (flags.skip text)
  match rest with
  | [] => none
  | ',' :: rest =>
    match flags.skip rest with
    | [] => none
    | c :: rest =>
      if c.toNat = 0x7D then return ((low, none), flags.skip rest)
      else do
        let (high, rest) ← readCount flags (c :: rest)
        match rest with
        | [] => none
        | d :: rest =>
          if d.toNat = 0x7D && low ≤ high then return ((low, some high), flags.skip rest) else none
  | c :: rest => if c.toNat = 0x7D then return ((low, some low), flags.skip rest) else none

/-- Drops the mark of a lazy repetition. -/
def dropLazy : List Char → List Char
  | '?' :: rest => rest
  | text => text

/-- Whether a character can stand in a group name, in front or further on. -/
def isNameChar (first : Bool) (c : Char) : Bool :=
  if first then c == '_' || Text.isAlphabetic c
  else c == '_' || c == '.' || c == '[' || c == ']' || Text.isAlphanumeric c

/-- Reads a group name up to its closing angle bracket. -/
def readName (text : List Char) : Option (List Char × List Char) :=
  let name := text.takeWhile (· != '>')
  match name, text.dropWhile (· != '>') with
  | first :: others, '>' :: rest =>
    if isNameChar true first && others.all (isNameChar false) then some (name, rest) else none
  | _, _ => none

/-- Reads flag letters up to a colon or a closing parenthesis: the new flags, which of
the two ended them, whether there were any, and the rest. No letter occurs twice, and
one dash negates what follows it. -/
def readFlags (flags : Flags) : (seen : List Char) → (negative afterDash : Bool) →
    List Char → Option (Flags × Bool × Bool × List Char)
  | _, _, _, [] => none
  | seen, negative, afterDash, c :: rest =>
    if c == ':' || c == ')' then
      if afterDash then none else some (flags, c == ':', !seen.isEmpty || negative, rest)
    else if c == '-' then
      if negative then none else readFlags flags seen true true rest
    else if seen.contains c then none
    else match flags.set? c (!negative) with
      | none => none
      | some flags => readFlags flags (c :: seen) negative false rest

/-- A pattern being read: the group names used so far, and how deep the part nests. -/
structure Part where
  pattern : Pattern
  depth : Nat

/-- Items of a sequence, the last one first; none marks a place where flags changed,
which nothing can repeat. -/
abbrev Items := List (Option Part)

/-- Repeats the last item. -/
def repeatLast (items : Items) (low : Nat) (high : Option Nat) : Option Items :=
  match items with
  | some last :: others =>
    some (some ⟨.repeated last.pattern low high, last.depth + 1⟩ :: others)
  | _ => none

/-- Joins the items of a sequence. -/
def joinItems (items : Items) : Part :=
  match items with
  | [] => ⟨.empty, 0⟩
  | [none] => ⟨.empty, 0⟩
  | [some part] => part
  | _ =>
    let parts := items.filterMap id
    let pattern := match parts with
      | [] => .empty
      | last :: others => others.foldl (fun tail part => .concat part.pattern tail) last.pattern
    ⟨pattern, (parts.map Part.depth).foldl max 0 + 1⟩

/-- Joins the branches of a choice, the last one first. -/
def joinBranches (branches : List Part) : Part :=
  match branches with
  | [] => ⟨.empty, 0⟩
  | [part] => part
  | last :: others =>
    ⟨others.foldl (fun tail part => .alternate part.pattern tail) last.pattern,
      (branches.map Part.depth).foldl max 0 + 1⟩

/-- The pattern of a literal. An octet beyond ASCII is no text by itself. -/
def literalPattern? (flags : Flags) (c : Char) (isOctet : Bool) : Option Pattern :=
  if flags.unicode then
    let hasVariants := flags.caseless && (Text.caseVariants c).length > 1
    some (.oneOf (if hasVariants then .folded (.single c) else .single c))
  else if isOctet then none
  else some (.oneOf (if flags.caseless && c.isAlpha then .foldedAscii (.single c) else .single c))

/-- The pattern of an item. -/
def atomPattern? (flags : Flags) : Atom → Option Pattern
  | .literal c isOctet => literalPattern? flags c isOctet
  | .oneOf set => some (.oneOf set)
  | .boundary b => some (.boundary b)

/-- Any character but, without the flag, line ends. -/
def dotPattern? (flags : Flags) : Option Pattern :=
  if !flags.unicode then none
  else if flags.dotAll then some (.oneOf (.property .any))
  else if flags.carriageReturn then
    some (.oneOf (.complement (.union (.single '\n') (.single '\r'))))
  else some (.oneOf (.complement (.single '\n')))

/-- Reads an item that is not a group, a class or a repetition. -/
def readPlain (flags : Flags) (text : List Char) : Option (Pattern × List Char) :=
  match text with
  | [] => none
  | '\\' :: rest => do
    let (atom, rest) ← readEscape flags rest
    return (← atomPattern? flags atom, rest)
  | '.' :: rest => (dotPattern? flags).map fun pattern => (pattern, rest)
  | '^' :: rest =>
    let start := if flags.multiLine then .lineStart flags.carriageReturn else .textStart
    some (.boundary start, rest)
  | '$' :: rest =>
    let finish := if flags.multiLine then .lineEnd flags.carriageReturn else .textEnd
    some (.boundary finish, rest)
  | c :: rest => (literalPattern? flags c false).map fun pattern => (pattern, rest)

/-- What a parenthesis opens: a change of flags for the rest of the group around it,
or a group. -/
inductive Opening where
  | flags (flags : Flags)
  | group (flags : Flags) (capturing : Bool)

/-- Reads what follows a parenthesis up to the start of the group's content. -/
def readOpening (flags : Flags) (names : List (List Char)) (text : List Char) :
    Option (Opening × List (List Char) × List Char) :=
  let named (rest : List Char) : Option (Opening × List (List Char) × List Char) := do
    let (name, rest) ← readName rest
    if names.contains name then none else return (.group flags true, name :: names, rest)
  match flags.skip text with
  | '?' :: '=' :: _ => none
  | '?' :: '!' :: _ => none
  | '?' :: '<' :: '=' :: _ => none
  | '?' :: '<' :: '!' :: _ => none
  | '?' :: 'P' :: '<' :: rest => named rest
  | '?' :: '<' :: rest => named rest
  | '?' :: rest => do
    let (changed, opensGroup, any, rest) ← readFlags flags [] false false rest
    if opensGroup then return (.group changed false, names, rest)
    else if any then return (.flags changed, names, rest)
    else none
  | text => some (.group flags true, names, text)

/-- Reads a choice up to the end of the text or an unmatched closing parenthesis. The
items of the current branch and the finished branches are kept last one first. Every
step takes a character, so the length of the text is fuel enough. -/
def readChoice (flags : Flags) (names : List (List Char)) : (fuel : Nat) →
    Items → List Part → List Char → Option (Part × List (List Char) × List Char)
  | 0, _, _, _ => none
  | fuel + 1, items, branches, text =>
    match flags.skip text with
    | [] => some (joinBranches (joinItems items :: branches), names, [])
    | ')' :: rest => some (joinBranches (joinItems items :: branches), names, ')' :: rest)
    | '|' :: rest => readChoice flags names fuel [] (joinItems items :: branches) rest
    | '*' :: rest => do
      readChoice flags names fuel (← repeatLast items 0 none) branches (dropLazy rest)
    | '+' :: rest => do
      readChoice flags names fuel (← repeatLast items 1 none) branches (dropLazy rest)
    | '?' :: rest => do
      readChoice flags names fuel (← repeatLast items 0 (some 1)) branches (dropLazy rest)
    | '[' :: rest => do
      let (set, rest) ← readSet flags fuel rest
      readChoice flags names fuel (some ⟨.oneOf set, 1⟩ :: items) branches rest
    | '(' :: rest => do
      let (opening, names, rest) ← readOpening flags names rest
      match opening with
      | .flags changed => readChoice changed names fuel (none :: items) branches rest
      | .group inner capturing => do
        let (part, names, rest) ← readChoice inner names fuel [] [] rest
        match rest with
        | ')' :: rest =>
          let pattern := if capturing then .capture part.pattern else part.pattern
          readChoice flags names fuel (some ⟨pattern, part.depth + 1⟩ :: items) branches rest
        | _ => none
    | c :: rest =>
      if c.toNat = 0x7B then do
        let ((low, high), rest) ← readCounts flags rest
        readChoice flags names fuel (← repeatLast items low high) branches (dropLazy rest)
      else do
        let (pattern, rest) ← readPlain flags (c :: rest)
        readChoice flags names fuel (some ⟨pattern, 0⟩ :: items) branches rest

/-- How deep a pattern may nest. -/
def maxDepth : Nat := 250

/-- Reads a pattern that ignores letter case unless it says otherwise. -/
def read (text : List Char) : Option Pattern := do
  let (part, _, rest) ← readChoice {} [] (text.length + 1) [] [] text
  if rest.isEmpty && part.depth ≤ maxDepth && part.pattern.size ≤ maxSize then
    some part.pattern
  else none

end DialectBridge.Pattern
