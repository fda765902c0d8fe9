import DialectBridge.Address
import DialectBridge.Digest
import DialectBridge.Emulation.Environment
import DialectBridge.Emulation.Fault
import DialectBridge.Pattern.Reader
import DialectBridge.Value

/-!
# Text functions

Positions and lengths count characters. Null arguments give null, except where a
function says otherwise.
-/

namespace DialectBridge.Emulation

/-- A function of a text that maps null to null. -/
def onText (f : String → Value) (value : Value) : Value :=
  match value.asText? with
  | none => .null
  | some text => f text

/-- The number of characters. -/
def charLength (value : Value) : Value := onText (fun text => .ofInt text.toList.length) value

/-- The digest of a text or of the octets of a blob. -/
def digestOf (value : Value) : Value :=
  match value with
  | .blob octets => .text (Digest.hexDigest octets)
  | value => onText (fun text => .text (Digest.hexDigest (Text.Utf8.encode text))) value

/-- The texts of all arguments, one after the other; null if any is null. -/
def concatenate (values : List Value) : Value :=
  match values.mapM Value.asText? with
  | none => .null
  | some texts => .text (String.join texts)

/-- The table that a qualified name mentions: the text before the first point, without
the host's prefix. -/
def qualifier? (catalog : Catalog) (text : List Char) : Option (List Char) :=
  (Text.cutAtFirst ['.'] text).map fun (qualifier, _) =>
    let tablePrefix := catalog.tablePrefix.toList
    if tablePrefix.isPrefixOf qualifier then qualifier.drop tablePrefix.length else qualifier

/-- Whether a text is the name of a column qualified by a known table. -/
def isQualifiedColumn (catalog : Catalog) (text : String) : Bool :=
  match qualifier? catalog text.toList with
  | none => false
  | some qualifier =>
    let table := Text.trim qualifier
    !table.isEmpty && catalog.hasTable (String.ofList table)

/-- The position, counted from one, of the first candidate that loosely equals a value,
or zero. Null and columns of known tables are never found. -/
def fieldPosition (catalog : Catalog) (values : List Value) : Value :=
  match values with
  | [] => .integer 0
  | .null :: _ => .integer 0
  | needle :: candidates =>
    if (needle.asText?.map (isQualifiedColumn catalog)).getD false then .integer 0
    else match candidates.findIdx? (needle.looselyEqual ·) with
      | some index => .ofInt (index + 1)
      | none => .integer 0

/-- The least position at or after `position` at which a text starts with `needle`,
where `text` starts at `position`. -/
def findFrom (needle : List Char) : (position : Nat) → (text : List Char) → Option Nat
  | position, [] => if needle.isEmpty then some position else none
  | position, c :: rest =>
    if needle.isPrefixOf (c :: rest) then some position else findFrom needle (position + 1) rest

/-- The position, counted from one, of the first occurrence of a text after skipping
some characters, or zero. -/
def locateFrom (needle text : List Char) (skip : Nat) : Nat :=
  if text.length < skip then 0
  else match findFrom needle skip (text.drop skip) with
    | some position => position + 1
    | none => 0

/-- The position of a text in another. The start is counted from zero; a negative one
is the beginning. -/
def locate (function : String) (needle text : Value) (start : Option Value) :
    Except Fault Value :=
  match needle.asText?, text.asText? with
  | some needle, some text =>
    match start with
    | none => .ok (.ofInt (locateFrom needle.toList text.toList 0))
    | some .null => .ok .null
    | some start =>
      match start.toInt? with
      | none => .error (.invalidArgument function .positionNotInteger)
      | some start => .ok (.ofInt (locateFrom needle.toList text.toList start.toNat))
  | _, _ => .ok .null

/-- Whether a text matches a pattern somewhere, whatever the case of its letters. A
null text or pattern does not match. -/
def matchesPattern (text pattern : Value) : Except Fault Value :=
  match text.asText?, pattern.asText? with
  | some text, some pattern =>
    match Pattern.read pattern.toList with
    | none => .error .invalidPattern
    | some pattern => .ok (.integer (if pattern.isMatch text.toList then 1 else 0))
  | _, _ => .ok (.integer 0)

/-- The written address of a number; null for what is no address. -/
def writeAddress (value : Value) : Value :=
  match value.toInt? with
  | none => .null
  | some n => if 0 ≤ n ∧ n < 0x100000000 then .text (Address.write n.toNat) else .null

/-- The number of a written address; zero for what is no address. -/
def readAddress (value : Value) : Value :=
  onText (fun text => .ofInt ((Address.read (Text.trim text.toList)).getD 0)) value

end DialectBridge.Emulation
