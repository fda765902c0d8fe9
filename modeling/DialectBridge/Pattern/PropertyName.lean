import DialectBridge.Pattern.CharSet

/-!
# Names of properties

A property is named by a general category or a group of categories, by a script, or
by one of a few binary properties. Letter case, blanks, dashes and underscores in a
name do not count.
-/

namespace DialectBridge.Pattern

/-- A name in its comparable form, without a leading `is`. -/
def normalizeName (name : List Char) : String :=
  let kept := (name.filter fun c => !(c == ' ' || c == '_' || c == '-')).map Char.toLower
  match kept with
  | 'i' :: 's' :: rest => if rest = ['c'] then "isc" else String.ofList rest
  | _ => String.ofList kept

/-- The categories whose abbreviation starts with a letter. -/
def categoriesOf (letter : Char) : List Text.Category :=
  Text.Category.all.filter fun category => category.abbreviation.toList.head? == some letter

/-- Groups of categories by name. -/
def categoryGroup? : String → Option (List Text.Category)
  | "l" | "letter" => some (categoriesOf 'L')
  | "lc" | "casedletter" => some [.uppercaseLetter, .lowercaseLetter, .titlecaseLetter]
  | "m" | "mark" | "combiningmark" => some (categoriesOf 'M')
  | "n" | "number" => some (categoriesOf 'N')
  | "p" | "punctuation" | "punct" => some (categoriesOf 'P')
  | "s" | "symbol" => some (categoriesOf 'S')
  | "z" | "separator" => some (categoriesOf 'Z')
  | "c" | "other" => some (categoriesOf 'C')
  | "digit" => some [.decimalNumber]
  | "cntrl" => some [.control]
  | _ => none

/-- Categories by either of their names, and groups. -/
def categories? (name : String) : Option (List Text.Category) :=
  match Text.Category.all.find? fun category =>
      normalizeName category.abbreviation.toList == name ||
        normalizeName category.longName.toList == name with
  | some category => some [category]
  | none => categoryGroup? name

/-- Scripts by name. -/
def script? (name : String) : Option Text.Script :=
  Text.Script.all.find? fun script => normalizeName script.name.toList == name

/-- A property by its name alone. -/
def property? (name : List Char) : Option Property :=
  let normal := normalizeName name
  match normal with
  | "any" => some .any
  | "ascii" => none
  | "assigned" => some .assigned
  | "alphabetic" | "alpha" => some .alphabetic
  | "lowercase" | "lower" => some .lowercase
  | "uppercase" | "upper" => some .uppercase
  | "whitespace" | "space" | "wspace" => some .blank
  | _ => ((categories? normal).map Property.categories).or ((script? normal).map Property.script)

/-- The set with a name. -/
def namedSet? (name : List Char) : Option CharSet :=
  if normalizeName name == "ascii" then some (.range 0 0x7F)
  else (property? name).map CharSet.property

/-- The set with a value of a property that takes values. -/
def valuedSet? (key value : List Char) : Option CharSet :=
  match normalizeName key with
  | "gc" | "generalcategory" =>
    (categories? (normalizeName value)).map fun list => .property (.categories list)
  | "sc" | "script" => (script? (normalizeName value)).map fun script => .property (.script script)
  | _ => none

/-- The set that the text between the braces of a property names. A value may be
required to differ. -/
def bracedSet? (content : List Char) : Option CharSet :=
  match Text.cutAtFirst ['!', '='] content with
  | some (key, value) => (valuedSet? key value).map .complement
  | none =>
    match content.findIdx? fun c => c == ':' || c == '=' with
    | some index => valuedSet? (content.take index) (content.drop (index + 1))
    | none => namedSet? content

end DialectBridge.Pattern
