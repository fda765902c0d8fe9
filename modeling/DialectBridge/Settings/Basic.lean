import DialectBridge.Diagnostic.Report
import DialectBridge.Settings.Toml
import DialectBridge.Settings.Yaml

/-!
# Settings

What a host can configure: where the database lives, how often a commit is tried,
the version that functions report, and the log. Settings are read from a file in one
of two notations, with variables of the environment laid over it. Loading goes
through three stages and stops at the first that fails: building the assignments,
reading every setting as its type, and checking the values.
-/

namespace DialectBridge.Settings

/-- Where the database lives and how its connection is tuned. -/
structure DatabaseSettings where
  directory : String := "database"
  file : String := ".ht.sqlite"
  path : Option String := none
  inMemory : Bool := false
  busyTimeoutMs : Nat := 5000

/-- How often a commit is tried, and the delays in between. -/
structure RetrySettings where
  maxAttempts : Nat := 5
  baseDelayMs : Nat := 25
  maxDelayMs : Nat := 1000

/-- How much is logged, and in which form. -/
structure LogSettings where
  level : String := "info"
  json : Bool := false

/-- All settings. -/
structure HostSettings where
  database : DatabaseSettings := {}
  retry : RetrySettings := {}
  versionString : String := "5.5"
  log : LogSettings := {}

/-- The stages of loading. -/
inductive Stage where
  | build
  | deserialize
  | validate
  deriving DecidableEq, Repr

/-- What is said when a stage fails. -/
def Stage.failure : Stage → String
  | build => "Failed to build configuration"
  | deserialize => "Failed to deserialize configuration"
  | validate => "Configuration validation failed"

/-- The report on a failed stage, about the file that was asked for. -/
def Stage.report (stage : Stage) (filePath : String) : Diagnostic.Report :=
  { code := .invalidConfig
    message := stage.failure
    context := some (.config (some filePath) none) }

/-! ## Building -/

/-- Reads a file by the extension of its name. -/
def readFile (extension content : String) : Option (List Assignment) :=
  if extension == "yaml" || extension == "yml" then Yaml.read content
  else if extension == "toml" then Toml.read content
  else none

/-- The variables that are settings start with this, in any case. -/
def variableStem : List Char := ['m', 'y', 'l', 'i', 't', 'e', '_', '_']

/-- What separates the keys in the name of a variable. -/
def keySeparator : List Char := ['_', '_']

/-- The name of a variable with a point in the place of each separator. -/
def dotted : List Char → List Char
  | '_' :: '_' :: rest => '.' :: dotted rest
  | c :: rest => c :: dotted rest
  | [] => []

/-- The content of a variable: a truth value or a number by its spelling, and a text
otherwise. -/
def variableContent (value : String) : Content :=
  match Text.lowercased value with
  | "true" => .truth true
  | "false" => .truth false
  | _ =>
    match Decimal.readInt64 value.toList with
    | some n => .whole n
    | none =>
      match Decimal.readFloat value.toList with
      | some x => .real x
      | none => .text value

/-- The assignment that a variable makes, if it is a setting. -/
def ofVariable? (name value : String) : Option Assignment :=
  let name := Text.lower name.toList
  if variableStem.isPrefixOf name then
    some ⟨[String.ofList (dotted (name.drop variableStem.length))], variableContent value⟩
  else none

/-- All assignments: those of the file, and over them those that variables make. -/
def build (extension : String) (content : Option String) (overrides : List (String × String)) :
    Option (List Assignment) := do
  let file ← match content with
    | none => some []
    | some text => readFile extension text
  let overlay := overrides.filterMap fun (name, value) => ofVariable? name value
  pure ((file ++ overlay).map Assignment.canonical)

/-! ## Reading -/

/-- A path that may hold nothing or a mapping. -/
def isMapping (path : List String) (assignments : List Assignment) : Bool :=
  match contentAt path assignments with
  | none | some .mapping => true
  | some _ => false

/-- The setting at a path, read as its type, or else its default; `none` if there is
something that does not read so. -/
def setting {α : Type} (assignments : List Assignment) (path : List String)
    (reading : Content → Option α) (default : α) : Option α :=
  match contentAt path assignments with
  | none => some default
  | some content => reading content

/-- A text, or null for none. -/
def optionalText? : Content → Option (Option String)
  | .null => some none
  | content => content.toText?.map some

/-- A count kept to its last 32 bits. -/
def shortCount? (content : Content) : Option Nat := content.toCount?.map (· % 0x100000000)

/-- The mappings that group the settings. -/
def groups : List (List String) :=
  [["database"], ["installer"], ["installer", "retry"], ["functions"], ["logging"]]

/-- Reads every setting; keys of other names are passed over. -/
def ofAssignments (assignments : List Assignment) : Option HostSettings := do
  if !groups.all (isMapping · assignments) then none
  let text (path : List String) := setting assignments path Content.toText?
  let truth (path : List String) := setting assignments path Content.toTruth?
  let count (path : List String) := setting assignments path Content.toCount?
  let plain : HostSettings := {}
  let directory ← text ["database", "directory"] plain.database.directory
  let file ← text ["database", "file"] plain.database.file
  let path ← setting assignments ["database", "path"] optionalText? plain.database.path
  let inMemory ← truth ["database", "in_memory"] plain.database.inMemory
  let busyTimeoutMs ← count ["database", "busy_timeout_ms"] plain.database.busyTimeoutMs
  let maxAttempts ←
    setting assignments ["installer", "retry", "max_attempts"] shortCount? plain.retry.maxAttempts
  let baseDelayMs ← count ["installer", "retry", "base_delay_ms"] plain.retry.baseDelayMs
  let maxDelayMs ← count ["installer", "retry", "max_delay_ms"] plain.retry.maxDelayMs
  let versionString ← text ["functions", "version_string"] plain.versionString
  let level ← text ["logging", "level"] plain.log.level
  let json ← truth ["logging", "json"] plain.log.json
  pure {
    database := { directory, file, path, inMemory, busyTimeoutMs }
    retry := { maxAttempts, baseDelayMs, maxDelayMs }
    versionString
    log := { level, json } }

/-! ## Checking -/

/-- The most attempts that may be asked for. -/
def maxAttemptsLimit : Nat := 100

/-- Whether the values are ones to work with: a file name, a version and a level that
are not empty, and a number of attempts from one to the limit. -/
def HostSettings.isValid (settings : HostSettings) : Bool :=
  !settings.database.file.isEmpty && !settings.versionString.isEmpty &&
    !settings.log.level.isEmpty &&
    1 ≤ settings.retry.maxAttempts && settings.retry.maxAttempts ≤ maxAttemptsLimit

/-- Loads the settings of a file, if there is one, with variables laid over it. -/
def load (extension : String) (content : Option String) (overrides : List (String × String)) :
    Except Stage HostSettings :=
  match build extension content overrides with
  | none => .error .build
  | some assignments =>
    match ofAssignments assignments with
    | none => .error .deserialize
    | some settings => if settings.isValid then .ok settings else .error .validate

end DialectBridge.Settings
