import DialectBridge.Settings.Basic
import DialectBridge.Text.Blank

/-!
# Where the database file is

A full path wins over the directory and file name. Joining follows the file system:
an absolute name stands alone, and an empty directory adds nothing.
-/

namespace DialectBridge.Settings

/-- Why the settings name no database file. -/
inductive LocationFault where
  | emptyPath
  | emptyFile
  | directoryName (file : String)
  deriving DecidableEq, Repr

namespace LocationFault

/-- What is said about the fault. -/
def message : LocationFault → String
  | emptyPath => "Database path is empty"
  | emptyFile => "Database file name is empty"
  | directoryName file => "Database file name '" ++ file ++ "' names a directory"

/-- The setting at fault. -/
def field : LocationFault → String
  | emptyPath => "database.path"
  | emptyFile | directoryName _ => "database.file"

/-- The report on the fault. -/
def report (fault : LocationFault) : Diagnostic.Report :=
  { code := .invalidDatabasePath
    message := fault.message
    context := some (.config none (some fault.field)) }

end LocationFault

/-- A name inside a directory. -/
def joined (directory name : List Char) : List Char :=
  if name.head? == some '/' || directory.isEmpty then name
  else if directory.getLast? == some '/' then directory ++ name
  else directory ++ '/' :: name

/-- The path of the database file. Blanks around a file name are left out; a full path
is taken as it is. -/
def DatabaseSettings.location (settings : DatabaseSettings) : Except LocationFault String :=
  match settings.path with
  | some path => if path.isEmpty then .error .emptyPath else .ok path
  | none =>
    let file := Text.trim settings.file.toList
    match file.getLast? with
    | none => .error .emptyFile
    | some last =>
      if last == '/' || last == '\\' then .error (.directoryName (String.ofList file))
      else .ok (String.ofList (joined settings.directory.toList file))

end DialectBridge.Settings
