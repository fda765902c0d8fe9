import DialectBridge.Calendar.Moment
import DialectBridge.Text.Lowercase

/-!
# What a call can read besides its arguments

The host's table names, its version text, the current moment and a coin are inputs of
a call, so that a call is a function.
-/

namespace DialectBridge.Emulation

/-- The host's tables: their common prefix, and their names in lower case without it. -/
structure Catalog where
  tablePrefix : String
  tables : List String
  deriving DecidableEq

namespace Catalog

/-- The catalog of tables with the given names. -/
def ofNames (tablePrefix : String) (names : List String) : Catalog :=
  ⟨tablePrefix, names.map Text.lowercased⟩

/-- No tables and no prefix. -/
def empty : Catalog := ⟨"", []⟩

/-- Whether a table is known, whatever the case of its letters. -/
def hasTable (catalog : Catalog) (name : String) : Bool :=
  catalog.tables.contains (Text.lowercased name)

end Catalog

/-- The version text that hosts expect by default. -/
def defaultVersion : String := "5.5"

/-- What a call can read. The local timezone is that of the current moment. -/
structure Environment where
  catalog : Catalog := .empty
  version : String := defaultVersion
  now : Calendar.Moment
  coin : Bool := false

end DialectBridge.Emulation
