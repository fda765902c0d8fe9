import DialectBridge.Database.Evaluation

/-!
# What a database holds

Tables with their rows, and indexes, in the order in which they were made. The rows of
a table are kept in the order of their row numbers, each once. An index holds nothing
of its own: it is a demand on the rows, and an order to visit them in.
-/

namespace DialectBridge.Database

/-- A row with its number. -/
structure Row where
  number : Int
  values : List Value

/-- The values of a row, with its number behind them. -/
def Row.cells (row : Row) : List Value := row.values ++ [.ofInt row.number]

/-- A table. -/
structure Table where
  definition : TableDefinition
  rows : List Row := []

/-- What a database is made of. -/
inductive Object where
  | table (table : Table)
  | index (definition : IndexDefinition)

/-- The name of an object. -/
def Object.name : Object → String
  | table found => found.definition.name
  | index definition => definition.name

/-- A database. -/
structure Store where
  objects : List Object := []

namespace Store

/-- The tables. -/
def tables (store : Store) : List Table :=
  store.objects.filterMap fun
    | .table table => some table
    | .index _ => none

/-- The indexes that were defined as such. -/
def indexes (store : Store) : List IndexDefinition :=
  store.objects.filterMap fun
    | .table _ => none
    | .index definition => some definition

/-- A table by name. -/
def table? (store : Store) (name : String) : Option Table :=
  store.tables.find? fun table => sameName table.definition.name name

/-- An index by name. -/
def index? (store : Store) (name : String) : Option IndexDefinition :=
  store.indexes.find? fun index => sameName index.name name

/-- The indexes on a table. -/
def indexesOn (store : Store) (table : String) : List IndexDefinition :=
  store.indexes.filter fun index => sameName index.table table

/-- The store with a table's rows changed. -/
def withRows (store : Store) (name : String) (rows : List Row) : Store :=
  { store with objects := store.objects.map fun
      | .table table =>
        if sameName table.definition.name name then .table { table with rows } else .table table
      | .index definition => .index definition }

/-- The store with one object more. -/
def add (store : Store) (object : Object) : Store :=
  { store with objects := store.objects ++ [object] }

/-- The store without a table and the indexes on it. -/
def dropTable (store : Store) (name : String) : Store :=
  { store with objects := store.objects.filter fun
      | .table table => !sameName table.definition.name name
      | .index definition => !sameName definition.table name }

/-- The store without an index. -/
def dropIndex (store : Store) (name : String) : Store :=
  { store with objects := store.objects.filter fun
      | .table _ => true
      | .index definition => !sameName definition.name name }

end Store

/-- The positions of an index's columns; none if it has other expressions or goes down
a column. -/
def IndexDefinition.positions? (index : IndexDefinition) : Option (List Nat) :=
  index.columns.mapM fun
    | (.cell position _, .ascending) => some position
    | _ => none

/-- The positions of an index's columns whatever their direction; none if it has other
expressions. -/
def IndexDefinition.keys? (index : IndexDefinition) : Option (List Nat) :=
  index.columns.mapM fun
    | (.cell position _, _) => some position
    | _ => none

/-! ## The catalogue -/

/-- The name of the index that keeps a table's constraint, by its place. -/
def automaticName (table : String) (place : Nat) : String :=
  "sqlite_autoindex_" ++ table ++ "_" ++ toString place

/-- One entry of the catalogue: its type, its name, its table and its source. -/
structure Entry where
  type : String
  name : String
  table : String
  source : Option String

/-- The entries of an object: a table's constraints come after it as indexes without a
source. -/
def Object.entries : Object → List Entry
  | table found =>
    let name := found.definition.name
    ⟨"table", name, name, some found.definition.source⟩ ::
      (List.range found.definition.unique.length).map fun place =>
        ⟨"index", automaticName name (place + 1), name, none⟩
  | index definition =>
    [⟨"index", definition.name, definition.table, some definition.source⟩]

/-- The catalogue of a database. -/
def Store.entries (store : Store) : List Entry := store.objects.flatMap Object.entries

/-- The names under which the catalogue can be read as a table. -/
def catalogueNames : List String := ["sqlite_master", "sqlite_schema"]

/-- The first page behind the catalogue's own. -/
def firstPage : Nat := 2

/-- The catalogue as a table. -/
def Store.catalogue (store : Store) : Table :=
  let text (name : String) : Column := { name, affinity := .text, width := 5 }
  { definition :=
      { name := "sqlite_master"
        columns := [text "type", text "name", text "tbl_name",
          { name := "rootpage", affinity := .integer, width := 1 }, text "sql"]
        rowNumber := none
        unique := []
        checks := []
        source := "" }
    rows := store.entries.zipIdx.map fun (entry, place) =>
      ⟨place + 1, [.text entry.type, .text entry.name, .text entry.table,
        .ofInt (place + firstPage), (entry.source.map .text).getD .null]⟩ }

/-- The objects that are not the engine's own. -/
def Store.ownEntries (store : Store) : List Entry :=
  store.entries.filter fun entry =>
    !"sqlite_".toList.isPrefixOf (entry.name.toList.map Char.toLower)

/-- A table to read, which may be the catalogue. -/
def Store.readable? (store : Store) (name : String) : Option Table :=
  if catalogueNames.any fun known => sameName known name then some store.catalogue
  else store.table? name

end DialectBridge.Database
