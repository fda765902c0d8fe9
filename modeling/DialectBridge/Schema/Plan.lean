import DialectBridge.Schema.Batch
import DialectBridge.Schema.Fault
import DialectBridge.Schema.IndexName

/-!
# Installation plans

Every statement of a batch is translated into the engine's dialect. What creates an
index waits until all tables are there, so a plan has two lists.
-/

namespace DialectBridge.Schema

/-- A statement in the engine's dialect. A table can have indexes that are created
after every table. -/
inductive Translation where
  | single (statement : String)
  | table (table : String) (indexes : List String)
  deriving DecidableEq, Repr

/-- Translates a statement into the engine's dialect. -/
abbrev Translator := String → Except TranslationFault Translation

/-- The translator for batches that are in the engine's dialect already. -/
def Translator.identity : Translator := fun statement => .ok (.single statement)

/-- The statements of an installation, by phase. -/
structure Plan where
  tables : List String := []
  indexes : List String := []
  deriving DecidableEq, Repr

namespace Plan

/-- The plan of one translated statement. -/
def ofTranslation : Translation → Plan
  | .single statement =>
    if IndexName.isIndexStatement statement then { indexes := [statement] }
    else { tables := [statement] }
  | .table table indexes => { tables := [table], indexes }

/-- One plan after another. -/
def append (first second : Plan) : Plan :=
  ⟨first.tables ++ second.tables, first.indexes ++ second.indexes⟩

/-- The plan of statements, in order. The first one that cannot be translated is the
fault. -/
def ofStatements (translate : Translator) : List String → Except Fault Plan
  | [] => .ok {}
  | statement :: rest =>
    match translate statement with
    | .error fault => .error (.translation statement fault)
    | .ok translation => do
      return (ofTranslation translation).append (← ofStatements translate rest)

/-- The plan of a batch, which must have a statement. -/
def ofBatch (translate : Translator) (batch : String) : Except Fault Plan :=
  match Batch.split batch with
  | [] => .error .emptyBatch
  | statements => ofStatements translate statements

end Plan

end DialectBridge.Schema
