import DialectBridge.Statement.Definition
import DialectBridge.Emulation.Table

/-!
# Rewriting statements

Calls of rewritten functions in a statement are replaced by native expressions, the
inner calls before the outer ones. A text that has no such call, or that cannot be
read, stays as it is, to the letter; the engine reports on what it cannot run.
-/

namespace DialectBridge.Statement

open Emulation (Fault)

/-- A phrase after rewriting, and whether anything in it has changed. -/
structure Rewritten (α : Type) where
  result : α
  changed : Bool

/-- The native expression of a call; none if the function is not a rewritten one. -/
def native (function : String) (arguments : List Phrase) : Except Fault (Option Phrase) := do
  match ← Emulation.fragment function (arguments.map Phrase.render) with
  | none => return none
  | some fragment =>
    match readExpression fragment with
    | some expression => return some expression
    | none => throw .unreadableFragment

/-- The name that the function of a call is looked up by. -/
def calledName (function : List Identifier) : String :=
  Text.lowercased (renderName function)

namespace Phrase

mutual

/-- Rewrites the calls in a phrase, children first. -/
def rewrite : Phrase → Except Fault (Rewritten Phrase)
  | text words => .ok ⟨text words, false⟩
  | name parts => .ok ⟨name parts, false⟩
  | call function quantifier arguments ordering modifiers => do
    let arguments ← rewriteAll arguments
    let ordering ← rewriteAll ordering
    let modifiers ← rewriteAll modifiers
    match ← native (calledName function) arguments.result with
    | some expression => return ⟨expression, true⟩
    | none =>
      return ⟨call function quantifier arguments.result ordering.result modifiers.result,
        arguments.changed || ordering.changed || modifiers.changed⟩
  | substring subject start length => do
    let subject ← subject.rewrite
    let start ← rewriteAll start
    let length ← rewriteAll length
    match ← native "substring" (subject.result :: start.result ++ length.result) with
    | some expression => return ⟨expression, true⟩
    | none =>
      return ⟨substring subject.result start.result length.result,
        subject.changed || start.changed || length.changed⟩
  | sequence parts => do
    let parts ← rewriteAll parts
    return ⟨sequence parts.result, parts.changed⟩

/-- Rewrites the calls in phrases, in order. -/
def rewriteAll : List Phrase → Except Fault (Rewritten (List Phrase))
  | [] => .ok ⟨[], false⟩
  | phrase :: rest => do
    let first ← phrase.rewrite
    let rest ← rewriteAll rest
    return ⟨first.result :: rest.result, first.changed || rest.changed⟩

end

end Phrase

/-- Whether the name of a rewritten function occurs anywhere in a text, in any case. -/
def mentionsRewritten (text : String) : Bool :=
  let lowered := Text.lower text.toList
  Emulation.rewriteNames.any fun name => Text.occursIn name.toList lowered

/-- Rewrites the statements of a text; none if it stays as it is. -/
def rewriteStatements (text : String) : Except Fault (Option String) := do
  match readAll text with
  | none => return none
  | some statements =>
    let rewritten ← Phrase.rewriteAll statements
    if rewritten.changed then
      return some ("; ".intercalate (Phrase.renderAll rewritten.result))
    else return none

/-- Rewrites the statements of a text that mentions a rewritten function; none if the
text stays as it is. -/
def rewrite (text : String) : Except Fault (Option String) :=
  if mentionsRewritten text then rewriteStatements text else .ok none

end DialectBridge.Statement
