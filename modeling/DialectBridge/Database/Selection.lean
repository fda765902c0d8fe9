import DialectBridge.Database.Route

/-!
# Answering queries

A query visits the rows of its table by a route, keeps those that satisfy its
condition, and gives the values of its columns. Where the route goes in the order of
the result the rows are taken one by one, as they are asked for; otherwise all are
found first and then put in order, and those that the order leaves equal stay in the
order of the visit.
-/

namespace DialectBridge.Database

/-- Rows of a result up to the first that could not be computed. -/
structure Answer where
  columns : Nat
  rows : List (List Value)
  failure : Option Problem := none

/-- The values of a result's columns. -/
def Query.values (query : Query) : List Expression :=
  query.columns.filterMap fun
    | .value expression _ => some expression
    | _ => none

/-- The columns that a query mentions. -/
def Query.used (query : Query) : List Nat :=
  cellsOfAll (query.values ++ query.condition.toList ++ query.order.map (·.expression))

/-! ## Results -/

/-- The order of two values in a term of an order. -/
def OrderTerm.compare (term : OrderTerm) (a b : Value) : Ordering :=
  match rank a, rank b with
  | 0, 0 => .eq
  | 0, _ => if term.nullsFirst then .lt else .gt
  | _, 0 => if term.nullsFirst then .gt else .lt
  | _, _ =>
    match term.direction with
    | .ascending => compareValues a b
    | .descending => compareValues b a

/-- The order of two rows by the values of the terms. -/
def compareByTerms : List OrderTerm → List Value → List Value → Ordering
  | term :: terms, a :: rest, b :: rest' =>
    (term.compare a b).then (compareByTerms terms rest rest')
  | _, _, _ => .eq

/-- The results of rows one by one, up to the first that cannot be computed, or until
there are enough. -/
def streamed (frame : Frame) (conditions columns : List Expression) :
    (skip : Nat) → (limit : Option Nat) → List Row → List (List Value) × Option Problem
  | _, some 0, _ => ([], none)
  | _, _, [] => ([], none)
  | skip, limit, row :: rest =>
    let inRow := { frame with row := row.cells }
    match allHold inRow conditions with
    | .error problem => ([], some problem)
    | .ok false => streamed frame conditions columns skip limit rest
    | .ok true =>
      match skip with
      | skip + 1 => streamed frame conditions columns skip limit rest
      | 0 =>
        match evaluateAll inRow columns with
        | .error problem => ([], some problem)
        | .ok values =>
          let (more, failure) := streamed frame conditions columns 0 (limit.map (· - 1)) rest
          (values :: more, failure)

/-- Rows without repetitions, the first of each kept. -/
def withoutRepeatedRows (rows : List (List Value × List Value)) : List (List Value × List Value) :=
  rows.foldl (fun kept row =>
    if kept.any fun known => compareRows known.1 row.1 == .eq then kept else kept ++ [row]) []

/-- The results of all rows, each with the values that it is put in order by. -/
def keyed (frame : Frame) (query : Query) (conditions : List Expression) (rows : List Row) :
    Except Problem (List (List Value × List Value)) :=
  rows.filterMapM fun row => do
    let inRow := { frame with row := row.cells }
    if ← allHold inRow conditions then
      let values ← evaluateAll inRow query.values
      return some (values, ← evaluateAll inRow (query.order.map (·.expression)))
    else return none

/-- The one result of a query with aggregates. Columns outside them are those of the
first row. -/
def aggregated (frame : Frame) (query : Query) (conditions : List Expression) (rows : List Row) :
    Except Problem (List Value) := do
  let kept ← rows.filterM fun row => allHold { frame with row := row.cells } conditions
  let columns ← settleAll frame (kept.map Row.cells) query.values
  evaluateAll { frame with row := ((kept.head?).map Row.cells).getD [] } columns

/-- A bound of a query: a whole number, of which one below zero says nothing. -/
def boundOf (frame : Frame) : Option Expression → Except Problem (Option Nat)
  | none => return none
  | some expression => do
    match Affinity.numeric.store (← expression.evaluate frame) with
    | .integer n => return if n.toInt < 0 then none else some n.toInt.toNat
    | _ => throw .mismatch

/-- Some of the results, by their bounds. -/
def bounded {α : Type} (skip : Nat) (limit : Option Nat) (items : List α) : List α :=
  let items := items.drop skip
  match limit with
  | some limit => items.take limit
  | none => items

/-- Whether a query has aggregates. -/
def Query.isAggregated (query : Query) : Bool :=
  !(aggregatesOfAll (query.values ++ query.order.map (·.expression))).isEmpty

/-- The conditions of a query on its rows, and the rows in the order in which they are
visited, with whether this is the order of the result. Without a table there is one
row. -/
def Query.visit (query : Query) (store : Store) (conditions : List Expression) :
    List Expression × List Row × Bool :=
  match query.source.bind fun source => store.readable? source.table with
  | none => (conditions, [⟨0, []⟩], query.order.isEmpty)
  | some table =>
    let definition := table.definition
    let search :=
      { conditions, order := query.order, limited := query.limit.isSome, used := query.used }
    let route := route definition (store.indexesOn definition.name) search
    (route.conditions, route.visit table.rows, route.isSorted)

/-- The results of a query whose names have been looked up, up to the first that cannot
be computed. -/
def Query.results (query : Query) (store : Store) (frame : Frame) :
    Except Problem (List (List Value) × Option Problem) := do
  let limit ← boundOf frame query.limit
  let skip := (← boundOf frame query.skip).getD 0
  if limit == some 0 then return ([], none)
  let (constant, conditions) := partsOf query.condition
  let (conditions, rows, isSorted) := query.visit store conditions
  let rows := if ← allHold frame constant then rows else []
  if query.isAggregated then
    return (bounded skip limit [← aggregated frame query conditions rows], none)
  if isSorted && !query.distinct then
    return streamed frame conditions query.values skip limit rows
  let results ← keyed frame query conditions rows
  let results := if query.distinct then withoutRepeatedRows results else results
  let sorted := results.mergeSort fun a b => compareByTerms query.order a.2 b.2 != .gt
  return (bounded skip limit (sorted.map Prod.fst), none)

/-- The answer to a query whose names have been looked up. -/
def Query.answer (query : Query) (store : Store) (frame : Frame) : Answer :=
  match query.results store frame with
  | .ok (rows, failure) => { columns := query.values.length, rows, failure }
  | .error problem => { columns := query.values.length, rows := [], failure := some problem }

end DialectBridge.Database
