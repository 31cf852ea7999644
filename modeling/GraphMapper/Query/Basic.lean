import GraphMapper.Condition
import GraphMapper.Node.Basic
import GraphMapper.Placeholder
import GraphMapper.Sorting

/-!
# Queries

A query describes the nodes that carry certain labels and meet a chain of conditions, in an
order and up to a number.  It is built step by step.  A step that is refused leaves the query
as it was: each step checks all of its arguments before it changes anything, so the refused
steps of a history can be left out without changing what is compiled.

## Conditions and their values

A condition holds a placeholder, and the value is in the query's parameters under that name.
The placeholders come from the query's allocator, which also serves the assignments of an
update and the conditions of the traversals that start here.  The names of a query's own
conditions are therefore fresh, but they need not be consecutive.
-/

namespace GraphMapper

/-- A query for nodes. -/
structure Query where
  labels : List String := []
  conditions : List Condition := []
  parameters : Entries := []
  sorting : Option Sorting := none
  limit : Option Nat := none
  allocator : Allocator := {}

namespace Query

/-- Replaces the labels, each kept at its first place. -/
def withLabels (query : Query) (labels : List Value) : Except Fault Query := do
  let names ← identifiers labelRole labels
  return { query with labels := distinct names }

/-- A query for the nodes with the given labels. -/
def ofLabels (labels : List Value) : Except Fault Query := withLabels {} labels

/-- Binds a value to a fresh placeholder and appends a condition on it. -/
def append (query : Query) (field : String) (operator : Operator) (value : Value)
    (connective : Connective) : Query :=
  { query with
    conditions := query.conditions ++ [⟨field, operator, query.allocator.fresh, connective⟩]
    parameters := query.parameters.put (.text query.allocator.fresh) value
    allocator := query.allocator.advance }

/-- Appends a condition, if its field is a name and its operator is known. -/
def addCondition (query : Query) (field operator value : Value) (connective : Connective) :
    Except Fault Query := do
  let field ← identifier fieldRole field
  let operator ← Operator.read operator
  return query.append field operator value connective

/-- Appends a condition that is joined by "and". -/
def «where» (query : Query) (field first : Value) (second : Option Value) :
    Except Fault Query :=
  let (operator, value) := splitOperands first second
  query.addCondition field operator value .and

/-- Appends a condition that is joined by "or". -/
def orWhere (query : Query) (field first : Value) (second : Option Value) :
    Except Fault Query :=
  let (operator, value) := splitOperands first second
  query.addCondition field operator value .or

/-- The collection that a value is.  A text has members too, but whoever passes one to a
membership condition has forgotten the brackets. -/
def readCollection : Value → Except Fault (List Value)
  | .text s => .error (.notACollection (.text s))
  | .bytes b => .error (.notACollection (.bytes b))
  | v =>
    match v.members? with
    | some members => .ok members
    | none => .error .wrongKind

/-- Appends a membership condition; the whole collection is bound to one placeholder. -/
def whereIn (query : Query) (field collection : Value) : Except Fault Query := do
  let members ← readCollection collection
  query.addCondition field (.text Operator.oneOf.text) (.list members) .and

/-- Replaces the ordering. -/
def orderBy (query : Query) (field direction : Value) : Except Fault Query := do
  let field ← identifier fieldRole field
  let direction ← SortDirection.read direction
  return { query with sorting := some ⟨field, direction⟩ }

/-- Replaces the limit. -/
def withLimit (query : Query) (count : Value) : Except Fault Query := do
  let count ← readLimit count
  return { query with limit := some count }

/-- A query in one line, given the text of its labels and the number of its conditions. -/
def summaryWith (labels : String) (conditions : Nat) : String :=
  "NodeQuery(labels=" ++ labels ++ ", predicates=" ++ toString conditions ++ ")"

end Query

end GraphMapper
