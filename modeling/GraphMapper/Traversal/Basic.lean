import GraphMapper.Query.Basic

/-!
# Traversals

A traversal continues a query: from the nodes that the query matches it follows one
relationship to its targets.  It has labels and conditions of its own, on the target or on
the relationship, and a limit.

## One allocator for both halves

The statement of a traversal contains the conditions of its source as well, so its
placeholders come from the source's allocator.  Several traversals can start from one source;
their conditions then draw from the same allocator and never share a name.

## Order of effects

Adding a condition checks the field, then draws the placeholder and binds the value, and only
then reads the operator.  An unknown operator therefore leaves a bound value behind that no
condition mentions.  `Traversal.addCondition` returns what it did together with the fault.
-/

namespace GraphMapper

/-- The direction in which a relationship is followed.  A direction can be replaced by any
value after a traversal was started; what names none is found out when it is compiled. -/
inductive PathDirection where
  | outgoing
  | incoming
  | both
  | unknown (given : Value)

namespace PathDirection

/-- The direction that a value names exactly. -/
def ofValue : Value → PathDirection
  | .text s =>
    if s = "outgoing" then .outgoing
    else if s = "incoming" then .incoming
    else if s = "both" then .both
    else .unknown (.text s)
  | v => .unknown v

/-- The value that a direction is written as. -/
def toValue : PathDirection → Value
  | .outgoing => .text "outgoing"
  | .incoming => .text "incoming"
  | .both => .text "both"
  | .unknown given => given

/-- The fault of a direction that is none. -/
def check : PathDirection → Except Fault PathDirection
  | .unknown given => .error (.invalidPathDirection given)
  | direction => .ok direction

/-- The relationship of a pattern. -/
def pattern (relationshipType : String) : PathDirection → Except Fault String
  | .outgoing => .ok ("-[r:" ++ relationshipType ++ "]->")
  | .incoming => .ok ("<-[r:" ++ relationshipType ++ "]-")
  | .both => .ok ("-[r:" ++ relationshipType ++ "]-")
  | .unknown given => .error (.invalidPathDirection given)

end PathDirection

/-- What a condition of a traversal is about. -/
inductive PathPart where
  | relationship
  | target
  deriving DecidableEq

/-- The pattern variable of a part. -/
def PathPart.var : PathPart → String
  | .relationship => "r"
  | .target => "target"

/-- A traversal; its source is kept by whoever started it. -/
structure Traversal where
  direction : PathDirection
  relationshipType : String
  targetLabels : List String := []
  conditions : List (Condition × PathPart) := []
  parameters : Entries := []
  limit : Option Nat := none

namespace Traversal

/-- Starts a traversal. -/
def start (direction relationshipType : Value) : Except Fault Traversal := do
  let direction ← (PathDirection.ofValue direction).check
  let name ← identifier relationshipRole relationshipType
  return { direction := direction, relationshipType := name }

/-- Replaces the labels of the target.  They are kept as given, repetitions included. -/
def withLabels (traversal : Traversal) (labels : List Value) : Except Fault Traversal := do
  let names ← identifiers labelRole labels
  return { traversal with targetLabels := names }

/-- Replaces the limit. -/
def withLimit (traversal : Traversal) (count : Value) : Except Fault Traversal := do
  let count ← readLimit count
  return { traversal with limit := some count }

/-- Binds a value under a name. -/
def bind (traversal : Traversal) (name : String) (value : Value) : Traversal :=
  { traversal with parameters := traversal.parameters.put (.text name) value }

/-- Appends a condition on a bound value. -/
def append (traversal : Traversal) (part : PathPart) (field : String) (operator : Operator)
    (parameter : String) : Traversal :=
  { traversal with
    conditions := traversal.conditions ++ [(⟨field, operator, parameter, .and⟩, part)] }

/-- Adds a condition on a part; the fault if it was refused, and the source and the traversal
as they are then. -/
def addCondition (source : Query) (traversal : Traversal) (part : PathPart)
    (field operator value : Value) : Except Fault Unit × Query × Traversal :=
  match identifier fieldRole field with
  | .error fault => (.error fault, source, traversal)
  | .ok name =>
    let parameter := source.allocator.fresh
    let drawn := { source with allocator := source.allocator.advance }
    let bound := traversal.bind parameter value
    match Operator.read operator with
    | .error fault => (.error fault, drawn, bound)
    | .ok operator => (.ok (), drawn, bound.append part name operator parameter)

/-- Adds a condition in either of its forms. -/
def whereOn (source : Query) (traversal : Traversal) (part : PathPart) (field first : Value)
    (second : Option Value) : Except Fault Unit × Query × Traversal :=
  let (operator, value) := splitOperands first second
  addCondition source traversal part field operator value

/-- A traversal in one line, given the texts of its source's labels, its direction, its type and
the labels of its target. -/
def summaryWith (sourceLabels direction relationshipType targetLabels : String) : String :=
  "TraversalQuery(source=" ++ sourceLabels ++ ", " ++ direction ++ " " ++ relationshipType ++
    " -> " ++ targetLabels ++ ")"

end Traversal

end GraphMapper
