import GraphMapper.Identifier
import GraphMapper.Operator
import GraphMapper.Value.Entries

/-!
# Conditions

A condition compares a property with a placeholder.  It does not hold the value: that is in
the parameters of the query that owns the condition, under the placeholder's name.

## Chains

Conditions are joined into one flat chain, each by its own connective, without parentheses.
The first condition's connective is not written.  Since "and" binds tighter than "or" in a
statement, a chain means a disjunction of conjunctions, cut before each condition that is
joined by "or".
-/

namespace GraphMapper

/-- How a condition is joined to the ones before it. -/
inductive Connective where
  | and
  | or
  deriving DecidableEq

/-- A connective as it is written into a statement. -/
def Connective.text : Connective → String
  | .and => "AND"
  | .or => "OR"

/-- A comparison of a property with a placeholder. -/
structure Condition where
  field : String
  operator : Operator := .equal
  parameter : String
  connective : Connective := .and
  deriving DecidableEq

namespace Condition

/-- A condition on the property of the pattern variable `var`. -/
def text (condition : Condition) (var : String) : String :=
  var ++ "." ++ condition.field ++ " " ++ condition.operator.text ++ " $" ++
    condition.parameter

/-- A text field whose content is read further; a refusal becomes the field's problem. -/
def readField {α : Type} (name : String) (read : Value → Except Fault α) (v : Value) :
    Except (List Issue) α := do
  let s ← Validation.scalar name Validation.text v
  (read (.text s)).mapError fun fault => [.at name (.rejected fault.message)]

/-- The connective that a value names exactly. -/
def readConnective : Value → Except Problem Connective
  | .text s =>
    if s = "AND" then .ok .and else if s = "OR" then .ok .or else .error .notConnective
  | _ => .error .notConnective

/-- Builds a condition from named inputs; inputs with other names are ignored. -/
def ofInputs (inputs : Entries) : Except Fault Condition :=
  let field := Validation.required "field" (readField "field" (identifier fieldRole)) inputs
  let operator :=
    Validation.optional "operator" Operator.equal (readField "operator" Operator.read) inputs
  let parameter :=
    Validation.required "parameter" (Validation.scalar "parameter" Validation.text) inputs
  let connective :=
    Validation.optional "connective" Connective.and
      (Validation.scalar "connective" readConnective) inputs
  match field.value?, operator.value?, parameter.value?, connective.value? with
  | some field, some operator, some parameter, some connective =>
    .ok ⟨field, operator, parameter, connective⟩
  | _, _, _, _ =>
    .error (.invalid ⟨.condition,
      field.issues ++ operator.issues ++ parameter.issues ++ connective.issues⟩)

/-- Assigning to a part of a condition is refused, whatever the part. -/
def frozen (name : String) : Fault := .invalid ⟨.condition, [.at name .frozen]⟩

end Condition

/-- The conditions of a chain after its first, each with its connective. -/
def chainRest : List (Condition × String) → String
  | [] => ""
  | (condition, var) :: rest =>
    " " ++ condition.connective.text ++ " " ++ condition.text var ++ chainRest rest

/-- Conditions, each on its own pattern variable, joined into a chain. -/
def chain : List (Condition × String) → String
  | [] => ""
  | (condition, var) :: rest => condition.text var ++ chainRest rest

/-- The filter of a pattern: nothing if there is no condition. -/
def whereClauseFor (conditions : List (Condition × String)) : String :=
  if conditions.isEmpty then "" else " WHERE " ++ chain conditions

/-- The filter of a pattern with one variable. -/
def whereClause (conditions : List Condition) (var : String) : String :=
  whereClauseFor (conditions.map fun condition => (condition, var))

/-! ## The two forms of a condition's arguments -/

/-- What a condition compares with: a bare value means equality, two arguments are an operator
and a value. -/
def splitOperands (first : Value) (second : Option Value) : Value × Value :=
  match second with
  | none => (.text Operator.equal.text, first)
  | some value => (first, value)

end GraphMapper
