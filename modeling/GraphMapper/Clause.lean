import GraphMapper.Identifier
import GraphMapper.Placeholder
import GraphMapper.Statement

/-!
# Clauses that bind properties

The pieces of a statement that list names: labels after a pattern variable, the inline
properties of a new node or relationship, and the assignments of an update.

## Binding

`bindProperties` is the one loop behind the last two.  It goes through the properties in
order, and for each it checks the name, takes a fresh placeholder and writes the value under
it.  Name check and binding alternate, so when a name is refused the properties before it are
already bound: the loop returns what it has done in either case, and callers that must not keep
a partial binding throw it away.
-/

namespace GraphMapper

/-- The labels of a pattern: a colon before each name. -/
def labelFragment (labels : List Value) : Except Fault String := do
  let names ← identifiers labelRole labels
  return Fault.labelsText names

/-- The state of binding: the allocator and the parameters bound so far. -/
structure Binding where
  allocator : Allocator := {}
  parameters : Entries := []

/-- Binds one value to a fresh placeholder. -/
def Binding.bind (binding : Binding) (value : Value) : Binding :=
  ⟨binding.allocator.advance,
    binding.parameters.put (.text binding.allocator.fresh) value⟩

/-- Binds properties in order and pairs each name with its placeholder, up to the first name
that is refused. -/
def bindProperties (binding : Binding) :
    Entries → Except Fault (List (String × String)) × Binding
  | [] => (.ok [], binding)
  | (key, value) :: rest =>
    match identifier propertyRole key.toValue with
    | .error fault => (.error fault, binding)
    | .ok name =>
      let (result, final) := bindProperties (binding.bind value) rest
      (result.map ((name, binding.allocator.fresh) :: ·), final)

/-- A property inside a pattern. -/
def inlineEntry (entry : String × String) : String := entry.1 ++ ": $" ++ entry.2

/-- The inline properties of a pattern: nothing if there are none. -/
def inlineMap (entries : List (String × String)) : String :=
  if entries.isEmpty then ""
  else " \x7b" ++ joinTexts ", " (entries.map inlineEntry) ++ "\x7d"

/-- Binds properties and writes them as an inline map; the identity comes last, under a
placeholder that is already bound. -/
def propertiesMap (binding : Binding) (properties : Entries) (identity : Option String) :
    Except Fault String × Binding :=
  let (result, final) := bindProperties binding properties
  let own := (identity.map fun parameter => (identityKey, parameter)).toList
  (result.map fun entries => inlineMap (entries ++ own), final)

/-- An assignment to a property of the pattern variable `var`. -/
def assignment (var : String) (entry : String × String) : String :=
  var ++ "." ++ entry.1 ++ " = $" ++ entry.2

/-- Binds properties and writes them as assignments: nothing if there are none. -/
def setClause (var : String) (binding : Binding) (properties : Entries) :
    Except Fault String × Binding :=
  let (result, final) := bindProperties binding properties
  (result.map fun entries =>
    if entries.isEmpty then ""
    else " SET " ++ joinTexts ", " (entries.map (assignment var)), final)

end GraphMapper
