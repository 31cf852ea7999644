import GraphMapper.Fault
import GraphMapper.Value.Entries

/-!
# Statements

A compiled statement is a text with placeholders and the parameters that the placeholders stand
for.  Statements are values: once built, neither part can be assigned again.
-/

namespace GraphMapper

/-- A statement as it is sent to a store. -/
structure Statement where
  text : String
  parameters : Entries := []

namespace Statement

/-- Builds a statement from named inputs; inputs with other names are ignored. -/
def ofInputs (inputs : Entries) : Except Fault Statement :=
  let text := Validation.required "text" (Validation.scalar "text" Validation.text) inputs
  let parameters := Validation.optional "parameters" [] (Validation.textMap "parameters") inputs
  match text.value?, parameters.value? with
  | some text, some parameters => .ok ⟨text, parameters⟩
  | _, _ => .error (.invalid ⟨.statement, text.issues ++ parameters.issues⟩)

/-- Assigning to a part of a statement is refused, whatever the part. -/
def frozen (name : String) : Fault := .invalid ⟨.statement, [.at name .frozen]⟩

end Statement

end GraphMapper
