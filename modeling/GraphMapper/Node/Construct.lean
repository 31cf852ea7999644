import GraphMapper.Node.Basic

/-!
# Making nodes

A node is made in one of two ways.  The validating constructor takes inputs of any kind and
reports everything that does not fit.  Hydration takes a node that a store returned and accepts
it as it is: its labels may have been written by another client, and refusing to read them
would help nobody.

## The identity among the attributes

A store keeps the identity as a property like any other, so it may turn up among the
attributes.  Both ways take it out and make it the node's identity; the constructor prefers an
identity that is given on its own.

The constructor takes it out before anything is checked, and only where it recognises it: the
inputs and the attributes have to be maps themselves, and the key has to be the text.  What is
checked afterwards is more liberal.  A view of a map is accepted for a map, and a key that is a
string of bytes is read as its text.
-/

namespace GraphMapper.Node

/-- An identity is kept as text; null is no identity. -/
def identityOf : Value → Value
  | .null => .null
  | v => .text v.plain

/-- Moves the identity from the attributes to its own input, unless that holds one. -/
def extractIdentity (inputs : Entries) : Entries :=
  match (Entries.get? inputs (.text "attributes")).bind Value.dictionary? with
  | some attributes =>
    match Entries.get? attributes identityEntry with
    | some identity =>
      let rest :=
        Entries.put inputs (.text "attributes") (.map (Entries.erase attributes identityEntry))
      match Entries.get? inputs (.text "identity") with
      | none | some .null => rest.put (.text "identity") identity
      | some _ => rest
    | none => inputs
  | none => inputs

/-- Labels that are plain names, without repetitions. -/
def readLabels (input : Value) : Except (List Issue) (List String) := do
  let labels ← Validation.textList "labels" input
  match identifiers labelRole (labels.map .text) with
  | .ok names => .ok (distinct names)
  | .error fault => .error [.at "labels" (.rejected fault.message)]

/-- The fields of a node that can be given. -/
def fieldNames : List String := ["identity", "labels", "attributes", "persisted"]

/-- The inputs that no field takes. -/
def unexpected (inputs : Entries) : List Issue :=
  inputs.filterMap fun e =>
    match e.1 with
    | .text name => if fieldNames.contains name then none else some (.at name .unexpected)
    | key => some ⟨[key.pathStep], .notAName⟩

/-- Builds a node from named inputs as they are. -/
def validated (inputs : Entries) : Except Fault Node :=
  let identity := identityOf ((Validation.input? "identity" inputs).getD .null)
  let labels := Validation.optional "labels" [] readLabels inputs
  let attributes := Validation.optional "attributes" [] (Validation.textMap "attributes") inputs
  let persisted :=
    Validation.optional "persisted" false (Validation.scalar "persisted" Validation.bool) inputs
  let issues := labels.issues ++ attributes.issues ++ persisted.issues ++ unexpected inputs
  match labels.value?, attributes.value?, persisted.value?, issues with
  | some labels, some attributes, some persisted, [] =>
    if persisted && identity.isNull then
      .error (.invalid ⟨.node, [⟨[], .rejected "A persisted node must have an identity"⟩]⟩)
    else
      .ok { identity := identity, labels := labels, attributes := attributes,
            persisted := persisted }
  | _, _, _, _ => .error (.invalid ⟨.node, issues⟩)

/-- Builds a node from named inputs. -/
def ofInputs (given : Entries) : Except Fault Node := validated (extractIdentity given)

/-- Builds a node from one value, which must be a map of named inputs or a view of one.  In a view
the identity is not looked for. -/
def ofValue (input : Value) : Except Fault Node :=
  match input.dictionary?, input.bare with
  | some given, _ => ofInputs given
  | none, .map inputs => validated inputs
  | none, _ => .error (.invalid ⟨.node, [⟨[], .notAnEntity⟩]⟩)

/-- The node that a stored node is in memory.  It is persisted if it can be matched, and it
remembers its identity as stored. -/
def hydrate (stored : StoredNode) : Node :=
  let storedIdentity := (stored.properties.get? identityEntry).getD .null
  { identity := identityOf storedIdentity
    labels := sortLabels stored.labels
    attributes := stored.properties.erase identityEntry
    persisted := !storedIdentity.isNull
    fromStore := true
    storedIdentity := storedIdentity }

/-- Hydrates a value, if it is a stored node.  Objects whose properties cannot be listed are
of the wrong kind, and everything else lacks what a node has. -/
def ofStored (stored : Value) : Except Fault Node :=
  match stored.bare with
  | .node labels properties => .ok (hydrate ⟨labels, properties⟩)
  | .object .unlistable .. => .error .wrongKind
  | _ => .error .noAttribute

end GraphMapper.Node
