import GraphMapper.Node.Basic
import GraphMapper.Store.Program

/-!
# Relationships

A relationship is described in steps: where it starts and its type, where it leads, and its
properties.  Both ends must be nodes with an identity by the time it is compiled, because the
statement finds them by their identities; nothing is checked before that.

The ends are nodes of someone else, and they may change between the steps.  A `Relationship`
therefore holds them as they are at the moment of asking.  Nor is it checked before compiling
that an end is a node at all, which is why a `RelationshipEnd` need not be one.  What is no node
may still show an identity, but nothing that it could be found by.
-/

namespace GraphMapper

/-- What stands at an end of a relationship: nothing, a node, or something else with the identity
that it shows, if it shows one, and the fault of asking what it can be found by. -/
inductive RelationshipEnd where
  | unset
  | node (node : Node)
  | stranger (identity : Option Value) (fault : Fault)

/-- A relationship to be created. -/
structure Relationship where
  source : RelationshipEnd
  relationshipType : String
  destination : RelationshipEnd := .unset
  properties : Entries := []

namespace Relationship

/-- Describes a relationship of a type. -/
def start (source : RelationshipEnd) (relationshipType : Value) : Except Fault Relationship := do
  let name ← identifier relationshipRole relationshipType
  return { source := source, relationshipType := name }

/-- Sets where the relationship leads. -/
def withDestination (relationship : Relationship) (destination : RelationshipEnd) :
    Relationship :=
  { relationship with destination := destination }

/-- The properties that are given as a map, or as nothing, with more properties written over
them.  Every name is checked. -/
def readProperties (properties : Value) (more : Entries) : Except Fault Entries := do
  let merged ← match properties.bare with
    | .map entries => pure (Entries.merge entries more)
    | v => if v.isTruthy then throw .wrongKind else pure more
  let _ ← identifiers propertyRole (merged.map (·.1.toValue))
  return merged

/-- Replaces the properties. -/
def withProperties (relationship : Relationship) (properties : Value) (more : Entries) :
    Except Fault Relationship := do
  let merged ← readProperties properties more
  return { relationship with properties := merged }

/-- The parameters that find the two ends. -/
def endpointParameters (source destination : Node) : Entries :=
  [(.text "fromId", source.identityValue), (.text "toId", destination.identityValue)]

/-- The statement that creates a relationship between two nodes with identities. -/
def createBetween (relationship : Relationship) (source destination : Node) :
    Except Fault Statement :=
  let (result, final) :=
    propertiesMap ⟨{}, endpointParameters source destination⟩ relationship.properties none
  result.map fun properties =>
    ⟨"MATCH (a), (b) WHERE a.id = $fromId AND b.id = $toId CREATE (a)-[r:" ++
      relationship.relationshipType ++ properties ++ "]->(b) RETURN r", final.parameters⟩

/-- Whether an end has an identity; the endpoint says whose identity is missed. -/
def checkEnd (endpoint : Endpoint) : RelationshipEnd → Except Fault Unit
  | .node node => if node.isAnonymous then .error (.missingEndpoint endpoint) else .ok ()
  | .stranger (some identity) _ =>
    if identity.isNull then .error (.missingEndpoint endpoint) else .ok ()
  | _ => .error .noAttribute

/-- The node at an end. -/
def endNode : RelationshipEnd → Except Fault Node
  | .node node => .ok node
  | .stranger _ fault => .error fault
  | .unset => .error .noAttribute

/-- The statement that creates the relationship.  Whether there is a destination is asked
first, then the source and the destination are asked for their identities, and last for what they
can be found by. -/
def createStatement (relationship : Relationship) : Except Fault Statement := do
  if let .unset := relationship.destination then
    throw (.missingEndpoint .destinationUnset)
  checkEnd .source relationship.source
  checkEnd .destination relationship.destination
  let source ← endNode relationship.source
  let destination ← endNode relationship.destination
  relationship.createBetween source destination

/-- Creates the relationship; false if an end was not found. -/
def save (relationship : Relationship) : Program (Except Fault Bool) :=
  .query relationship.createStatement fun result => .ok (decide (0 < result.count))

end Relationship

end GraphMapper
