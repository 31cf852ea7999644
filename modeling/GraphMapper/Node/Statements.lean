import GraphMapper.Node.Basic

/-!
# Statements for one node

Insertion writes labels and attributes into the pattern of the new node; update, deletion and
refreshing match the node by its identity.  The identity is bound under a name of its own,
which no allocator hands out, so it cannot be confused with an attribute's placeholder.
-/

namespace GraphMapper.Node

/-- The parameters of a statement that matches the node. -/
def matchParameters (node : Node) : Entries := [(identityEntry, node.identityValue)]

/-- The statement that creates the node. -/
def insertStatement (node : Node) : Except Fault Statement :=
  let (start, identity) : Binding × Option String :=
    if node.isAnonymous then ({}, none)
    else (⟨{}, [(identityEntry, node.identity)]⟩, some identityKey)
  let (result, final) := propertiesMap start node.attributes identity
  do
    let properties ← result
    let labels ← labelFragment (node.labels.map .text)
    return ⟨"CREATE (n" ++ labels ++ properties ++ ") RETURN n", final.parameters⟩

/-- The statement that writes the node's attributes to the stored node. -/
def updateStatement (node : Node) : Except Fault Statement :=
  if node.isAnonymous then .error (.missingIdentity .update)
  else
    let (result, final) := setClause "n" ⟨{}, node.matchParameters⟩ node.attributes
    result.map fun assignments =>
      ⟨"MATCH (n) WHERE n.id = $id" ++ assignments ++ " RETURN n", final.parameters⟩

/-- The keyword that deletes a node, with its relationships or only if it has none. -/
def deleteKeyword (detach : Bool) : String := if detach then "DETACH DELETE" else "DELETE"

/-- The statement that deletes the stored node. -/
def deleteStatement (node : Node) (detach : Bool) : Statement :=
  ⟨"MATCH (n) WHERE n.id = $id " ++ deleteKeyword detach ++ " n", node.matchParameters⟩

/-- The statement that reads the stored node. -/
def refreshStatement (node : Node) : Statement :=
  ⟨"MATCH (n) WHERE n.id = $id RETURN n", node.matchParameters⟩

end GraphMapper.Node
