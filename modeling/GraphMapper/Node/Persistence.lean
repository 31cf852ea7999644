import GraphMapper.Node.Construct
import GraphMapper.Node.Statements
import GraphMapper.Store.Program

/-!
# Saving, deleting and refreshing

The three operations that keep a node and its stored copy together.  Each is a program that
ends with a result and with the node as it is then; a fault leaves a node too, because an
identity that was drawn before the fault stays drawn.
-/

namespace GraphMapper.Node

/-- Sends the insertion of a node and notes what the store made of it: a node that came back
is persisted if it can be matched. -/
def sendInsert (node : Node) : Program (Except Fault Bool × Node) :=
  match node.insertStatement with
  | .error fault => .done (.error fault, node)
  | .ok statement =>
    .send statement fun
      | .error fault => .done (.error fault, node)
      | .ok result =>
        if result.count = 0 then .done (.ok false, node)
        else .done (.ok true, { node with persisted := node.persisted || !node.isAnonymous })

/-- Inserts a node, under a fresh identity if it needs one and may have one. -/
def insert (autoIdentity : Bool) (node : Node) : Program (Except Fault Bool × Node) :=
  if node.isAnonymous && autoIdentity then
    .draw fun identity => sendInsert { node with identity := .text identity }
  else node.sendInsert

/-- Writes the attributes of a persisted node. -/
def update (node : Node) : Program (Except Fault Bool × Node) :=
  match node.updateStatement with
  | .error fault => .done (.error fault, node)
  | .ok statement =>
    .send statement fun answer =>
      .done (answer.map fun result => decide (0 < result.count), node)

/-- Writes a node to the store: an update if it is persisted, else an insertion.  A node that
was read without an identity is never inserted again. -/
def save (autoIdentity : Bool) (node : Node) : Program (Except Fault Bool × Node) :=
  if node.persisted then node.update
  else if node.fromStore && node.isAnonymous then
    .done (.error (.missingIdentity .insertAgain), node)
  else node.insert autoIdentity

/-- Deletes the stored node.  A node that is not persisted is not deleted, and nothing is
sent. -/
def delete (detach : Bool) (node : Node) : Program (Except Fault Bool × Node) :=
  if !node.persisted || node.isAnonymous then .done (.ok false, node)
  else
    .send (node.deleteStatement detach) fun
      | .error fault => .done (.error fault, node)
      | .ok _ => .done (.ok true, { node with persisted := false })

/-- The node after reading its stored copies: the first one counts, and none means that the
node is not stored. -/
def absorb (node : Node) : List StoredNode → Node
  | [] => { node with persisted := false }
  | stored :: _ =>
    let fresh := hydrate stored
    { node with
      labels := fresh.labels
      attributes := fresh.attributes
      persisted := true
      fromStore := true
      storedIdentity := fresh.storedIdentity }

/-- Reads labels and attributes back from the store. -/
def refresh (node : Node) : Program (Except Fault Unit × Node) :=
  if node.isAnonymous then .done (.error (.missingIdentity .refresh), node)
  else
    .send node.refreshStatement fun answer =>
      match answer.bind fun result => result.nodes (.text "n") with
      | .error fault => .done (.error fault, node)
      | .ok found => .done (.ok (), node.absorb found)

end GraphMapper.Node
