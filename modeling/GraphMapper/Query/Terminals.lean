import GraphMapper.Node.Persistence
import GraphMapper.Query.Statements

/-!
# What a query does

The operations that run a query.  Each compiles one statement, sends it and reads the answer;
if the query cannot be compiled, nothing is sent.  Some also change the query: looking for the
first node sets the limit, looking for a node adds a condition, an update draws placeholders.
Those changes are made before anything is sent and stay whatever the store answers.
-/

namespace GraphMapper.Query

/-- The nodes of a result. -/
def readNodes (result : RecordSet) : Except Fault (List Node) :=
  (result.nodes (.text variableName)).map (·.map Node.hydrate)

/-- The number that a result reports under a column, zero if it reports none. -/
def readNumber (column : String) (result : RecordSet) : Except Fault Int := do
  let value ← result.scalar (.text column) (.int 0)
  readCount value

/-- All nodes, in the order of the result. -/
def get (query : Query) : Program (Except Fault (List Node)) :=
  .query query.selectStatement readNodes

/-- A query for at most one node. -/
def limitedToOne (query : Query) : Query := { query with limit := some 1 }

/-- The first node. -/
def first (query : Query) : Program (Except Fault (Option Node)) × Query :=
  let limited := query.limitedToOne
  (limited.get.map fun result => result.map List.head?, limited)

/-- The query for the nodes with an identity among the nodes of a query. -/
def identified (query : Query) (identity : Value) : Query :=
  query.append identityKey .equal identity .and

/-- The node with an identity. -/
def find (query : Query) (identity : Value) : Program (Except Fault (Option Node)) × Query :=
  (query.identified identity).first

/-- How many nodes there are. -/
def count (query : Query) : Program (Except Fault Int) :=
  .query query.countStatement (readNumber totalColumn)

/-- Whether there is a node. -/
def «exists» (query : Query) : Program (Except Fault Bool) :=
  query.count.map fun result => result.map fun n => decide (0 < n)

/-- The attributes of a new node: a map, or nothing, with more attributes written over it. -/
def readAttributes (attributes : Value) (more : Entries) : Except Fault Entries :=
  match attributes.bare with
  | .map entries => .ok (Entries.merge entries more)
  | v => if v.isTruthy then .error .wrongKind else .ok more

/-- Makes a node with labels and saves it.  The node is the result even if the store returned
nothing for it. -/
def createLabelled (labels : Value) (autoIdentity : Bool) (attributes : Value) (more : Entries) :
    Program (Except Fault Node) :=
  match readAttributes attributes more with
  | .error fault => .done (.error fault)
  | .ok entries =>
    match Node.ofInputs [(.text "labels", labels), (.text "attributes", .map entries)] with
    | .error fault => .done (.error fault)
    | .ok node => (node.save autoIdentity).map fun (result, saved) => result.map fun _ => saved

/-- Makes a node with the labels of the query and saves it. -/
def create (query : Query) (autoIdentity : Bool) (attributes : Value) (more : Entries) :
    Program (Except Fault Node) :=
  createLabelled (.list (query.labels.map .text)) autoIdentity attributes more

/-- Assigns attributes to every node and returns how many there were. -/
def update (query : Query) (attributes : Value) : Program (Except Fault Int) × Query :=
  let (statement, after) := query.updateStatement attributes
  (.query statement (readNumber updatedColumn), after)

/-- Deletes every node and returns how many there were. -/
def delete (query : Query) (detach : Bool) : Program (Except Fault Int) :=
  .query (query.deleteStatement detach) (readNumber deletedColumn)

end GraphMapper.Query
