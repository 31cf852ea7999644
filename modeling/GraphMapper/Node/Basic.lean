import GraphMapper.Clause
import GraphMapper.Store.Records

/-!
# Nodes

A node of the graph, held in memory: an identity, an ordered list of labels without
repetitions, and a free-form map of attributes.  The identity is stored as a property of its
own, so it should be no attribute; the accessors keep the two apart.

## Identities

An identity is a text, because that is what a node is addressed by in memory.  The store may
hold another type under the same property, an integer for instance, and matching must then use
the value as it is stored.  A node that was read back therefore remembers the stored value and
binds it for as long as it still reads as the node's identity.  Null stands for "none" in both
places.
-/

namespace GraphMapper

/-- A node of the graph in memory. -/
structure Node where
  identity : Value := .null
  labels : List String := []
  attributes : Entries := []
  persisted : Bool := false
  fromStore : Bool := false
  storedIdentity : Value := .null

/-- Adds a label to a list of labels, unless it is there. -/
def addDistinct (labels : List String) (label : String) : List String :=
  if labels.contains label then labels else labels ++ [label]

/-- A list of labels without repetitions, each at its first place. -/
def distinct (labels : List String) : List String := labels.foldl addDistinct []

namespace Node

/-- The key of the identity among the properties of a node. -/
def identityEntry : Key := .text identityKey

/-- Whether a node has no identity. -/
def isAnonymous (node : Node) : Bool := node.identity.isNull

/-! ## Attributes -/

/-- The value of an attribute, or the identity; the default if it is not set. -/
def get (node : Node) (key : Key) (default : Value) : Value :=
  if key = identityEntry then if node.isAnonymous then default else node.identity
  else (node.attributes.get? key).getD default

/-- Sets an attribute.  The name must be one that a statement can hold, and the identity is
not an attribute. -/
def set (node : Node) (key : Value) (value : Value) : Except Fault Node := do
  match key with
  | .text s => if s = identityKey then throw .reservedKey
  | _ => pure ()
  let name ← identifier attributeRole key
  return { node with attributes := node.attributes.put (.text name) value }

/-- Removes an attribute and returns its value, null if it was not set. -/
def unset (node : Node) (key : Key) : Value × Node :=
  ((node.attributes.get? key).getD .null, { node with attributes := node.attributes.erase key })

/-- Whether an attribute is set. -/
def has (node : Node) (key : Key) : Bool := node.attributes.has key

/-- Adds a label, unless the node has it. -/
def addLabel (node : Node) (label : Value) : Except Fault Node := do
  let name ← identifier labelRole label
  return { node with labels := addDistinct node.labels name }

/-- The value that a statement binds to match the node: the stored identity while it reads as
the node's identity, else the identity itself. -/
def identityValue (node : Node) : Value :=
  match node.storedIdentity, node.identity with
  | .null, identity => identity
  | stored, .text s => if stored.plain = s then stored else .text s
  | _, identity => identity

/-- The attributes together with the identity and the given labels. -/
def entriesWith (node : Node) (labels : List Value) : Entries :=
  let identified :=
    if node.isAnonymous then node.attributes
    else node.attributes.put identityEntry node.identity
  identified.put (.text "labels") (.list labels)

/-- The attributes together with the identity and the labels. -/
def toEntries (node : Node) : Entries := node.entriesWith (node.labels.map .text)

/-- A node in one line, given the text of its labels. -/
def summaryWith (identity labels : String) (persisted : Bool) : String :=
  "Node(identity=" ++ identity ++ ", labels=" ++ labels ++
    " (" ++ (if persisted then "persisted" else "new") ++ "))"

end Node

end GraphMapper
