import GraphMapper.Relationship
import GraphMapper.Script.Vocabulary
import GraphMapper.Store.Gateway
import GraphMapper.Traversal.Statements

/-!
# Memory

A script works with named things: nodes, queries, gateways, plain values.  Several names can
stand for one thing, and one thing can be part of several others: a list can be an attribute of
two nodes, an allocator can serve two queries.  A change through one of them is seen through all.
So a thing does not stand where it is used.  It stands at a *place*, and whatever uses it holds
the place.

## Items

What stands at a place is an `Item`.  A container is an item, and its members are values that
hold places again.  The records of the other things keep their fields as values too, exactly as
they were assigned, since nothing is checked when a field is assigned.

Only containers and things have places.  A scalar cannot change, so it stands where it is used.

## Values in memory

A value that is held somewhere in memory carries what was seen at its place when it was put
there, and that may be long out of date.  Whoever uses a value looks at it again first.
-/

namespace GraphMapper.Script

/-- A node with its fields as they were assigned. -/
structure NodeRecord where
  identity : Value := .null
  labels : Value
  attributes : Value
  persisted : Value
  fromStore : Value := .bool false
  storedIdentity : Value := .null

/-- A query with its fields, and with the containers that it keeps for itself. -/
structure QueryRecord where
  gateway : Value
  allocator : Value
  labels : Value
  conditions : Value
  parameters : Value
  sorting : Value := .null
  limit : Value := .null

/-- A traversal with the query that it starts from, its fields as they were assigned, and the
containers that it keeps for itself.  Each of its conditions comes with its pattern variable. -/
structure TraversalRecord where
  source : Value
  direction : Value
  relationshipType : Value
  targetLabels : Value
  conditions : Value
  parameters : Value
  limit : Value := .null

/-- A relationship with its fields as they were assigned. -/
structure RelationshipRecord where
  source : Value
  destination : Value := .null
  relationshipType : Value
  properties : Value

/-- A gateway with its fields as they were assigned: what it takes for its engine, and the
database; a gateway inside a transaction has neither, but it knows the gateway it comes from. -/
structure GatewayRecord where
  connection : Option (Value × Value)
  autoIdentity : Value
  logQueries : Value
  origin : Value := .null

/-- What stands at a place.  Engines stand in the world, under numbers of their own. -/
inductive Item where
  | value (value : Value)
  | node (record : NodeRecord)
  | condition (condition : Condition)
  | statement (text : String) (parameters : Value)
  | settings (fields : Entries)
  | records (records : Value)
  | allocator (stem : Value) (allocated : Nat)
  | query (record : QueryRecord)
  | traversal (record : TraversalRecord)
  | relationship (record : RelationshipRecord)
  | engine (number : Nat)
  | gateway (record : GatewayRecord)
  | driver (number : Nat)
  | session

/-- The items, the names of a script, and the fields that were added to things that have no such
field by themselves, each with the place of the thing. -/
structure Memory where
  items : List Item := []
  names : List (String × Value) := []
  extras : List (Nat × FieldName × Value) := []

/-- An operation of a script. -/
abbrev Deed (α : Type) : Type := Act Memory α

/-! ## Places -/

/-- Puts an item down at a new place. -/
def putDown (item : Item) : Deed Nat := fun world =>
  (.ok world.own.items.length,
    { world with own := { world.own with items := world.own.items ++ [item] } })

/-- The item at a place. -/
def itemAt (place : Nat) : Deed Item := fun world =>
  match world.own.items[place]? with
  | some item => (.ok item, world)
  | none => (.error .noAttribute, world)

/-- The item that a value is the place of, if it is one. -/
def itemOf? (value : Value) : Deed (Option (Nat × Item)) := fun world =>
  match value with
  | .shared place _ =>
    (.ok (world.own.items[place]?.map fun item => (place, item)), world)
  | _ => (.ok none, world)

/-- Replaces the item at a place. -/
def replace (place : Nat) (item : Item) : Deed Unit :=
  Act.change fun world =>
    { world with own := { world.own with items := world.own.items.set place item } }

/-- A place as a value that nobody has looked at. -/
def unseen (place : Nat) : Value := .shared place .null

/-! ## Settling

A value that an operation has made holds containers without places.  Settling gives each of them
one, from the inside out. -/

mutual

/-- Gives every container of a value a place. -/
def settle : Value → Deed Value
  | .list items => do
    let items ← settleAll items
    let place ← putDown (.value (.list items))
    return .shared place (.list items)
  | .tuple items => do
    let items ← settleAll items
    let place ← putDown (.value (.tuple items))
    return .shared place (.tuple items)
  | .map entries => do
    let entries ← settleEntries entries
    let place ← putDown (.value (.map entries))
    return .shared place (.map entries)
  | .node labels properties => do
    let properties ← settleEntries properties
    let place ← putDown (.value (.node labels properties))
    return .shared place (.node labels properties)
  | .object kind literal plain parts => do
    let place ← putDown (.value (.object kind literal plain parts))
    return .shared place (.object kind literal plain parts)
  | v => return v

/-- Gives every container of several values a place. -/
def settleAll : List Value → Deed (List Value)
  | [] => return []
  | v :: rest => do
    let first ← settle v
    let others ← settleAll rest
    return first :: others

/-- Gives every container of the values of a map a place. -/
def settleEntries : List (Key × Value) → Deed (List (Key × Value))
  | [] => return []
  | (key, v) :: rest => do
    let first ← settle v
    let others ← settleEntries rest
    return (key, first) :: others

end

/-! ## Names and added fields -/

/-- Lets a name stand for a value. -/
def keep (name : String) (value : Value) : Deed Unit :=
  Act.change fun world =>
    { world with own := { world.own with names := (name, value) :: world.own.names } }

/-- The value that a name stands for, if it stands for one. -/
def named? (name : String) : Deed (Option Value) :=
  Act.read fun world => (world.own.names.find? fun e => e.1 == name).map (·.2)

/-- The value of a field that was added to the thing at a place. -/
def Memory.extra? (memory : Memory) (place : Nat) (isName : FieldName → Bool) : Option Value :=
  (memory.extras.find? fun e => e.1 == place && isName e.2.1).map (·.2.2)

/-- Adds a field to a thing. -/
def addField (place : Nat) (name : FieldName) (value : Value) : Deed Unit :=
  Act.change fun world =>
    { world with own := { world.own with extras := (place, name, value) :: world.own.extras } }

/-- A field that was added to a thing, by its name. -/
def addedField (place : Nat) (name : FieldName) : Deed Value := fun world =>
  match world.own.extra? place name.same with
  | some value => (.ok value, world)
  | none => (.error .noAttribute, world)

/-- A field that was added to what a value is, by what the field means. -/
def addedTo? (value : Value) (field : Field) : Deed (Option Value) := fun world =>
  match value with
  | .shared place _ => (.ok (world.own.extra? place fun name => name.field == field), world)
  | _ => (.ok none, world)

/-- Whether a field that was added to what a value is has the name of an operation. -/
def hides (value : Value) (operation : Operation) : Deed Bool := fun world =>
  match value with
  | .shared place _ =>
    (.ok (operation != .unknown &&
      (world.own.extra? place fun name => name.operation == operation).isSome), world)
  | _ => (.ok false, world)

/-- What becomes of calling an operation that a value does not have: there may be a field of that
name, which cannot be called. -/
def notCallable (value : Value) (operation : Operation) : Deed Fault := do
  return if ← hides value operation then .wrongKind else .noAttribute

/-! ## Identity -/

/-- Whether two values are one.  Things are one if they stand at one place.  Scalars cannot be
told apart if they are of one kind and equal. -/
def isSame : Value → Value → Bool
  | .shared p _, .shared q _ => p == q
  | .null, .null => true
  | .bool a, .bool b => a == b
  | .int m, .int n => m == n
  | .float x, .float y => x == y
  | .text s, .text t => s == t
  | .bytes a, .bytes b => a == b
  | _, _ => false

end GraphMapper.Script
