import GraphMapper.Console.App
import GraphMapper.Script.Arguments

/-!
# Things as their operations see them

The operations of the mapper work on nodes, queries and traversals that are checked when they are
built.  Memory holds records of fields that a script may have assigned anything to.  This module
goes from the one to the other: a thing is taken out of memory with everything as it is at the
moment, and what an operation made of it is put back.

## Fields that do not fit

Most fields only ever end up in a text, and any value has one.  Two kinds of field matter more.
An allocator that is none is noticed when a placeholder is needed.  Labels that are none are
noticed when a statement is compiled: `labelTexts` stands a text that is no name in for every
label that is no text, so that compiling fails where it has to, and `labelFault` is then put in
the place of the fault that this causes.
-/

namespace GraphMapper.Script

/-! ## Making things -/

/-- Puts a new thing down. -/
def make (item : Item) : Deed Value := do look (unseen (← putDown item))

/-- A new node. -/
def makeNode (node : Node) : Deed Value := do
  make (.node {
    identity := node.identity
    labels := ← settle (.list (node.labels.map .text))
    attributes := ← settle (.map node.attributes)
    persisted := .bool node.persisted
    fromStore := .bool node.fromStore
    storedIdentity := ← settle node.storedIdentity })

/-- New nodes, in order. -/
def makeNodes : List Node → Deed (List Value)
  | [] => return []
  | node :: rest => do
    let first ← makeNode node
    let others ← makeNodes rest
    return first :: others

/-- A new node, or null. -/
def makeOptionalNode : Option Node → Deed Value
  | some node => makeNode node
  | none => return .null

/-- A new statement, if there is one. -/
def makeStatement (result : Except Fault Statement) : Deed Value := do
  let statement ← Act.ofExcept result
  make (.statement statement.text (← settle (.map statement.parameters)))

/-- A new engine that is not connected. -/
def makeEngine (uri login database : Value) (options : Entries) : Deed Value := do
  let login ← settle login
  let engine := Engine.new uri login database options
  let kept ← settle engine.server.options
  let number ← App.addEngine { engine with server := { engine.server with options := kept } }
  make (.engine number)

/-- Several texts as a value. -/
def textsValue (texts : List String) : Value := .list (texts.map .text)

/-- A new query. -/
def makeQuery (gateway : Value) (labels : List Value) : Deed Value := do
  let query ← Act.ofExcept (Query.ofLabels labels)
  let allocator ← putDown (.allocator (.text query.allocator.stem) query.allocator.allocated)
  make (.query {
    gateway, allocator := unseen allocator
    labels := ← settle (textsValue query.labels)
    conditions := ← settle (.list [])
    parameters := ← settle (.map []) })

/-- A new traversal. -/
def makeTraversal (source direction relationshipType : Value) : Deed Value := do
  let _ ← Act.ofExcept (Traversal.start direction relationshipType)
  make (.traversal {
    source, direction, relationshipType
    targetLabels := ← settle (.list [])
    conditions := ← settle (.list [])
    parameters := ← settle (.map []) })

/-- New records. -/
def makeRecords (records : List Value) : Deed Value := do
  make (.records (← settle (.list records)))

/-- A new relationship. -/
def makeRelationship (source relationshipType : Value) : Deed Value := do
  let _ ← Act.ofExcept (Relationship.start .unset relationshipType)
  make (.relationship { source, relationshipType, properties := ← settle (.map []) })

/-- The driver with a number. -/
def driverValue (number : Nat) : Deed Value := do
  let isDriver : Item → Bool
    | .driver other => other == number
    | _ => false
  match ← Act.read fun world => world.own.items.findIdx? isDriver with
  | some place => look (unseen place)
  | none => make (.driver number)

/-! ## Nodes -/

/-- The labels of a node as texts; a label that is none becomes a text that is no name. -/
def labelTexts (labels : Value) : List String :=
  match labels.members? with
  | some members => members.map fun
    | .text s => s
    | _ => ""
  | none => [""]

/-- What is wrong with labels where a statement needs them. -/
def labelFault (labels : Value) : Option Fault :=
  match labels.members? with
  | some members => Act.faultOf (labelFragment members)
  | none => some .wrongKind

/-- The fault of an operation on a node with the given labels. -/
def faultWithLabels (labels : Value) (fault : Fault) : Fault :=
  match fault, labelFault labels with
  | .invalidIdentifier role _, some other => if role = labelRole then other else fault
  | _, _ => fault

/-- A record with everything in it as it is now. -/
def NodeRecord.look (record : NodeRecord) : Deed NodeRecord := do
  let see ← sight
  return { record with
    identity := see record.identity
    labels := see record.labels
    attributes := see record.attributes
    persisted := see record.persisted
    fromStore := see record.fromStore
    storedIdentity := see record.storedIdentity }

/-- The node that a record describes. -/
def NodeRecord.node (record : NodeRecord) : Node :=
  { identity := record.identity
    labels := labelTexts record.labels
    attributes := entriesOf record.attributes
    persisted := record.persisted.isTruthy
    fromStore := record.fromStore.isTruthy
    storedIdentity := record.storedIdentity }

/-- The node at a place. -/
def nodeAt (place : Nat) : Deed NodeRecord := do
  match ← itemAt place with
  | .node record => record.look
  | _ => Act.fail .noAttribute

/-- The entries of a node's attributes, and the place where they stand. -/
def NodeRecord.attributeMap (record : NodeRecord) : Option (Nat × Entries) :=
  match record.attributes with
  | .shared place (.map entries) => some (place, entries)
  | _ => none

/-- The end of a relationship that a value is: a node, something else, or nothing. -/
def endOf (value : Value) : Deed RelationshipEnd := do
  match ← itemOf? value with
  | some (place, .node _) => return .node (← nodeAt place).node
  | _ =>
    if value.isNull then return .unset
    return .stranger (← addedTo? value .identity) (← notCallable value .identityValue)

/-! ## Gateways -/

/-- The number of the engine that a value is.  What is no engine gets a number that no engine
has. -/
def engineNumber (value : Value) : Deed Nat := do
  match ← itemOf? value with
  | some (_, .engine number) => return number
  | _ => Act.read fun world => world.engines.length

/-- The number of the engine whose sessions can be opened through a value. -/
def sessionSource (value : Value) : Deed Nat := do
  if ← hides value .openSession then Act.read fun world => world.engines.length
  else engineNumber value

/-- The gateway that a record describes. -/
def GatewayRecord.gateway (record : GatewayRecord) : Deed Gateway := do
  let autoIdentity ← look record.autoIdentity
  let logQueries ← look record.logQueries
  let options : GatewayOptions := ⟨autoIdentity.isTruthy, logQueries.isTruthy⟩
  match record.connection with
  | some (engine, database) =>
    return .sessions (← sessionSource engine) (← look database) options
  | none => return .transaction options

/-- How the faults of a gateway are heard: where its engine should open a session but has a field of
that name, there is something, and it cannot be called. -/
def GatewayRecord.hearing (record : GatewayRecord) : Deed (Fault → Fault) := do
  let blocked ← match record.connection with
    | some (engine, _) => hides engine .openSession
    | none => pure false
  return fun fault =>
    match fault with
    | .noAttribute => if blocked then .wrongKind else fault
    | _ => fault

/-- Executes a text of any kind with parameters of any kind. -/
def GatewayRecord.execute (record : GatewayRecord) (text parameters : Value) : Deed RecordSet := do
  let hearing ← record.hearing
  let gateway ← record.gateway
  Act.mapFault hearing (gateway.execute text parameters)

/-- The gateway that a value is, as it is described, if it is one. -/
def gatewayRecord? (value : Value) : Deed (Option GatewayRecord) := do
  match ← itemOf? value with
  | some (_, .gateway record) => return some record
  | _ => return none

/-- Runs a program, given how a statement is sent and how an identity is drawn. -/
def performBy {α : Type} (run : Statement → Deed RecordSet) (draw : Deed String) :
    Program α → Deed α
  | .done result => return result
  | .send statement next => do performBy run draw (next (← (run statement).attempt))
  | .draw next => do performBy run draw (next (← draw))
  | .warn message next => do
    Act.write .maintenance .warning message
    performBy run draw next

/-- An operation of a gateway, if a value is one that has it. -/
def offered {α : Type} (value : Value) (operation : Operation) (own : Option (Deed α)) :
    Deed α := do
  match own, ← hides value operation with
  | some deed, false => deed
  | _, _ => Act.fail (← notCallable value operation)

/-- Draws an identity through what a value is.  A transaction gateway has the gateway that it comes
from do it, and so on for so many steps. -/
def drawThrough : Nat → Value → Deed String
  | 0, _ => Act.fail .wrongKind
  | steps + 1, gateway => do
    let drawn := (← gatewayRecord? gateway).map fun record =>
      if record.connection.isSome then Act.drawIdentity else drawThrough steps record.origin
    offered gateway .drawIdentity drawn

/-- Draws an identity through what a value is. -/
def drawIdentityOf (gateway : Value) : Deed String := do
  drawThrough (← Act.read fun world => world.own.items.length) gateway

/-- Runs a program through what a value is.  If that is no gateway, a program comes no further
than to what only a gateway can do. -/
def performOn {α : Type} (gateway : Value) (program : Program (Except Fault α)) : Deed α := do
  let found ← gatewayRecord? gateway
  let draws := found.isSome || (← addedTo? gateway .autoIdentity).isSome
  let result ← performBy
    (fun statement => offered gateway .run <| found.map fun record =>
      record.execute (.text statement.text) (.map statement.parameters))
    (if draws then drawIdentityOf gateway else Act.fail .noAttribute)
    program
  Act.ofExcept result

/-- Whether a gateway gives identities to new nodes.  What is no gateway and does not say is asked
for one all the same, which comes to the same fault. -/
def drawsIdentities (gateway : Value) : Deed Bool := do
  match ← gatewayRecord? gateway, ← addedTo? gateway .autoIdentity with
  | some record, _ => return (← look record.autoIdentity).isTruthy
  | none, some wanted => return (← look wanted).isTruthy
  | none, none => return true

/-! ## Queries -/

/-- An allocator that stands at a place. -/
structure PlacedAllocator where
  place : Nat
  stem : Value
  allocated : Nat

/-- The allocator that a value is, if it is one. -/
def allocatorOf? (value : Value) : Deed (Option PlacedAllocator) := do
  match ← itemOf? value with
  | some (place, .allocator stem allocated) => return some ⟨place, ← look stem, allocated⟩
  | _ => return none

/-- The allocator itself; nothing was handed out by what is none. -/
def PlacedAllocator.allocator : Option PlacedAllocator → Allocator
  | some placed => ⟨placed.stem.plain, placed.allocated⟩
  | none => {}

/-- Notes how many names were handed out.  What does not hand out names cannot have handed out
any. -/
def noteAllocated (allocator : Value) (before after : Nat) : Deed Unit := do
  if after = before then return
  offered allocator .next <| (← allocatorOf? allocator).map fun placed =>
    replace placed.place (.allocator placed.stem after)

/-- The condition that a value is, if it is one. -/
def conditionOf? (value : Value) : Deed (Option Condition) := do
  match ← itemOf? value with
  | some (_, .condition condition) => return some condition
  | _ => return none

/-- The conditions that several values are; a value that is none has none of the fields of
one. -/
def conditionsOf : List Value → Deed (List Condition)
  | [] => return []
  | v :: rest => do
    match ← conditionOf? v with
    | some condition =>
      let others ← conditionsOf rest
      return condition :: others
    | none => Act.fail .noAttribute

/-- Appends items to a list; nothing else can grow. -/
def extendList (list : Value) (more : List Value) : Deed Unit := do
  match more, ← itemOf? list with
  | [], _ => return
  | _, some (place, .value (.list items)) => replace place (.value (.list (items ++ more)))
  | _, _ => Act.fail .noAttribute

/-- Replaces the entries of a map; in nothing else there can be entries. -/
def refillMap (map : Value) (entries : Entries) : Deed Unit := do
  match entries, ← itemOf? map with
  | _, some (place, .value (.map _)) => replace place (.value (.map (← settleEntries entries)))
  | [], _ => return
  | _, _ => Act.fail .wrongKind

/-- The limit that a value is. -/
def limitOf : Value → Except Fault (Option Nat)
  | .null => .ok none
  | .int n => if 0 ≤ n then .ok (some n.toNat) else .error .wrongKind
  | _ => .error .wrongKind

/-- The value that a limit is. -/
def limitValue (limit : Option Nat) : Value := (limit.map fun n => .int n).getD .null

/-- The ordering that a value is. -/
def sortingOf (value : Value) : Except Fault (Option Sorting) :=
  match value.bare with
  | .null => .ok none
  | .tuple [.text field, .text direction] =>
    (SortDirection.read (.text direction)).map fun direction => some ⟨field, direction⟩
  | _ => .error .wrongKind

/-- The value that an ordering is. -/
def sortingValue : Option Sorting → Value
  | some sorting => .tuple [.text sorting.field, .text sorting.direction.text]
  | none => .null

/-- The query that a record describes. -/
def QueryRecord.query (record : QueryRecord) : Deed Query := do
  return {
    labels := labelTexts (← look record.labels)
    conditions := ← conditionsOf (membersIn (← look record.conditions))
    parameters := entriesOf (← look record.parameters)
    sorting := ← Act.ofExcept (sortingOf (← look record.sorting))
    limit := ← Act.ofExcept (limitOf record.limit)
    allocator := PlacedAllocator.allocator (← allocatorOf? record.allocator) }

/-- The query at a place. -/
def queryAt (place : Nat) : Deed QueryRecord := do
  match ← itemAt place with
  | .query record => return { record with gateway := ← look record.gateway }
  | _ => Act.fail .noAttribute

/-- Puts what became of a query back: new conditions and new values go into the containers that the
query keeps, and whatever else has changed is replaced. -/
def putQuery (place : Nat) (record : QueryRecord) (before after : Query) : Deed Unit := do
  noteAllocated record.allocator before.allocator.allocated after.allocator.allocated
  refillMap record.parameters after.parameters
  let conditions ← settleConditions (after.conditions.drop before.conditions.length)
  extendList record.conditions conditions
  let record ← if after.sorting = before.sorting then pure record
    else pure { record with sorting := ← settle (sortingValue after.sorting) }
  let record := if after.limit = before.limit then record
    else { record with limit := limitValue after.limit }
  replace place (.query record)
where
  /-- Gives conditions places. -/
  settleConditions : List Condition → Deed (List Value)
    | [] => return []
    | condition :: rest => do
      let first ← putDown (.condition condition)
      let others ← settleConditions rest
      return unseen first :: others

/-- The place of the query that a value is. -/
def queryPlace (value : Value) : Deed Nat := do
  match ← itemOf? value with
  | some (place, .query _) => return place
  | _ => Act.fail .noAttribute

/-! ## Traversals -/

/-- The traversal at a place. -/
def traversalAt (place : Nat) : Deed TraversalRecord := do
  match ← itemAt place with
  | .traversal record => return record
  | _ => Act.fail .noAttribute

/-- The part of the path with a pattern variable. -/
def partOf? (var : Value) : Option PathPart :=
  match var with
  | .text s =>
    if s = PathPart.relationship.var then some .relationship
    else if s = PathPart.target.var then some .target
    else none
  | _ => none

/-- The conditions of a traversal, each on its part of the path. -/
def pathConditionsOf : List Value → Deed (List (Condition × PathPart))
  | [] => return []
  | v :: rest => do
    match v.bare with
    | .tuple [about, var] =>
      match ← conditionOf? about, partOf? var with
      | some condition, some part =>
        let others ← pathConditionsOf rest
        return (condition, part) :: others
      | _, _ => Act.fail .noAttribute
    | _ => Act.fail .wrongKind

/-- The traversal that a record describes. -/
def TraversalRecord.traversal (record : TraversalRecord) : Deed Traversal := do
  return {
    direction := .ofValue (← look record.direction)
    relationshipType := (← look record.relationshipType).plain
    targetLabels := labelTexts (← look record.targetLabels)
    conditions := ← pathConditionsOf (membersIn (← look record.conditions))
    parameters := entriesOf (← look record.parameters)
    limit := ← Act.ofExcept (limitOf record.limit) }

/-- Puts what became of a traversal back. -/
def putTraversal (place : Nat) (record : TraversalRecord) (before after : Traversal) :
    Deed Unit := do
  refillMap record.parameters after.parameters
  let conditions ← settlePath (after.conditions.drop before.conditions.length)
  extendList record.conditions conditions
  replace place (.traversal (if after.limit = before.limit then record
    else { record with limit := limitValue after.limit }))
where
  /-- Gives conditions with their parts of the path places. -/
  settlePath : List (Condition × PathPart) → Deed (List Value)
    | [] => return []
    | (condition, part) :: rest => do
      let place ← putDown (.condition condition)
      let first ← settle (.tuple [unseen place, .text part.var])
      let others ← settlePath rest
      return first :: others

/-! ## Relationships -/

/-- The relationship at a place, as it was described and as it is. -/
def relationshipAt (place : Nat) : Deed (RelationshipRecord × Relationship) := do
  match ← itemAt place with
  | .relationship record =>
    return (record, {
      source := ← endOf record.source
      relationshipType := (← look record.relationshipType).plain
      destination := ← endOf record.destination
      properties := entriesOf (← look record.properties) })
  | _ => Act.fail .noAttribute

end GraphMapper.Script
