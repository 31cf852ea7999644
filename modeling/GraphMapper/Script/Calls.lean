import GraphMapper.Script.Containers
import GraphMapper.Script.Making

/-!
# Operations of things

What happens when an operation of a thing is called.  A thing is taken from its place, the
operation of the mapper is performed on it, and what became of it is put back --- also when the
operation failed, because some operations leave traces: a placeholder that was drawn stays drawn,
and a query that looked for its first node stays limited.

An operation returns a value, and a builder returns the place of the thing itself.
-/

namespace GraphMapper.Script

/-! ## Signatures -/

/-- The signature of an operation with nothing to give. -/
def noParameters : Signature := {}

/-- The signature of a condition in either of its forms. -/
def conditionSignature : Signature :=
  { required := ["field", "firstOperand"], optional := ["value"] }

/-- An operation whose result has to be awaited. -/
def Signature.awaited (signature : Signature) : Signature := { signature with isAwaited := true }

/-- What an operation of a node takes. -/
def nodeSignature? : Operation → Option Signature
  | .get => some { required := ["key"], optional := ["default"] }
  | .set => some { required := ["key", "value"] }
  | .unset | .has => some { required := ["key"] }
  | .addLabel => some { required := ["label"] }
  | .identityValue | .toEntries | .insertStatement | .updateStatement => some noParameters
  | .deleteStatement => some { optional := ["detach"] }
  | .save | .refresh => some { required := ["gateway"], isAwaited := true }
  | .delete => some { required := ["gateway"], optional := ["detach"], isAwaited := true }
  | .relationship => some { required := ["relationshipType"] }
  | _ => none

/-- What an operation of a query takes. -/
def querySignature? : Operation → Option Signature
  | .label => some { takesAny := true }
  | .«where» | .orWhere => some conditionSignature
  | .whereIn => some { required := ["field", "values"] }
  | .orderBy => some { required := ["field"], optional := ["direction"] }
  | .limit => some { required := ["count"] }
  | .outgoing | .incoming | .both => some { required := ["relationshipType"] }
  | .matchClause | .whereClause => some { optional := ["variable"] }
  | .selectStatement | .countStatement => some noParameters
  | .updateStatement => some { required := ["attributes"] }
  | .deleteStatement => some { optional := ["detach"] }
  | .get | .first | .count | .«exists» => some noParameters.awaited
  | .find => some { required := ["identity"], isAwaited := true }
  | .create => some {
      own := some "self", optional := ["attributes"], takesMore := true, isAwaited := true }
  | .update => some { required := ["attributes"], isAwaited := true }
  | .delete => some { optional := ["detach"], isAwaited := true }
  | _ => none

/-- What an operation of a traversal takes. -/
def traversalSignature? : Operation → Option Signature
  | .label => some { takesAny := true }
  | .«where» | .whereRelationship => some conditionSignature
  | .limit => some { required := ["count"] }
  | .relationshipPattern | .countStatement => some noParameters
  | .selectStatement => some { optional := ["limit"] }
  | .get | .first | .count | .«exists» => some noParameters.awaited
  | _ => none

/-- What an operation of a thing takes; none if the thing has no such operation. -/
def signature? (item : Item) (operation : Operation) : Option Signature :=
  match item, operation with
  | .node _, _ => nodeSignature? operation
  | .query _, _ => querySignature? operation
  | .traversal _, _ => traversalSignature? operation
  | .relationship _, .to => some { required := ["node"] }
  | .relationship _, .withProperties =>
    some { own := some "self", optional := ["properties"], takesMore := true }
  | .relationship _, .createStatement => some noParameters
  | .relationship _, .save => some { required := ["gateway"], isAwaited := true }
  | .engine _, .connect | .engine _, .close => some noParameters.awaited
  | .engine _, .openSession => some { optional := ["database"] }
  | .engine _, .ofSettings => some engineOfSettingsSignature
  | .gateway { connection := some _, .. }, .ofSettings => some { required := ["settings"] }
  | .gateway _, .run =>
    some { required := ["statement"], optional := ["parameters"], isAwaited := true }
  | .gateway _, .label => some { takesAny := true }
  | .gateway _, .drawIdentity => some noParameters
  | .gateway _, .transact => some { required := ["callback"], isAwaited := true }
  | .records _, .count | .records _, .first => some noParameters
  | .records _, .values | .records _, .nodes => some { required := ["column"] }
  | .records _, .scalar => some { required := ["column"], optional := ["default"] }
  | .condition _, .render => some { required := ["variable"] }
  | .allocator _ _, .next => some noParameters
  | .value (.map _), .get => some { required := ["key"], optional := ["default"] }
  | .value (.map _), .update => some { optional := ["entries"], takesMore := true }
  | _, _ => none

/-! ## Keys -/

mutual

/-- Whether a value can be looked up: containers that can change cannot. -/
def isKeyLike : Value → Bool
  | .list _ => false
  | .map _ => false
  | .tuple items => areKeyLike items
  | .object .node .. => false
  | .object .statement .. => false
  | .object .settings .. => false
  | .object .view .. => false
  | .shared _ seen => isKeyLike seen
  | _ => true

/-- Whether several values can all be looked up. -/
def areKeyLike : List Value → Bool
  | [] => true
  | v :: rest => isKeyLike v && areKeyLike rest

end

/-- The key that a value is looked up by.  Some values can be looked up but are the key of
nothing. -/
def keyOf (value : Value) : Deed (Option Key) :=
  if isKeyLike value then return value.toKey? else Act.fail .wrongKind

/-- The value under a key in a map, with a default. -/
def lookUpIn (entries : Entries) (key default : Value) : Deed Value := do
  match ← keyOf key with
  | some key => return (entries.get? key).getD default
  | none => return default

/-! ## Operations made of operations

An operation can call others of the same thing.  If a field hides one of these, it goes as far as it
comes. -/

/-- Calls other operations of a thing on the way; one that a field hides cannot be called. -/
def passThrough (value : Value) : List Operation → Deed Unit
  | [] => return
  | operation :: rest => do
    if ← hides value operation then Act.fail .wrongKind
    passThrough value rest

/-- Writes the clauses of a query: its pattern, then its filter. -/
def passClauses (value : Value) (pattern : Except Fault String) : Deed Unit := do
  passThrough value [.matchClause]
  let _ ← Act.ofExcept pattern
  passThrough value [.whereClause]

/-! ## Nodes -/

/-- Runs a program about a node through a gateway, and puts the node down as it is then. -/
def keepNode {α : Type} (place : Nat) (record : NodeRecord)
    (program : Program (Except Fault α × Node)) (gateway : Value) : Deed α := do
  let (result, after) ← performOn gateway (program.map Except.ok)
  replace place (.node { record with
    identity := after.identity
    persisted :=
      if after.persisted = record.persisted.isTruthy then record.persisted
      else .bool after.persisted })
  Act.ofExcept (result.mapError (faultWithLabels record.labels))

/-- Reads a node back from the store.  Its labels and its attributes are new containers. -/
def refreshNode (place : Nat) (record : NodeRecord) (gateway : Value) : Deed Unit := do
  let (result, after) ← performOn gateway (record.node.refresh.map Except.ok)
  Act.ofExcept result
  if after.persisted then
    replace place (.node { record with
      labels := ← settle (.list (after.labels.map .text))
      attributes := ← settle (.map after.attributes)
      persisted := .bool true
      fromStore := .bool after.fromStore
      storedIdentity := ← settle after.storedIdentity })
  else replace place (.node { record with persisted := .bool false })

/-- Adds a label to the labels of a node, unless it is among them.  Only a list can grow. -/
def addLabelTo (labels : Value) (name : String) : Deed Unit := do
  let isIt : Value → Bool := fun label => isSame label (.text name)
  match labels, labels.members? with
  | _, none => Act.fail .wrongKind
  | .shared place (.list items), _ =>
    if items.any isIt then return else replace place (.value (.list (items ++ [.text name])))
  | _, some members => if members.any isIt then return else Act.fail .noAttribute

/-- Writes the entries of a node's attributes, if they are a map. -/
def writeAttributes (record : NodeRecord) (entries : Entries) (fault : Fault) : Deed Unit :=
  match record.attributeMap with
  | some (place, _) => replace place (.value (.map entries))
  | none => Act.fail fault

/-- Calls an operation of a node. -/
def callNode (place : Nat) (operation : Operation) (inputs : Inputs) : Deed Value := do
  let record ← nodeAt place
  let node := record.node
  let statement (result : Except Fault Statement) : Deed Value :=
    makeStatement (result.mapError (faultWithLabels record.labels))
  match operation with
  | .get =>
    let key := inputs.value "key"
    let default := inputs.value "default"
    if isSame key (.text identityKey) then return node.get Node.identityEntry default
    match record.attributeMap with
    | some (_, entries) => lookUpIn entries key default
    | none => Act.fail .noAttribute
  | .set =>
    let changed ← Act.ofExcept (node.set (inputs.value "key") (inputs.value "value"))
    writeAttributes record changed.attributes .wrongKind
    return unseen place
  | .unset =>
    if record.attributeMap.isNone then Act.fail .noAttribute
    match ← keyOf (inputs.value "key") with
    | some key =>
      let (removed, changed) := node.unset key
      writeAttributes record changed.attributes .noAttribute
      return removed
    | none => return .null
  | .has =>
    if record.attributeMap.isNone then Act.fail .wrongKind
    match ← keyOf (inputs.value "key") with
    | some key => return .bool (node.has key)
    | none => return .bool false
  | .addLabel =>
    let name ← Act.ofExcept (identifier labelRole (inputs.value "label"))
    addLabelTo record.labels name
    return unseen place
  | .identityValue => return node.identityValue
  | .toEntries =>
    match record.attributeMap, record.labels.members? with
    | some _, some labels => return .map (node.entriesWith labels)
    | _, _ => Act.fail .wrongKind
  | .insertStatement => statement node.insertStatement
  | .updateStatement => statement node.updateStatement
  | .deleteStatement => statement (.ok (node.deleteStatement (inputs.flag "detach")))
  | .save =>
    let gateway := inputs.value "gateway"
    let program := node.save (← drawsIdentities gateway)
    return .bool (← keepNode place record program gateway)
  | .delete =>
    let program := node.delete (inputs.flag "detach")
    return .bool (← keepNode place record program (inputs.value "gateway"))
  | .refresh =>
    refreshNode place record (inputs.value "gateway")
    return unseen place
  | .relationship => makeRelationship (unseen place) (inputs.value "relationshipType")
  | _ => Act.fail .noAttribute

/-! ## Queries -/

/-- The pattern variable of a clause. -/
def variableOf (inputs : Inputs) : String :=
  (inputs.valueOr "variable" (.text Query.variableName)).plain

/-- Calls an operation of a query. -/
def callQuery (place : Nat) (operation : Operation) (inputs : Inputs) : Deed Value := do
  let record ← queryAt place
  let query ← record.query
  let labels ← look record.labels
  let checked {α : Type} (result : Except Fault α) : Except Fault α :=
    result.mapError (faultWithLabels labels)
  let run {α : Type} (program : Program (Except Fault α)) : Deed α :=
    performOn record.gateway (program.map checked)
  let statement (result : Except Fault Statement) : Deed Value := makeStatement (checked result)
  let become (result : Except Fault Query) : Deed Value := do
    putQuery place record query (← Act.ofExcept result)
    return unseen place
  let clauses : Deed Unit :=
    passClauses (unseen place) (checked (query.matchClause Query.variableName))
  let through (operations : List Operation) : Deed Unit := do
    passThrough (unseen place) operations
    clauses
  let change (attributes : Value) : Deed (Except Fault Statement) := do
    let (result, after) := query.updateStatement attributes
    putQuery place record query after
    match ({ query with labels := [] }.updateStatement attributes).1 with
    | .ok _ => clauses
    | .error _ => pure ()
    return result
  let field := inputs.value "field"
  let first := inputs.value "firstOperand"
  let second := inputs.value? "value"
  let attributes := inputs.value "attributes"
  let detach := inputs.flag "detach"
  let traverse (direction : PathDirection) : Deed Value :=
    makeTraversal (unseen place) direction.toValue (inputs.value "relationshipType")
  match operation with
  | .label =>
    let after ← Act.ofExcept (query.withLabels inputs.further)
    replace place (.query { record with labels := ← settle (textsValue after.labels) })
    return unseen place
  | .«where» => become (query.where field first second)
  | .orWhere => become (query.orWhere field first second)
  | .whereIn => become (query.whereIn field (inputs.value "values"))
  | .orderBy =>
    become (query.orderBy field
      (inputs.valueOr "direction" (.text SortDirection.ascending.text)))
  | .limit => become (query.withLimit (inputs.value "count"))
  | .outgoing => traverse .outgoing
  | .incoming => traverse .incoming
  | .both => traverse .both
  | .matchClause =>
    return .text (← Act.ofExcept (checked (query.matchClause (variableOf inputs))))
  | .whereClause => return .text (query.whereClause (variableOf inputs))
  | .selectStatement =>
    clauses
    statement query.selectStatement
  | .countStatement =>
    clauses
    statement query.countStatement
  | .updateStatement => statement (← change attributes)
  | .deleteStatement =>
    if !query.conditions.isEmpty then clauses
    statement (query.deleteStatement detach)
  | .get =>
    through [.selectStatement]
    return .list (← makeNodes (← run query.get))
  | .first =>
    passThrough (unseen place) [.limit]
    let (program, after) := query.first
    putQuery place record query after
    through [.get, .selectStatement]
    makeOptionalNode (← run program)
  | .find =>
    let identity := inputs.value "identity"
    passThrough (unseen place) [.«where»]
    let identified := query.identified identity
    putQuery place record query identified
    passThrough (unseen place) [.first, .limit]
    let (program, after) := query.find identity
    putQuery place record identified after
    through [.get, .selectStatement]
    makeOptionalNode (← run program)
  | .count =>
    through [.countStatement]
    return .int (← run query.count)
  | .«exists» =>
    through [.count, .countStatement]
    return .bool (← run query.exists)
  | .create =>
    let autoIdentity ← drawsIdentities record.gateway
    makeNode (← performOn record.gateway
      (Query.createLabelled labels autoIdentity attributes inputs.more))
  | .update =>
    passThrough (unseen place) [.updateStatement]
    let _ ← Act.ofExcept (checked (← change attributes))
    return .int (← run (query.update attributes).1)
  | .delete =>
    passThrough (unseen place) [.deleteStatement]
    if !query.conditions.isEmpty then clauses
    return .int (← run (query.delete detach))
  | _ => Act.fail .noAttribute

/-! ## Traversals -/

/-- Calls an operation of a traversal. -/
def callTraversal (place : Nat) (operation : Operation) (inputs : Inputs) : Deed Value := do
  let record ← traversalAt place
  let sourcePlace ← queryPlace record.source
  let sourceRecord ← queryAt sourcePlace
  let source ← sourceRecord.query
  let traversal ← record.traversal
  let sourceLabels ← look sourceRecord.labels
  let targetLabels ← look record.targetLabels
  let checked {α : Type} (result : Except Fault α) : Except Fault α :=
    result.mapError (faultWithLabels targetLabels)
  let run {α : Type} (program : Program (Except Fault α)) : Deed α :=
    performOn sourceRecord.gateway (program.map checked)
  let through (operations : List Operation) : Deed Unit := do
    passThrough (unseen place) operations
    passClauses (unseen sourcePlace)
      ((source.matchClause Traversal.sourceName).mapError (faultWithLabels sourceLabels))
    passThrough (unseen place) [.relationshipPattern]
  let condition (part : PathPart) : Deed Value := do
    let (result, sourceAfter, after) :=
      Traversal.whereOn source traversal part (inputs.value "field")
        (inputs.value "firstOperand") (inputs.value? "value")
    putQuery sourcePlace sourceRecord source sourceAfter
    putTraversal place record traversal after
    Act.ofExcept result
    return unseen place
  match operation with
  | .label =>
    let after ← Act.ofExcept (traversal.withLabels inputs.further)
    replace place (.traversal { record with
      targetLabels := ← settle (textsValue after.targetLabels) })
    return unseen place
  | .«where» => condition .target
  | .whereRelationship => condition .relationship
  | .limit =>
    putTraversal place record traversal
      (← Act.ofExcept (traversal.withLimit (inputs.value "count")))
    return unseen place
  | .relationshipPattern => return .text (← Act.ofExcept traversal.relationshipPattern)
  | .selectStatement =>
    through []
    makeStatement
      (checked (Traversal.selectStatement source traversal (inputs.value "limit")))
  | .countStatement =>
    through []
    makeStatement (checked (Traversal.countStatement source traversal))
  | .get =>
    through [.selectStatement]
    return .list (← makeNodes (← run (Traversal.get source traversal)))
  | .first =>
    through [.selectStatement]
    makeOptionalNode (← run (Traversal.first source traversal))
  | .count =>
    through [.countStatement]
    return .int (← run (Traversal.count source traversal))
  | .«exists» =>
    through [.count, .countStatement]
    return .bool (← run (Traversal.exists source traversal))
  | _ => Act.fail .noAttribute

/-! ## Relationships -/

/-- Calls an operation of a relationship. -/
def callRelationship (place : Nat) (operation : Operation) (inputs : Inputs) : Deed Value := do
  let (record, relationship) ← relationshipAt place
  match operation with
  | .to =>
    replace place (.relationship { record with destination := inputs.value "node" })
    return unseen place
  | .withProperties =>
    let merged ←
      Act.ofExcept (Relationship.readProperties (inputs.value "properties") inputs.more)
    replace place (.relationship { record with properties := ← settle (.map merged) })
    return unseen place
  | .createStatement => makeStatement relationship.createStatement
  | .save =>
    passThrough (unseen place) [.createStatement]
    return .bool (← performOn (inputs.value "gateway") relationship.save)
  | _ => Act.fail .noAttribute

/-! ## The rest -/

/-- Calls an operation of an engine. -/
def callEngine (number : Nat) (operation : Operation) (inputs : Inputs) : Deed Value := do
  match operation with
  | .connect =>
    Act.onEngine number Engine.connect
    return .null
  | .close =>
    Act.onEngine number Engine.close
    return .null
  | .openSession =>
    (← Act.engine number).openSession (inputs.value "database")
    make .session
  | .ofSettings => engineOfSettings (inputs.value "settings") inputs.more
  | _ => Act.fail .noAttribute

/-- Calls an operation of a gateway. -/
def callGateway (place : Nat) (record : GatewayRecord) (operation : Operation)
    (inputs : Inputs) : Deed Value := do
  match operation with
  | .run =>
    let result ← record.execute (inputs.value "statement") (inputs.value "parameters")
    makeRecords result.records
  | .label => makeQuery (unseen place) inputs.further
  | .drawIdentity => return .text (← drawIdentityOf (unseen place))
  | .ofSettings => gatewayOfSettings (inputs.value "settings")
  | .transact =>
    let hearing ← record.hearing
    let gateway ← record.gateway
    Act.mapFault hearing (gateway.transact fun _ => Act.fail .wrongKind)
  | _ => Act.fail .noAttribute

/-- Calls an operation of a result. -/
def callRecords (place : Nat) (records : Value) (operation : Operation) (inputs : Inputs) :
    Deed Value := do
  let result : RecordSet := ⟨membersIn (← look records)⟩
  let column : Deed Key := do
    let given := inputs.value "column"
    return (← keyOf given).getD (.text given.plain)
  match operation with
  | .count => return .int result.count
  | .first => return result.first
  | .values => return .list (← Act.ofExcept (result.values (← column)))
  | .scalar =>
    passThrough (unseen place) [.first]
    Act.ofExcept (result.scalar (← column) (inputs.valueOr "default" (.int 0)))
  | .nodes =>
    let key ← column
    let _ ← Act.ofExcept (result.nodes key)
    return .list (← Act.ofExcept (result.values key))
  | _ => Act.fail .noAttribute

/-- Calls an operation of what stands at a place. -/
def callItem (place : Nat) (item : Item) (operation : Operation) (inputs : Inputs) :
    Deed Value := do
  match item, operation with
  | .node _, _ => callNode place operation inputs
  | .query _, _ => callQuery place operation inputs
  | .traversal _, _ => callTraversal place operation inputs
  | .relationship _, _ => callRelationship place operation inputs
  | .engine number, _ => callEngine number operation inputs
  | .gateway record, _ => callGateway place record operation inputs
  | .records records, _ => callRecords place records operation inputs
  | .condition condition, .render =>
    return .text (condition.text (inputs.value "variable").plain)
  | .allocator stem allocated, .next =>
    let allocator : Allocator := ⟨(← look stem).plain, allocated⟩
    replace place (.allocator stem allocator.advance.allocated)
    return .text allocator.fresh
  | .value (.map entries), .get =>
    lookUpIn (← lookEntries entries) (inputs.value "key") (inputs.value "default")
  | .value (.map _), .update =>
    setEntries (unseen place) (inputs.valueOr "entries" (.map []))
    setEntries (unseen place) (.map inputs.more)
    return .null
  | _, _ => Act.fail .noAttribute

/-! ## Calling -/

/-- An operation of a thing as it can be called: the place of the thing, what stands there and what
the operation takes.  A field can be named like an operation or like none, but it cannot be
called. -/
def operationOf (target : Value) (name : FieldName) : Deed (Nat × Item × Signature) := do
  match ← itemOf? target with
  | none => Act.fail .noAttribute
  | some (place, item) =>
    match ← hides target name.operation, signature? item name.operation with
    | false, some signature =>
      return (place, item, signature)
    | _, _ =>
      let _ ← readField target name
      Act.fail .wrongKind

/-- Calls an operation of a value. -/
def call (target : Value) (name : FieldName) (arguments : Arguments) : Deed Value := do
  let positional ← positionalArguments arguments.positional
  let named ← namedArguments arguments.named
  let (place, item, signature) ← operationOf target name
  let inputs ← Act.ofExcept (signature.fit positional (lastOfEach named))
  settle (← callItem place item name.operation inputs)

/-- What is heard of a fault by someone who waits for several operations together: of one that was
cancelled only that it was. -/
def heardTogether (fault : Fault) : Fault :=
  match fault with
  | .raised failure =>
    if failure.kind.isOrdinary then fault else .raised { failure with message := "" }
  | _ => fault

/-- Performs calls one after the other, each with everything as it is then; each has an outcome
of its own. -/
def callEach (place : Nat) (operation : Operation) (inputs : Inputs) :
    Nat → Deed (List (Except Fault Value))
  | 0 => return []
  | times + 1 => do
    lookAround
    let outcome ← Act.attempt do
      settle (← callItem place (← itemAt place) operation (← inputs.look))
    let others ← callEach place operation inputs times
    return outcome.mapError heardTogether :: others

/-- Performs calls one after the other until one fails. -/
def callInTurn (place : Nat) (operation : Operation) (inputs : Inputs) : Nat → Deed Unit
  | 0 => return
  | times + 1 => do
    let _ ← callItem place (← itemAt place) operation (← inputs.look)
    callInTurn place operation inputs times

/-- Starts an operation several times, to wait for all of them together.  Only an operation whose
result has to be awaited can be waited for: any other is over as soon as it is called, and waiting
for it is a fault.  What is started no times need not even be an operation. -/
def callTogether (target : Value) (name : FieldName) (arguments : Arguments) (times : Nat) :
    Deed (List (Except Fault Value)) := do
  let positional ← positionalArguments arguments.positional
  let named ← namedArguments arguments.named
  match ← (operationOf target name).attempt with
  | .error fault =>
    match times, fault with
    | 0, .wrongKind => return []
    | _, _ => Act.fail fault
  | .ok (place, _, signature) =>
    if times = 0 then return []
    let inputs ← Act.ofExcept (signature.fit positional (lastOfEach named))
    if signature.isAwaited then callEach place name.operation inputs times
    else
      callInTurn place name.operation inputs times
      Act.fail .wrongKind

end GraphMapper.Script
