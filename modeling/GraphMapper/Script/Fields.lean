import GraphMapper.Script.Things
import GraphMapper.Script.Vocabulary

/-!
# Fields

Reading and assigning what a thing is made of.

Reading hands out what a field holds.  Fields that are computed are computed anew each time, and
what they hand out is a copy, but the conditions in it are the query's own.  Assigning is not
validated, and a field that is computed cannot be assigned.  Statements and conditions are values:
no field of theirs can be assigned, whether they have it or not.  Nodes and settings have no
fields but their own.  All other things take a field of any other name and keep it.

The containers that a thing keeps for itself can be reached as well, under names that begin with an
underscore, and then they are no copies.  Any other name of this kind is for whoever wants to note
something down: every thing takes a field of such a name, even one that is a value.
-/

namespace GraphMapper.Script

/-- The name under which settings keep a field. -/
def settingName? : Field → Option String
  | .uri => some "uri"
  | .username => some "username"
  | .password => some "password"
  | .database => some "database"
  | .logQueries => some "log_queries"
  | .identitySetting => some "auto_uuid"
  | .logLevel => some "log_level"
  | _ => none

/-- The settings as fields. -/
def settingFields (settings : Settings) : Entries :=
  partsOf [("uri", .text settings.uri), ("username", .text settings.username),
    ("password", .text settings.password), ("database", .text settings.database),
    ("log_queries", .bool settings.logQueries), ("auto_uuid", .bool settings.autoIdentity),
    ("log_level", .text settings.logLevel)]

/-- A field of settings by its name, null if there is none. -/
def settingField (fields : Entries) (name : String) : Value :=
  (fields.get? (.text name)).getD .null

/-- The user name and the password of settings. -/
def settingsLogin (fields : Entries) : Value :=
  .tuple [settingField fields "username", settingField fields "password"]

/-! ## Reading -/

/-- Reads a field of a node. -/
def readNode (place : Nat) (record : NodeRecord) (name : FieldName) : Deed Value :=
  match name.field with
  | .identity => return record.identity
  | .labels => return record.labels
  | .attributes => return record.attributes
  | .persisted => return record.persisted
  | .fromStore => return record.fromStore
  | .storedIdentity => return record.storedIdentity
  | _ => addedField place name

/-- Reads a field of settings. -/
def readSettings (place : Nat) (fields : Entries) (name : FieldName) : Deed Value :=
  match name.field, settingName? name.field with
  | .login, _ => return settingsLogin fields
  | _, some setting => return settingField fields setting
  | _, none => addedField place name

/-- A copy of a list of a thing's own: whatever can be gone through becomes a list. -/
def copyOf (list : Value) : Deed Value := do
  match (← look list).members? with
  | some members => return .list members
  | none => Act.fail .wrongKind

/-- Reads a field of a query. -/
def readQuery (place : Nat) (name : FieldName) : Deed Value := do
  let record ← queryAt place
  match name.field with
  | .labels => copyOf record.labels
  | .conditions => copyOf record.conditions
  | .parameters => return .map (entriesOf (← look record.parameters))
  | .allocator => return record.allocator
  | .gateway => return record.gateway
  | .keptLabels => return record.labels
  | .keptConditions => return record.conditions
  | .keptParameters => return record.parameters
  | .sorting => return record.sorting
  | .limit => return record.limit
  | _ => addedField place name

/-- Reads a field of a traversal. -/
def readTraversal (place : Nat) (name : FieldName) : Deed Value := do
  let record ← traversalAt place
  match name.field with
  | .source => return record.source
  | .direction => return record.direction
  | .relationshipType => return record.relationshipType
  | .targetLabels => copyOf record.targetLabels
  | .relationshipConditions =>
    return .list (conditionsOn .relationship (← look record.conditions))
  | .targetConditions => return .list (conditionsOn .target (← look record.conditions))
  | .parameters =>
    let source ← queryAt (← queryPlace record.source)
    return .map (Traversal.allParameters (← source.query) (← record.traversal))
  | .keptTargetLabels => return record.targetLabels
  | .pathConditions => return record.conditions
  | .keptParameters => return record.parameters
  | .limit => return record.limit
  | _ => addedField place name

/-- Reads a field of a relationship. -/
def readRelationship (place : Nat) (record : RelationshipRecord) (name : FieldName) :
    Deed Value :=
  match name.field with
  | .sourceNode => return record.source
  | .destinationNode => return record.destination
  | .relationshipType => return record.relationshipType
  | .properties => return record.properties
  | _ => addedField place name

/-- Reads a field of an engine; the driver of an engine that is not connected is a fault. -/
def readEngine (place number : Nat) (name : FieldName) : Deed Value := do
  let engine ← Act.engine number
  match name.field with
  | .uri => return engine.server.uri
  | .login => return engine.server.login
  | .defaultDatabase => return engine.defaultDatabase
  | .options => return engine.server.options
  | .connected => return .bool engine.connected
  | .driver => driverValue (← Act.ofExcept engine.requireDriver)
  | .connectedNow => return .bool engine.connected
  | .driverHeld =>
    match engine.driver with
    | some driver => driverValue driver
    | none => return .null
  | _ => addedField place name

/-- Reads a field of a gateway. -/
def readGateway (place : Nat) (record : GatewayRecord) (name : FieldName) : Deed Value :=
  match name.field, record.connection with
  | .autoIdentity, _ => return record.autoIdentity
  | .logQueries, _ => return record.logQueries
  | .engine, some (engine, _) => return engine
  | .database, some (_, database) => return database
  | .origin, none => return record.origin
  | _, _ => addedField place name

/-- Reads a field of a condition. -/
def readCondition (place : Nat) (condition : Condition) (name : FieldName) : Deed Value :=
  match name.field with
  | .property => return .text condition.field
  | .operator => return .text condition.operator.text
  | .parameter => return .text condition.parameter
  | .connective => return .text condition.connective.text
  | _ => addedField place name

/-- Reads a field of a value. -/
def readField (target : Value) (name : FieldName) : Deed Value := do
  match ← itemOf? target with
  | none => Act.fail .noAttribute
  | some (place, item) =>
    match item, name.field with
    | .node record, _ => readNode place record name
    | .settings fields, _ => settle (← readSettings place fields name)
    | .query _, _ => settle (← readQuery place name)
    | .traversal _, _ => settle (← readTraversal place name)
    | .relationship record, _ => readRelationship place record name
    | .engine number, _ => readEngine place number name
    | .gateway record, _ => readGateway place record name
    | .condition condition, _ => readCondition place condition name
    | .statement text _, .text => return .text text
    | .statement _ parameters, .parameters => return parameters
    | .allocator stem _, .stem => return stem
    | .allocator _ allocated, .allocated | .allocator _ allocated, .counter =>
      return .int allocated
    | .records records, .recordList => return records
    | .value _, _ => Act.fail .noAttribute
    | _, _ => addedField place name

/-! ## Assigning -/

/-- Assigns a field of a node. -/
def assignNode (place : Nat) (record : NodeRecord) (name : FieldName) (new : Value) :
    Deed Unit :=
  match name.field with
  | .identity => replace place (.node { record with identity := new })
  | .persisted => replace place (.node { record with persisted := new })
  | .labels => replace place (.node { record with labels := new })
  | .attributes => replace place (.node { record with attributes := new })
  | .fromStore => replace place (.node { record with fromStore := new })
  | .storedIdentity => replace place (.node { record with storedIdentity := new })
  | _ => Act.fail (.noSuchField .node name.written)

/-- Assigns a field of settings. -/
def assignSettings (place : Nat) (fields : Entries) (name : FieldName) (new : Value) :
    Deed Unit :=
  match name.field, settingName? name.field with
  | .login, _ => Act.fail .noAttribute
  | _, some setting => replace place (.settings (fields.put (.text setting) new))
  | _, none => Act.fail (.noSuchField .settings name.written)

/-- Assigns a field of a query. -/
def assignQuery (place : Nat) (record : QueryRecord) (name : FieldName) (new : Value) :
    Deed Unit :=
  match name.field with
  | .labels | .conditions | .parameters => Act.fail .noAttribute
  | .gateway => replace place (.query { record with gateway := new })
  | .allocator => replace place (.query { record with allocator := new })
  | .keptLabels => replace place (.query { record with labels := new })
  | .keptConditions => replace place (.query { record with conditions := new })
  | .keptParameters => replace place (.query { record with parameters := new })
  | .sorting => replace place (.query { record with sorting := new })
  | .limit => replace place (.query { record with limit := new })
  | _ => addField place name new

/-- Assigns a field of a traversal. -/
def assignTraversal (place : Nat) (record : TraversalRecord) (name : FieldName) (new : Value) :
    Deed Unit :=
  match name.field with
  | .targetLabels | .relationshipConditions | .targetConditions | .parameters =>
    Act.fail .noAttribute
  | .source => replace place (.traversal { record with source := new })
  | .direction => replace place (.traversal { record with direction := new })
  | .relationshipType => replace place (.traversal { record with relationshipType := new })
  | .keptTargetLabels => replace place (.traversal { record with targetLabels := new })
  | .pathConditions => replace place (.traversal { record with conditions := new })
  | .keptParameters => replace place (.traversal { record with parameters := new })
  | .limit => replace place (.traversal { record with limit := new })
  | _ => addField place name new

/-- Assigns a field of a relationship. -/
def assignRelationship (place : Nat) (record : RelationshipRecord) (name : FieldName)
    (new : Value) : Deed Unit :=
  match name.field with
  | .sourceNode => replace place (.relationship { record with source := new })
  | .destinationNode => replace place (.relationship { record with destination := new })
  | .relationshipType => replace place (.relationship { record with relationshipType := new })
  | .properties => replace place (.relationship { record with properties := new })
  | _ => addField place name new

/-- Changes the engine with a number. -/
def changeEngine (number : Nat) (f : Engine → Engine) : Deed Unit :=
  Act.change fun world => { world with engines := world.engines.modify number f }

/-- Assigns a field of an engine. -/
def assignEngine (place number : Nat) (name : FieldName) (new : Value) : Deed Unit :=
  match name.field with
  | .connected | .driver => Act.fail .noAttribute
  | .uri =>
    changeEngine number fun engine => { engine with server := { engine.server with uri := new } }
  | .login =>
    changeEngine number fun engine => { engine with server := { engine.server with login := new } }
  | .options =>
    changeEngine number fun engine =>
      { engine with server := { engine.server with options := new } }
  | .defaultDatabase => changeEngine number fun engine => { engine with defaultDatabase := new }
  | .connectedNow => changeEngine number fun engine => { engine with connected := new.isTruthy }
  | .driverHeld => do
    let driver ← match ← itemOf? new with
      | some (_, .driver driver) => pure (some driver)
      | _ => pure none
    changeEngine number fun engine => { engine with driver }
  | _ => addField place name new

/-- Assigns a field of a gateway. -/
def assignGateway (place : Nat) (record : GatewayRecord) (name : FieldName) (new : Value) :
    Deed Unit :=
  match name.field, record.connection with
  | .autoIdentity, _ => replace place (.gateway { record with autoIdentity := new })
  | .logQueries, _ => replace place (.gateway { record with logQueries := new })
  | .engine, some (_, database) =>
    replace place (.gateway { record with connection := some (new, database) })
  | .database, some (engine, _) =>
    replace place (.gateway { record with connection := some (engine, new) })
  | .origin, none => replace place (.gateway { record with origin := new })
  | _, _ => addField place name new

/-- Assigns a field of what stands at a place. -/
def assignAt (place : Nat) (item : Item) (name : FieldName) (new : Value) : Deed Unit :=
  match item, name.field with
  | .statement _ _, _ => Act.fail (Statement.frozen name.written)
  | .condition _, _ => Act.fail (Condition.frozen name.written)
  | .node record, _ => assignNode place record name new
  | .settings fields, _ => assignSettings place fields name new
  | .query record, _ => assignQuery place record name new
  | .traversal record, _ => assignTraversal place record name new
  | .relationship record, _ => assignRelationship place record name new
  | .engine number, _ => assignEngine place number name new
  | .gateway record, _ => assignGateway place record name new
  | .allocator _ allocated, .stem => replace place (.allocator new allocated)
  | .allocator _ _, .allocated => Act.fail .noAttribute
  | .allocator stem _, .counter =>
    match new with
    | .int n => replace place (.allocator stem n.toNat)
    | _ => Act.fail .wrongKind
  | .records _, .recordList => replace place (.records new)
  | _, _ => addField place name new

/-- Whether a thing takes a field as something that it knows nothing about. -/
def isNote (item : Item) (name : FieldName) : Bool :=
  name.isInner &&
    match item, name.field with
    | .node _, .fromStore | .node _, .storedIdentity => false
    | .node _, _ | .settings _, _ | .statement _ _, _ | .condition _, _ => true
    | _, _ => false

/-- Assigns a field of a value. -/
def assignField (target : Value) (name : FieldName) (new : Value) : Deed Unit := do
  match ← itemOf? target with
  | none | some (_, .value _) => Act.fail .noAttribute
  | some (place, item) =>
    if name.isFoundation then Act.fail .wrongKind
    if isNote item name then addField place name new
    else assignAt place item name new

end GraphMapper.Script
