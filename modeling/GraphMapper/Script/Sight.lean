import GraphMapper.Script.Memory

/-!
# Sight

Looking at a value fills in what stands at its places now, and at the places that these hold, and
so on.  What comes out is an ordinary value that shows everything at the moment of looking, with
the places still in it.

A thing that is no container is seen as an *object*: its parts by their names, and its two texts.
The parts of a traversal come from its source as well, and an allocator shows through every query
that uses it, so objects are put together from what was seen before.

A thing may contain itself.  Looking therefore goes through one place at most twice on the same
way: so whatever is taken out of a thing still shows that it contains itself.
-/

namespace GraphMapper.Script

/-- A value with a function applied to its direct parts. -/
def mapParts (f : Value → Value) : Value → Value
  | .list items => .list (items.map f)
  | .tuple items => .tuple (items.map f)
  | .map entries => .map (entries.map fun e => (e.1, f e.2))
  | .node labels properties => .node labels (properties.map fun e => (e.1, f e.2))
  | v => v

/-! ## Parts -/

/-- Parts by their names. -/
def partsOf (parts : List (String × Value)) : Entries :=
  parts.map fun e => (.text e.1, e.2)

/-- The part of an object with a name, if it has one. -/
def part? (name : String) (object : Value) : Option Value :=
  match object.bare with
  | .object _ _ _ parts => Entries.get? parts (.text name)
  | _ => none

/-- The part of an object with a name, null if it has none. -/
def part (name : String) (object : Value) : Value := (part? name object).getD .null

/-- Parts in one line, each with its name, inside containers at certain places. -/
def partsText (opened : List Nat) (separator : String) (parts : Entries) : String :=
  joinTexts separator (parts.map fun e => e.1.plain ++ "=" ++ e.2.literalWithin opened)

/-- A validated object: in full it is written with its title, in plain without. -/
def validated (opened : List Nat) (kind : ObjectKind) (subject : Subject) (parts : Entries) :
    Value :=
  .object kind (subject.title ++ "(" ++ partsText opened ", " parts ++ ")")
    (partsText opened " " parts) parts

/-- An object that is known by one text only. -/
def opaqueObject (kind : ObjectKind) (text : String) (parts : List (String × Value)) : Value :=
  .object kind text text (partsOf parts)

/-- The entries of a map that is a part. -/
def entriesOf (value : Value) : Entries := value.entries?.getD []

/-! ## Objects

The text of an object is put together where the object is seen, inside the containers that the
way to it leads through. -/

/-- What there is to look with: how values further on are seen, the engines, the fields that were
added to things, and the places that the way has led through. -/
structure Sight where
  see : Value → Value
  engines : List Engine
  memory : Memory
  opened : List Nat

/-- What a thing shows under a name: a part of its own, or else a field that was added to it. -/
def Sight.shownBy (sight : Sight) (name : String) (field : Field) (thing : Value) : Option Value :=
  let seen := sight.see thing
  match part? name seen, seen with
  | some value, _ => some value
  | none, .shared place _ => (sight.memory.extra? place (·.field == field)).map sight.see
  | none, _ => none

/-- A node as an object. -/
def NodeRecord.seen (sight : Sight) (record : NodeRecord) : Value :=
  let identity := sight.see record.identity
  let labels := sight.see record.labels
  let fields := partsOf [("identity", identity), ("labels", labels),
    ("attributes", sight.see record.attributes), ("persisted", sight.see record.persisted)]
  let node : Node := { identity := identity, storedIdentity := sight.see record.storedIdentity }
  .object .node
    (Node.summaryWith (identity.literalWithin sight.opened) (labels.literalWithin sight.opened)
      record.persisted.isTruthy)
    (partsText sight.opened " " fields) (fields ++ partsOf [("identityValue", node.identityValue)])

/-- A condition as an object. -/
def conditionSeen (condition : Condition) : Value :=
  validated [] .condition .condition <| partsOf [("field", .text condition.field),
    ("operator", .text condition.operator.text), ("parameter", .text condition.parameter),
    ("connective", .text condition.connective.text)]

/-- A statement as an object: in plain it is its text. -/
def statementSeen (sight : Sight) (text : String) (parameters : Value) : Value :=
  let parts := partsOf [("text", .text text), ("parameters", sight.see parameters)]
  .object .statement (Subject.statement.title ++ "(" ++ partsText sight.opened ", " parts ++ ")")
    text parts

/-- The members of a value that can be gone through. -/
def membersIn (value : Value) : List Value := value.members?.getD []

/-- Records as an object whose parts are counted. -/
def recordsSeen (records : List Value) : Value :=
  .object .records "<records>" "<records>"
    (records.zipIdx.map fun e => (.int e.2, e.1))

/-- A query as an object. -/
def QueryRecord.seen (sight : Sight) (record : QueryRecord) : Value :=
  let labels := sight.see record.labels
  let conditions := membersIn (sight.see record.conditions)
  opaqueObject .query
    (Query.summaryWith (labels.literalWithin sight.opened) conditions.length)
    [("labels", .list (membersIn labels)), ("conditions", .list conditions),
      ("parameters", .map (entriesOf (sight.see record.parameters))),
      ("allocated", (sight.shownBy "allocated" .allocated record.allocator).getD .null)]

/-- The conditions among those of a traversal that are on one part of the path. -/
def conditionsOn (part : PathPart) (conditions : Value) : List Value :=
  (membersIn conditions).filterMap fun condition =>
    match condition.bare with
    | .tuple [about, .text var] => if var = part.var then some about else none
    | _ => none

/-- A traversal as an object. -/
def TraversalRecord.seen (sight : Sight) (record : TraversalRecord) : Value :=
  let source := sight.see record.source
  let direction := sight.see record.direction
  let relationshipType := sight.see record.relationshipType
  let targetLabels := sight.see record.targetLabels
  let conditions := sight.see record.conditions
  opaqueObject .traversal
    (Traversal.summaryWith ((part "labels" source).literalWithin sight.opened) direction.plain
      relationshipType.plain (targetLabels.literalWithin sight.opened))
    [("direction", direction), ("relationshipType", relationshipType),
      ("targetLabels", .list (membersIn targetLabels)),
      ("relationshipConditions", .list (conditionsOn .relationship conditions)),
      ("targetConditions", .list (conditionsOn .target conditions)),
      ("parameters",
        .map (Entries.merge (entriesOf (part "parameters" source))
          (entriesOf (sight.see record.parameters)))),
      ("allocated", part "allocated" source)]

/-- A relationship as an object.  Whatever its ends are, they show an identity if they have one. -/
def RelationshipRecord.seen (sight : Sight) (record : RelationshipRecord) : Value :=
  let identityOf (thing : Value) : Value := (sight.shownBy "identity" .identity thing).getD .null
  opaqueObject .relationship "<relationship>"
    [("relationshipType", sight.see record.relationshipType),
      ("source", identityOf record.source), ("destination", identityOf record.destination),
      ("hasDestination", .bool (!record.destination.isNull)),
      ("properties", sight.see record.properties)]

/-- An engine as an object. -/
def engineSeen (sight : Sight) (engine : Engine) : Value :=
  opaqueObject .engine "<engine>"
    [("uri", sight.see engine.server.uri), ("login", sight.see engine.server.login),
      ("defaultDatabase", sight.see engine.defaultDatabase),
      ("options", sight.see engine.server.options), ("connected", .bool engine.connected)]

/-- A gateway as an object. -/
def GatewayRecord.seen (sight : Sight) (record : GatewayRecord) : Value :=
  let options := [("autoIdentity", sight.see record.autoIdentity),
    ("logQueries", sight.see record.logQueries)]
  match record.connection with
  | some (_, database) =>
    opaqueObject .gateway "<gateway>" (options ++ [("database", sight.see database)])
  | none => opaqueObject .transactionGateway "<gateway>" options

/-- An item as a value. -/
def Item.seen (sight : Sight) : Item → Value
  | .value v => mapParts sight.see v
  | .node record => record.seen sight
  | .condition c => conditionSeen c
  | .statement text parameters => statementSeen sight text parameters
  | .settings fields =>
    validated sight.opened .settings .settings (fields.map fun e => (e.1, sight.see e.2))
  | .records found => recordsSeen (membersIn (sight.see found))
  | .allocator stem allocated =>
    opaqueObject .allocator "<allocator>"
      [("allocated", .int allocated), ("stem", sight.see stem)]
  | .query record => record.seen sight
  | .traversal record => record.seen sight
  | .relationship record => record.seen sight
  | .engine number =>
    match sight.engines[number]? with
    | some found => engineSeen sight found
    | none => .null
  | .gateway record => record.seen sight
  | .driver _ => opaqueObject .driver "<driver>" []
  | .session => opaqueObject .session "<session>" []

/-! ## Looking -/

/-- A value as it is seen at the end of a way through places.  The way goes on for as many steps
as are left; through a place that it has been through twice, it does not go on at all. -/
def Memory.see (memory : Memory) (engines : List Engine) : Nat → List Nat → Value → Value
  | 0, _, v => v
  | left + 1, opened, .shared place seen =>
    match memory.items[place]? with
    | some item =>
      let further : Value → Value :=
        if 1 < opened.count place then id else memory.see engines left (place :: opened)
      .shared place (item.seen ⟨further, engines, memory, place :: opened⟩)
    | none => .shared place seen
  | left + 1, opened, v => mapParts (memory.see engines left opened) v

/-- The steps that a look may take: every place twice, and as many containers without a place. -/
def Memory.reach (memory : Memory) : Nat := 2 * memory.items.length + 64

/-- How a value is seen now. -/
def sight : Deed (Value → Value) :=
  Act.read fun world => world.own.see world.engines world.own.reach []

/-- Looks at a value. -/
def look (value : Value) : Deed Value := do return (← sight) value

/-- Looks at the values of a map. -/
def lookEntries (entries : Entries) : Deed Entries := do
  let see ← sight
  return entries.map fun e => (e.1, see e.2)

/-- An engine with a function applied to its values. -/
def mapEngine (f : Value → Value) (engine : Engine) : Engine :=
  { engine with
    server := ⟨f engine.server.uri, f engine.server.login, f engine.server.options⟩
    defaultDatabase := f engine.defaultDatabase }

/-- An answer with a function applied to its records. -/
def mapAnswer (f : Value → Value) : Answer → Answer
  | .records rows => .records (rows.map f)
  | .refusal failure => .refusal failure
  | .interruption rows failure => .interruption (rows.map f) failure

/-- Looks at everything that stands outside memory: the engines and the answers that wait. -/
def lookAround : Deed Unit := do
  let see ← sight
  Act.change fun world =>
    { world with
      engines := world.engines.map (mapEngine see)
      store := { world.store with answers := world.store.answers.map (mapAnswer see) } }

end GraphMapper.Script
