/-!
# The vocabulary of scripts

What a script can ask for, by kind: the functions that belong to no thing, the operations of
things, and the fields that things are made of.  One operation can belong to several kinds of
things; what it does depends on the thing that it is called on.

Whoever writes a script down chooses the words for these.  An operation or a field that a script
names and that no thing knows is `unknown`, since asking for it is a fault of the step and not
of the whole script.  A field keeps the word that it was written with as well: assigning to a
part of a value is refused in terms of that word, and an unknown field has nothing else that
tells it from others.  A field can have the name of an operation, which it then hides.
-/

namespace GraphMapper.Script

/-- The functions that belong to no thing. -/
inductive Function where
  | checkName
  | readOperator
  | readSortDirection
  | readLimit
  | labelFragment
  | relationshipPattern
  | splitOperands
  | whereClause
  | whereClauseFor
  | propertiesMap
  | setClause
  | condition
  | statement
  | allocator
  | node
  | nodeOf
  | hydrate
  | records
  | query
  | traversal
  | relationship
  | engine
  | engineWithOptions
  | engineOfSettings
  | gateway
  | gatewayOfSettings
  | settings
  | collectStatistics
  | clearNodes

/-- The operations of things. -/
inductive Operation where
  | get
  | set
  | unset
  | has
  | addLabel
  | identityValue
  | toEntries
  | insertStatement
  | updateStatement
  | deleteStatement
  | selectStatement
  | countStatement
  | createStatement
  | save
  | delete
  | refresh
  | relationship
  | label
  | «where»
  | orWhere
  | whereIn
  | whereRelationship
  | orderBy
  | limit
  | outgoing
  | incoming
  | both
  | matchClause
  | whereClause
  | relationshipPattern
  | first
  | find
  | count
  | «exists»
  | create
  | update
  | to
  | withProperties
  | connect
  | close
  | openSession
  | run
  | drawIdentity
  | values
  | scalar
  | nodes
  | render
  | next
  | ofSettings
  | transact
  | unknown
  deriving DecidableEq

/-- The fields of things: first those that are for everyone, then those that a thing keeps for
itself. -/
inductive Field where
  | identity
  | labels
  | attributes
  | persisted
  | conditions
  | parameters
  | allocator
  | gateway
  | source
  | direction
  | relationshipType
  | targetLabels
  | relationshipConditions
  | targetConditions
  | sourceNode
  | destinationNode
  | properties
  | uri
  | login
  | defaultDatabase
  | options
  | connected
  | driver
  | autoIdentity
  | logQueries
  | engine
  | database
  | username
  | password
  | identitySetting
  | logLevel
  | text
  | property
  | operator
  | parameter
  | connective
  | stem
  | allocated
  | fromStore
  | storedIdentity
  | keptLabels
  | keptConditions
  | keptParameters
  | keptTargetLabels
  | pathConditions
  | sorting
  | limit
  | counter
  | driverHeld
  | connectedNow
  | recordList
  | origin
  | unknown
  deriving DecidableEq

/-- A field as a script writes it, what it means, and the operation that has the same name. -/
structure FieldName where
  written : String
  field : Field
  operation : Operation := .unknown

namespace FieldName

/-- A field by what it means. -/
def of (field : Field) : FieldName := { written := "", field }

/-- Whether two names are one. -/
def same (a b : FieldName) : Bool :=
  a.field == b.field && a.operation == b.operation &&
    (a.field != .unknown || a.operation != .unknown || a.written == b.written)

/-- Whether a name is one that even a thing with fixed fields takes as a field of its own. -/
def isInner (name : FieldName) : Bool := name.written.startsWith "_"

/-- Whether a name is what a thing itself is kept under; nothing else can be assigned to it. -/
def isFoundation (name : FieldName) : Bool :=
  name.written == "__dict__" || name.written == "__class__"

end FieldName

end GraphMapper.Script
