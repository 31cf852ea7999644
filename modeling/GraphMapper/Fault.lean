import GraphMapper.Failure
import GraphMapper.Number.Reading
import GraphMapper.Validation

/-!
# Faults

Everything that can end an operation without a result, by cause.  A cause keeps what it is
about --- the name that was refused, the failure that was wrapped --- and its wording is
computed from that in one place, so a statement about faults never mentions a sentence.

## The families

*Build errors* are mistakes in what the mapper was asked to compile.  They are found before
anything is sent.  Together with lost identities, missing endpoints, malformed records and
wrapped store failures they are the *mapper's errors*, the family a command reports and
survives.

*Connection errors* are raised by the engine when it has no verified connection, and by the
network.  A gateway wraps them like any other failure of the store.
-/

namespace GraphMapper

/-- A change to all nodes that match a query. -/
inductive Mutation where
  | update
  | delete
  deriving DecidableEq

/-- What a missing identity was needed for. -/
inductive IdentityUse where
  | update
  | refresh
  | insertAgain
  deriving DecidableEq

/-- The end of a relationship that is not usable. -/
inductive Endpoint where
  | destinationUnset
  | source
  | destination
  deriving DecidableEq

/-- What a store failure ended. -/
inductive StoreScope where
  | statement
  | transaction
  deriving DecidableEq

/-- A reason why an operation has no result. -/
inductive Fault where
  | invalidIdentifier (role : String) (given : Value)
  | unsupportedOperator (given : Value)
  | invalidSortDirection (given : Value)
  | invalidLimit (given : Value)
  | notACollection (given : Value)
  | invalidPathDirection (given : Value)
  | unsafeMutation (mutation : Mutation) (labels : List String)
  | missingIdentity (purpose : IdentityUse)
  | missingEndpoint (endpoint : Endpoint)
  | malformedRecord (index : Nat) (column : Key) (found : Value)
  | storeFailure (scope : StoreScope) (cause : Fault)
  | notConnected (uri : String)
  | connectionFailed (uri : String) (cause : Fault)
  | invalid (report : ValidationReport)
  | emptyUpdate
  | identityInUpdate
  | reservedKey
  | noSuchField (owner : Subject) (name : String)
  | notAWholeNumber (given : Value)
  | tooManyDigits (digits : Nat)
  | infiniteCount
  | undefinedCount
  | unknownLevel (given : String)
  | unopenedTag (tag : String) (position : Nat)
  | nothingToClose (tag : String) (position : Nat)
  | unreadableAction (arguments action reason : String)
  | senselessAction (action reason : String)
  | wrongKind
  | noAttribute
  | indexOutOfRange
  | unbound (name : String)
  | raised (failure : Failure)

namespace Fault

/-- The labels of a pattern, each with a colon before it. -/
def labelsText (labels : List String) : String := String.join (labels.map (":" ++ ·))

/-- What a refused mutation would have changed: all nodes with the labels, or every node. -/
def scopeText (labels : List String) : String :=
  if labels.isEmpty then "node" else labelsText labels

/-- The verb of a mutation. -/
def mutationText : Mutation → String
  | .update => "update"
  | .delete => "delete"

/-- The sentence of a missing identity. -/
def identityText : IdentityUse → String
  | .update => "Cannot update a node without an identity"
  | .refresh => "Cannot refresh a node without an identity"
  | .insertAgain =>
    "Node was read from the store without an id; inserting it would create a duplicate"

/-- The sentence of an unusable endpoint. -/
def endpointText : Endpoint → String
  | .destinationUnset => "Cannot create a relationship without a destination node"
  | .source => "The source node has no identity; save it first"
  | .destination => "The destination node has no identity; save it first"

/-- What failed, as a store failure begins. -/
def scopeWord : StoreScope → String
  | .statement => "Statement"
  | .transaction => "Transaction"

/-- The sentence that describes a fault.  A value of the wrong kind and a failed validation
have none: the first is described by its kind, the second by its report. -/
def message : Fault → String
  | .invalidIdentifier role given => "Invalid " ++ role ++ ": " ++ given.literal
  | .unsupportedOperator given => "Unsupported operator: " ++ given.literal
  | .invalidSortDirection given => "Order direction must be ASC or DESC, got " ++ given.literal
  | .invalidLimit given => "Limit must be a non-negative integer, got " ++ given.literal
  | .notACollection given => "where_in() needs a collection of values, got " ++ given.literal
  | .invalidPathDirection given => "Invalid relationship direction: " ++ given.literal
  | .unsafeMutation mutation labels =>
    "Refusing to " ++ mutationText mutation ++ " every " ++ scopeText labels ++
      " without a where() condition"
  | .missingIdentity purpose => identityText purpose
  | .missingEndpoint endpoint => endpointText endpoint
  | .malformedRecord index column found =>
    "Record " ++ toString index ++ " has no node in column '" ++ column.plain ++ "': " ++
      found.literal
  | .storeFailure scope cause => scopeWord scope ++ " failed: " ++ cause.message
  | .notConnected uri =>
    "GraphEngine for " ++ uri ++ " is not connected. Call `await engine.connect()` first."
  | .connectionFailed uri cause =>
    "Failed to connect to Neo4j at " ++ uri ++ ": " ++ cause.message
  | .invalid _ => ""
  | .emptyUpdate => "update() needs at least one attribute"
  | .identityInUpdate => "'id' cannot be changed through update()"
  | .reservedKey => "'id' is reserved; assign node.identity instead"
  | .noSuchField owner name =>
    "\"" ++ owner.title ++ "\" object has no field \"" ++ name ++ "\""
  | .indexOutOfRange => "list assignment index out of range"
  | .notAWholeNumber given =>
    "invalid literal for int() with base 10: " ++ String.ofList (given.literal.toList.take 200)
  | .tooManyDigits digits =>
    "Exceeds the limit (" ++ toString digitLimit ++
      " digits) for integer string conversion: value has " ++ toString digits ++
      " digits; use sys.set_int_max_str_digits() to increase the limit"
  | .infiniteCount => "cannot convert float infinity to integer"
  | .undefinedCount => "cannot convert float NaN to integer"
  | .unknownLevel given => "Unknown level: " ++ Text.quoted given
  | .unopenedTag tag position =>
    "closing tag '" ++ tag ++ "' at position " ++ toString position ++
      " doesn't match any open tag"
  | .nothingToClose tag position =>
    "closing tag '" ++ tag ++ "' at position " ++ toString position ++ " has nothing to close"
  | .unreadableAction arguments action reason =>
    "error parsing " ++ Text.quoted arguments ++ " in " ++ Text.quoted action ++ "; " ++ reason
  | .senselessAction action reason => "error parsing " ++ Text.quoted action ++ "; " ++ reason
  | .wrongKind => ""
  | .noAttribute => ""
  | .unbound name => name
  | .raised failure => failure.message

/-- A mistake in what was to be compiled. -/
def isBuildError : Fault → Bool
  | .invalidIdentifier .. | .unsupportedOperator _ | .invalidSortDirection _ | .invalidLimit _
  | .notACollection _ | .invalidPathDirection _ | .unsafeMutation .. => true
  | _ => false

/-- An error of the mapper's own family. -/
def isMapperError : Fault → Bool
  | .missingIdentity _ | .missingEndpoint _ | .malformedRecord .. | .storeFailure .. => true
  | fault => fault.isBuildError

/-- An error of the connection to the store. -/
def isConnectionError : Fault → Bool
  | .notConnected _ | .connectionFailed .. => true
  | .raised failure => failure.kind.isConnection
  | _ => false

/-- A fault that a gateway wraps as a failure of the store. -/
def isStoreFailure : Fault → Bool
  | .notConnected _ | .connectionFailed .. => true
  | .raised failure => failure.kind.isStoreFailure
  | _ => false

/-- A fault that a handler for all ordinary faults sees. -/
def isOrdinary : Fault → Bool
  | .raised failure => failure.kind.isOrdinary
  | _ => true

/-- The fault that this one was raised in answer to. -/
def cause? : Fault → Option Fault
  | .storeFailure _ cause | .connectionFailed _ cause => some cause
  | _ => none

end Fault

end GraphMapper
