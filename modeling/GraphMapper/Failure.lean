/-!
# Failures from outside

What goes wrong while the mapper talks to a store is not the mapper's own mistake: the store
or its driver reports it, the network breaks, or the code that runs inside a transaction
raises.  Such a failure has a kind and a message, and the mapper only ever asks two questions
of the kind.

Is it a *store failure*?  Those are the reports of the store and of its driver, and every kind
of broken connection; the gateway wraps them.  Timeouts and general system errors are not among
them.

Is it *ordinary*?  Everything is but a cancellation, which asks the whole task to stop and is
not to be handled on the way.
-/

namespace GraphMapper

/-- The kinds of failure that a store, its driver or a caller can raise. -/
inductive FailureKind where
  | serviceUnavailable
  | sessionExpired
  | driverError
  | configurationError
  | storeError
  | clientError
  | statementSyntax
  | transient
  | authentication
  | constraint
  | connection
  | connectionRefused
  | connectionReset
  | brokenPipe
  | timeout
  | system
  | runtime
  | invalidValue
  | cancelled
  deriving DecidableEq

/-- A failure with its message. -/
structure Failure where
  kind : FailureKind
  message : String
  deriving DecidableEq

namespace FailureKind

/-- A connection that could not be made or was lost. -/
def isConnection : FailureKind → Bool
  | .connection | .connectionRefused | .connectionReset | .brokenPipe => true
  | _ => false

/-- A failure that the gateway reports as a failure of the store. -/
def isStoreFailure : FailureKind → Bool
  | .serviceUnavailable | .sessionExpired | .driverError | .configurationError | .storeError
  | .clientError | .statementSyntax | .transient | .authentication | .constraint => true
  | kind => kind.isConnection

/-- A failure that a handler for all ordinary failures sees. -/
def isOrdinary : FailureKind → Bool
  | .cancelled => false
  | _ => true

end FailureKind

end GraphMapper
