import GraphMapper.Store.Connection
import GraphMapper.Store.Program
import GraphMapper.Value.Display

/-!
# Gateways

A gateway is what operations are run through.  There are two kinds.  A *session gateway* gives
every statement a session of its own.  A *transaction gateway* sends all its statements through
one open transaction.

## Failures

A gateway reports every failure of the store as a store failure, with what the store said, and
lets everything else pass as it is.  A fault that was reported once is not a failure of the
store any more, so it is not reported again by the gateways around.

## Transactions

`Gateway.transact` opens a session and a transaction in it, runs the callback with a transaction
gateway, and commits if the callback returned.  Leaving the transaction without a commit rolls
it back.  A transaction inside a transaction is just the callback: it joins the one that is
open.

## What can be sent

Nothing is checked before it is sent.  A text may be any value, and parameters that are null or
empty count as none.  The store is the one that lists the parameters, so parameters that cannot
be listed are noticed inside the session, before the store sees a statement.
-/

namespace GraphMapper

/-- How a gateway treats statements and new nodes. -/
structure GatewayOptions where
  autoIdentity : Bool := true
  logQueries : Bool := false
  deriving DecidableEq

/-- A gateway: over the sessions of an engine, or inside a transaction. -/
inductive Gateway where
  | sessions (engine : Nat) (database : Value) (options : GatewayOptions)
  | transaction (options : GatewayOptions)

namespace Gateway

variable {σ α : Type}

/-- The options of a gateway. -/
def options : Gateway → GatewayOptions
  | .sessions _ _ options => options
  | .transaction options => options

/-- Writes a statement to the log. -/
def logStatement (options : GatewayOptions) (text parameters : Value) : Act σ Unit :=
  Act.write .gateway (if options.logQueries then .info else .debug)
    ("Cypher: " ++ text.plain ++ " | parameters=" ++ parameters.literal)

/-- Reports a failure of the store as one. -/
def report (scope : StoreScope) (fault : Fault) : Fault :=
  if fault.isStoreFailure then .storeFailure scope fault else fault

/-- Runs a body in a session. -/
def inSession (engine : Nat) (database : Value) (body : Act σ α) : Act σ α := do
  let engine ← Act.engine engine
  engine.openSession database
  Act.within body fun passing => Act.meet (.sessionLeft passing)

/-- Has the store answer a text with parameters, as the event that this is. -/
def submit (event : Value → Entries → Event) (text parameters : Value) : Act σ RecordSet :=
  match parameters.entries? with
  | some entries => Act.answer (event text entries)
  | none => Act.fail .noAttribute

/-- Executes a text of any kind with parameters of any kind. -/
def execute (gateway : Gateway) (text parameters : Value) : Act σ RecordSet := do
  let bound := if parameters.isTruthy then parameters else .map []
  logStatement gateway.options text bound
  Act.mapFault (report .statement) <|
    match gateway with
    | .sessions engine database _ => inSession engine database (submit .ran text bound)
    | .transaction _ => submit .transactionRan text bound

/-- Executes a statement and returns all of its records. -/
def run (gateway : Gateway) (statement : Statement) : Act σ RecordSet :=
  gateway.execute (.text statement.text) (.map statement.parameters)

/-- Runs a body in a transaction of the open session. -/
def inTransaction (body : Act σ α) : Act σ α := do
  Act.meet .begun
  Act.within (do
    let outcome ← body
    Act.meet .committed
    return outcome) fun passing => Act.meet (.transactionLeft passing)

/-- Runs a callback with a gateway whose statements share one transaction. -/
def transact (gateway : Gateway) (callback : Gateway → Act σ α) : Act σ α :=
  match gateway with
  | .sessions engine database options =>
    Act.mapFault (report .transaction) <|
      inSession engine database (inTransaction (callback (.transaction options)))
  | .transaction _ => callback gateway

end Gateway

namespace Program

variable {σ α : Type}

/-- Runs a program through a gateway. -/
def perform (gateway : Gateway) : Program α → Act σ α
  | .done result => pure result
  | .send statement next => do
    let answer ← (gateway.run statement).attempt
    perform gateway (next answer)
  | .draw next => do
    let identity ← Act.drawIdentity
    perform gateway (next identity)
  | .warn message next => do
    Act.write .maintenance .warning message
    perform gateway next

/-- Runs a program through a gateway and ends as its result says. -/
def performOrFail (gateway : Gateway) (program : Program (Except Fault α)) : Act σ α := do
  let result ← program.perform gateway
  Act.ofExcept result

end Program

end GraphMapper
