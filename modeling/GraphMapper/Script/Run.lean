import GraphMapper.Script.Calls
import GraphMapper.Script.Containers
import GraphMapper.Script.Functions

/-!
# Scripts

A script is a list of steps, and each step is answered by a report: its result or its fault, the
thing it addressed as it is afterwards, and what the store saw and what was logged since the last
report.  A step that fails does not end the script.

## Blocks

Two kinds of step have steps of their own: the body that runs while an engine is connected, and
the callback that runs inside a transaction.  Inside a block a fault does end the block, unless
its step is marked as caught, and it goes on outwards through the transaction.  The reports of
the inner steps belong to the report of the block, whether it ended well or not.  The result of
a block is the result of its last step.
-/

namespace GraphMapper.Script

/-- What a store is to answer, as a script writes it. -/
inductive QueuedAnswer where
  | records (rows : List Operand)
  | refusal (failure : Failure)
  | interruption (rows : List Operand) (failure : Failure)

/-- A step without steps of its own. -/
inductive Action where
  | apply (function : Function) (arguments : Arguments)
  | call (target : Reference) (operation : FieldName) (arguments : Arguments)
  | together (times : Nat) (target : Reference) (operation : FieldName) (arguments : Arguments)
  | read (target : Reference) (field : FieldName)
  | assign (target : Reference) (field : FieldName) (value : Operand)
  | display (target : Reference)
  | measure (target : Reference)
  | define (value : Operand)
  | setEntry (target : Reference) (key value : Operand)
  | append (target : Reference) (value : Operand)
  | compare (first second : Reference)
  | queue (answers : List QueuedAnswer)
  | schedule (point : Point) (failure : Failure)
  | raise (failure : Failure)

/-- What a block of steps runs in. -/
inductive Setting where
  | connected
  | transaction
  deriving DecidableEq

/-- A step: an action, or a block that runs with its target under a name.  A result can be kept
under a name, and a fault inside a block can be caught. -/
inductive Step where
  | act (action : Action) (keepAs : Option String) (caught : Bool)
  | block (setting : Setting) (target : Reference) (name : String) (steps : List Step)
    (keepAs : Option String) (caught : Bool)

/-- The answer to a step. -/
inductive Report where
  | mk (result : Except Fault Result) (state : Option Value) (events : List Event)
    (log : List LogEntry) (steps : List Report)

/-- The memory of a script with the reports of the block that is running. -/
structure Desk where
  memory : Memory := {}
  reports : List Report := []

namespace Desk

variable {α : Type}

/-- Performs a deed in the memory of the script. -/
def deed (deed : Deed α) : Act Desk α := fun world =>
  let (result, after) := deed { world with own := world.own.memory }
  (result, { after with own := { world.own with memory := after.own } })

/-- Puts a report down. -/
def put (report : Report) : Act Desk Unit :=
  Act.change fun world =>
    { world with own := { world.own with reports := world.own.reports ++ [report] } }

/-- The reports that were put down, and from now on others. -/
def exchange (reports : List Report) : Act Desk (List Report) := fun world =>
  (.ok world.own.reports, { world with own := { world.own with reports := reports } })

/-- What the store saw and what was logged, which is then forgotten. -/
def collect : Act Desk (List Event × List LogEntry) := fun world =>
  (.ok (world.store.events, world.log),
    { world with store := { world.store with events := [] }, log := [] })

end Desk

/-! ## Actions -/

/-- No value in particular. -/
def nothing : Result := .value .null

/-- The answer that a script queues. -/
def QueuedAnswer.resolve : QueuedAnswer → Deed Answer
  | .records rows => do return .records (← resolveAll rows)
  | .refusal failure => return .refusal failure
  | .interruption rows failure => do return .interruption (← resolveAll rows) failure

/-- The answers that a script queues, in order. -/
def resolveAnswers : List QueuedAnswer → Deed (List Answer)
  | [] => return []
  | answer :: rest => do
    let first ← answer.resolve
    let others ← resolveAnswers rest
    return first :: others

/-- The name of the thing that an action addresses. -/
def Action.target? : Action → Option Reference
  | .call target _ _ | .together _ target _ _ | .read target _ | .assign target _ _ => some target
  | _ => none

/-- Performs an action on the thing that it addresses. -/
def perform (target : Value) : Action → Deed Result
  | .apply function arguments => evaluate function arguments
  | .call _ operation arguments => do return .value (← call target operation arguments)
  | .together times _ operation arguments => do
    return .several (← callTogether target operation arguments times)
  | .read _ field => do return .value (← readField target field)
  | .assign _ field value => do
    assignField target field (← value.resolve)
    return nothing
  | .display target => do return .value (.text (← target.resolve).plain)
  | .measure target => do return .value (.int (← lengthOf (← target.resolve)))
  | .define value => do return .value (← value.resolve)
  | .setEntry target key value => do
    let container ← target.resolve
    let key ← key.resolve
    Script.setEntry container key (← value.resolve)
    return nothing
  | .append target value => do
    let container ← target.resolve
    appendItem container (← value.resolve)
    return nothing
  | .compare first second => do
    let one ← first.resolve
    let other ← second.resolve
    return .value (.bool (isSame one other))
  | .queue answers => do
    let resolved ← resolveAnswers answers
    Act.change fun world =>
      { world with store := { world.store with answers := world.store.answers ++ resolved } }
    return nothing
  | .schedule point failure => do
    Act.change fun world =>
      { world with
        store := { world.store with failures := world.store.failures ++ [(point, failure)] } }
    return nothing
  | .raise failure => Act.fail (.raised failure)

/-- Whether the result of an action may be the thing that it addresses. -/
def Action.mayReturnTarget : Action → Bool
  | .call .. | .read .. => true
  | _ => false

/-! ## Reports -/

/-- Whether a thing is shown after every step that addresses it. -/
def isShown : Value → Bool
  | .shared _ (.object kind _ _ _) =>
    match kind with
    | .node | .query | .traversal | .relationship | .engine => true
    | _ => false
  | _ => false

/-- The state of the thing that a step addressed, if it is one that is shown. -/
def stateOf (target : Value) : Deed (Option Value) := do
  let seen ← look target
  return if isShown seen then some seen else none

/-- What is shown of a result: a thing that the step addressed is not shown again. -/
def shown (returned : Value) : Result → Deed Result
  | .value v => do
    match v with
    | .shared .. => if isSame v returned then return .itself else return .value (← look v)
    | _ => return .value v
  | .several outcomes => do
    let see ← sight
    return .several (outcomes.map fun outcome => outcome.map see)
  | other => return other

/-- Keeps a result under a name, if one is given. -/
def keepResult (keepAs : Option String) (result : Result) : Deed Unit :=
  match keepAs with
  | some name => do keep name (← settle result.kept)
  | none => return

/-- Reports on a step that ended. -/
def report (outcome : Except Fault Result) (target returned : Value) (steps : List Report) :
    Act Desk Report := do
  let result ← match outcome with
    | .ok result => do pure (.ok (← Desk.deed (shown returned result)))
    | .error fault => pure (.error fault)
  let state ← Desk.deed (stateOf target)
  let (events, log) ← Desk.collect
  return .mk result state events log steps

/-- The thing that a reference means, or the fault of a reference that means nothing. -/
def findTarget : Option Reference → Act Desk (Except Fault Value)
  | some target => Act.attempt (Desk.deed target.resolve)
  | none => return .ok .null

/-! ## Blocks -/

/-- The engine that is connected for a block: an engine itself, or that of a gateway. -/
def connectedEngine (value : Value) : Deed Value := do
  match ← itemOf? value with
  | some (_, .engine _) => return value
  | some (_, .gateway { connection := some (engine, _), .. }) => return engine
  | _ => Act.fail .wrongKind

/-- Calls an operation of the engine of a block. -/
def callConnected (target : Value) (operation : Operation) (f : Engine.Call Memory Unit) :
    Deed Unit := do
  let engine ← connectedEngine target
  match ← itemOf? engine, ← hides engine operation with
  | some (_, .engine number), false => Act.onEngine number f
  | _, _ => Act.fail (← notCallable engine operation)

/-- Whether a value is an open session. -/
def isSession (value : Value) : Deed Bool := do
  match ← itemOf? value with
  | some (_, .session) => return true
  | _ => return false

/-- Runs a body with an engine connected.  What is closed afterwards is the engine that the
target has then.  A session is open already, and is only left. -/
def runConnected (target : Value) (body : Act Desk Result) : Act Desk Result := do
  if ← Desk.deed (isSession target) then
    return ← Act.within body fun passing => Act.meet (.sessionLeft passing)
  Desk.deed (callConnected target .connect Engine.connect)
  Act.within body fun _ => Desk.deed do
    lookAround
    callConnected target .close Engine.close

/-- Runs a body inside a transaction.  A transaction gateway has the options of the gateway that
it comes from, and inside a transaction there is no other one. -/
def runTransaction (target : Value) (body : Value → Act Desk Result) : Act Desk Result := do
  match ← Desk.deed (gatewayRecord? target), ← Desk.deed (hides target .transact) with
  | some record, false =>
    let hearing ← Desk.deed record.hearing
    let gateway ← Desk.deed record.gateway
    Act.mapFault hearing <| gateway.transact fun _ =>
      match record.connection with
      | some _ => do
        let inner ← Desk.deed (make (.gateway { record with connection := none, origin := target }))
        body inner
      | none => body target
  | _, _ => Act.fail (← Desk.deed (notCallable target .transact))

/-- Runs a block in its setting: the body is run with the thing that the block is about. -/
def runSetting (setting : Setting) (target : Value) (body : Value → Act Desk Result) :
    Act Desk Result :=
  match setting with
  | .connected => runConnected target (body target)
  | .transaction => runTransaction target body

mutual

/-- Runs a step: its report, its outcome, and whether a fault of it is caught. -/
def runStep : Step → Act Desk (Report × Except Fault Result × Bool)
  | .act action keepAs caught => do
    Desk.deed lookAround
    let found ← findTarget action.target?
    let target := (found.toOption).getD .null
    let outcome ← Act.attempt do
      let target ← Act.ofExcept found
      let result ← Desk.deed (perform target action)
      Desk.deed (keepResult keepAs result)
      return result
    let returned := if action.mayReturnTarget then target else .null
    return (← report outcome target returned [], outcome, caught)
  | .block setting reference name steps keepAs caught => do
    let outer ← Desk.exchange []
    Desk.deed lookAround
    let found ← findTarget (some reference)
    let target := (found.toOption).getD .null
    let outcome ← Act.attempt do
      let target ← Act.ofExcept found
      let result ← runSetting setting target fun entered => do
        Desk.deed (keep name entered)
        runBlock nothing steps
      Desk.deed (keepResult keepAs result)
      return result
    let inner ← Desk.exchange outer
    return (← report outcome target target inner, outcome, caught)

/-- Runs the steps of a block; the result is that of the last one. -/
def runBlock (last : Result) : List Step → Act Desk Result
  | [] => return last
  | step :: rest => do
    let (report, outcome, caught) ← runStep step
    Desk.put report
    match outcome with
    | .ok result => runBlock result rest
    | .error fault => if caught then runBlock nothing rest else Act.fail fault

end

/-- Runs the steps of a script; a fault ends none but its own step. -/
def runSteps : List Step → Act Desk (List Report)
  | [] => return []
  | step :: rest => do
    let (first, _, _) ← runStep step
    let others ← runSteps rest
    return first :: others

/-! ## Sessions -/

/-- A world in which nothing has happened. -/
def freshWorld : World Desk := { own := {} }

/-- The operation that connects an engine. -/
def connecting : FieldName := { written := "", field := .unknown, operation := .connect }

/-- Prepares a session: a gateway that settings describe, its engine, and a connection unless
none is wanted. -/
def openSession (settings : Entries) (connect : Bool) : Act Desk Unit := do
  Desk.deed do
    let gateway ← gatewayOfSettings (← makeSettings { given := settings })
    let engine ← readField gateway (.of .engine)
    keep "gw" gateway
    keep "engine" engine
    if connect then
      let _ ← call engine connecting {}
  let _ ← Desk.collect
  return

/-- Runs a session. -/
def runSession (settings : Entries) (connect : Bool) (steps : List Step) :
    Except Fault (List Report) :=
  (Act.bind (openSession settings connect) (fun _ => runSteps steps) freshWorld).1

/-- Calls one function where nothing has happened. -/
def runFunction (function : Function) (arguments : Arguments) : Except Fault Report :=
  (Act.bind (runStep (.act (.apply function arguments) none false))
    (fun result => pure result.1) freshWorld).1

end GraphMapper.Script
