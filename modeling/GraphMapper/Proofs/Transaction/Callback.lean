import GraphMapper.Store.Gateway
import Mathlib.Data.List.Basic

/-!
# Callbacks

A callback is a program of the caller that is given a gateway.  It can send statements, run the
operations of queries, nodes and relationships, keep a state of its own, open further transactions
and handle the fault of anything it tries.  `Callback` is the tree of such a program, and
`Callback.perform` runs it through the gateway that it is given.

What the callback can *not* do is reach around its gateway, and that is the whole point: it cannot
open a session, because none of its nodes does.  A nested transaction is a node like any other,
whose inner callback is given a gateway in its turn.

## What a callback issues

`Callback.issued` lists the statements that a callback hands to its gateway in a given world, in
order, with those of all its nested callbacks.  It is the tree read once more, along the branch
that the answers choose.  `Callback.events_perform` is the one statement on running a callback in
a transaction: the store sees exactly the statements issued, each through the open transaction,
and nothing else.  The induction is on the tree; a nested transaction is not a special case in it,
because a transaction gateway runs a nested callback by running it.
-/

namespace GraphMapper

variable {σ α : Type}

/-! ## 1.  Acts and the trace -/

namespace ScriptedStore

theorem events_meet (store : ScriptedStore) (event : Event) :
    (store.meet event).2.events = store.events ++ [event] := by
  rw [meet]
  cases event.point? with
  | none => rfl
  | some point =>
    dsimp only
    generalize takeFailure point (store.note event).failures = taken
    obtain ⟨failure, rest⟩ := taken
    cases failure <;> rfl

theorem events_answer (store : ScriptedStore) (event : Event) :
    (store.answer event).2.events = store.events ++ [event] := by
  rw [answer]
  generalize (store.note event).answers = answers
  cases answers <;> rfl

end ScriptedStore

/-- The trace of the store of a world. -/
abbrev World.events (world : World σ) : List Event := world.store.events

namespace Act

theorem bind_ok {β : Type} {act : Act σ α} {next : α → Act σ β} {world after : World σ} {a : α}
    (h : act world = (.ok a, after)) : (act >>= next) world = next a after := by
  change Act.bind act next world = _
  rw [Act.bind, h]

theorem bind_error {β : Type} {act : Act σ α} {next : α → Act σ β} {world after : World σ}
    {fault : Fault} (h : act world = (.error fault, after)) :
    (act >>= next) world = (.error fault, after) := by
  change Act.bind act next world = _
  rw [Act.bind, h]

theorem bind_assoc {β γ : Type} (act : Act σ α) (next : α → Act σ β) (last : β → Act σ γ) :
    ((act >>= next) >>= last) = (act >>= fun a => next a >>= last) := by
  funext world
  cases h : act world with
  | mk result after =>
    cases result with
    | error fault => rw [bind_error h, bind_error (bind_error h)]
    | ok a =>
      rw [bind_ok h]
      cases hnext : next a after with
      | mk result last =>
        cases result with
        | error fault => rw [bind_error ((bind_ok h).trans hnext), bind_error hnext]
        | ok b => rw [bind_ok ((bind_ok h).trans hnext), bind_ok hnext]

/-- A bracket that is left ends as its body ended. -/
theorem within_ok {body : Act σ α} {leave : Option Fault → Act σ Unit} {world after left : World σ}
    {result : Except Fault α} (hbody : body world = (result, after))
    (hleave : leave (faultOf result) after = (.ok (), left)) :
    within body leave world = (result, left) := by
  rw [within, hbody]
  dsimp only
  rw [hleave]

/-- A fault of leaving takes the place of what the body ended with. -/
theorem within_error {body : Act σ α} {leave : Option Fault → Act σ Unit}
    {world after left : World σ} {result : Except Fault α} {fault : Fault}
    (hbody : body world = (result, after))
    (hleave : leave (faultOf result) after = (.error fault, left)) :
    within body leave world = (.error fault, left) := by
  rw [within, hbody]
  dsimp only
  rw [hleave]

theorem mapFault_snd (f : Fault → Fault) (act : Act σ α) (world : World σ) :
    (act.mapFault f world).2 = (act world).2 := rfl

/-- An event is noted whether or not the store then fails. -/
theorem events_meet (event : Event) (world : World σ) :
    (Act.meet event world).2.events = world.events ++ [event] :=
  world.store.events_meet event

/-- A statement is one event, whatever the answer. -/
theorem events_answer (event : Event) (world : World σ) :
    (Act.answer event world).2.events = world.events ++ [event] :=
  world.store.events_answer event

end Act

/-! ## 2.  Programs -/

/-- A statement as it is handed to a gateway: a text with parameters, either of any kind. -/
structure Handed where
  text : Value
  parameters : Value

/-- A statement that was compiled, as it is handed over. -/
def Statement.handed (statement : Statement) : Handed :=
  ⟨.text statement.text, .map statement.parameters⟩

/-- The parameters that are sent: null or nothing counts as none. -/
def Handed.bound (handed : Handed) : Value :=
  if handed.parameters.isTruthy then handed.parameters else .map []

/-- What the store sees of a statement inside a transaction.  Parameters that cannot be listed are
noticed before the store sees anything. -/
def Handed.event? (handed : Handed) : Option Event :=
  handed.bound.entries?.map (.transactionRan handed.text ·)

/-- What the store sees of statements inside a transaction. -/
def transactionEvents (issued : List Handed) : List Event := issued.filterMap Handed.event?

theorem transactionEvents_append (first second : List Handed) :
    transactionEvents (first ++ second) = transactionEvents first ++ transactionEvents second :=
  List.filterMap_append ..

theorem transactionEvents_cons (handed : Handed) (rest : List Handed) :
    transactionEvents (handed :: rest) = transactionEvents [handed] ++ transactionEvents rest :=
  transactionEvents_append [handed] rest

theorem transactionEvents_singleton (handed : Handed) :
    transactionEvents [handed] = handed.event?.toList := by
  rw [transactionEvents]
  cases h : handed.event? <;> simp [h]

/-- **A statement inside a transaction** is one event of that transaction, and no other. -/
theorem Gateway.events_execute (options : GatewayOptions) (handed : Handed) (world : World σ) :
    ((Gateway.transaction options).execute handed.text handed.parameters world).2.events =
      world.events ++ transactionEvents [handed] := by
  have hexecute : ((Gateway.transaction options).execute handed.text handed.parameters world).2 =
      (submit Event.transactionRan handed.text handed.bound
        (logStatement options handed.text handed.bound world).2).2 := rfl
  rw [hexecute, submit, transactionEvents_singleton, Handed.event?]
  cases handed.bound.entries? with
  | none => exact (List.append_nil _).symm
  | some entries => exact Act.events_answer _ _

/-- The statements that a program sends through a transaction gateway in a world, along the branch
that the answers choose. -/
def Program.issued (options : GatewayOptions) : Program α → World σ → List Handed
  | .done _, _ => []
  | .send statement next, world =>
    let answer := (Gateway.transaction options).run statement world
    statement.handed :: (next answer.1).issued options answer.2
  | .draw next, world =>
    let drawn := Act.drawIdentity world
    (next (identityText (world.identities + 1))).issued options drawn.2
  | .warn message next, world =>
    next.issued options ((Act.write .maintenance .warning message world).2)

/-- **An operation inside a transaction** sends its statements through that transaction, and ends
with its result. -/
theorem Program.events_perform (options : GatewayOptions) (program : Program α)
    (world : World σ) :
    (program.perform (.transaction options) world).2.events =
      world.events ++ transactionEvents (program.issued options world) := by
  induction program generalizing world with
  | done result => exact (List.append_nil _).symm
  | send statement next ih =>
    have hrun := Gateway.events_execute options statement.handed world
    have hnext := ih ((Gateway.transaction options).run statement world).1
      ((Gateway.transaction options).run statement world).2
    calc (perform (.transaction options) (.send statement next) world).2.events
        = _ := hnext
      _ = _ := by
          rw [issued, transactionEvents_cons, ← List.append_assoc, ← hrun]
          rfl
  | draw next ih => exact ih _ _
  | warn message next ih => exact ih _

/-! ## 3.  Callbacks -/

/-- A program of the caller that is given a gateway: it ends with a result or with a fault of its
own, sends a statement, runs an operation of the mapper, changes its own state, draws an identity,
or runs another callback in a transaction.  What can fail hands its outcome on, so that a fault is
handled by whoever comes next or raised again. -/
inductive Callback (σ : Type) : Type → Type 1 where
  | done {α : Type} (result : α) : Callback σ α
  | raise {α : Type} (fault : Fault) : Callback σ α
  | run {α : Type} (text parameters : Value) (next : Except Fault RecordSet → Callback σ α) :
      Callback σ α
  | operate {α β : Type} (operation : GatewayOptions → Program β) (next : β → Callback σ α) :
      Callback σ α
  | think {α β : Type} (f : σ → β × σ) (next : β → Callback σ α) : Callback σ α
  | draw {α : Type} (next : String → Callback σ α) : Callback σ α
  | nest {α β : Type} (inner : Callback σ β) (next : Except Fault β → Callback σ α) :
      Callback σ α

/-- Changes the caller's own state and returns what came of it. -/
def Act.think {β : Type} (f : σ → β × σ) : Act σ β := fun world =>
  (.ok (f world.own).1, { world with own := (f world.own).2 })

namespace Callback

/-- Runs a callback with a gateway. -/
def perform : {α : Type} → Callback σ α → Gateway → Act σ α
  | _, .done result, _ => pure result
  | _, .raise fault, _ => Act.fail fault
  | _, .run text parameters next, gateway => do
    let answer ← (gateway.execute text parameters).attempt
    (next answer).perform gateway
  | _, .operate operation next, gateway => do
    let result ← (operation gateway.options).perform gateway
    (next result).perform gateway
  | _, .think f next, gateway => do
    let result ← Act.think f
    (next result).perform gateway
  | _, .draw next, gateway => do
    let identity ← Act.drawIdentity
    (next identity).perform gateway
  | _, .nest inner next, gateway => do
    let result ← (gateway.transact fun given => inner.perform given).attempt
    (next result).perform gateway

/-- The statements that a callback issues in a world through a transaction gateway and through the
gateways of its nested callbacks, along the branch that the outcomes choose. -/
def issued (options : GatewayOptions) : {α : Type} → Callback σ α → World σ → List Handed
  | _, .done _, _ => []
  | _, .raise _, _ => []
  | _, .run text parameters next, world =>
    let answer := (Gateway.transaction options).execute text parameters world
    ⟨text, parameters⟩ :: (next answer.1).issued options answer.2
  | _, .operate operation next, world =>
    (operation options).issued options world ++
      match (operation options).perform (.transaction options) world with
      | (.ok result, after) => (next result).issued options after
      | (.error _, _) => []
  | _, .think f next, world =>
    (next (f world.own).1).issued options { world with own := (f world.own).2 }
  | _, .draw next, world =>
    (next (identityText (world.identities + 1))).issued options (Act.drawIdentity world).2
  | _, .nest inner next, world =>
    let outcome := inner.perform (.transaction options) world
    inner.issued options world ++ (next outcome.1).issued options outcome.2

/-- **A callback inside a transaction**: the store sees the statements that the callback and its
nested callbacks issue, in order and each through the transaction, and nothing else. -/
theorem events_perform (options : GatewayOptions) (callback : Callback σ α) (world : World σ) :
    (callback.perform (.transaction options) world).2.events =
      world.events ++ transactionEvents (callback.issued options world) := by
  induction callback generalizing world with
  | done result => exact (List.append_nil _).symm
  | raise fault => exact (List.append_nil _).symm
  | run text parameters next ih =>
    have hrun := Gateway.events_execute options ⟨text, parameters⟩ world
    rw [issued, transactionEvents_cons, ← List.append_assoc, ← hrun]
    exact ih _ _
  | operate operation next ih =>
    have hoperation := Program.events_perform options (operation options) world
    rw [issued, transactionEvents_append, ← List.append_assoc, ← hoperation, perform]
    cases houtcome : (operation options).perform (.transaction options) world with
    | mk result after =>
      cases result with
      | error fault =>
        have hoptions : (operation (Gateway.transaction options).options).perform
            (.transaction options) world = (.error fault, after) := houtcome
        rw [Act.bind_error hoptions]
        exact (List.append_nil _).symm
      | ok result =>
        have hoptions : (operation (Gateway.transaction options).options).perform
            (.transaction options) world = (.ok result, after) := houtcome
        rw [Act.bind_ok hoptions]
        exact ih _ _
  | think f next ih => exact ih _ _
  | draw next ih => exact ih _ _
  | nest inner next ihInner ihNext =>
    rw [issued, transactionEvents_append, ← List.append_assoc, ← ihInner]
    exact ihNext _ _

end Callback

end GraphMapper
