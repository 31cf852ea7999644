import GraphMapper.Proofs.Node.Identity
import GraphMapper.Proofs.Transaction.Bracket
import Mathlib.Logic.Function.Basic

/-!
# Nodes in a transaction

A callback can save and delete nodes through the gateway that it is given.  These calls change
the nodes in memory as soon as the store has answered, and the transaction may be rolled back after
that.  Nothing goes back to the nodes then: the transaction does not know them.

A `Desk` is what the callback works with, its nodes and a record of its calls on them, and a
`NodeCallback` is a callback that changes the flag of a node by saving and deleting only.  The
record is kept for the statement and is never read.

## How the argument runs

* A transaction changes nothing that the caller keeps (`Gateway.own_transact`): what the callback
  leaves is what is there at the end, however the transaction ends.
* One call sets the flag of its node as its outcome says (`Desk.Follows.note`).
* So at the end the flag of a node is the one that the last call on it has set, and the flag from
  before the transaction if none has (`persisted_transact`).
-/

namespace GraphMapper

variable {σ α : Type}

/-! ## 1.  What the caller keeps -/

namespace Act

theorem own_meet (event : Event) (world : World σ) : (meet event world).2.own = world.own := rfl

/-- Leaving what a body ran in changes nothing that the caller keeps. -/
theorem own_within (body : Act σ α) (event : Option Fault → Event) (world : World σ) :
    (within body (fun passing => meet (event passing)) world).2.own = (body world).2.own := by
  rw [within]
  generalize body world = outcome
  obtain ⟨result, after⟩ := outcome
  have hown := own_meet (event (faultOf result)) after
  dsimp only
  generalize meet (event (faultOf result)) after = left at hown ⊢
  obtain ⟨leaving, final⟩ := left
  cases leaving <;> exact hown

end Act

namespace Gateway

/-- Entering a session changes nothing that the caller keeps. -/
theorem own_enterSession (engine : Nat) (database : Value) (world : World σ) :
    (enterSession engine database world).2.own = world.own := by
  rcases enterSession_cases engine database world with ⟨fault, -, hrefused⟩ | ⟨requested, hasked⟩
  · rw [hrefused]
  · rw [hasked]
    rfl

/-- Nor does entering a transaction. -/
theorem own_enterTransaction (engine : Nat) (database : Value) (world : World σ) :
    (enterTransaction engine database world).2.own = world.own := by
  have hown := own_enterSession engine database world
  rw [enterTransaction]
  cases hsession : enterSession engine database world with
  | mk result opened =>
    rw [hsession] at hown
    cases result with
    | error fault => rw [Act.bind_error hsession, hown]
    | ok _ => rw [Act.bind_ok hsession, Act.own_meet, hown]

/-- What the caller keeps after a body in a session: what the body left, if it was run. -/
theorem own_inSession (engine : Nat) (database : Value) (body : Act σ α) (world : World σ) :
    (inSession engine database body world).2.own =
      match enterSession engine database world with
      | (.ok _, opened) => (body opened).2.own
      | (.error _, _) => world.own := by
  rw [inSession_eq]
  have hown := own_enterSession engine database world
  cases hsession : enterSession engine database world with
  | mk result opened =>
    rw [hsession] at hown
    cases result with
    | error fault => rw [Act.bind_error hsession, hown]
    | ok _ => rw [Act.bind_ok hsession, Act.own_within]

/-- What the caller keeps after a body in a transaction. -/
theorem own_inTransaction (body : Act σ α) (opened : World σ) :
    (inTransaction body opened).2.own =
      match Act.meet .begun opened with
      | (.ok _, begun) => (body begun).2.own
      | (.error _, _) => opened.own := by
  rw [inTransaction]
  cases hbegun : Act.meet .begun opened with
  | mk result begun =>
    cases result with
    | error fault =>
      have hown := Act.own_meet .begun opened
      rw [hbegun] at hown
      rw [Act.bind_error hbegun, hown]
    | ok _ =>
      rw [Act.bind_ok hbegun, Act.own_within]
      dsimp only
      -- The commit comes after the body, if the body returned.
      cases hbody : body begun with
      | mk result after =>
        cases result with
        | error fault => rw [Act.bind_error hbody]
        | ok outcome => rw [Act.bind_ok hbody, Act.bind_pure_snd, Act.own_meet]

/-- **A transaction changes nothing that the caller keeps.**  What is there at the end is what the
callback left, if it was run, whether or not the transaction was committed. -/
theorem own_transact (engine : Nat) (database : Value) (options : GatewayOptions)
    (callback : Gateway → Act σ α) (world : World σ) :
    ((Gateway.sessions engine database options).transact callback world).2.own =
      match enterTransaction engine database world with
      | (.ok _, begun) => (callback (.transaction options) begun).2.own
      | (.error _, _) => world.own := by
  rw [transact, Act.mapFault_snd, own_inSession, enterTransaction]
  have hown := own_enterSession engine database world
  cases hsession : enterSession engine database world with
  | mk result opened =>
    rw [hsession] at hown
    cases result with
    | error fault => rw [Act.bind_error hsession]
    | ok _ =>
      rw [Act.bind_ok hsession]
      dsimp only
      rw [own_inTransaction]
      cases Act.meet .begun opened with
      | mk result begun =>
        cases result with
        | error fault => exact hown
        | ok _ => rfl

theorem own_submit (event : Value → Entries → Event) (text parameters : Value) (world : World σ) :
    (submit event text parameters world).2.own = world.own := by
  rw [submit]
  cases parameters.entries? <;> rfl

/-- A statement changes nothing that the caller keeps. -/
theorem own_execute (gateway : Gateway) (text parameters : Value) (world : World σ) :
    (gateway.execute text parameters world).2.own = world.own := by
  cases gateway with
  | transaction options => exact own_submit .transactionRan text _ _
  | sessions engine database options =>
    change (inSession engine database (submit .ran text _)
      (logStatement options text _ world).2).2.own = world.own
    rw [own_inSession]
    have hown := own_enterSession engine database (logStatement options text
      (if parameters.isTruthy then parameters else .map []) world).2
    split
    · rename_i opened hsession
      rw [hsession] at hown
      rw [own_submit, hown]
      rfl
    · rfl

end Gateway

/-- An operation changes nothing that the caller keeps. -/
theorem Program.own_perform (program : Program α) (gateway : Gateway) (world : World σ) :
    (program.perform gateway world).2.own = world.own := by
  induction program generalizing world with
  | done result => rfl
  | send statement next ih =>
    have hrun := gateway.own_execute (.text statement.text) (.map statement.parameters) world
    exact (ih _ _).trans hrun
  | draw next ih => exact ih _ _
  | warn message next ih => exact ih _

/-! ## 2.  Calls on nodes -/

/-- What a callback can do to a node through its gateway. -/
inductive DeedKind where
  | save
  | delete (detach : Bool)

/-- The operation that this is.  Whether identities are drawn is up to the gateway. -/
def DeedKind.program (options : GatewayOptions) :
    DeedKind → Node → Program (Except Fault Bool × Node)
  | .save, node => node.save options.autoIdentity
  | .delete detach, node => node.delete detach

/-- A call on a node, and what came of it: whether it returned true, and whether the node has an
identity then. -/
structure Deed where
  index : ℕ
  kind : DeedKind
  succeeded : Bool
  identified : Bool

/-- The flag that a call sets: a save notes that the node is stored, if the node can be found, and
a deletion that it is not. -/
def Deed.flag? (deed : Deed) : Option Bool :=
  match deed.succeeded, deed.kind with
  | false, _ => none
  | true, .save => if deed.identified then some true else none
  | true, .delete _ => some false

/-- The flag that the last of some calls on a node has set. -/
def lastFlag (deeds : List Deed) (index : ℕ) : Option Bool :=
  ((deeds.filter fun deed => deed.index = index).filterMap Deed.flag?).getLast?

theorem lastFlag_append (deeds : List Deed) (deed : Deed) (index : ℕ) :
    lastFlag (deeds ++ [deed]) index =
      (if deed.index = index then deed.flag? else none).or (lastFlag deeds index) := by
  rw [lastFlag, List.filter_append, List.filterMap_append, List.getLast?_append, lastFlag]
  by_cases hindex : deed.index = index
  · rw [if_pos hindex, List.filter_singleton, decide_eq_true hindex, cond_true]
    cases hflag : deed.flag? <;> simp [hflag]
  · rw [if_neg hindex, List.filter_singleton, decide_eq_false hindex, cond_false]
    rfl

/-- Whether a call returned true. -/
def returnedTrue : Except Fault Bool → Bool
  | .ok result => result
  | .error _ => false

theorem returnedTrue_iff {outcome : Except Fault Bool} :
    returnedTrue outcome = true ↔ outcome = .ok true := by
  cases outcome with
  | error fault => simp [returnedTrue]
  | ok result => simp [returnedTrue]

/-- A call as it is recorded. -/
def Deed.of (index : ℕ) (kind : DeedKind) (outcome : Except Fault Bool × Node) : Deed :=
  ⟨index, kind, returnedTrue outcome.1, !outcome.2.isAnonymous⟩

namespace Deed

variable {node after : Node} {exchanges : List Exchange} {succeeded : Except Fault Bool}

/-- A call that does not return true sets no flag. -/
theorem flag?_of_ne (index : ℕ) (kind : DeedKind) (h : succeeded ≠ .ok true) :
    (Deed.of index kind (succeeded, after)).flag? = none := by
  have hfalse : returnedTrue succeeded = false := by
    rw [← Bool.not_eq_true, returnedTrue_iff]
    exact h
  rw [flag?, of, hfalse]

/-- The flag after an insertion. -/
theorem persisted_of_sendInsert (index : ℕ) (hpersisted : node.persisted = false)
    (h : node.sendInsert.Yields exchanges (succeeded, after)) :
    after.persisted = (Deed.of index .save (succeeded, after)).flag?.getD false := by
  rcases Node.yields_sendInsert h with ⟨hfailed, rfl⟩ | ⟨statement, answer, -, -, rfl, rfl⟩
  · rw [flag?_of_ne index .save hfailed, hpersisted]
    rfl
  · change (node.persisted || !node.isAnonymous) =
      (if (!node.isAnonymous) = true then some true else none).getD false
    rw [hpersisted, Bool.false_or]
    cases node.isAnonymous <;> rfl

/-- The flag after a save. -/
theorem persisted_of_save (index : ℕ) {autoIdentity : Bool}
    (h : (node.save autoIdentity).Yields exchanges (succeeded, after)) :
    after.persisted = (Deed.of index .save (succeeded, after)).flag?.getD node.persisted := by
  rw [Node.save] at h
  cases hpersisted : node.persisted with
  | true =>
    rw [hpersisted, if_pos rfl] at h
    rw [Node.yields_update h, hpersisted, flag?, of]
    -- An update sets the flag that the node has.
    cases returnedTrue succeeded with
    | false => rfl
    | true => cases node.isAnonymous <;> rfl
  | false =>
    rw [hpersisted, if_neg Bool.false_ne_true] at h
    split at h
    · cases h
      exact hpersisted
    · rw [Node.insert] at h
      split at h
      · cases h with
        | draw fresh h =>
          -- The identity is assigned before the insertion, and the flag does not depend on it.
          have hidentified : ({ node with identity := .text fresh } : Node).persisted = false :=
            hpersisted
          exact persisted_of_sendInsert index hidentified h
      · exact persisted_of_sendInsert index hpersisted h

/-- **The flag after a call** is the one that the call sets, if it sets one. -/
theorem persisted_of_yields (index : ℕ) (kind : DeedKind) (options : GatewayOptions)
    (h : (kind.program options node).Yields exchanges (succeeded, after)) :
    after.persisted = (Deed.of index kind (succeeded, after)).flag?.getD node.persisted := by
  cases kind with
  | save => exact persisted_of_save index h
  | delete detach =>
    rcases Node.yields_delete h with ⟨hfailed, rfl⟩ | ⟨rfl, rfl⟩
    · rw [flag?_of_ne index _ hfailed]
      rfl
    · rfl

end Deed

/-! ## 3.  Callbacks -/

/-- What a callback works with: its nodes, and a record of its calls on them. -/
structure Desk where
  nodes : ℕ → Node
  deeds : List Deed := []

namespace Desk

/-- The desk after a call on a node. -/
def note (desk : Desk) (index : ℕ) (kind : DeedKind) (outcome : Except Fault Bool × Node) : Desk :=
  { nodes := Function.update desk.nodes index outcome.2
    deeds := desk.deeds ++ [Deed.of index kind outcome] }

/-- The desk after a change to a node in memory. -/
def edit (desk : Desk) (index : ℕ) (change : Node → Node) : Desk :=
  { desk with nodes := Function.update desk.nodes index (change (desk.nodes index)) }

/-- The flags are those that the calls have set, and for the rest those from the start. -/
def Follows (start : ℕ → Node) (desk : Desk) : Prop :=
  ∀ index, (desk.nodes index).persisted =
    (lastFlag desk.deeds index).getD (start index).persisted

namespace Follows

variable {start : ℕ → Node} {desk : Desk}

/-- **A call sets the flag of its node as its outcome says**, and no other. -/
theorem note (h : desk.Follows start) (index : ℕ) (kind : DeedKind) (options : GatewayOptions)
    {exchanges : List Exchange} {outcome : Except Fault Bool × Node}
    (hyields : (kind.program options (desk.nodes index)).Yields exchanges outcome) :
    (desk.note index kind outcome).Follows start := by
  obtain ⟨succeeded, after⟩ := outcome
  intro other
  have hflag := Deed.persisted_of_yields index kind options hyields
  rw [Desk.note, lastFlag_append]
  dsimp only
  by_cases hindex : index = other
  · have hdeed : (Deed.of index kind (succeeded, after)).index = index := rfl
    rw [← hindex, Function.update_self, hflag, if_pos hdeed, h index]
    cases (Deed.of index kind (succeeded, after)).flag? <;> rfl
  · have hdeed : ¬ (Deed.of index kind (succeeded, after)).index = other := hindex
    rw [Function.update_of_ne (Ne.symm hindex), if_neg hdeed, Option.none_or]
    exact h other

/-- A change that leaves the flag leaves all flags. -/
theorem edit (h : desk.Follows start) (index : ℕ) {change : Node → Node}
    (hchange : ∀ node, (change node).persisted = node.persisted) :
    (desk.edit index change).Follows start := by
  intro other
  rw [Desk.edit]
  dsimp only
  by_cases hindex : index = other
  · rw [← hindex, Function.update_self, hchange]
    exact h index
  · rw [Function.update_of_ne (Ne.symm hindex)]
    exact h other

end Follows

end Desk

/-- A callback that works with nodes: it saves and deletes them, looks at them and changes them in
memory, but leaves their flags to these calls.  Besides it can do what any callback can. -/
inductive NodeCallback : Type → Type 1 where
  | done {α : Type} (result : α) : NodeCallback α
  | raise {α : Type} (fault : Fault) : NodeCallback α
  | call {α : Type} (index : ℕ) (kind : DeedKind) (next : Except Fault Bool → NodeCallback α) :
      NodeCallback α
  | look {α : Type} (index : ℕ) (next : Node → NodeCallback α) : NodeCallback α
  | edit {α : Type} (index : ℕ) (change : Node → Node)
      (hchange : ∀ node, (change node).persisted = node.persisted) (next : NodeCallback α) :
      NodeCallback α
  | run {α : Type} (text parameters : Value) (next : Except Fault RecordSet → NodeCallback α) :
      NodeCallback α
  | operate {α β : Type} (operation : GatewayOptions → Program β) (next : β → NodeCallback α) :
      NodeCallback α
  | nest {α β : Type} (inner : NodeCallback β) (next : Except Fault β → NodeCallback α) :
      NodeCallback α

namespace NodeCallback

/-- The callback that this is, with the desk as its state. -/
def toCallback : {α : Type} → NodeCallback α → Callback Desk α
  | _, .done result => .done result
  | _, .raise fault => .raise fault
  | _, .call index kind next =>
    .think (fun desk => (desk.nodes index, desk)) fun node =>
      .operate (fun options => kind.program options node) fun outcome =>
        .think (fun desk => ((), desk.note index kind outcome)) fun _ =>
          (next outcome.1).toCallback
  | _, .look index next =>
    .think (fun desk => (desk.nodes index, desk)) fun node => (next node).toCallback
  | _, .edit index change _ next =>
    .think (fun desk => ((), desk.edit index change)) fun _ => next.toCallback
  | _, .run text parameters next => .run text parameters fun answer => (next answer).toCallback
  | _, .operate operation next => .operate operation fun result => (next result).toCallback
  | _, .nest inner next => .nest inner.toCallback fun result => (next result).toCallback

/-- Runs a callback with a gateway. -/
def perform (callback : NodeCallback α) (gateway : Gateway) : Act Desk α :=
  callback.toCallback.perform gateway

/-- An operation always comes to a result, and leaves the desk to what comes next. -/
theorem exists_operate {β : Type} (program : Program β) (gateway : Gateway) (world : World Desk) :
    ∃ exchanges result after, program.perform gateway world = (.ok result, after) ∧
      after.own = world.own ∧ program.Yields exchanges result := by
  obtain ⟨exchanges, result, hresult, hyields, -⟩ := program.exists_yields gateway world
  have hown := program.own_perform gateway world
  exact ⟨exchanges, result, (program.perform gateway world).2, Prod.ext hresult rfl, hown, hyields⟩

/-- **Whatever a callback does, the flags follow its calls.** -/
theorem follows_perform (callback : NodeCallback α) {start : ℕ → Node} (gateway : Gateway)
    (world : World Desk) (h : world.own.Follows start) :
    (callback.perform gateway world).2.own.Follows start := by
  induction callback generalizing gateway world with
  | done result => exact h
  | raise fault => exact h
  | call index kind next ih =>
    obtain ⟨exchanges, outcome, after, hafter, hown, hyields⟩ :=
      exists_operate (kind.program gateway.options (world.own.nodes index)) gateway world
    have hnoted : (after.own.note index kind outcome).Follows start := by
      rw [hown]
      exact h.note index kind gateway.options hyields
    have hperform : (NodeCallback.call index kind next).perform gateway world =
        (next outcome.1).perform gateway
          { after with own := after.own.note index kind outcome } := by
      change (((kind.program gateway.options (world.own.nodes index)).perform gateway >>=
        fun outcome => Act.think (fun desk => ((), desk.note index kind outcome)) >>=
          fun _ => (next outcome.1).perform gateway) world) = _
      rw [Act.bind_ok hafter]
      rfl
    rw [hperform]
    exact ih _ gateway _ hnoted
  | look index next ih => exact ih _ gateway world h
  | edit index change hchange next ih => exact ih gateway _ (h.edit index hchange)
  | run text parameters next ih =>
    have hown := gateway.own_execute text parameters world
    exact ih _ gateway (gateway.execute text parameters world).2 (by rw [hown]; exact h)
  | operate operation next ih =>
    obtain ⟨exchanges, result, after, hafter, hown, -⟩ :=
      exists_operate (operation gateway.options) gateway world
    have hperform : (NodeCallback.operate operation next).perform gateway world =
        (next result).perform gateway after := by
      change (((operation gateway.options).perform gateway >>=
        fun result => (next result).perform gateway) world) = _
      rw [Act.bind_ok hafter]
    rw [hperform]
    exact ih _ gateway after (by rw [hown]; exact h)
  | nest inner next ihInner ihNext =>
    -- What the inner callback leaves is what is there when its transaction has ended.
    have hinner : (gateway.transact inner.perform world).2.own.Follows start := by
      cases gateway with
      | transaction options => exact ihInner _ world h
      | sessions engine database options =>
        rw [Gateway.own_transact]
        have hentered := Gateway.own_enterTransaction engine database world
        split
        · rename_i begun hbegun
          rw [hbegun] at hentered
          exact ihInner _ begun (by rw [hentered]; exact h)
        · exact h
    exact ihNext _ gateway (gateway.transact inner.perform world).2 hinner

end NodeCallback

/-- **A transaction leaves nodes as its callback left them.**  For every callback that works with
nodes and every failure of the driver or of the callback, whether or not the transaction is
committed: the nodes are as they were when the callback ended, and as they were before if it was
never run; and the flag of each node is the one that the last call on it has set, and the flag from
before if no call has set one. -/
theorem persisted_transact (engine : Nat) (database : Value) (options : GatewayOptions)
    (callback : NodeCallback α) (nodes : ℕ → Node) (world : World Unit) :
    let start : World Desk := { world with own := { nodes := nodes } }
    let after := ((Gateway.sessions engine database options).transact callback.perform start).2
    after.own = (match Gateway.enterTransaction engine database start with
        | (.ok _, begun) => (callback.perform (.transaction options) begun).2.own
        | (.error _, _) => start.own) ∧
      ∀ index, (after.own.nodes index).persisted =
        (lastFlag after.own.deeds index).getD (nodes index).persisted := by
  intro start after
  have hafter := Gateway.own_transact engine database options callback.perform start
  refine ⟨hafter.trans ?_, ?_⟩
  · cases Gateway.enterTransaction engine database start with
    | mk entered begun => cases entered <;> rfl
  have hstart : start.own.Follows nodes := fun index => rfl
  change after.own.Follows nodes
  rw [hafter]
  have hentered := Gateway.own_enterTransaction engine database start
  split
  · rename_i begun hbegun
    rw [hbegun] at hentered
    exact callback.follows_perform _ begun (by rw [hentered]; exact hstart)
  · exact hstart

/-- Surroundings with one connected engine, a store with a script, and one person on the desk. -/
def deskWith (person : Node) (store : ScriptedStore) : World Desk :=
  { store := store
    engines := [{
      server := ⟨.text "bolt://localhost", .null, .map []⟩
      defaultDatabase := .text "neo4j"
      driver := some 0
      connected := true }]
    own := { nodes := fun _ => person } }

/-- A new person under the identity "x". -/
def newPerson : Node := { identity := .text "x", labels := ["Person"] }

/-- **A rollback does not take a flag back.**  A person who is saved by a callback that raises after
that counts as stored, although there was no commit; and a person who is deleted in a transaction
whose commit fails counts as not stored. -/
theorem flags_after_rollback :
    (∃ ended : Except Fault Unit × World Desk,
      ended = (Gateway.sessions 0 .null {}).transact
        (NodeCallback.call 0 .save fun _ => .raise (.raised ⟨.runtime, "boom"⟩)).perform
        (deskWith newPerson { answers := [.records [.map [(.text "n", .node ["Person"] [])]]] }) ∧
      ended.1.isOk = false ∧ occurrences .committed ended.2.events = 0 ∧
      newPerson.persisted = false ∧ (ended.2.own.nodes 0).persisted = true) ∧
    ∃ ended : Except Fault Unit × World Desk,
      ended = (Gateway.sessions 0 .null {}).transact
        (NodeCallback.call 0 (.delete false) fun _ => .done ()).perform
        (deskWith { newPerson with persisted := true }
          { failures := [(.committing, ⟨.transient, "boom"⟩)] }) ∧
      ended.1.isOk = false ∧ (ended.2.own.nodes 0).persisted = false := by
  refine ⟨⟨_, rfl, rfl, rfl, rfl, rfl⟩, ⟨_, rfl, rfl, rfl⟩⟩

end GraphMapper
