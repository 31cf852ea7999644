import GraphMapper.Node.Persistence
import GraphMapper.Proofs.Graph.Store
import GraphMapper.Proofs.Node.Construct
import GraphMapper.Proofs.Placeholder.Binding
import GraphMapper.Proofs.Store.Conversation
import GraphMapper.Relationship

/-!
# By which identity a node is matched

In memory an identity is a text, in the store it may be anything.  A node that was read remembers
the identity as it is stored and is matched by it, so that an integer is found again.  An
insertion writes the text.  So the value by which a node is matched can be another one than its
stored copy carries: a node is read with the identity 5, deleted, and inserted again under "5",
and it still remembers 5.

## What the copy carries

An `Account` says what the store's copy of a node carries, from the exchanges alone: the identity
that was last read, or the one that was bound by an insertion after that.  A `History` is any run
of saving, deleting and refreshing, with any answers of a store that under an identity finds only
nodes that have it.  The main theorem, `history_binds`, says by which value a node is matched after
any history: it is what the copy carries, except if an insertion came after the last reading and
what had been read was no text.

* `Node.binds_identityValue`: all statements that match a node bind one value.
* `Node.Accounted.after`: one call keeps node and account together.
* `history_binds`: the value bound after any history, and the value that the copy carries.
-/

namespace GraphMapper

/-! ## 1.  The value that is bound -/

/-- Every statement that matches the node, on its own or as an end of a relationship, binds this
value. -/
structure Node.Binds (node : Node) (value : Value) : Prop where
  update : ∀ statement, node.updateStatement = .ok statement →
    statement.parameters.get? identityEntry = some value
  delete : ∀ detach, (node.deleteStatement detach).parameters.get? identityEntry = some value
  refresh : node.refreshStatement.parameters.get? identityEntry = some value
  source : ∀ (relationship : Relationship) statement, relationship.source = .node node →
    relationship.createStatement = .ok statement →
    statement.parameters.get? (.text "fromId") = some value
  destination : ∀ (relationship : Relationship) statement,
    relationship.destination = .node node → relationship.createStatement = .ok statement →
    statement.parameters.get? (.text "toId") = some value

/-- What stands at an end is a node if the end can be asked for one. -/
theorem Relationship.endNode_eq_ok {ending : RelationshipEnd} {node : Node}
    (h : endNode ending = .ok node) : ending = .node node := by
  cases ending with
  | unset => exact absurd h (by simp [endNode])
  | node found => rw [Except.ok.inj h]
  | stranger identity fault => exact absurd h (by simp [endNode])

/-- A relationship that can be compiled leads from one node to another, and its statement binds
what the two are matched by. -/
theorem Relationship.get?_createStatement {relationship : Relationship} {statement : Statement}
    (h : relationship.createStatement = .ok statement) :
    ∃ source destination, relationship.source = .node source ∧
      relationship.destination = .node destination ∧
      statement.parameters.get? (.text "fromId") = some source.identityValue ∧
      statement.parameters.get? (.text "toId") = some destination.identityValue := by
  rw [createStatement] at h
  split at h
  · obtain ⟨_, hthrow, -⟩ := exists_of_bind_eq_ok h
    exact absurd hthrow (by simp [throw, throwThe, MonadExceptOf.throw])
  obtain ⟨-, -, h⟩ := exists_of_bind_eq_ok h
  obtain ⟨-, -, h⟩ := exists_of_bind_eq_ok h
  obtain ⟨-, -, h⟩ := exists_of_bind_eq_ok h
  obtain ⟨source, hsource, h⟩ := exists_of_bind_eq_ok h
  obtain ⟨destination, hdestination, h⟩ := exists_of_bind_eq_ok h
  obtain ⟨properties, -, h⟩ := exists_of_bind_eq_ok h
  have hbound (name : String) (hname : name.toList.head? ≠ some 'p') :
      statement.parameters.get? (.text name) =
        (endpointParameters source destination).get? (.text name) := by
    rw [← Except.ok.inj h]
    exact get?_bindProperties_of_ne ⟨{}, endpointParameters source destination⟩ _
      (Allocator.nameAt_ne rfl hname)
  refine ⟨source, destination, endNode_eq_ok hsource, endNode_eq_ok hdestination, ?_, ?_⟩
  · rw [hbound "fromId" (by decide)]
    rfl
  · rw [hbound "toId" (by decide)]
    rfl

namespace Node

/-- **A node is matched by one value**, whichever statement matches it. -/
theorem binds_identityValue (node : Node) : node.Binds node.identityValue where
  update statement hstatement := by
    rw [updateStatement] at hstatement
    split at hstatement
    · exact absurd hstatement (by simp)
    · obtain ⟨assignments, -, hstatement⟩ := exists_of_bind_eq_ok hstatement
      rw [← Except.ok.inj hstatement]
      exact get?_bindProperties_of_ne ⟨{}, node.matchParameters⟩ _
        (Allocator.nameAt_ne rfl (by decide))
  delete detach := rfl
  refresh := rfl
  source relationship statement hsource hstatement := by
    obtain ⟨source, destination, hfrom, -, hbound, -⟩ :=
      Relationship.get?_createStatement hstatement
    rw [hsource, RelationshipEnd.node.injEq] at hfrom
    rw [hbound, hfrom]
  destination relationship statement hdestination hstatement := by
    obtain ⟨source, destination, -, hto, -, hbound⟩ :=
      Relationship.get?_createStatement hstatement
    rw [hdestination, RelationshipEnd.node.injEq] at hto
    rw [hbound, hto]

/-- The identity that an insertion binds: none if the node has none. -/
theorem get?_insertStatement {node : Node} {statement : Statement}
    (h : node.insertStatement = .ok statement) :
    statement.parameters.get? identityEntry =
      if node.isAnonymous then none else some node.identity := by
  rw [insertStatement] at h
  cases hid : node.isAnonymous with
  | true =>
    rw [hid, if_pos rfl] at h
    obtain ⟨properties, -, h⟩ := exists_of_bind_eq_ok h
    obtain ⟨labels, -, h⟩ := exists_of_bind_eq_ok h
    rw [← Except.ok.inj h, if_pos rfl]
    exact get?_bindProperties_of_ne {} _ (Allocator.nameAt_ne rfl (by decide))
  | false =>
    rw [hid, if_neg Bool.false_ne_true] at h
    obtain ⟨properties, -, h⟩ := exists_of_bind_eq_ok h
    obtain ⟨labels, -, h⟩ := exists_of_bind_eq_ok h
    rw [← Except.ok.inj h, if_neg Bool.false_ne_true]
    exact get?_bindProperties_of_ne ⟨{}, [(identityEntry, node.identity)]⟩ _
      (Allocator.nameAt_ne rfl (by decide))

end Node

/-! ## 2.  What the store's copy carries -/

/-- The value that identifies a stored node, if it has one. -/
def StoredNode.identity? (stored : StoredNode) : Option Value :=
  if stored.identity.isNull then none else some stored.identity

/-- Nodes that are found under an identity have it, of the same type. -/
def Exchange.Faithful (exchange : Exchange) : Prop :=
  ∀ stored ∈ exchange.nodes, ∀ value,
    exchange.statement.parameters.get? Node.identityEntry = some value →
    value.isNull = false → stored.identity? = some value

/-- A call that goes to the store. -/
inductive StoreCall where
  | save (autoIdentity : Bool)
  | delete (detach : Bool)
  | refresh

/-- What a call on a node does: whether it succeeded, and the node after it. -/
def StoreCall.program : StoreCall → Node → Program (Except Fault Bool × Node)
  | .save autoIdentity, node => node.save autoIdentity
  | .delete detach, node => node.delete detach
  | .refresh, node => node.refresh.map fun after => (after.1.map fun _ => true, after.2)

/-- What is known of the copy of a node: the identity that was last read, and the one that was
bound by an insertion after that.  A node that was made as one that is stored already has a copy
of which nothing is known. -/
structure Account where
  read : Option Value := none
  bound : Option Value := none
  assumed : Bool := false

namespace Account

/-- The identity that the copy carries, if it is known. -/
def carried? (account : Account) : Option Value := account.bound.or account.read

/-- The account after a call, from what was exchanged. -/
def after (account : Account) (before : Node) (exchanges : List Exchange)
    (succeeded : Except Fault Bool) : StoreCall → Account
  | .save _ =>
    match before.persisted, succeeded, exchanges with
    | false, .ok true, [insertion] =>
      { account with bound := insertion.statement.parameters.get? Node.identityEntry }
    | _, _, _ => account
  | .delete _ => account
  | .refresh =>
    match exchanges.flatMap Exchange.nodes with
    | [] => account
    | stored :: _ => { read := stored.identity? }

section

variable (account : Account) {before : Node} {exchanges : List Exchange}
  {succeeded : Except Fault Bool} {autoIdentity : Bool}

/-- Saving a node that is stored already inserts nothing. -/
theorem after_save_of_persisted (h : before.persisted = true) :
    account.after before exchanges succeeded (.save autoIdentity) = account := by
  unfold after
  rw [h]

/-- Saving that does not succeed inserts nothing. -/
theorem after_save_of_ne (h : succeeded ≠ .ok true) :
    account.after before exchanges succeeded (.save autoIdentity) = account := by
  unfold after
  dsimp only
  split
  · exact absurd rfl h
  · rfl

/-- What an insertion binds is noted. -/
theorem after_save_of_inserted (h : before.persisted = false) (insertion : Exchange) :
    account.after before [insertion] (.ok true) (.save autoIdentity) =
      { account with bound := insertion.statement.parameters.get? Node.identityEntry } := by
  unfold after
  rw [h]

end

/-- Nothing was inserted after the last reading, or what was read is a text. -/
def Settled (account : Account) : Prop :=
  account.bound = none ∨ ∀ value, account.read = some value → ∃ s, value = .text s

end Account

/-- A run of calls on a node that was made or read, with any answers of a store that finds under
an identity only what has it. -/
inductive History : Node → Account → Prop
  | made {given : Entries} {node : Node} (h : Node.ofInputs given = .ok node) :
      History node { assumed := node.persisted }
  | read (stored : StoredNode) : History (.hydrate stored) { read := stored.identity? }
  | call {node after : Node} {account : Account} (h : History node account) (call : StoreCall)
      {exchanges : List Exchange} {succeeded : Except Fault Bool}
      (hyields : (call.program node).Yields exchanges (succeeded, after))
      (hfaithful : ∀ exchange ∈ exchanges, exchange.Faithful) :
      History after (account.after node exchanges succeeded call)

/-- Node and account fit together. -/
structure Node.Accounted (node : Node) (account : Account) : Prop where
  identity : node.identity = .null ∨ ∃ s, node.identity = .text s
  read : (account.read = none ∧ node.storedIdentity = .null) ∨
    ∃ value, account.read = some value ∧ node.storedIdentity = value ∧ value.isNull = false ∧
      node.identity = .text value.plain
  bound : ∀ value, account.bound = some value → node.isAnonymous = false ∧ node.identity = value
  known : node.persisted = true → account.carried? = none → account.assumed = true

/-! ## 3.  What each call does -/

namespace Node

variable {node after : Node} {exchanges : List Exchange} {succeeded : Except Fault Bool}

theorem yields_update (h : node.update.Yields exchanges (succeeded, after)) : after = node := by
  rw [update] at h
  split at h
  · cases h
    rfl
  · cases h with
    | send answer h =>
      cases h
      rfl

/-- An insertion that succeeds has sent one statement; any other leaves the node. -/
theorem yields_sendInsert (h : node.sendInsert.Yields exchanges (succeeded, after)) :
    (succeeded ≠ .ok true ∧ after = node) ∨
      ∃ statement answer, node.insertStatement = .ok statement ∧
        exchanges = [⟨statement, answer⟩] ∧ succeeded = .ok true ∧
        after = { node with persisted := node.persisted || !node.isAnonymous } := by
  rw [sendInsert] at h
  split at h
  · cases h
    exact Or.inl ⟨by simp, rfl⟩
  · rename_i statement hstatement
    cases h with
    | send answer h =>
      dsimp only at h
      split at h
      · cases h
        exact Or.inl ⟨by simp, rfl⟩
      · split at h
        · cases h
          exact Or.inl ⟨by simp, rfl⟩
        · cases h
          exact Or.inr ⟨statement, _, hstatement, rfl, rfl, rfl⟩

/-- A deletion that succeeds leaves a node that is not persisted; any other leaves the node. -/
theorem yields_delete {detach : Bool}
    (h : (node.delete detach).Yields exchanges (succeeded, after)) :
    (succeeded ≠ .ok true ∧ after = node) ∨
      (succeeded = .ok true ∧ after = { node with persisted := false }) := by
  rw [delete] at h
  split at h
  · cases h
    exact Or.inl ⟨by simp, rfl⟩
  · cases h with
    | send answer h =>
      dsimp only at h
      split at h
      · cases h
        exact Or.inl ⟨by simp, rfl⟩
      · cases h
        exact Or.inr ⟨rfl, rfl⟩

/-- Refreshing sends one statement and takes over what it finds. -/
theorem yields_refresh
    (h : (StoreCall.refresh.program node).Yields exchanges (succeeded, after)) :
    (exchanges.flatMap Exchange.nodes = [] ∧
        (after = node ∨ after = { node with persisted := false })) ∨
      ∃ answer stored rest, node.isAnonymous = false ∧
        exchanges = [⟨node.refreshStatement, answer⟩] ∧
        Exchange.nodes ⟨node.refreshStatement, answer⟩ = stored :: rest ∧
        after = node.absorb (stored :: rest) := by
  rw [StoreCall.program, refresh] at h
  cases hid : node.isAnonymous with
  | true =>
    rw [hid, if_pos rfl] at h
    cases h
    exact Or.inl ⟨rfl, Or.inl rfl⟩
  | false =>
    rw [hid, if_neg Bool.false_ne_true] at h
    cases h with
    | send answer h =>
      dsimp only at h
      cases hfound : answer.bind fun result => result.nodes (.text "n") with
      | error fault =>
        have hnodes : Exchange.nodes ⟨node.refreshStatement, answer⟩ = [] :=
          Exchange.nodes_of_error hfound
        rw [hfound] at h
        cases h
        exact Or.inl ⟨by rw [List.flatMap_singleton, hnodes], Or.inl rfl⟩
      | ok found =>
        have hnodes : Exchange.nodes ⟨node.refreshStatement, answer⟩ = found :=
          Exchange.nodes_of_ok hfound
        rw [hfound] at h
        cases h
        cases found with
        | nil => exact Or.inl ⟨by rw [List.flatMap_singleton, hnodes], Or.inr rfl⟩
        | cons stored rest => exact Or.inr ⟨answer, stored, rest, rfl, rfl, hnodes, rfl⟩

end Node

/-! ## 4.  Node and account -/

theorem Value.isNull_iff {v : Value} : v.isNull = true ↔ v = .null := by
  cases v <;> simp [isNull]

/-- An identity that is not null is kept as its text. -/
theorem Node.identityOf_of_isNull_eq_false {v : Value} (h : v.isNull = false) :
    identityOf v = .text v.plain := by
  cases v with
  | null => exact absurd h (by simp [Value.isNull])
  | _ => rfl

namespace Node.Accounted

variable {node later : Node} {account : Account} {exchanges : List Exchange}
  {succeeded : Except Fault Bool}

/-- Node and account fit together when the node was just made. -/
theorem of_made {given : Entries} (h : Node.ofInputs given = .ok node) :
    node.Accounted { assumed := node.persisted } := by
  unfold ofInputs validated at h
  dsimp only at h
  split at h
  · split at h
    · exact absurd h (by simp)
    · rw [← Except.ok.inj h]
      exact ⟨identityOf_eq _, Or.inl ⟨rfl, rfl⟩, fun _ h => absurd h (by simp),
        fun hpersisted _ => hpersisted⟩
  · exact absurd h (by simp)

/-- They fit together when the node was just read. -/
theorem of_read (stored : StoredNode) :
    (Node.hydrate stored).Accounted { read := stored.identity? } := by
  have hstored : (Node.hydrate stored).storedIdentity = stored.identity := rfl
  have hidentity : (Node.hydrate stored).identity = identityOf stored.identity := rfl
  have hpersisted : (Node.hydrate stored).persisted = !stored.identity.isNull := rfl
  cases hnull : stored.identity.isNull with
  | true =>
    have hnone : stored.identity = .null := Value.isNull_iff.mp hnull
    rw [hnone] at hstored hidentity
    rw [hnull] at hpersisted
    refine ⟨Or.inl hidentity, Or.inl ⟨?_, hstored⟩, fun _ h => absurd h (by simp),
      fun h => absurd (hpersisted.symm.trans h) (by simp)⟩
    rw [StoredNode.identity?, hnull, if_pos rfl]
  | false =>
    have hread : stored.identity? = some stored.identity := by
      rw [StoredNode.identity?, hnull, if_neg Bool.false_ne_true]
    refine ⟨?_, Or.inr ⟨stored.identity, hread, hstored, hnull, ?_⟩, fun _ h => absurd h (by simp),
      fun _ hcarried => ?_⟩
    · rw [hidentity]
      exact identityOf_eq _
    · rw [hidentity]
      exact identityOf_of_isNull_eq_false hnull
    · rw [Account.carried?, hread] at hcarried
      exact absurd hcarried (by simp)

/-- A node is matched by what was read, and by its identity if nothing was. -/
theorem identityValue_eq (h : node.Accounted account) :
    node.identityValue = account.read.getD node.identity := by
  rw [identityValue]
  rcases h.read with ⟨hread, hstored⟩ | ⟨value, hread, hstored, hnull, hidentity⟩
  · rw [hread, hstored]
    rfl
  · rw [hread, hstored, hidentity]
    cases value with
    | null => exact absurd hnull (by simp [Value.isNull])
    | _ => exact if_pos rfl

/-- A node that is not known to be stored any more. -/
theorem forget (h : node.Accounted account) :
    Node.Accounted { node with persisted := false } account :=
  ⟨h.identity, h.read, h.bound, fun hpersisted => absurd hpersisted (by simp)⟩

/-- A node that is given an identity had none that was read or bound. -/
theorem identify (h : node.Accounted account) (hid : node.isAnonymous = true) (fresh : String) :
    Node.Accounted { node with identity := .text fresh } account := by
  refine ⟨Or.inr ⟨fresh, rfl⟩, Or.inl ?_, fun value hbound => ?_, h.known⟩
  · rcases h.read with hread | ⟨value, -, -, -, hidentity⟩
    · exact hread
    · rw [isAnonymous, hidentity] at hid
      exact absurd hid (by simp [Value.isNull])
  · have := (h.bound value hbound).1
    rw [hid] at this
    exact absurd this (by simp)

/-- A node that was inserted carries what the insertion bound. -/
theorem insert (h : node.Accounted account) {statement : Statement}
    (hstatement : node.insertStatement = .ok statement) :
    Node.Accounted { node with persisted := node.persisted || !node.isAnonymous }
      { account with bound := statement.parameters.get? identityEntry } := by
  have hbound := get?_insertStatement hstatement
  refine ⟨h.identity, h.read, fun value hvalue => ?_, fun hpersisted hcarried => ?_⟩
  · cases hid : node.isAnonymous with
    | true =>
      rw [hid, if_pos rfl] at hbound
      rw [hbound] at hvalue
      exact absurd hvalue (by simp)
    | false =>
      rw [hid, if_neg Bool.false_ne_true] at hbound
      exact ⟨hid, Option.some.inj (hbound.symm.trans hvalue)⟩
  · obtain ⟨hnone, hread⟩ := Option.or_eq_none_iff.mp hcarried
    -- An insertion that bound nothing was one without an identity.
    have hid : node.isAnonymous = true := by
      by_contra hid
      rw [if_neg hid] at hbound
      exact absurd (hbound.symm.trans hnone) (by simp)
    have holder : account.bound = none := by
      by_contra hsome
      obtain ⟨value, hvalue⟩ := Option.ne_none_iff_exists'.mp hsome
      exact absurd (hid.symm.trans (h.bound value hvalue).1) (by simp)
    have hpersisted' : (node.persisted || !node.isAnonymous) = true := hpersisted
    rw [hid, Bool.not_true, Bool.or_false] at hpersisted'
    exact h.known hpersisted' (by rw [Account.carried?, holder, hread]; rfl)

/-- A node that was refreshed carries what was found, which is what it was matched by. -/
theorem absorb (h : node.Accounted account) (hid : node.isAnonymous = false) {stored : StoredNode}
    (hfound : node.identityValue.isNull = false → stored.identity? = some node.identityValue)
    (rest : List StoredNode) :
    (node.absorb (stored :: rest)).Accounted { read := stored.identity? } := by
  have hvalue : node.identityValue.isNull = false ∧
      node.identity = .text node.identityValue.plain := by
    rw [h.identityValue_eq]
    rcases h.read with ⟨hread, -⟩ | ⟨value, hread, -, hnull, hidentity⟩
    · rw [hread, Option.getD_none]
      refine ⟨hid, ?_⟩
      rcases h.identity with hnone | ⟨s, hs⟩
      · rw [isAnonymous, hnone] at hid
        exact absurd hid (by simp [Value.isNull])
      · rw [hs, Value.plain_text]
    · rw [hread, Option.getD_some]
      exact ⟨hnull, hidentity⟩
  have hread := hfound hvalue.1
  have hstored : stored.identity = node.identityValue := by
    rw [StoredNode.identity?] at hread
    split at hread
    · exact absurd hread (by simp)
    · exact Option.some.inj hread
  refine ⟨h.identity, Or.inr ⟨node.identityValue, hread, hstored, hvalue⟩,
    fun _ hbound => absurd hbound (by simp), fun _ hcarried => ?_⟩
  rw [Account.carried?, hread] at hcarried
  exact absurd hcarried (by simp)

/-- An insertion keeps node and account together, whether or not it succeeds. -/
theorem sendInsert (h : node.Accounted account) {before : Node}
    (hbefore : before.persisted = false) (autoIdentity : Bool)
    (hyields : node.sendInsert.Yields exchanges (succeeded, later)) :
    later.Accounted (account.after before exchanges succeeded (.save autoIdentity)) := by
  rcases yields_sendInsert hyields with
    ⟨hfailed, rfl⟩ | ⟨statement, answer, hstatement, rfl, rfl, rfl⟩
  · rw [Account.after_save_of_ne _ hfailed]
    exact h
  · rw [Account.after_save_of_inserted _ hbefore]
    exact h.insert hstatement

/-- Saving keeps node and account together. -/
theorem save (h : node.Accounted account) (autoIdentity : Bool)
    (hyields : (node.save autoIdentity).Yields exchanges (succeeded, later)) :
    later.Accounted (account.after node exchanges succeeded (.save autoIdentity)) := by
  rw [Node.save] at hyields
  cases hpersisted : node.persisted with
  | true =>
    rw [hpersisted, if_pos rfl] at hyields
    rw [Account.after_save_of_persisted _ hpersisted, yields_update hyields]
    exact h
  | false =>
    rw [hpersisted, if_neg Bool.false_ne_true] at hyields
    split at hyields
    · cases hyields
      rw [Account.after_save_of_ne _ (by simp)]
      exact h
    · rw [Node.insert] at hyields
      split at hyields
      · rename_i hdraws
        obtain ⟨hid, -⟩ := Bool.and_eq_true_iff.mp hdraws
        cases hyields with
        | draw fresh hyields => exact (h.identify hid fresh).sendInsert hpersisted _ hyields
      · exact h.sendInsert hpersisted _ hyields

/-- Refreshing keeps node and account together. -/
theorem refresh (h : node.Accounted account)
    (hyields : (StoreCall.refresh.program node).Yields exchanges (succeeded, later))
    (hfaithful : ∀ exchange ∈ exchanges, exchange.Faithful) :
    later.Accounted (account.after node exchanges succeeded .refresh) := by
  rcases yields_refresh hyields with
    ⟨hnone, hlater⟩ | ⟨answer, stored, rest, hid, rfl, hfound, rfl⟩
  · rw [Account.after, hnone]
    rcases hlater with rfl | rfl
    · exact h
    · exact h.forget
  · rw [Account.after, List.flatMap_singleton, hfound]
    refine h.absorb hid (fun hnull => ?_) rest
    have hmem : stored ∈ Exchange.nodes ⟨node.refreshStatement, answer⟩ := by
      rw [hfound]
      exact List.mem_cons_self
    exact hfaithful _ List.mem_cons_self stored hmem _ rfl hnull

/-- **Each call keeps node and account together.** -/
theorem step (h : node.Accounted account) (call : StoreCall)
    (hyields : (call.program node).Yields exchanges (succeeded, later))
    (hfaithful : ∀ exchange ∈ exchanges, exchange.Faithful) :
    later.Accounted (account.after node exchanges succeeded call) := by
  cases call with
  | save autoIdentity => exact h.save autoIdentity hyields
  | delete detach =>
    rcases yields_delete hyields with ⟨-, rfl⟩ | ⟨-, rfl⟩
    · exact h
    · exact h.forget
  | refresh => exact h.refresh hyields hfaithful

end Node.Accounted

/-- **After every history node and account fit together.** -/
theorem History.accounted {node : Node} {account : Account} (h : History node account) :
    node.Accounted account := by
  induction h with
  | made h => exact .of_made h
  | read stored => exact .of_read stored
  | call h call hyields hfaithful ih => exact ih.step call hyields hfaithful

/-- **A history goes on through any gateway** whose answers are faithful. -/
theorem History.perform {σ : Type} {node : Node} {account : Account} (h : History node account)
    (call : StoreCall) (gateway : Gateway) (world : World σ)
    (hfaithful : ∀ statement (met : World σ),
      Exchange.Faithful ⟨statement, (gateway.run statement met).1⟩) :
    ∃ exchanges succeeded later,
      ((call.program node).perform gateway world).1 = .ok (succeeded, later) ∧
        History later (account.after node exchanges succeeded call) := by
  obtain ⟨exchanges, ⟨succeeded, later⟩, hresult, hyields, hanswers⟩ :=
    (call.program node).exists_yields gateway world
  refine ⟨exchanges, succeeded, later, hresult, h.call call hyields fun exchange hexchange => ?_⟩
  obtain ⟨met, hmet⟩ := hanswers exchange hexchange
  have := hfaithful exchange.statement met
  rwa [hmet] at this

/-! ## 5.  By what a node is matched, and what its copy carries -/

namespace Node.Accounted

variable {node : Node} {account : Account} {value : Value}

/-- A settled account: the node is matched by what its copy carries. -/
theorem identityValue_of_settled (h : node.Accounted account) (hsettled : account.Settled)
    (hcarried : account.carried? = some value) : node.identityValue = value := by
  rw [h.identityValue_eq]
  rw [Account.carried?] at hcarried
  cases hbound : account.bound with
  | none =>
    rw [hbound, Option.none_or] at hcarried
    rw [hcarried, Option.getD_some]
  | some inserted =>
    rw [hbound, Option.some_or, Option.some.injEq] at hcarried
    have hidentity := (h.bound inserted hbound).2
    rw [← hcarried, ← hidentity]
    rcases h.read with ⟨hread, -⟩ | ⟨read, hread, -, -, htext⟩
    · rw [hread, Option.getD_none]
    · rcases hsettled with hnone | htexts
      · exact absurd (hbound.symm.trans hnone) (by simp)
      · obtain ⟨s, rfl⟩ := htexts read hread
        rw [hread, Option.getD_some, htext, Value.plain_text]

/-- An unsettled account: the copy carries the text of what was read, and the node is matched by
what was read. -/
theorem identityValue_of_not_settled (h : node.Accounted account) (hsettled : ¬ account.Settled)
    (hcarried : account.carried? = some value) :
    ∃ read, account.read = some read ∧ value = .text read.plain ∧ read ≠ value ∧
      node.identityValue = read := by
  rw [Account.Settled, not_or] at hsettled
  obtain ⟨hinserted, hread⟩ := hsettled
  obtain ⟨inserted, hbound⟩ := Option.ne_none_iff_exists'.mp hinserted
  rw [Account.carried?, hbound, Option.some_or, Option.some.injEq] at hcarried
  have hidentity := (h.bound inserted hbound).2
  rcases h.read with ⟨hnone, -⟩ | ⟨read, hsome, -, -, htext⟩
  · exact absurd (fun value hvalue => absurd (hnone.symm.trans hvalue) (by simp)) hread
  · have hvalue : value = .text read.plain := by
      rw [← hcarried, ← hidentity, htext]
    refine ⟨read, hsome, hvalue, fun heq => hread fun other hother => ?_, ?_⟩
    · rw [hsome, Option.some.injEq] at hother
      exact ⟨read.plain, by rw [← hother, heq.trans hvalue, Value.plain_text]⟩
    · rw [h.identityValue_eq, hsome, Option.getD_some]

end Node.Accounted

/-- **By which identity a node is matched.**  After any run of saving, deleting and refreshing on a
node that was made or read, through any gateway that under an identity finds only nodes that have
it:

* if the node is persisted, the identity that its copy carries is known, unless the node was made
  as one that is stored already;
* if nothing was inserted after the last reading, or what was read is a text, every statement that
  matches the node binds just what the copy carries;
* otherwise the copy carries the text of what was read, and every statement binds what was read,
  which is something else. -/
theorem history_binds {node : Node} {account : Account} (h : History node account) :
    (node.persisted = true → account.carried? = none → account.assumed = true) ∧
      (∀ value, account.carried? = some value → account.Settled → node.Binds value) ∧
      (∀ value, account.carried? = some value → ¬ account.Settled →
        ∃ read, account.read = some read ∧ value = .text read.plain ∧ read ≠ value ∧
          node.Binds read) ∧
      ∀ (σ : Type) (call : StoreCall) (gateway : Gateway) (world : World σ),
        (∀ statement (met : World σ),
          Exchange.Faithful ⟨statement, (gateway.run statement met).1⟩) →
        ∃ exchanges succeeded later,
          ((call.program node).perform gateway world).1 = .ok (succeeded, later) ∧
            History later (account.after node exchanges succeeded call) := by
  have haccounted := h.accounted
  refine ⟨haccounted.known, fun value hcarried hsettled => ?_, fun value hcarried hsettled => ?_,
    fun σ call gateway world => h.perform call gateway world⟩
  · rw [← haccounted.identityValue_of_settled hsettled hcarried]
    exact node.binds_identityValue
  · obtain ⟨read, hread, hvalue, hne, hbinds⟩ :=
      haccounted.identityValue_of_not_settled hsettled hcarried
    refine ⟨read, hread, hvalue, hne, ?_⟩
    rw [← hbinds]
    exact node.binds_identityValue

/-- A person under an identity of any type, as a store returns it. -/
def storedPerson (identity : Value) : StoredNode :=
  ⟨["Person"], [(.text "name", .text "Alice"), (.text "id", identity)]⟩

/-- An answer with one person is faithful if the person has the identity that was bound. -/
theorem faithful_storedPerson {statement : Statement} {identity : Value}
    (hnull : identity.isNull = false)
    (hbound : statement.parameters.get? Node.identityEntry = some identity) :
    Exchange.Faithful ⟨statement, .ok (nodeRecords [storedPerson identity])⟩ := by
  intro stored hstored value hvalue _
  obtain rfl : stored = storedPerson identity := List.mem_singleton.mp hstored
  rw [← hvalue, hbound]
  exact if_neg (by rw [Bool.not_eq_true]; exact hnull)

/-- A person who was read with the identity 5 and read again is matched by 5. -/
theorem history_binds_read :
    ∃ node account, History node account ∧ node.persisted = true ∧
      account.carried? = some (.int 5) ∧ account.Settled ∧ node.Binds (.int 5) := by
  have hread := History.read (storedPerson (.int 5))
  have hagain := hread.call .refresh (.send (.ok (nodeRecords [storedPerson (.int 5)])) (.done _))
    fun exchange hexchange => by
      rw [List.mem_singleton.mp hexchange]
      exact faithful_storedPerson rfl rfl
  exact ⟨_, _, hagain, rfl, rfl, Or.inl rfl, (history_binds hagain).2.1 _ rfl (Or.inl rfl)⟩

/-- **A node can be matched by another identity than its copy carries**: the identity 5 is read,
the node is deleted and saved again, which inserts it under the text, and an update looks for the
integer. -/
theorem reinserted_under_text :
    ∃ node account statement, History node account ∧ node.persisted = true ∧
      account.carried? = some (.text "5") ∧ node.updateStatement = .ok statement ∧
      statement.parameters.get? Node.identityEntry = some (.int 5) := by
  have hread := History.read (storedPerson (.int 5))
  have hdeleted := hread.call (.delete false) (.send (.ok ⟨[]⟩) (.done _))
    fun exchange hexchange => by
      rw [List.mem_singleton.mp hexchange]
      exact fun stored hstored => absurd hstored List.not_mem_nil
  have hsaved := hdeleted.call (.save true)
    (.send (.ok (nodeRecords [storedPerson (.text "5")])) (.done _))
    fun exchange hexchange => by
      rw [List.mem_singleton.mp hexchange]
      exact faithful_storedPerson rfl rfl
  exact ⟨_, _, _, hsaved, rfl, rfl, rfl, rfl⟩

end GraphMapper
