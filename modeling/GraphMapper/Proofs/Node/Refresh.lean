import GraphMapper.Proofs.Node.Identity
import GraphMapper.Proofs.Store.Columns

/-!
# Refreshing a node

Refreshing reads the stored copies of a node and takes the first of them over, field by field.  It
can be refused, because there is no identity to look for; the store can fail; and what the store
returns can lack a node in some record.  In all of these cases the node is left as it was, although
records before the faulty one may have been fine: all records are read before the node is touched.

* `Node.refresh_of_identified`: a node that has an identity sends one statement, and `Node.reread`
  is what it comes to after the answer.
* `Node.Refreshed` says what that is, for every answer.  A node that was refreshed is the node that
  hydration would have made, if its identity is the text of the one that was read.  Nothing compares
  the two, so from a store that returns another node everything but the identity is taken over.
-/

namespace GraphMapper

namespace Node

variable {node : Node}

/-- What refreshing comes to when the store has answered. -/
def reread (node : Node) (answer : Except Fault RecordSet) : Except Fault Unit × Node :=
  match answer.bind fun result => result.nodes (.text "n") with
  | .error fault => (.error fault, node)
  | .ok found => (.ok (), node.absorb found)

theorem reread_of_nodes_eq_error {answer : Except Fault RecordSet} {fault : Fault}
    (h : (answer.bind fun result => result.nodes (.text "n")) = .error fault) :
    node.reread answer = (.error fault, node) := by
  rw [reread, h]

theorem reread_of_nodes_eq_ok {answer : Except Fault RecordSet} {found : List StoredNode}
    (h : (answer.bind fun result => result.nodes (.text "n")) = .ok found) :
    node.reread answer = (.ok (), node.absorb found) := by
  rw [reread, h]

/-- **Refreshing sends one statement**, if there is an identity to look for. -/
theorem refresh_of_identified (h : node.isAnonymous = false) :
    node.refresh = .send node.refreshStatement fun answer => .done (node.reread answer) := by
  rw [refresh, h, if_neg Bool.false_ne_true]
  congr 1
  funext answer
  cases hnodes : answer.bind fun result => result.nodes (.text "n") with
  | error fault => rw [reread_of_nodes_eq_error hnodes]
  | ok found => rw [reread_of_nodes_eq_ok hnodes]

theorem refresh_of_anonymous (h : node.isAnonymous = true) :
    node.refresh = .done (.error (.missingIdentity .refresh), node) := by
  rw [refresh, h, if_pos rfl]

/-- **A node that takes over what was read under its own identity is the node that was read.** -/
theorem absorb_eq_hydrate {stored : StoredNode} (rest : List StoredNode)
    (hstored : stored.identity.isNull = false)
    (hidentity : node.identity = .text stored.identity.plain) :
    node.absorb (stored :: rest) = hydrate stored := by
  have hsame : (hydrate stored).identity = node.identity :=
    (identityOf_of_isNull_eq_false hstored).trans hidentity.symm
  have hpersisted : (hydrate stored).persisted = true := by
    change (!stored.identity.isNull) = true
    rw [hstored]
    rfl
  have hfields : node.absorb (stored :: rest) =
      { hydrate stored with identity := node.identity, persisted := true } := rfl
  rw [hfields, ← hsame, ← hpersisted]

/-- What refreshing a node comes to, by the answer of the store. -/
structure Refreshed (node : Node) (answer : Except Fault RecordSet) (outcome : Except Fault Unit)
    (after : Node) : Prop where
  /-- Whatever the fault is, the node is as it was. -/
  kept : ∀ fault, outcome = .error fault → after = node
  /-- What the store failed with is passed on. -/
  failed : ∀ fault, answer = .error fault → outcome = .error fault
  /-- A record without a node is a fault, wherever it stands. -/
  lacking : ∀ before record rest, answer = .ok ⟨before ++ record :: rest⟩ →
    (∀ r ∈ before, ∃ stored, RecordSet.Holds (.text "n") r stored) →
    (∀ stored, ¬ RecordSet.Holds (.text "n") record stored) →
      outcome = .error (RecordSet.lacking (.text "n") before.length record)
  /-- If nothing was found, the node is not persisted, and otherwise as it was. -/
  missing : answer = .ok ⟨[]⟩ → outcome = .ok () ∧ after = { node with persisted := false }
  /-- What was found first is taken over. -/
  found : ∀ records stored rest, answer = .ok ⟨records⟩ →
    List.Forall₂ (RecordSet.Holds (.text "n")) records (stored :: rest) →
      outcome = .ok () ∧ after.identity = node.identity ∧
        after.labels = (hydrate stored).labels ∧ after.attributes = (hydrate stored).attributes ∧
        after.persisted = true ∧
        (stored.identity.isNull = false → node.identity = .text stored.identity.plain →
          after = hydrate stored)

/-- One answer. -/
theorem refreshed_reread (node : Node) (answer : Except Fault RecordSet) :
    node.Refreshed answer (node.reread answer).1 (node.reread answer).2 where
  kept fault hfault := by
    cases hnodes : answer.bind fun result => result.nodes (.text "n") with
    | error found => rw [reread_of_nodes_eq_error hnodes]
    | ok found =>
      rw [reread_of_nodes_eq_ok hnodes] at hfault
      exact absurd hfault (by simp)
  failed fault hfault := by
    rw [hfault]
    rfl
  lacking before record rest hanswer hbefore hrecord := by
    have hnodes : (answer.bind fun result => result.nodes (.text "n")) =
        .error (RecordSet.lacking (.text "n") before.length record) := by
      rw [hanswer]
      exact RecordSet.nodes_of_lacking hbefore hrecord
    rw [reread_of_nodes_eq_error hnodes]
  missing hanswer := by
    rw [hanswer]
    exact ⟨rfl, rfl⟩
  found records stored rest hanswer hholds := by
    have hnodes : (answer.bind fun result => result.nodes (.text "n")) = .ok (stored :: rest) := by
      rw [hanswer]
      exact RecordSet.nodes_of_holds hholds
    rw [reread_of_nodes_eq_ok hnodes]
    exact ⟨rfl, rfl, rfl, rfl, rfl, absorb_eq_hydrate rest⟩

end Node

/-- **Refreshing is all or nothing, and agrees with hydration.**  Through any gateway:

* a node without an identity is refused, and nothing is sent;
* any other sends one statement, and what it comes to depends on the answer alone;
* after every answer, a failure or any list of records, the node is left, or it is only not
  persisted any more, or it has taken over the first node that was found.  Then it is what hydration
  makes of that node, if its identity is the text of the one that was read.

Of every answer one of these is true: a failure, no records, a record that lacks a node, or a node
in every record. -/
theorem refresh_all_or_nothing {σ : Type} (node : Node) (gateway : Gateway) (world : World σ) :
    (node.isAnonymous = true → node.refresh.perform gateway world =
      (.ok (.error (.missingIdentity .refresh), node), world)) ∧
    (node.isAnonymous = false → node.refresh.perform gateway world =
      (.ok (node.reread (gateway.run node.refreshStatement world).1),
        (gateway.run node.refreshStatement world).2)) ∧
    (∀ answer, node.Refreshed answer (node.reread answer).1 (node.reread answer).2) ∧
    ∀ records, (∃ found, List.Forall₂ (RecordSet.Holds (.text "n")) records found) ∨
      ∃ before record rest, records = before ++ record :: rest ∧
        (∀ r ∈ before, ∃ stored, RecordSet.Holds (.text "n") r stored) ∧
        ∀ stored, ¬ RecordSet.Holds (.text "n") record stored := by
  refine ⟨fun hid => ?_, fun hid => ?_, node.refreshed_reread,
    RecordSet.holds_or_lacking (.text "n")⟩
  · rw [Node.refresh_of_anonymous hid]
    rfl
  · rw [Node.refresh_of_identified hid]
    rfl

/-- A person is stored under the number twelve and has gained a name.  She is refreshed to what is
stored.  If a second record comes back that has no node, she is left as she was. -/
theorem refresh_all_or_nothing_numbered :
    let person : Node := .hydrate ⟨["Person"], [(.text "id", .int 12)]⟩
    let stored : StoredNode := ⟨["Person"], [(.text "id", .int 12), (.text "name", .text "Alice")]⟩
    let record : Value := .map [(.text "n", stored.toValue)]
    let answering (records : List Value) : World Unit :=
      { store := { answers := [.records records] }, own := () }
    (person.refresh.perform (.transaction {}) (answering [record])).1 =
        .ok (.ok (), .hydrate stored) ∧
      (person.refresh.perform (.transaction {}) (answering [record, .map []])).1 =
        .ok (.error (.malformedRecord 1 (.text "n") .null), person) := by
  intro person stored record answering
  have hholds : RecordSet.Holds (.text "n") record stored := ⟨_, rfl, rfl⟩
  have hlacks : ∀ found, ¬ RecordSet.Holds (.text "n") (.map []) found := by
    rintro found ⟨value, hcolumn, hbare⟩
    rw [← Except.ok.inj hcolumn] at hbare
    exact absurd hbare (by simp [Value.bare])
  constructor
  · obtain ⟨-, hsent, hread, -⟩ :=
      refresh_all_or_nothing person (.transaction {}) (answering [record])
    have hrefreshed := hread (.ok ⟨[record]⟩)
    obtain ⟨houtcome, -, -, -, -, hsame⟩ := hrefreshed.found _ stored [] rfl (.cons hholds .nil)
    have hpair : person.reread (.ok ⟨[record]⟩) = (.ok (), .hydrate stored) :=
      Prod.ext houtcome (hsame rfl rfl)
    rw [hsent rfl, ← hpair]
    rfl
  · obtain ⟨-, hsent, hread, -⟩ :=
      refresh_all_or_nothing person (.transaction {}) (answering [record, .map []])
    have hrefreshed := hread (.ok ⟨[record, .map []]⟩)
    have houtcome := hrefreshed.lacking [record] (.map []) [] rfl
      (by simpa using ⟨stored, hholds⟩) hlacks
    have hpair : person.reread (.ok ⟨[record, .map []]⟩) =
        (.error (.malformedRecord 1 (.text "n") .null), person) :=
      Prod.ext houtcome (hrefreshed.kept _ houtcome)
    rw [hsent rfl, ← hpair]
    rfl

end GraphMapper
