import GraphMapper.Proofs.Graph.Persistence
import GraphMapper.Proofs.Node.Construct

/-!
# A node and its stored copy

Someone holds a node in memory, changes it, saves it and refreshes it, in any order, while a
faithful store answers.  A `Scene` is that: the node, the store, and which stored node is the
*copy* of the one in memory, if there is one.

A node has a copy from the moment at which all of it was in the store: when it was read, when it
was inserted, or when it was refreshed.  From then on the two can part, because an update writes
attributes and nothing else.  `Copy` keeps account of it: the labels that the node has gained and
the attributes that it has lost in the meantime.

The account is an invariant and no part of the program.  Neither the node nor the store sees it.
-/

namespace GraphMapper

/-- A call on a node. -/
inductive NodeCall where
  | set (key value : Value)
  | unset (key : Key)
  | addLabel (label : Value)
  | save (autoIdentity : Bool)
  | refresh

/-- The stored copy of a node: where it stands in the store, and what the node has gained and lost
since all of it was there. -/
structure Copy where
  index : ℕ
  added : List String := []
  removed : List Key := []

/-- The account after a change to the node in memory. -/
def Copy.moved (before after : Node) (copy : Copy) : Copy :=
  { copy with
    added := copy.added ++ after.labels.filter fun l => !before.labels.contains l
    removed := (copy.removed ++ before.attributes.keys).filter fun key => !after.has key }

/-- A node in memory, the store that it is saved to, and its copy there. -/
structure Scene where
  node : Node
  server : Server
  copy : Option Copy := none

namespace Scene

variable (identities : ℕ → String)

/-- The scene after a change to the node in memory. -/
def become (scene : Scene) (node : Node) : Scene :=
  { scene with node := node, copy := scene.copy.map (Copy.moved scene.node node) }

/-- The copy after saving: an insertion makes a new one. -/
def copyAfterSave (scene : Scene) (result : Except Fault Bool) : Option Copy :=
  match scene.node.persisted, result with
  | false, .ok true => some { index := scene.server.graph.length }
  | _, _ => scene.copy

/-- The copy after refreshing: the first stored node that carries the identity. -/
def copyAfterRefresh (scene : Scene) : Option Copy :=
  match scene.server.graph.findIdx? (·.carries scene.node.identityValue) with
  | some index => some { index := index }
  | none => scene.copy

/-- What saving the node comes to: the result and the node, and the store. -/
def saved (scene : Scene) (autoIdentity : Bool) : (Except Fault Bool × Node) × Server :=
  (scene.node.save autoIdentity).serve identities scene.server

/-- Whether saving the node returns true. -/
def saves (scene : Scene) (autoIdentity : Bool) : Bool :=
  match (scene.saved identities autoIdentity).1.1 with
  | .ok result => result
  | .error _ => false

/-- What refreshing the node comes to. -/
def refreshed (scene : Scene) : (Except Fault Unit × Node) × Server :=
  scene.node.refresh.serve identities scene.server

/-- The scene after a call.  A call that raises is caught. -/
def step (scene : Scene) : NodeCall → Scene
  | .set key value =>
    match scene.node.set key value with
    | .ok node => scene.become node
    | .error _ => scene
  | .unset key => scene.become (scene.node.unset key).2
  | .addLabel label =>
    match scene.node.addLabel label with
    | .ok node => scene.become node
    | .error _ => scene
  | .save autoIdentity =>
    let after := scene.saved identities autoIdentity
    ⟨after.1.2, after.2, scene.copyAfterSave after.1.1⟩
  | .refresh =>
    let after := scene.refreshed identities
    ⟨after.1.2, after.2, scene.copyAfterRefresh⟩

/-- The scene after calls, in order. -/
def run (scene : Scene) (calls : List NodeCall) : Scene := calls.foldl (step identities) scene

/-- How a scene begins: with a node that was just made, or with one that was just read from the
store.  Names are plain and no value is null, and the constructor has not overlooked the identity
among the attributes. -/
inductive Start : Scene → Prop
  | made {given : Entries} {node : Node} {server : Server} (hgiven : Node.ProperInputs given)
      (hidentity : ¬ Node.Overlooks given) (hnode : Node.ofInputs given = .ok node)
      (hlabels : ∀ l ∈ node.labels, isName l.toList = true)
      (hnames : ∀ e ∈ node.attributes, ∀ name, e.1 = .text name → isName name.toList = true)
      (hvalues : ∀ e ∈ node.attributes, e.2.bare.isNull = false) (hgraph : server.graph.Plain) :
      Start { node := node, server := server }
  | read {stored : StoredNode} {index : ℕ} {server : Server}
      (hstored : server.graph[index]? = some stored) (hgraph : server.graph.Plain) :
      Start { node := .hydrate stored, server := server, copy := some { index := index } }

end Scene

/-- Whether a value is a plain name if it is accepted as a name at all. -/
def PlainIfAccepted (v : Value) : Prop :=
  ∀ name, v = .text name → isIdentifier name = true → isName name.toList = true

/-- A call with plain names and without null. -/
def NodeCall.Plain : NodeCall → Prop
  | .set key value => PlainIfAccepted key ∧ value.bare.isNull = false
  | .addLabel label => PlainIfAccepted label
  | _ => True

/-! ## 1.  The node stays plain -/

namespace Node

variable {node : Node}

/-- Setting an attribute needs a name that is accepted and not reserved. -/
theorem set_eq_ok {key value : Value} {after : Node} (h : node.set key value = .ok after) :
    ∃ name, key = .text name ∧ name ≠ identityKey ∧ isIdentifier name = true ∧
      after = { node with attributes := node.attributes.put (.text name) value } := by
  cases key with
  | text name =>
    by_cases hid : name = identityKey
    · have hset : node.set (.text name) value = .error .reservedKey := by
        rw [Node.set.eq_1, if_pos hid]
        rfl
      rw [hset] at h
      exact absurd h (by simp)
    · by_cases haccepted : isIdentifier name = true
      · have hset : node.set (.text name) value =
            .ok { node with attributes := node.attributes.put (.text name) value } := by
          rw [Node.set.eq_1, if_neg hid, identifier_text, if_pos haccepted]
          rfl
        rw [hset] at h
        exact ⟨name, rfl, hid, haccepted, (Except.ok.inj h).symm⟩
      · have hset : node.set (.text name) value =
            .error (.invalidIdentifier attributeRole (.text name)) := by
          rw [Node.set.eq_1, if_neg hid, identifier_text, if_neg haccepted]
          rfl
        rw [hset] at h
        exact absurd h (by simp)
  | _ => exact absurd h (by simp [Node.set, identifier, bind, Except.bind])

theorem addLabel_eq_ok {label : Value} {after : Node} (h : node.addLabel label = .ok after) :
    ∃ name, label = .text name ∧ isIdentifier name = true ∧
      after = { node with labels := addDistinct node.labels name } := by
  rw [Node.addLabel] at h
  obtain ⟨name, hname, hafter⟩ := exists_of_bind_eq_ok h
  obtain ⟨rfl, haccepted⟩ := identifier_eq_ok_iff.mp hname
  exact ⟨name, rfl, haccepted, (Except.ok.inj hafter).symm⟩

theorem Plain.set (h : node.Plain) {key value : Value} (hkey : PlainIfAccepted key)
    (hvalue : value.bare.isNull = false) {after : Node} (hset : node.set key value = .ok after) :
    after.Plain := by
  obtain ⟨name, hname, hne, haccepted, rfl⟩ := set_eq_ok hset
  refine ⟨h.labels, h.nodup, h.attributes.put (hkey name hname haccepted) hvalue, ?_, h.identity,
    h.stored, h.persisted⟩
  change Entries.get? _ (.text identityKey) = none
  rw [Entries.get?_put_text, if_neg hne]
  exact h.reserved

theorem Plain.unset (h : node.Plain) (key : Key) : (node.unset key).2.Plain := by
  refine ⟨h.labels, h.nodup, h.attributes.erase key, ?_, h.identity, h.stored, h.persisted⟩
  change Entries.get? (node.attributes.erase key) identityEntry = none
  rw [Entries.get?_erase h.attributes.distinct, h.reserved, ite_self]

theorem Plain.addLabel (h : node.Plain) {label : Value} (hlabel : PlainIfAccepted label)
    {after : Node} (hadd : node.addLabel label = .ok after) : after.Plain := by
  obtain ⟨name, hname, haccepted, rfl⟩ := addLabel_eq_ok hadd
  refine ⟨fun l hl => ?_, nodup_addDistinct h.nodup name, h.attributes, h.reserved, h.identity,
    h.stored, h.persisted⟩
  rcases mem_addDistinct.mp hl with hl | rfl
  · exact h.labels l hl
  · exact hlabel l hname haccepted

/-- A node that was just made is plain if its names and values are, and the identity is no
attribute. -/
theorem Made.plain (h : node.Made) (hidentity : node.attributes.get? identityEntry = none)
    (hlabels : ∀ l ∈ node.labels, isName l.toList = true)
    (hnames : ∀ e ∈ node.attributes, ∀ name, e.1 = .text name → isName name.toList = true)
    (hvalues : ∀ e ∈ node.attributes, e.2.bare.isNull = false) : node.Plain where
  labels := hlabels
  nodup := h.nodup
  attributes := ⟨h.distinct, fun e he => by
    obtain ⟨name, hname⟩ := h.named e he
    exact ⟨name, hname, hnames e he name hname⟩, hvalues⟩
  reserved := hidentity
  identity := h.identity
  stored := Or.inl h.stored
  persisted := h.persisted

/-- What is read of a plain stored node is plain. -/
theorem plain_hydrate {stored : StoredNode} (h : stored.Plain) : (hydrate stored).Plain := by
  have hidentity : (hydrate stored).storedIdentity = .null ∧ (hydrate stored).identity = .null ∨
      ∃ s, (hydrate stored).storedIdentity = .text s ∧ (hydrate stored).identity = .text s := by
    change stored.identity = .null ∧ identityOf stored.identity = .null ∨
      ∃ s, stored.identity = .text s ∧ identityOf stored.identity = .text s
    rw [StoredNode.identity]
    cases hid : stored.properties.get? identityEntry with
    | none => exact Or.inl ⟨rfl, rfl⟩
    | some value =>
      obtain ⟨s, rfl⟩ := h.identity value hid
      exact Or.inr ⟨s, rfl, rfl⟩
  refine ⟨fun l hl => h.labels l (mem_sortLabels.mp hl), nodup_sortLabels _,
    h.properties.erase identityEntry, ?_, ?_, ?_, ?_⟩
  · change Entries.get? (stored.properties.erase identityEntry) identityEntry = none
    rw [Entries.get?_erase h.properties.distinct, if_pos (Key.same_self _)]
  · exact hidentity.imp And.right fun ⟨s, hs⟩ => ⟨s, hs.2⟩
  · exact hidentity.imp And.left fun ⟨s, hs⟩ => hs.1.trans hs.2.symm
  · intro hpersisted
    have hstored : (!(hydrate stored).storedIdentity.isNull) = true := hpersisted
    rcases hidentity with ⟨hnull, -⟩ | ⟨s, -, hs⟩
    · rw [hnull] at hstored
      exact absurd hstored Bool.false_ne_true
    · rw [isAnonymous, hs]
      rfl

end Node

end GraphMapper
