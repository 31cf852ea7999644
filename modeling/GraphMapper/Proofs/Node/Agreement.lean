import GraphMapper.Proofs.Node.Construct
import GraphMapper.Proofs.Script.Additions

/-!
# Hydration and the constructor agree

There are two ways to a node in memory, and a stored node can take both: it can be hydrated, or its
labels and properties can be given to the validating constructor.  The two take the identity out of
the properties and read the labels each in a way of its own.  If the constructor has nothing to
object to, which is so if the labels are accepted names and the keys are texts, then they make the
same node.

What differs is what hydration knows and the constructor does not: that the node comes from the
store, what its identity is there, and that it is persisted if it has one.

* `Node.ofInputs_described`: what the constructor makes of a stored node.
* `Node.Agree`: two nodes that cannot be told apart by what they are asked for.
* `hydrate_agrees_with_constructor`: the two nodes agree, and the stored node is left as it is.
-/

namespace GraphMapper

/-! ## 1.  Fields that fit -/

namespace Validation

/-- Texts are texts. -/
theorem textItems_map_text (name : String) (n : ℕ) (texts : List String) :
    textItems name n (texts.map .text) = (texts, []) := by
  induction texts generalizing n with
  | nil => rfl
  | cons s rest ih =>
    rw [List.map_cons, textItems, ih]
    rfl

theorem textList_map_text (name : String) (texts : List String) :
    textList name (.list (texts.map .text)) = .ok texts := by
  have hbare : (Value.list (texts.map .text)).bare = .list (texts.map .text) := rfl
  rw [textList, hbare]
  dsimp only
  rw [textItems_map_text]

end Validation

namespace Node

/-- Accepted names that are all different are read as labels. -/
theorem readLabels_map_text {labels : List String} (h : ∀ l ∈ labels, isIdentifier l = true)
    (hnodup : labels.Nodup) : readLabels (.list (labels.map .text)) = .ok labels := by
  rw [readLabels, Validation.textList_map_text]
  dsimp only [Bind.bind, Except.bind]
  rw [identifiers_map_text h]
  exact congrArg Except.ok (distinct_of_nodup hnodup)

/-! ## 2.  What the constructor makes of a stored node -/

/-- Inputs of a node: labels, attributes and an identity, if one is given. -/
def fieldsOf (labels : List String) (attributes : Entries) (identity : Option Value) : Entries :=
  (.text "labels", .list (labels.map .text)) :: (.text "attributes", .map attributes) ::
    (identity.map fun v => (Key.text "identity", v)).toList

/-- **The constructor takes the identity out of the attributes**, if it is there and none is given
on its own. -/
theorem extractIdentity_fieldsOf (labels : List String) (attributes : Entries) :
    extractIdentity (fieldsOf labels attributes none) = fieldsOf labels
      (attributes.erase identityEntry) (attributes.get? identityEntry) := by
  have hattributes : ((fieldsOf labels attributes none).get? (.text "attributes")).bind
      Value.dictionary? = some attributes := rfl
  cases hid : attributes.get? identityEntry with
  | none =>
    have hnone (found : Entries)
        (h : ((fieldsOf labels attributes none).get? (.text "attributes")).bind
          Value.dictionary? = some found) : found.get? identityEntry = none := by
      rw [hattributes] at h
      rw [← Option.some.inj h, hid]
    rw [extractIdentity_of_notMem hnone, Entries.erase_of_get?_eq_none hid]
  | some identity =>
    rw [extractIdentity_of_mem hattributes hid]
    rfl

/-- The node that the constructor makes of fields that fit. -/
theorem ofInputs_of_fieldsOf {given : Entries} {labels : List String} {attributes : Entries}
    {identity : Option Value} (hgiven : extractIdentity given = fieldsOf labels attributes identity)
    (hlabels : ∀ l ∈ labels, isIdentifier l = true) (hnodup : labels.Nodup)
    (hattributes : ∀ e ∈ attributes, ∃ key, e.1 = .text key) :
    ofInputs given = .ok { identity := identityOf (identity.getD .null), labels := labels,
                           attributes := attributes } := by
  have hread : Validation.optional "labels" [] readLabels (fieldsOf labels attributes identity) =
      ⟨some labels, []⟩ := by
    change Validation.Checked.of (readLabels (.list (labels.map .text))) = _
    rw [readLabels_map_text hlabels hnodup]
    rfl
  have hmap : Validation.optional "attributes" [] (Validation.textMap "attributes")
      (fieldsOf labels attributes identity) = ⟨some attributes, []⟩ := by
    change Validation.Checked.of (Validation.textMap "attributes" (.map attributes)) = _
    rw [Validation.textMap_of_named "attributes" rfl hattributes]
    rfl
  have hpersisted : Validation.optional "persisted" false
      (Validation.scalar "persisted" Validation.bool) (fieldsOf labels attributes identity) =
        ⟨some false, []⟩ := by
    cases identity <;> rfl
  have hidentity : Validation.input? "identity" (fieldsOf labels attributes identity) =
      identity := by
    cases identity <;> rfl
  have hexpected : unexpected (fieldsOf labels attributes identity) = [] := by
    cases identity <;> rfl
  rw [ofInputs, hgiven, validated, hread, hmap, hpersisted, hidentity, hexpected]
  rfl

/-- What a stored node gives to the constructor: its labels in order, and its properties. -/
def describing (raw : StoredNode) : Entries := fieldsOf (sortLabels raw.labels) raw.properties none

/-- **What the constructor makes of a stored node.** -/
theorem ofInputs_describing {raw : StoredNode} (hlabels : ∀ l ∈ raw.labels, isIdentifier l = true)
    (hkeys : ∀ e ∈ raw.properties, ∃ key, e.1 = .text key) :
    ofInputs (describing raw) = .ok
      { hydrate raw with persisted := false, fromStore := false, storedIdentity := .null } :=
  ofInputs_of_fieldsOf (extractIdentity_fieldsOf _ raw.properties)
    (fun l hl => hlabels l (mem_sortLabels.mp hl)) (nodup_sortLabels raw.labels)
    fun e he => hkeys e ((Entries.erase_sublist raw.properties identityEntry).subset he)

/-! ## 3.  Agreement -/

/-- Two nodes agree: whatever is asked of one of them, apart from where it comes from, the other
answers the same. -/
structure Agree (node other : Node) : Prop where
  identity : node.identity = other.identity
  labels : node.labels = other.labels
  /-- The attributes are the same, in the same order. -/
  attributes : node.attributes = other.attributes
  get : ∀ key default, node.get key default = other.get key default
  has : ∀ key, node.has key = other.has key
  toEntries : node.toEntries = other.toEntries
  insertStatement : node.insertStatement = other.insertStatement

/-- Nodes agree if they differ only in where they come from. -/
theorem agree_of_eq {node other : Node} {persisted fromStore : Bool} {storedIdentity : Value}
    (h : other = { node with persisted, fromStore, storedIdentity }) : node.Agree other := by
  obtain rfl := h
  exact ⟨rfl, rfl, rfl, fun _ _ => rfl, fun _ => rfl, rfl, rfl⟩

/-- A node that was hydrated is persisted exactly if an identity was stored that is not null. -/
theorem persisted_hydrate_iff (raw : StoredNode) :
    (hydrate raw).persisted = true ↔
      ∃ identity, raw.properties.get? identityEntry = some identity ∧ identity.isNull = false := by
  change (!((raw.properties.get? identityEntry).getD .null).isNull) = true ↔ _
  rw [Bool.not_eq_true']
  cases raw.properties.get? identityEntry with
  | none => simp [Value.isNull]
  | some identity => simp

end Node

/-- **Hydration agrees with the validating constructor.**  Let a stored node have accepted names for
labels and texts for keys, and an identity of any type or none.

* The constructor accepts its labels in order and its properties, and the node that it makes agrees
  with the one that is hydrated.
* They differ in three marks only: the one that was hydrated comes from the store, remembers its
  identity as it is stored, and is persisted if that is not null.
* Hydrating leaves the stored node, like everything else in memory, as it is. -/
theorem hydrate_agrees_with_constructor {raw : StoredNode}
    (hlabels : ∀ l ∈ raw.labels, isIdentifier l = true)
    (hkeys : ∀ e ∈ raw.properties, ∃ key, e.1 = .text key) :
    (∃ constructed,
      Node.ofInputs [(.text "labels", .list ((sortLabels raw.labels).map .text)),
        (.text "attributes", .map raw.properties)] = .ok constructed ∧
      (Node.hydrate raw).Agree constructed ∧
      constructed.persisted = false ∧ constructed.fromStore = false ∧
      constructed.storedIdentity = .null) ∧
    ((Node.hydrate raw).persisted = true ↔
      ∃ identity, raw.properties.get? Node.identityEntry = some identity ∧
        identity.isNull = false) ∧
    (Node.hydrate raw).fromStore = true ∧
    (Node.hydrate raw).storedIdentity =
      (raw.properties.get? Node.identityEntry).getD .null ∧
    ∀ (arguments : Script.Arguments) (world : World Script.Memory) (place : ℕ) (item : Script.Item),
      world.own.items[place]? = some item →
        (Script.evaluate .hydrate arguments world).2.own.items[place]? = some item := by
  refine ⟨?_, Node.persisted_hydrate_iff raw, rfl, rfl, ?_⟩
  · exact ⟨_, Node.ofInputs_describing hlabels hkeys, Node.agree_of_eq rfl, rfl, rfl, rfl⟩
  · intro arguments world place item hitem
    exact (Script.onlyAdds_hydrate arguments).getElem? hitem

/-- An actress whom another client has stored under a number. -/
def numbered : StoredNode :=
  ⟨["Person", "Actor"], [(.text "name", .text "Ada"), (.text "id", .int 7), (.text "nick", .null)]⟩

/-- Both ways make a node of her that is found under the text of the number. -/
theorem hydrate_agrees_with_constructor_numbered :
    ∃ constructed,
      Node.ofInputs [(.text "labels", .list [.text "Actor", .text "Person"]),
        (.text "attributes", .map numbered.properties)] = .ok constructed ∧
      (Node.hydrate numbered).Agree constructed ∧ constructed.identity = .text "7" ∧
      constructed.attributes = [(.text "name", .text "Ada"), (.text "nick", .null)] ∧
      constructed.persisted = false ∧ (Node.hydrate numbered).persisted = true ∧
      (Node.hydrate numbered).storedIdentity = .int 7 := by
  have hlabels : ∀ l ∈ numbered.labels, isIdentifier l = true := by decide
  have hkeys : ∀ e ∈ numbered.properties, ∃ key, e.1 = .text key := by
    intro e he
    have hall : numbered.properties.all (fun e => e.1 = .text e.1.plain) = true := by decide
    exact ⟨e.1.plain, of_decide_eq_true (List.all_eq_true.mp hall e he)⟩
  obtain ⟨⟨constructed, hmade, hagree, hpersisted, -, -⟩, hiff, -, hstored, -⟩ :=
    hydrate_agrees_with_constructor hlabels hkeys
  have hsorted : sortLabels numbered.labels = ["Actor", "Person"] := by decide
  rw [hsorted] at hmade
  refine ⟨constructed, hmade, hagree, ?_, ?_, hpersisted, hiff.mpr ⟨.int 7, rfl, rfl⟩, hstored⟩
  · rw [← hagree.identity]
    rfl
  · rw [← hagree.attributes]
    rfl

end GraphMapper
