import GraphMapper.Proofs.Node.Agreement
import GraphMapper.Proofs.Node.RoundTrip

/-!
# A node as one map

A node can be turned into one flat map: its attributes, its identity and its labels, each under a
key.  Three kinds of keys meet there.  The key of the identity should be no attribute of any node:
the constructor takes it out where it looks for it, and setting it is refused.  The key of the
labels is not kept apart at all: an attribute of that name can be set, and in the map the labels
stand in its place.

The map is read back by the constructor: the labels are given as labels, and the rest as attributes.
What comes back is the node without an attribute that has the name of the labels or of the identity
(`Node.Orderly.ofInputs_toEntries`).  Two facts about ordered maps carry the proof.  Writing to a
key and removing it is removing it, so neither the labels nor the identity leave a trace in the
rest; and it makes no difference in which order two keys are removed.

* `Node.Reached`: what the constructor and changes in memory lead to.
* `Node.Orderly`: what holds of such a node; `Node.Reached.orderly` is the induction.
* `toEntries_read_back`: what is read back, and what each attribute is mapped to.
* `attribute_lost`: an attribute that is not in the map.
-/

namespace GraphMapper

namespace Entries

/-- What was written to a key is removed with it. -/
theorem erase_put_self (entries : Entries) (key : Key) (value : Value) :
    (entries.put key value).erase key = entries.erase key := by
  induction entries with
  | nil => rw [put_nil, erase_cons, if_pos (Key.same_self key), erase_nil]
  | cons e rest ih =>
    obtain ⟨k, v⟩ := e
    rw [put_cons, erase_cons]
    by_cases hk : k.same key = true
    · rw [if_pos hk, if_pos hk, erase_cons, if_pos hk]
    · rw [if_neg hk, if_neg hk, erase_cons, if_neg hk, ih]

/-- Two keys are removed in either order. -/
theorem erase_comm (entries : Entries) {key other : Key} (h : key.same other = false) :
    (entries.erase key).erase other = (entries.erase other).erase key := by
  induction entries with
  | nil => rfl
  | cons e rest ih =>
    obtain ⟨k, v⟩ := e
    rw [erase_cons, erase_cons]
    by_cases hkey : k.same key = true
    · have hother : ¬ k.same other = true := fun hother =>
        absurd (h.symm.trans (Key.same_trans (Key.same_symm hkey) hother)) Bool.false_ne_true
      rw [if_pos hkey, if_neg hother, erase_cons, if_pos hkey]
    · rw [if_neg hkey, erase_cons]
      by_cases hother : k.same other = true
      · rw [if_pos hother, if_pos hother]
      · rw [if_neg hother, if_neg hother, erase_cons, if_neg hkey, ih]

/-- Removing a key changes nothing exactly if it is not there. -/
theorem erase_eq_self_iff {entries : Entries} (h : entries.Distinct) {key : Key} :
    entries.erase key = entries ↔ entries.has key = false := by
  constructor
  · intro herase
    rw [← herase, has_erase_self h]
  · rw [has, Option.isSome_eq_false_iff, Option.isNone_iff_eq_none]
    exact erase_of_get?_eq_none

/-- Removing two keys changes nothing exactly if neither is there. -/
theorem erase_erase_eq_self_iff {entries : Entries} (h : entries.Distinct) {key other : Key} :
    (entries.erase key).erase other = entries ↔
      entries.has key = false ∧ entries.has other = false := by
  constructor
  · intro herase
    refine ⟨?_, ?_⟩
    · rw [← Bool.not_eq_true, ← herase]
      exact fun hhas => Bool.false_ne_true
        ((has_erase_self h key).symm.trans (has_of_has_erase hhas))
    · rw [← herase, has_erase_self (h.erase key)]
  · rintro ⟨hkey, hother⟩
    rw [(erase_eq_self_iff h).mpr hkey, (erase_eq_self_iff h).mpr hother]

end Entries

namespace Node

variable {node after : Node}

/-! ## 1.  Nodes that were made and changed in memory -/

/-- What the constructor, given inputs, and any changes in memory lead to.  A change that is refused
leaves the node as it is. -/
inductive Reached (given : Entries) : Node → Prop
  | constructed {node : Node} (hgiven : ProperInputs given)
      (h : ofInputs given = .ok node) : Reached given node
  | set {node after : Node} {key value : Value} (h : Reached given node)
      (hset : node.set key value = .ok after) : Reached given after
  | unset {node : Node} (h : Reached given node) (key : Key) : Reached given (node.unset key).2
  | addLabel {node after : Node} {label : Value} (h : Reached given node)
      (hadd : node.addLabel label = .ok after) : Reached given after

/-- What holds of a node that was made and changed in memory. -/
structure Orderly (node : Node) : Prop where
  identity : node.HasTextIdentity
  /-- No label occurs twice. -/
  nodup : node.labels.Nodup
  /-- No key occurs twice. -/
  distinct : node.attributes.Distinct
  /-- All labels are accepted names. -/
  accepted : ∀ l ∈ node.labels, isIdentifier l = true
  /-- All keys are texts. -/
  named : ∀ e ∈ node.attributes, ∃ name, e.1 = .text name

/-- Labels that the constructor has read are accepted names. -/
theorem isIdentifier_of_readLabels {input : Value} {labels : List String}
    (h : readLabels input = .ok labels) : ∀ l ∈ labels, isIdentifier l = true := by
  rw [readLabels] at h
  obtain ⟨texts, -, h⟩ := exists_of_bind_eq_ok h
  split at h
  · rename_i names hnames
    obtain ⟨-, haccepted⟩ := eq_map_text_of_identifiers hnames
    obtain rfl := Except.ok.inj h
    exact fun l hl => haccepted l (mem_distinct.mp hl)
  · exact absurd h (by simp)

/-- The labels of a node that was just made are accepted names. -/
theorem isIdentifier_of_ofInputs {given : Entries} (h : ofInputs given = .ok node) :
    ∀ l ∈ node.labels, isIdentifier l = true := by
  unfold ofInputs validated at h
  dsimp only at h
  split at h
  · rename_i labels attributes persisted hlabels _ _ _
    split at h
    · exact absurd h (by simp)
    · obtain rfl := Except.ok.inj h
      rcases Validation.optional_eq_some hlabels with ⟨-, rfl⟩ | ⟨v, -, hread⟩
      · exact fun l hl => absurd hl List.not_mem_nil
      · exact isIdentifier_of_readLabels hread
  · exact absurd h (by simp)

namespace Orderly

theorem of_ofInputs {given : Entries} (hgiven : ProperInputs given)
    (h : ofInputs given = .ok node) : node.Orderly :=
  have hmade := made_of_ofInputs hgiven h
  ⟨hmade.identity, hmade.nodup, hmade.distinct, isIdentifier_of_ofInputs h, hmade.named⟩

theorem set (h : node.Orderly) {key value : Value} (hset : node.set key value = .ok after) :
    after.Orderly := by
  obtain ⟨name, rfl, -, -, rfl⟩ := set_eq_ok hset
  refine ⟨h.identity, h.nodup, h.distinct.put (.text name) value, h.accepted, fun e he => ?_⟩
  rcases Entries.mem_put he with hkey | ⟨f, hf, hkey⟩
  · exact ⟨name, hkey⟩
  · rw [← hkey]
    exact h.named f hf

theorem unset (h : node.Orderly) (key : Key) : (node.unset key).2.Orderly :=
  ⟨h.identity, h.nodup, h.distinct.erase key, h.accepted, fun e he =>
    h.named e ((Entries.erase_sublist node.attributes key).subset he)⟩

theorem addLabel (h : node.Orderly) {label : Value} (hadd : node.addLabel label = .ok after) :
    after.Orderly := by
  obtain ⟨name, -, hname, rfl⟩ := addLabel_eq_ok hadd
  refine ⟨h.identity, nodup_addDistinct h.nodup name, h.distinct, fun l hl => ?_, h.named⟩
  rcases mem_addDistinct.mp hl with hl | rfl
  · exact h.accepted l hl
  · exact hname

end Orderly

/-- **A node that was made and changed in memory is orderly.** -/
theorem Reached.orderly {given : Entries} (h : Reached given node) : node.Orderly := by
  induction h with
  | constructed hgiven h => exact .of_ofInputs hgiven h
  | set _ hset ih => exact ih.set hset
  | unset _ key ih => exact ih.unset key
  | addLabel _ hadd ih => exact ih.addLabel hadd

/-- The identity is an attribute of it only if the constructor has overlooked it. -/
theorem Reached.overlooks {given : Entries} (h : Reached given node) :
    node.has identityEntry = true → Overlooks given := by
  induction h with
  | constructed hgiven h => exact (has_identityEntry_of_ofInputs hgiven h).mp
  | set _ hset ih => exact fun hhas => ih (has_identityEntry_of_set hset hhas)
  | unset _ key ih => exact fun hhas => ih (Entries.has_of_has_erase hhas)
  | addLabel _ hadd ih =>
    obtain ⟨_, -, -, rfl⟩ := addLabel_eq_ok hadd
    exact ih

/-! ## 2.  The map -/

/-- The key of the labels in the map. -/
def labelsEntry : Key := .text "labels"

/-- The attributes with the identity written to them, if there is one. -/
def identifiedEntries (node : Node) : Entries :=
  if node.isAnonymous then node.attributes else node.attributes.put identityEntry node.identity

/-- The identity in the map: that of the node, or what is an attribute under its key. -/
theorem get?_identifiedEntries (node : Node) : node.identifiedEntries.get? identityEntry =
    if node.isAnonymous then node.attributes.get? identityEntry else some node.identity := by
  rw [identifiedEntries]
  cases node.isAnonymous with
  | true => rw [if_pos rfl, if_pos rfl]
  | false => rw [if_neg Bool.false_ne_true, if_neg Bool.false_ne_true, Entries.get?_put_self]

theorem erase_identifiedEntries (node : Node) :
    node.identifiedEntries.erase identityEntry = node.attributes.erase identityEntry := by
  rw [identifiedEntries]
  cases node.isAnonymous with
  | true => rw [if_pos rfl]
  | false => rw [if_neg Bool.false_ne_true, Entries.erase_put_self]

/-- Without the labels the map is what was written before them. -/
theorem erase_toEntries (node : Node) :
    node.toEntries.erase labelsEntry = node.identifiedEntries.erase labelsEntry :=
  Entries.erase_put_self node.identifiedEntries labelsEntry _

theorem Orderly.distinct_identifiedEntries (h : node.Orderly) :
    node.identifiedEntries.Distinct := by
  rw [identifiedEntries]
  split
  · exact h.distinct
  · exact h.distinct.put _ _

theorem labelsEntry_apart : labelsEntry.same identityEntry = false := by decide

/-- The identity that is read back: that of the node, or what is an attribute under its key. -/
theorem Orderly.identityOf_identifiedEntries (h : node.Orderly) :
    identityOf ((node.identifiedEntries.get? identityEntry).getD .null) =
      if node.isAnonymous then identityOf ((node.attributes.get? identityEntry).getD .null)
      else node.identity := by
  rw [get?_identifiedEntries]
  cases node.isAnonymous with
  | true => rw [if_pos rfl, if_pos rfl]
  | false =>
    rw [if_neg Bool.false_ne_true, if_neg Bool.false_ne_true]
    exact h.identity.identityOf_eq

/-- **Reading the map back** gives the node without an attribute that has the name of the labels or
of the identity. -/
theorem Orderly.ofInputs_toEntries (h : node.Orderly) :
    ofInputs (fieldsOf node.labels (node.toEntries.erase labelsEntry) none) = .ok
      { identity :=
          if node.isAnonymous then identityOf ((node.attributes.get? identityEntry).getD .null)
          else node.identity
        labels := node.labels
        attributes := (node.attributes.erase labelsEntry).erase identityEntry } := by
  have hextract := extractIdentity_fieldsOf node.labels (node.toEntries.erase labelsEntry)
  have hrest : (node.identifiedEntries.erase labelsEntry).erase identityEntry =
      (node.attributes.erase labelsEntry).erase identityEntry := by
    rw [Entries.erase_comm _ labelsEntry_apart, erase_identifiedEntries,
      Entries.erase_comm _ labelsEntry_apart]
  have hidentity : (node.identifiedEntries.erase labelsEntry).get? identityEntry =
      node.identifiedEntries.get? identityEntry := by
    rw [Entries.get?_erase h.distinct_identifiedEntries, labelsEntry_apart,
      if_neg Bool.false_ne_true]
  rw [erase_toEntries, hrest, hidentity] at hextract
  rw [erase_toEntries, ofInputs_of_fieldsOf hextract h.accepted h.nodup fun e he =>
    h.named e (((Entries.erase_sublist _ _).trans (Entries.erase_sublist _ _)).subset he),
    h.identityOf_identifiedEntries]

/-- An attribute is mapped to its value, unless the labels or the identity stand in its place. -/
theorem Orderly.get?_toEntries {key : Key} {value : Value}
    (hvalue : node.attributes.get? key = some value) :
    node.toEntries.get? key = some
      (if key = labelsEntry then .list (node.labels.map .text)
      else if key = identityEntry ∧ node.isAnonymous = false then node.identity else value) := by
  have hput : node.toEntries =
      node.identifiedEntries.put labelsEntry (.list (node.labels.map .text)) := rfl
  rw [hput, Entries.get?_put]
  by_cases hlabels : key = labelsEntry
  · rw [hlabels, if_pos (Key.same_self labelsEntry), if_pos rfl]
  · have hother : ¬ labelsEntry.same key = true := fun hsame =>
      hlabels (Key.same_text_left_iff.mp hsame)
    rw [if_neg hother, if_neg hlabels]
    by_cases hidentity : key = identityEntry
    · rw [hidentity, get?_identifiedEntries, ← hidentity, hvalue]
      cases node.isAnonymous <;> simp
    · rw [if_neg fun hboth => hidentity hboth.1, identifiedEntries]
      have hother : ¬ identityEntry.same key = true := fun hsame =>
        hidentity (Key.same_text_left_iff.mp hsame)
      split
      · exact hvalue
      · rw [Entries.get?_put, if_neg hother, hvalue]

end Node

/-! ## 3.  The round trip -/

/-- **What is read back from the map of a node.**  Let a node have been made by the constructor and
changed in memory in any way.

* The constructor accepts the labels of its map as labels and the rest of the map as attributes.  It
  makes a node with the same labels in the same order, and with the same attributes in the same
  order apart from one that has the name of the labels and one that has the name of the identity.
* Nothing is lost of the attributes exactly if there is neither of the two.
* The identity is the same if it is no attribute.  In any case that of the node goes before an
  attribute of that name.
* The identity is an attribute only if the constructor has overlooked it.
* Every other attribute is mapped to its value; those two are mapped to the labels and to the
  identity, if there is one. -/
theorem toEntries_read_back {given : Entries} {node : Node} (h : Node.Reached given node) :
    (∃ labels rebuilt,
      node.toEntries.get? Node.labelsEntry = some labels ∧
      Node.ofInputs [(.text "labels", labels),
        (.text "attributes", .map (node.toEntries.erase Node.labelsEntry))] = .ok rebuilt ∧
      rebuilt.labels = node.labels ∧
      rebuilt.attributes =
        (node.attributes.erase Node.labelsEntry).erase Node.identityEntry ∧
      (rebuilt.attributes = node.attributes ↔
        node.has Node.labelsEntry = false ∧ node.has Node.identityEntry = false) ∧
      (node.has Node.identityEntry = false → rebuilt.identity = node.identity) ∧
      rebuilt.identity =
        if node.isAnonymous then
          Node.identityOf ((node.attributes.get? Node.identityEntry).getD .null)
        else node.identity) ∧
    (node.has Node.identityEntry = true → Node.Overlooks given) ∧
    ∀ key value, node.attributes.get? key = some value →
      node.toEntries.get? key = some
        (if key = Node.labelsEntry then .list (node.labels.map .text)
        else if key = Node.identityEntry ∧ node.isAnonymous = false then node.identity
        else value) := by
  have horderly := h.orderly
  refine ⟨⟨.list (node.labels.map .text), _, ?_, horderly.ofInputs_toEntries, rfl, rfl,
    Entries.erase_erase_eq_self_iff horderly.distinct, fun hapart => ?_, rfl⟩, h.overlooks,
    fun key value hvalue => Node.Orderly.get?_toEntries hvalue⟩
  · exact Entries.get?_put_self node.identifiedEntries Node.labelsEntry _
  · have hnone : node.attributes.get? Node.identityEntry = none :=
      Option.isNone_iff_eq_none.mp (Option.isSome_eq_false_iff.mp hapart)
    dsimp only
    split
    · next hid =>
      rw [hnone]
      exact (Node.isAnonymous_iff.mp hid).symm
    · rfl

/-- An actress who was given a nickname, lost it again, and was given a second label. -/
def nicknamed : Node :=
  { identity := .text "7"
    labels := ["Person", "Actor"]
    attributes := [(.text "name", .text "Ada")] }

/-- What was given for her. -/
def nicknamedInputs : Entries :=
  [(.text "labels", .list [.text "Person"]),
    (.text "attributes", .map [(.text "id", .int 7), (.text "name", .text "Ada")])]

theorem reached_nicknamed : Node.Reached nicknamedInputs nicknamed := by
  have hgiven : Node.ProperInputs nicknamedInputs := Node.properInputs_of_eq_some rfl rfl
    (List.pairwise_cons.mpr ⟨by decide, List.pairwise_singleton _ _⟩)
  have hextract : Node.extractIdentity nicknamedInputs =
      Node.fieldsOf ["Person"] [(.text "name", .text "Ada")] (some (.int 7)) := rfl
  have hmade := Node.Reached.constructed hgiven
    (Node.ofInputs_of_fieldsOf hextract (by decide) (by decide) fun e he =>
      ⟨"name", by rw [List.mem_singleton.mp he]⟩)
  have hset := Node.Reached.set hmade (rfl : Node.set _ (.text "nick") (.text "A") = .ok _)
  have hunset := Node.Reached.unset hset (.text "nick")
  exact .addLabel hunset (rfl : Node.addLabel _ (.text "Actor") = .ok _)

/-- The actress is read back from her map as she is. -/
theorem toEntries_read_back_nicknamed :
    Node.Reached nicknamedInputs nicknamed ∧
    ∃ labels rebuilt,
      nicknamed.toEntries = [(.text "name", .text "Ada"), (.text "id", .text "7"),
        (.text "labels", labels)] ∧
      Node.ofInputs [(.text "labels", labels),
        (.text "attributes", .map (nicknamed.toEntries.erase Node.labelsEntry))] = .ok rebuilt ∧
      rebuilt.identity = .text "7" ∧ rebuilt.labels = ["Person", "Actor"] ∧
      rebuilt.attributes = nicknamed.attributes := by
  obtain ⟨⟨labels, rebuilt, hlabels, hmade, hread, -, hlost, hidentity, -⟩, -⟩ :=
    toEntries_read_back reached_nicknamed
  obtain rfl := Option.some.inj hlabels
  exact ⟨reached_nicknamed, _, rebuilt, rfl, hmade, hidentity rfl, hread, hlost.mpr ⟨rfl, rfl⟩⟩

/-- A person with an attribute that has the name of the labels. -/
def labelled : Node := { labels := ["Person"], attributes := [(.text "labels", .int 5)] }

/-- **An attribute can be lost.**  The constructor accepts an attribute that has the name of the
labels.  In the map the labels stand in its place, and it is not read back. -/
theorem attribute_lost :
    Node.ofInputs [(.text "labels", .list [.text "Person"]),
      (.text "attributes", .map [(.text "labels", .int 5)])] = .ok labelled ∧
    labelled.attributes.get? (.text "labels") = some (.int 5) ∧
    labelled.toEntries.get? (.text "labels") = some (.list [.text "Person"]) ∧
    ∃ rebuilt,
      Node.ofInputs [(.text "labels", .list [.text "Person"]),
        (.text "attributes", .map (labelled.toEntries.erase (.text "labels")))] = .ok rebuilt ∧
      rebuilt.attributes = [] := by
  have hmade (attributes : Entries) (hnone : attributes.get? Node.identityEntry = none)
      (hnamed : ∀ e ∈ attributes, ∃ name, e.1 = .text name) :
      Node.ofInputs (Node.fieldsOf ["Person"] attributes none) =
        .ok { labels := ["Person"], attributes := attributes } := by
    have hextract := Node.extractIdentity_fieldsOf ["Person"] attributes
    rw [hnone, Entries.erase_of_get?_eq_none hnone] at hextract
    exact Node.ofInputs_of_fieldsOf hextract (by decide) (by decide) hnamed
  exact ⟨hmade _ rfl fun e he => ⟨"labels", by rw [List.mem_singleton.mp he]⟩, rfl, rfl, _,
    hmade [] rfl fun e he => absurd he List.not_mem_nil, rfl⟩

end GraphMapper
