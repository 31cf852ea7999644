import GraphMapper.Proofs.Graph.Scene

/-!
# A node and its copy

How far a node in memory and its stored copy can be apart.

`Mirrors` is what holds between the two at any time.  It says nothing about values, since an
attribute may have been set and not yet saved; it says which labels and which keys the two have.
A change in memory keeps it because the account of the copy is moved along (`Mirrors.moved`), and
an update keeps it because it writes keys that the node has (`Mirrors.merge`).  Insertion, reading
and refreshing establish it anew (`mirrors_toStored`, `mirrors_of_read`).

`Copied` is what holds in addition after saving: the copy has every attribute of the node, and
`Mirrors` bounds what else it has (`Mirrors.copied`).
-/

namespace GraphMapper

/-! ## 1.  Stores that are written to -/

theorem StoredNode.identity_merge {attributes : Entries} (h : attributes.Plain)
    (hreserved : attributes.get? Node.identityEntry = none) (node : StoredNode) :
    (node.merge attributes).identity = node.identity := by
  rw [identity, identity, merge, Entries.get?_merge h.distinct, hreserved, Option.none_or]

theorem StoredNode.Plain.merge {node : StoredNode} (h : node.Plain) {attributes : Entries}
    (hattributes : attributes.Plain) (hreserved : attributes.get? Node.identityEntry = none) :
    (node.merge attributes).Plain where
  labels := h.labels
  properties := h.properties.merge hattributes
  identity value hvalue := by
    rw [StoredNode.merge, Entries.get?_merge hattributes.distinct, hreserved,
      Option.none_or] at hvalue
    exact h.identity value hvalue

theorem Graph.Plain.append {graph : Graph} (h : graph.Plain) {node : StoredNode}
    (hnode : node.Plain) : Graph.Plain (graph ++ [node]) := by
  intro other hother
  rcases List.mem_append.mp hother with hother | hother
  · exact h other hother
  · rwa [List.mem_singleton.mp hother]

theorem Graph.Plain.merge {graph : Graph} (h : graph.Plain) (identity : Value)
    {attributes : Entries} (hattributes : attributes.Plain)
    (hreserved : attributes.get? Node.identityEntry = none) :
    (graph.merge identity attributes).Plain := by
  intro other hother
  obtain ⟨node, hnode, rfl⟩ := List.mem_map.mp hother
  by_cases hcarries : node.carries identity = true
  · rw [if_pos hcarries]
    exact (h node hnode).merge hattributes hreserved
  · rw [if_neg hcarries]
    exact h node hnode

theorem Graph.getElem?_merge {graph : Graph} {identity : Value} {attributes : Entries} {index : ℕ}
    {stored : StoredNode} (h : graph[index]? = some stored)
    (hcarries : stored.carries identity = true) :
    (graph.merge identity attributes)[index]? = some (stored.merge attributes) := by
  rw [Graph.merge, List.getElem?_map, h, Option.map_some, if_pos hcarries]

/-- Among plain stored nodes, an identity is carried by those that have it. -/
theorem StoredNode.Plain.carries_iff {node : StoredNode} (h : node.Plain) {s : String} :
    node.carries (.text s) = true ↔ node.identity = .text s := by
  rw [carries_text_iff, StoredNode.identity]
  cases hid : node.properties.get? Node.identityEntry with
  | none => rfl
  | some value =>
    obtain ⟨t, rfl⟩ := h.identity value hid
    rfl

/-! ## 2.  A node and its copy -/

/-- What holds between a node and its copy at any time: apart from the labels that were added and
the attributes that were removed, they have the same labels, and the node has the keys of the
copy. -/
structure Mirrors (node : Node) (copy : Copy) (stored : StoredNode) : Prop where
  labels : ∀ l, l ∈ node.labels ↔ l ∈ stored.labels ∨ l ∈ copy.added
  added : ∀ l ∈ copy.added, l ∉ stored.labels
  properties : ∀ key, key ≠ Node.identityEntry → stored.properties.has key = true →
    node.has key = true ∨ key ∈ copy.removed
  removed : ∀ key ∈ copy.removed, node.has key = false
  identity : node.isAnonymous = false → stored.identity = node.identity

/-- What holds between a node and its copy after saving: they differ in the labels that were added
and in the attributes that were removed, and in nothing else. -/
structure Copied (node : Node) (copy : Copy) (stored : StoredNode) : Prop where
  labels : ∀ l, l ∈ stored.labels ↔ l ∈ node.labels ∧ l ∉ copy.added
  properties : ∀ key, key ≠ Node.identityEntry → key ∉ copy.removed →
    stored.properties.get? key = node.attributes.get? key
  removed : ∀ key ∈ copy.removed, node.attributes.get? key = none

theorem Entries.mem_keys_of_has {entries : Entries} (h : entries.Plain) {key : Key}
    (hkey : entries.has key = true) : key ∈ entries.keys := by
  obtain ⟨e, he, hsame⟩ := has_iff.mp hkey
  obtain ⟨name, hname, -⟩ := h.name e he
  rw [hname] at hsame
  rw [Key.same_text_left_iff.mp hsame, ← hname]
  exact List.mem_map_of_mem he

namespace Mirrors

variable {node : Node} {copy : Copy} {stored : StoredNode}

/-- **A change in memory** that keeps labels and identity is followed by the account. -/
theorem moved (h : Mirrors node copy stored) (hplain : node.attributes.Plain) {after : Node}
    (hlabels : ∀ l ∈ node.labels, l ∈ after.labels) (hid : after.identity = node.identity) :
    Mirrors after (copy.moved node after) stored where
  labels l := by
    change l ∈ after.labels ↔ l ∈ stored.labels ∨
      l ∈ copy.added ++ after.labels.filter fun l => !node.labels.contains l
    rw [List.mem_append, List.mem_filter, Bool.not_eq_true', ← Bool.not_eq_true,
      List.contains_iff_mem, ← or_assoc, ← h.labels l]
    constructor
    · intro hl
      by_cases hold : l ∈ node.labels
      · exact Or.inl hold
      · exact Or.inr ⟨hl, hold⟩
    · rintro (hl | hl)
      · exact hlabels l hl
      · exact hl.1
  added l hl := by
    change l ∈ copy.added ++ after.labels.filter fun l => !node.labels.contains l at hl
    rcases List.mem_append.mp hl with hl | hl
    · exact h.added l hl
    · obtain ⟨-, hnew⟩ := List.mem_filter.mp hl
      rw [Bool.not_eq_true', ← Bool.not_eq_true, List.contains_iff_mem] at hnew
      exact fun hstored => hnew ((h.labels l).mpr (Or.inl hstored))
  properties key hkey hstored := by
    cases hafter : after.has key with
    | true => exact Or.inl rfl
    | false =>
      refine Or.inr (List.mem_filter.mpr ⟨List.mem_append.mpr ?_, by rw [hafter]; rfl⟩)
      rcases h.properties key hkey hstored with hhas | hremoved
      · exact Or.inr (Entries.mem_keys_of_has hplain hhas)
      · exact Or.inl hremoved
  removed key hkey := by
    obtain ⟨-, hgone⟩ := List.mem_filter.mp hkey
    rwa [Bool.not_eq_true'] at hgone
  identity hanonymous := by
    rw [Node.isAnonymous, hid] at hanonymous
    rw [hid]
    exact h.identity hanonymous

/-- **An update** writes keys that the node has. -/
theorem merge (h : Mirrors node copy stored) (hplain : node.Plain) :
    Mirrors node copy (stored.merge node.attributes) where
  labels := h.labels
  added := h.added
  properties key hkey hstored := by
    have hfound : ((node.attributes.get? key).or (stored.properties.get? key)).isSome = true := by
      rwa [← Entries.get?_merge hplain.attributes.distinct]
    rw [Option.isSome_or, Bool.or_eq_true] at hfound
    rcases hfound with hhas | hstored
    · exact Or.inl hhas
    · exact h.properties key hkey hstored
  removed := h.removed
  identity hid := by
    rw [StoredNode.identity_merge hplain.attributes hplain.reserved]
    exact h.identity hid

/-- **After an update** the copy has the values of the node. -/
theorem copied (h : Mirrors node copy stored) (hplain : node.Plain) :
    Copied node copy (stored.merge node.attributes) where
  labels l := by
    change l ∈ stored.labels ↔ _
    rw [h.labels l]
    constructor
    · exact fun hl => ⟨Or.inl hl, fun hadded => h.added l hadded hl⟩
    · exact fun ⟨hl, hadded⟩ => hl.resolve_right hadded
  properties key hkey hremoved := by
    rw [StoredNode.merge, Entries.get?_merge hplain.attributes.distinct]
    cases hattribute : node.attributes.get? key with
    | some value => rfl
    | none =>
      have hhas : ¬ node.has key = true := by
        rw [Node.has, Entries.has, hattribute]
        exact Bool.false_ne_true
      have hstored : ¬ stored.properties.has key = true := fun hstored =>
        (h.properties key hkey hstored).elim hhas hremoved
      rw [Option.none_or, ← Option.not_isSome_iff_eq_none]
      exact hstored
  removed key hkey := by
    have hgone := h.removed key hkey
    rwa [Node.has, Entries.has, Option.isSome_eq_false_iff, Option.isNone_iff_eq_none] at hgone

end Mirrors

/-- A node and what it is stored as. -/
theorem mirrors_toStored {node : Node} (h : node.Plain) (index : ℕ) :
    Mirrors node { index := index } node.toStored where
  labels _ := ⟨Or.inl, fun hl => hl.resolve_right List.not_mem_nil⟩
  added _ hl := absurd hl List.not_mem_nil
  properties key hkey hstored := by
    rw [Entries.has, h.get?_toStored, if_neg (fun hboth => hkey hboth.1)] at hstored
    exact Or.inl hstored
  removed _ hkey := absurd hkey List.not_mem_nil
  identity hid := by
    rw [StoredNode.identity, h.get?_toStored, if_pos ⟨rfl, hid⟩]
    rfl

theorem copied_toStored {node : Node} (h : node.Plain) (index : ℕ) :
    Copied node { index := index } node.toStored where
  labels _ := ⟨fun hl => ⟨hl, List.not_mem_nil⟩, And.left⟩
  properties key hkey _ := by
    rw [h.get?_toStored, if_neg (fun hboth => hkey hboth.1)]
  removed _ hkey := absurd hkey List.not_mem_nil

/-- A node that has the labels and the other properties of a stored one. -/
theorem mirrors_of_read {node : Node} {stored : StoredNode} (h : stored.Plain) (index : ℕ)
    (hlabels : node.labels = sortLabels stored.labels)
    (hattributes : node.attributes = stored.properties.erase Node.identityEntry)
    (hid : node.isAnonymous = false → stored.identity = node.identity) :
    Mirrors node { index := index } stored where
  labels l := by
    rw [hlabels, mem_sortLabels]
    exact ⟨Or.inl, fun hl => hl.resolve_right List.not_mem_nil⟩
  added _ hl := absurd hl List.not_mem_nil
  properties key hkey hstored := by
    have hsame : ¬ Node.identityEntry.same key = true := fun hsame =>
      hkey (Key.same_text_left_iff.mp hsame)
    rw [Node.has, Entries.has, hattributes, Entries.get?_erase h.properties.distinct,
      if_neg hsame]
    exact Or.inl hstored
  removed _ hkey := absurd hkey List.not_mem_nil
  identity := hid

/-- A node that is read has the identity that is stored. -/
theorem identity_hydrate {stored : StoredNode} (h : stored.Plain) :
    (Node.hydrate stored).identity = stored.identity := by
  change Node.identityOf stored.identity = stored.identity
  rw [StoredNode.identity]
  cases hid : stored.properties.get? Node.identityEntry with
  | none => rfl
  | some value =>
    obtain ⟨s, rfl⟩ := h.identity value hid
    rfl

/-- What a node takes over from a stored one that carries its identity is plain. -/
theorem Node.Plain.absorb {node : Node} (h : node.Plain) {s : String}
    (hid : node.identity = .text s) {found : List StoredNode}
    (hfound : ∀ stored ∈ found, stored.Plain ∧ stored.identity = .text s) :
    (node.absorb found).Plain := by
  cases found with
  | nil =>
    exact ⟨h.labels, h.nodup, h.attributes, h.reserved, h.identity, h.stored,
      fun hpersisted => absurd hpersisted Bool.false_ne_true⟩
  | cons stored rest =>
    obtain ⟨hplain, hidentity⟩ := hfound stored List.mem_cons_self
    have hread := Node.plain_hydrate hplain
    refine ⟨hread.labels, hread.nodup, hread.attributes, hread.reserved, h.identity,
      Or.inr ?_, fun _ => ?_⟩
    · exact hidentity.trans hid.symm
    · change node.identity.isNull = false
      rw [hid]
      rfl

end GraphMapper
