import GraphMapper.Proofs.Graph.Mirrors

/-!
# What saving leaves in the store

A node and its copy part in two ways only: labels that were added and attributes that were removed
since all of the node was in the store.  Nothing else gets lost, however often the node is
changed, saved and refreshed, and whatever other nodes the store holds.

`Scene.Coherent` is the invariant: everything is plain, and the copy mirrors the node.  It holds
at the start (`Start.coherent`), every call keeps it (`Coherent.step`), and so every run does
(`Coherent.run`).  In a coherent scene a save that returned true has written what `Written` says
(`Coherent.written`), and `written_of_save` puts the two together.
-/

namespace GraphMapper

/-! ## 1.  Coherent scenes -/

namespace Scene

/-- What holds in every scene: everything is plain, and the copy, if there is one, mirrors the
node. -/
structure Coherent (scene : Scene) : Prop where
  node : scene.node.Plain
  graph : scene.server.graph.Plain
  copy : ∀ copy ∈ scene.copy, ∃ stored,
    scene.server.graph[copy.index]? = some stored ∧ Mirrors scene.node copy stored

variable (identities : ℕ → String) {scene : Scene}

theorem Start.coherent (h : Start scene) : scene.Coherent := by
  cases h with
  | @made given node server hgiven hidentity hnode hlabels hnames hvalues hgraph =>
    have hapart : node.attributes.get? Node.identityEntry = none :=
      Option.not_isSome_iff_eq_none.mp fun hhas =>
        hidentity ((Node.has_identityEntry_of_ofInputs hgiven hnode).mp hhas)
    exact ⟨(Node.made_of_ofInputs hgiven hnode).plain hapart hlabels hnames hvalues, hgraph,
      fun _ hcopy => absurd hcopy (by simp)⟩
  | @read stored index server hstored hgraph =>
    have hplain : stored.Plain := hgraph stored (List.mem_of_getElem? hstored)
    refine ⟨Node.plain_hydrate hplain, hgraph, fun copy hcopy => ?_⟩
    rw [← Option.some.inj hcopy]
    exact ⟨stored, hstored,
      mirrors_of_read hplain index rfl rfl fun _ => (identity_hydrate hplain).symm⟩

/-- A change in memory keeps a scene coherent. -/
theorem Coherent.become (h : scene.Coherent) {after : Node} (hplain : after.Plain)
    (hlabels : ∀ l ∈ scene.node.labels, l ∈ after.labels)
    (hid : after.identity = scene.node.identity) : (scene.become after).Coherent where
  node := hplain
  graph := h.graph
  copy copy hcopy := by
    obtain ⟨before, hbefore, rfl⟩ := Option.map_eq_some_iff.mp hcopy
    obtain ⟨stored, hstored, hmirrors⟩ := h.copy before hbefore
    exact ⟨stored, hstored, hmirrors.moved h.node.attributes hlabels hid⟩

/-- Under a plain identity, the stored nodes that are found are the ones that have it. -/
theorem Coherent.found (h : scene.Coherent) {s : String} (hid : scene.node.identity = .text s) :
    ∀ stored ∈ scene.server.graph.filter (·.carries scene.node.identity),
      stored.Plain ∧ stored.identity = .text s := by
  intro stored hstored
  obtain ⟨hmem, hcarries⟩ := List.mem_filter.mp hstored
  rw [hid] at hcarries
  exact ⟨h.graph stored hmem, (h.graph stored hmem).carries_iff.mp hcarries⟩

/-! ## 2.  Steps -/

theorem step_save_updates (h : scene.Coherent) (autoIdentity : Bool)
    (hpersisted : scene.node.persisted = true) :
    scene.step identities (.save autoIdentity) =
      ⟨scene.node, { scene.server with
        graph := scene.server.graph.merge scene.node.identity scene.node.attributes },
        scene.copy⟩ := by
  rw [step, saved, Node.serve_save_updates _ _ h.node autoIdentity hpersisted]
  unfold copyAfterSave
  rw [hpersisted]

theorem step_save_refuses (autoIdentity : Bool) (hpersisted : scene.node.persisted = false)
    (hread : (scene.node.fromStore && scene.node.isAnonymous) = true) :
    scene.step identities (.save autoIdentity) = scene := by
  rw [step, saved, Node.serve_save_refuses _ _ autoIdentity hpersisted hread]
  unfold copyAfterSave
  rw [hpersisted]

/-- The node that an insertion writes: the one in memory, under the identity that it is given. -/
def nodeToInsert (scene : Scene) (autoIdentity : Bool) : Node :=
  scene.node.identified autoIdentity (identities scene.server.drawn)

theorem step_save_inserts (h : scene.Coherent) (autoIdentity : Bool)
    (hpersisted : scene.node.persisted = false)
    (hnew : (scene.node.fromStore && scene.node.isAnonymous) = false) :
    (scene.step identities (.save autoIdentity)).node =
        (nodeToInsert identities scene autoIdentity).inserted ∧
      (scene.step identities (.save autoIdentity)).server.graph =
        scene.server.graph ++ [(nodeToInsert identities scene autoIdentity).toStored] ∧
      (scene.step identities (.save autoIdentity)).copy =
        some { index := scene.server.graph.length } := by
  obtain ⟨hresult, hgraph⟩ :=
    Node.serve_save_inserts identities scene.server h.node autoIdentity hpersisted hnew
  refine ⟨congrArg Prod.snd hresult, hgraph, ?_⟩
  change scene.copyAfterSave (scene.saved identities autoIdentity).1.1 = _
  rw [saved, hresult]
  unfold copyAfterSave
  rw [hpersisted]

/-- An update writes to the copy of the node, wherever else it writes. -/
theorem Coherent.update_copy (h : scene.Coherent) (hpersisted : scene.node.persisted = true)
    {copy : Copy} (hcopy : copy ∈ scene.copy) :
    ∃ stored, (scene.server.graph.merge scene.node.identity scene.node.attributes)[copy.index]? =
        some (stored.merge scene.node.attributes) ∧ Mirrors scene.node copy stored := by
  have hid := h.node.persisted hpersisted
  obtain ⟨s, hs⟩ := h.node.exists_identity hid
  obtain ⟨stored, hstored, hmirrors⟩ := h.copy copy hcopy
  have hcarries : stored.carries scene.node.identity = true := by
    rw [hs]
    refine (h.graph stored (List.mem_of_getElem? hstored)).carries_iff.mpr ?_
    exact (hmirrors.identity hid).trans hs
  exact ⟨stored, Graph.getElem?_merge hstored hcarries, hmirrors⟩

/-- **Saving keeps a scene coherent.** -/
theorem Coherent.save (h : scene.Coherent) (autoIdentity : Bool) :
    (scene.step identities (.save autoIdentity)).Coherent := by
  cases hpersisted : scene.node.persisted with
  | true =>
    rw [step_save_updates identities h autoIdentity hpersisted]
    refine ⟨h.node, h.graph.merge _ h.node.attributes h.node.reserved, fun copy hcopy => ?_⟩
    obtain ⟨stored, hstored, hmirrors⟩ := h.update_copy hpersisted hcopy
    exact ⟨_, hstored, hmirrors.merge h.node⟩
  | false =>
    cases hread : scene.node.fromStore && scene.node.isAnonymous with
    | true =>
      rw [step_save_refuses identities autoIdentity hpersisted hread]
      exact h
    | false =>
      obtain ⟨hnode, hgraph, hcopy⟩ :=
        step_save_inserts identities h autoIdentity hpersisted hread
      have hplain := h.node.identified autoIdentity (identities scene.server.drawn)
      refine ⟨hnode ▸ hplain.inserted, hgraph ▸ h.graph.append hplain.toStored, ?_⟩
      intro copy hin
      rw [hcopy] at hin
      rw [← Option.some.inj hin, hnode, hgraph]
      refine ⟨_, List.getElem?_concat_length, ?_⟩
      exact mirrors_toStored hplain.inserted _

theorem step_refresh_refuses (h : scene.Coherent) (hid : scene.node.isAnonymous = true) :
    scene.step identities .refresh = scene := by
  have hcopy : scene.copyAfterRefresh = scene.copy := by
    rw [copyAfterRefresh, h.node.identityValue, Node.isAnonymous_iff.mp hid]
    have hnone : scene.server.graph.findIdx? (·.carries .null) = none :=
      List.findIdx?_eq_none_iff.mpr fun _ _ => rfl
    rw [hnone]
  rw [step, refreshed, Node.serve_refresh_refuses _ _ hid, hcopy]

theorem step_refresh (h : scene.Coherent) (hid : scene.node.isAnonymous = false) :
    scene.step identities .refresh =
      ⟨scene.node.absorb (scene.server.graph.filter (·.carries scene.node.identity)),
        scene.server, scene.copyAfterRefresh⟩ := by
  rw [step, refreshed, Node.serve_refresh _ _ h.node hid]

/-- The stored node that refreshing takes over is the first that carries the identity. -/
theorem filter_eq_cons_of_findIdx? {graph : Graph} {p : StoredNode → Bool} {index : ℕ}
    {stored : StoredNode} (hindex : graph.findIdx? p = some index)
    (hstored : graph[index]? = some stored) : ∃ rest, graph.filter p = stored :: rest := by
  have hhead : (graph.filter p).head? = some stored := by
    rw [List.head?_filter, List.find?_eq_bind_findIdx?_getElem?, hindex, Option.bind_some, hstored]
  cases hfilter : graph.filter p with
  | nil =>
    rw [hfilter] at hhead
    exact absurd hhead (by simp)
  | cons first rest =>
    rw [hfilter, List.head?_cons] at hhead
    exact ⟨rest, by rw [Option.some.inj hhead]⟩

/-- **Refreshing keeps a scene coherent.** -/
theorem Coherent.refresh (h : scene.Coherent) :
    (scene.step identities .refresh).Coherent := by
  cases hid : scene.node.isAnonymous with
  | true =>
    rw [step_refresh_refuses identities h hid]
    exact h
  | false =>
    obtain ⟨s, hs⟩ := h.node.exists_identity hid
    rw [step_refresh identities h hid]
    refine ⟨h.node.absorb hs fun stored hstored => h.found hs stored hstored, h.graph, ?_⟩
    intro copy hcopy
    have hcopy : scene.copyAfterRefresh = some copy := hcopy
    rw [copyAfterRefresh, h.node.identityValue] at hcopy
    cases hindex : scene.server.graph.findIdx? (·.carries scene.node.identity) with
    | none =>
      rw [hindex] at hcopy
      have hempty : scene.server.graph.filter (·.carries scene.node.identity) = [] := by
        rw [List.filter_eq_nil_iff]
        intro stored hstored
        rw [List.findIdx?_eq_none_iff.mp hindex stored hstored]
        exact Bool.false_ne_true
      obtain ⟨stored, hstored, hmirrors⟩ := h.copy copy hcopy
      rw [hempty]
      exact ⟨stored, hstored, hmirrors.labels, hmirrors.added, hmirrors.properties,
        hmirrors.removed, hmirrors.identity⟩
    | some index =>
      rw [hindex] at hcopy
      rw [← Option.some.inj hcopy]
      obtain ⟨hlt, hcarries, -⟩ := List.findIdx?_eq_some_iff_getElem.mp hindex
      have hstored := List.getElem?_eq_getElem hlt
      obtain ⟨rest, hfilter⟩ := filter_eq_cons_of_findIdx? hindex hstored
      obtain ⟨hplain, hidentity⟩ := h.found hs _ (by rw [hfilter]; exact List.mem_cons_self)
      rw [hfilter]
      exact ⟨_, hstored, mirrors_of_read hplain index rfl rfl fun _ => hidentity.trans hs.symm⟩

/-- **Every call keeps a scene coherent.** -/
theorem Coherent.step (h : scene.Coherent) {call : NodeCall} (hcall : call.Plain) :
    (scene.step identities call).Coherent := by
  cases call with
  | set key value =>
    rw [Scene.step]
    cases hset : scene.node.set key value with
    | error fault => exact h
    | ok after =>
      obtain ⟨name, -, -, -, hafter⟩ := Node.set_eq_ok hset
      exact h.become (h.node.set hcall.1 hcall.2 hset) (fun l hl => by rw [hafter]; exact hl)
        (by rw [hafter])
  | unset key => exact h.become (h.node.unset key) (fun _ hl => hl) rfl
  | addLabel label =>
    rw [Scene.step]
    cases hadd : scene.node.addLabel label with
    | error fault => exact h
    | ok after =>
      obtain ⟨name, -, -, hafter⟩ := Node.addLabel_eq_ok hadd
      exact h.become (h.node.addLabel hcall hadd)
        (fun l hl => by rw [hafter]; exact mem_addDistinct.mpr (Or.inl hl)) (by rw [hafter])
  | save autoIdentity => exact h.save identities autoIdentity
  | refresh => exact h.refresh identities

/-- **Every run keeps a scene coherent.** -/
theorem Coherent.run (h : scene.Coherent) {calls : List NodeCall}
    (hcalls : ∀ call ∈ calls, call.Plain) : (scene.run identities calls).Coherent := by
  induction calls generalizing scene with
  | nil => exact h
  | cons call rest ih =>
    obtain ⟨hcall, hrest⟩ := List.forall_mem_cons.mp hcalls
    exact ih (h.step identities hcall) hrest

/-! ## 3.  What a save has done -/

/-- What has happened when saving returned true.  An insertion has appended the node itself.  An
update has written the attributes to the nodes that carry the identity, and left their labels and
their other properties as they were.  In either case the node and its copy differ in the labels
that were added and in the attributes that were removed, and in nothing else; and refreshing
brings just that to light, if the copy is the first stored node under its identity. -/
structure Written (before after : Scene) : Prop where
  inserted : before.node.persisted = false →
    after.server.graph = before.server.graph ++ [after.node.toStored] ∧
      after.copy = some { index := before.server.graph.length }
  updated : before.node.persisted = true →
    after.node = before.node ∧ after.copy = before.copy ∧
      after.server.graph = before.server.graph.merge after.node.identity after.node.attributes ∧
      ∃ stored ∈ before.server.graph, stored.carries after.node.identity = true
  copied : ∀ copy ∈ after.copy, ∃ stored,
    after.server.graph[copy.index]? = some stored ∧ Copied after.node copy stored
  refreshed : ∀ copy ∈ after.copy,
    after.server.graph.findIdx? (·.carries after.node.identity) = some copy.index →
      (after.step identities .refresh).node.labels.Perm
          (after.node.labels.filter fun l => !copy.added.contains l) ∧
        ∀ key, key ∉ copy.removed →
          (after.step identities .refresh).node.attributes.get? key =
            after.node.attributes.get? key

/-- Refreshing right after saving. -/
theorem Coherent.refresh_of_copied (h : scene.Coherent) {copy : Copy} {stored : StoredNode}
    (hstored : scene.server.graph[copy.index]? = some stored)
    (hcopied : Copied scene.node copy stored)
    (hindex : scene.server.graph.findIdx? (·.carries scene.node.identity) = some copy.index) :
    (scene.step identities .refresh).node.labels.Perm
        (scene.node.labels.filter fun l => !copy.added.contains l) ∧
      ∀ key, key ∉ copy.removed →
        (scene.step identities .refresh).node.attributes.get? key =
          scene.node.attributes.get? key := by
  obtain ⟨rest, hfilter⟩ := filter_eq_cons_of_findIdx? hindex hstored
  have hid : scene.node.isAnonymous = false := by
    have hmem : stored ∈ scene.server.graph.filter (·.carries scene.node.identity) := by
      rw [hfilter]
      exact List.mem_cons_self
    have hcarries := (List.mem_filter.mp hmem).2
    rw [← Bool.not_eq_true, Node.isAnonymous_iff]
    intro hnull
    rw [hnull] at hcarries
    exact absurd hcarries Bool.false_ne_true
  rw [step_refresh identities h hid, hfilter]
  constructor
  · change (sortLabels stored.labels).Perm _
    refine (List.perm_ext_iff_of_nodup (nodup_sortLabels _) (h.node.nodup.filter _)).mpr ?_
    intro l
    rw [mem_sortLabels, hcopied.labels l, List.mem_filter, Bool.not_eq_true', ← Bool.not_eq_true,
      List.contains_iff_mem]
  · intro key hkey
    change Entries.get? (stored.properties.erase Node.identityEntry) key = _
    have hplain := h.graph stored (List.mem_of_getElem? hstored)
    rw [Entries.get?_erase hplain.properties.distinct]
    by_cases hreserved : key = Node.identityEntry
    · rw [hreserved, if_pos (Key.same_self _), h.node.reserved]
    · have hsame : ¬ Node.identityEntry.same key = true := fun hsame =>
        hreserved (Key.same_text_left_iff.mp hsame)
      rw [if_neg hsame, hcopied.properties key hreserved hkey]

theorem saved_eq_ok {autoIdentity : Bool} (h : scene.saves identities autoIdentity = true) :
    (scene.saved identities autoIdentity).1.1 = .ok true := by
  unfold saves at h
  cases hsaved : (scene.saved identities autoIdentity).1.1 with
  | error fault =>
    rw [hsaved] at h
    exact absurd h Bool.false_ne_true
  | ok result =>
    rw [hsaved] at h
    exact congrArg Except.ok h

/-- A save that returned true was not refused. -/
theorem not_refused_of_saved {autoIdentity : Bool}
    (hsaved : (scene.saved identities autoIdentity).1.1 = .ok true)
    (hpersisted : scene.node.persisted = false) :
    (scene.node.fromStore && scene.node.isAnonymous) = false := by
  rw [← Bool.not_eq_true]
  intro hread
  rw [saved, Node.serve_save_refuses _ _ autoIdentity hpersisted hread] at hsaved
  exact absurd hsaved (by simp)

/-- After saving, the copy has everything of the node but for the account. -/
theorem Coherent.copied (h : scene.Coherent) (autoIdentity : Bool)
    (hsaved : (scene.saved identities autoIdentity).1.1 = .ok true) :
    ∀ copy ∈ (scene.step identities (.save autoIdentity)).copy, ∃ stored,
      (scene.step identities (.save autoIdentity)).server.graph[copy.index]? = some stored ∧
        Copied (scene.step identities (.save autoIdentity)).node copy stored := by
  intro copy hcopy
  cases hpersisted : scene.node.persisted with
  | true =>
    rw [step_save_updates identities h autoIdentity hpersisted] at hcopy ⊢
    obtain ⟨stored, hstored, hmirrors⟩ := h.update_copy hpersisted hcopy
    exact ⟨_, hstored, hmirrors.copied h.node⟩
  | false =>
    obtain ⟨hnode, hgraph, hafter⟩ := step_save_inserts identities h autoIdentity hpersisted
      (not_refused_of_saved identities hsaved hpersisted)
    have hplain := h.node.identified autoIdentity (identities scene.server.drawn)
    rw [hafter] at hcopy
    rw [← Option.some.inj hcopy, hnode, hgraph]
    exact ⟨_, List.getElem?_concat_length, copied_toStored hplain.inserted _⟩

/-- In a coherent scene, a save that returned true has written what it says. -/
theorem Coherent.written (h : scene.Coherent) (autoIdentity : Bool)
    (hsaved : (scene.saved identities autoIdentity).1.1 = .ok true) :
    Written identities scene (scene.step identities (.save autoIdentity)) where
  inserted hpersisted := by
    obtain ⟨hnode, hgraph, hcopy⟩ := step_save_inserts identities h autoIdentity hpersisted
      (not_refused_of_saved identities hsaved hpersisted)
    rw [hnode, hgraph]
    exact ⟨rfl, hcopy⟩
  updated hpersisted := by
    rw [saved, Node.serve_save_updates _ _ h.node autoIdentity hpersisted] at hsaved
    rw [step_save_updates identities h autoIdentity hpersisted]
    exact ⟨rfl, rfl, rfl, List.any_eq_true.mp (Except.ok.inj hsaved)⟩
  copied := h.copied identities autoIdentity hsaved
  refreshed copy hcopy hindex := by
    obtain ⟨stored, hstored, hcopied⟩ := h.copied identities autoIdentity hsaved copy hcopy
    exact (h.save identities autoIdentity).refresh_of_copied identities hstored hcopied hindex

end Scene

/-- **What saving writes.**  Whatever was done with a node before, if saving it returns true, the
store has all of the node but for the labels that were added and the attributes that were removed
since all of it was there. -/
theorem written_of_save (identities : ℕ → String) {start : Scene} (hstart : start.Start)
    {calls : List NodeCall} (hcalls : ∀ call ∈ calls, call.Plain) (autoIdentity : Bool)
    (hsaved : (start.run identities calls).saves identities autoIdentity = true) :
    Scene.Written identities (start.run identities calls)
      ((start.run identities calls).step identities (.save autoIdentity)) :=
  (hstart.coherent.run identities hcalls).written identities autoIdentity
    (Scene.saved_eq_ok identities hsaved)

/-- A node that was just made, and a store with nothing in it. -/
def Scene.alice : Scene where
  node := { identity := .text "x", labels := ["Person"]
            attributes := [(.text "name", .text "Alice")] }
  server := { graph := [] }

/-- A store in which another node has the identity already. -/
def Server.robot : Server where
  graph := [⟨["Robot"], [(.text "model", .text "R2"), (.text "id", .text "x")]⟩]

/-- Calls after which node and copy have parted in both ways. -/
def NodeCall.parting : List NodeCall :=
  [.save true, .set (.text "age") (.int 31), .addLabel (.text "Employee"), .unset (.text "name")]

theorem Scene.start_alice : Scene.alice.Start := by
  have hnode : Node.ofInputs [(.text "identity", .text "x"),
      (.text "labels", .list [.text "Person"]),
      (.text "attributes", .map [(.text "name", .text "Alice")])] = .ok Scene.alice.node := rfl
  refine .made (Node.properInputs_of_eq_some rfl rfl (List.pairwise_singleton _ _))
    (Node.not_overlooks_of_plain rfl rfl ?_) hnode (by decide) ?_ ?_
    (fun _ h => absurd h List.not_mem_nil)
  · intro e he
    exact ⟨"name", congrArg Prod.fst (List.mem_singleton.mp he)⟩
  · intro e he name hname
    rw [List.mem_singleton.mp he, Key.text.injEq] at hname
    rw [← hname]
    decide
  · intro e he
    rw [List.mem_singleton.mp he]
    rfl

theorem NodeCall.plain_parting : ∀ call ∈ NodeCall.parting, call.Plain := by
  have hplain : ∀ s : String, isName s.toList = true → PlainIfAccepted (.text s) := by
    rintro s h name hname -
    rwa [← Value.text.inj hname]
  intro call hcall
  simp only [parting, List.mem_cons, List.not_mem_nil, or_false] at hcall
  rcases hcall with rfl | rfl | rfl | rfl
  · trivial
  · exact ⟨hplain _ (by decide), rfl⟩
  · exact hplain _ (by decide)
  · trivial

/-- The theorem at a node that has parted from its copy before it is saved again. -/
theorem written_of_save_parting : Scene.alice.Start ∧ (∀ call ∈ NodeCall.parting, call.Plain) ∧
    (Scene.alice.run Nat.repr NodeCall.parting).saves Nat.repr true = true ∧
    Scene.Written Nat.repr (Scene.alice.run Nat.repr NodeCall.parting)
      ((Scene.alice.run Nat.repr NodeCall.parting).step Nat.repr (.save true)) :=
  ⟨Scene.start_alice, NodeCall.plain_parting, by decide +kernel,
    written_of_save Nat.repr Scene.start_alice NodeCall.plain_parting true (by decide +kernel)⟩

/-- **Saving does not write all of a node.**  The label that was added never reaches the store and
the attribute that was removed stays there, though every save returns true.  If another node has
the same identity, refreshing may bring that one back, and a node that only claims to be persisted
writes over it. -/
theorem saved_and_different :
    (let before := Scene.alice.run Nat.repr NodeCall.parting
      let after := before.step Nat.repr (.save true)
      let fresh := (after.step Nat.repr .refresh).node
      before.saves Nat.repr true = true ∧
      after.node.labels = ["Person", "Employee"] ∧ after.node.attributes.keys = [.text "age"] ∧
      after.server.graph.map (·.labels) = [["Person"]] ∧
      after.server.graph.map (·.properties.keys) =
        [[.text "name", .text "id", .text "age"]] ∧
      fresh.labels = ["Person"] ∧ fresh.attributes.keys = [.text "name", .text "age"]) ∧
    (let before := { Scene.alice with server := .robot }
      let after := before.step Nat.repr (.save true)
      let fresh := (after.step Nat.repr .refresh).node
      before.saves Nat.repr true = true ∧ after.node.labels = ["Person"] ∧
      fresh.labels = ["Robot"]) ∧
    (let before : Scene :=
        { node := { Scene.alice.node with persisted := true }, server := .robot }
      let after := before.step Nat.repr (.save true)
      before.saves Nat.repr true = true ∧ after.node.attributes.keys = [.text "name"] ∧
      after.server.graph.map (·.properties.keys) =
        [[.text "model", .text "id", .text "name"]]) := by
  decide +kernel

end GraphMapper
