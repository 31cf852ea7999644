import GraphMapper.Proofs.Node.Life

/-!
# Reading back what was inserted

The statement of an insertion describes a node: the labels of its pattern, and its inline properties
with the values that their placeholders stand for.  A store that keeps this node returns it when it
is asked for, with its labels in any order, because it keeps them as a set.  Hydrating what it
returns gives the node that was inserted.

The proof has two halves, which meet at `Node.toStored`.

* `described?_insertStatement`: the statement describes what the node is stored as.  The names must
  be plain, or the text would be read differently.
* `hydrate_of_toStored`: what the node is stored as is hydrated to the node.  If the identity is no
  attribute it can be taken out again, and it is a text, so its type is not lost.

The identity is a text at every moment of a node's life (`Life.hasTextIdentity`).  That it is no
attribute is another matter: the constructor can leave it there, and then what is read back is not
what was inserted, because hydration leaves it in no node (`attributes_hydrate_ne`).  Values need
not be storable: a null among the attributes is bound and described like any other value.
-/

namespace GraphMapper

/-- The node that a statement describes, if it creates one and all its placeholders are bound. -/
def Statement.described? (statement : Statement) : Option StoredNode :=
  match readNodeCommand statement.text with
  | some (.create labels pairs) =>
    (Graph.resolve statement.parameters pairs).map fun values =>
      ⟨labels, Entries.named values⟩
  | _ => none

namespace Node

variable {node after : Node}

/-! ## 1.  What is described -/

/-- **The statement of an insertion describes what the node is stored as.** -/
theorem described?_insertStatement (hlabels : ∀ l ∈ node.labels, isName l.toList = true)
    (hnames : node.attributes.PlainNames) :
    ∃ statement, node.insertStatement = .ok statement ∧
      statement.described? = some node.toStored := by
  obtain ⟨statement, pairs, values, hinsert, hread, hresolve, hnamed⟩ :=
    exists_creation hlabels hnames
  refine ⟨statement, hinsert, ?_⟩
  have hdescribed : statement.described? =
      (Graph.resolve statement.parameters pairs).map fun values =>
        ⟨node.labels, Entries.named values⟩ := by
    rw [Statement.described?, hread]
  rw [hdescribed, hresolve, Option.map_some, hnamed]
  rfl

/-! ## 2.  What is hydrated -/

/-- An identity that is a text, if there is one. -/
def HasTextIdentity (node : Node) : Prop := node.identity = .null ∨ ∃ s, node.identity = .text s

theorem hasTextIdentity_hydrate (stored : StoredNode) : (hydrate stored).HasTextIdentity :=
  identityOf_eq _

/-- A text is kept as it is. -/
theorem HasTextIdentity.identityOf_eq (h : node.HasTextIdentity) :
    identityOf node.identity = node.identity := by
  rcases h with hid | ⟨s, hid⟩
  · rw [hid]
    rfl
  · rw [hid]
    rfl

/-- The identity that a node is stored with is its own. -/
theorem storedIdentity_toStored (h : node.attributes.get? identityEntry = none) :
    (node.toStored.properties.get? identityEntry).getD .null = node.identity := by
  rw [toStored, Entries.get?_append_of_eq_none h, ownProperty]
  cases hid : node.isAnonymous with
  | true => exact (isAnonymous_iff.mp hid).symm
  | false =>
    rw [if_neg Bool.false_ne_true]
    rfl

/-- Without the identity the properties of a stored node are the attributes. -/
theorem erase_toStored (h : node.attributes.get? identityEntry = none) :
    node.toStored.properties.erase identityEntry = node.attributes := by
  have hown : (Entries.named node.ownProperty).erase identityEntry = [] := by
    rw [ownProperty]
    cases node.isAnonymous <;> rfl
  rw [toStored, Entries.erase_append_of_eq_none h, hown, List.append_nil]

/-- **What a node is stored as is hydrated to the node.** -/
theorem hydrate_of_toStored (hreserved : node.attributes.get? identityEntry = none)
    (hidentity : node.HasTextIdentity) {raw : StoredNode}
    (hproperties : raw.properties = node.toStored.properties) :
    (hydrate raw).attributes = node.attributes ∧ (hydrate raw).identity = node.identity ∧
      ((hydrate raw).persisted = true ↔ node.identity ≠ .null) := by
  have hstored : (raw.properties.get? identityEntry).getD .null = node.identity := by
    rw [hproperties]
    exact storedIdentity_toStored hreserved
  refine ⟨?_, ?_, ?_⟩
  · change raw.properties.erase identityEntry = node.attributes
    rw [hproperties]
    exact erase_toStored hreserved
  · change identityOf ((raw.properties.get? identityEntry).getD .null) = node.identity
    rw [hstored]
    exact hidentity.identityOf_eq
  · change (!((raw.properties.get? identityEntry).getD .null).isNull) = true ↔ _
    rw [hstored, Bool.not_eq_true', ← Bool.not_eq_true, Value.isNull_iff]

/-- Its labels come back sorted.  The store may return them in any order. -/
theorem labels_hydrate (hnodup : node.labels.Nodup) {raw : StoredNode}
    (hlabels : ∀ l, l ∈ raw.labels ↔ l ∈ node.labels) :
    (hydrate raw).labels.Perm node.labels ∧ (hydrate raw).labels.Pairwise (· < ·) := by
  refine ⟨?_, pairwise_sortLabels raw.labels⟩
  refine (List.perm_ext_iff_of_nodup (nodup_sortLabels raw.labels) hnodup).mpr fun l => ?_
  rw [mem_sortLabels]
  exact hlabels l

/-- A node without an identity is stored as its attributes. -/
theorem properties_toStored (hid : node.isAnonymous = true) :
    node.toStored.properties = node.attributes := by
  rw [toStored, ownProperty, if_pos hid]
  exact List.append_nil _

/-- **A node that has the identity as an attribute is not read back**, whatever it is stored as. -/
theorem attributes_hydrate_ne (hhas : node.has identityEntry = true) {raw : StoredNode}
    (hraw : raw.properties.Distinct) : (hydrate raw).attributes ≠ node.attributes := by
  intro hsame
  have hnone := has_identityEntry_hydrate hraw
  rw [Node.has, hsame] at hnone
  exact Bool.false_ne_true (hnone.symm.trans hhas)

/-! ## 3.  The identity of a node is a text -/

theorem Origin.hasTextIdentity (h : node.Origin) : node.HasTextIdentity := by
  cases h with
  | constructed hgiven h => exact (made_of_ofInputs hgiven h).identity
  | hydrated stored h => exact hasTextIdentity_hydrate stored
  | validated hinput h =>
    obtain ⟨given, hbare, ⟨-, h⟩ | ⟨-, h⟩⟩ := ofValue_eq_ok h
    · exact (made_of_ofInputs (hinput given hbare) h).identity
    · exact (made_of_validated (hinput given hbare) h).1.identity

/-- A call leaves the identity, or gives a text to the node. -/
theorem HasTextIdentity.step (h : node.HasTextIdentity) {call : LifeCall} {moves : List Move}
    {outcome : Except Fault Bool} (htakes : (call.program node).Takes moves (outcome, after)) :
    after.HasTextIdentity := by
  have hkept : after.identity = node.identity → after.HasTextIdentity := by
    intro hidentity
    rw [HasTextIdentity, hidentity]
    exact h
  rcases step_cases htakes with
    ⟨hidentity, -⟩ | ⟨_, -, ⟨-, hinsert⟩ | ⟨identity, _, -, -, hinsert⟩⟩
  · exact hkept hidentity
  · exact hkept (identity_of_sendInsert hinsert)
  · exact Or.inr ⟨identity, identity_of_sendInsert hinsert⟩

end Node

/-- The identity of a node is a text at every moment, if there is one. -/
theorem Life.hasTextIdentity {node later : Node} {happenings : List Happening}
    (h : Life node happenings later) (hnode : node.HasTextIdentity) : later.HasTextIdentity := by
  induction h with
  | ended node => exact hnode
  | lived htakes _ ih => exact ih (hnode.step htakes)

/-! ## 4.  The round trip -/

/-- **When insertion and hydration are inverse.**  Take a node that was made in any way and after
any run of calls, whose labels and attribute names are plain.  Its insertion can be written and
describes a node, and hydrating that node, with its labels in any order, gives back the labels,
sorted.

* If the identity is no attribute of the node, it gives back the attributes in their order and the
  identity as well, and counts as persisted if there is an identity.
* If it is one, then nothing that a store can hold gives back the attributes.  In particular, a node
  that has it as an attribute only comes back without it, and with it as its identity.

The second case is that of a node for which the constructor has overlooked the identity. -/
theorem hydrate_described {origin node : Node} {happenings : List Happening}
    (horigin : origin.Origin) (h : Life origin happenings node)
    (hmoves : ProperMoves (movesOf happenings))
    (hlabels : ∀ l ∈ node.labels, isName l.toList = true)
    (hnames : node.attributes.PlainNames) :
    (∃ statement described, node.insertStatement = .ok statement ∧
      statement.described? = some described ∧
      ∀ raw : StoredNode, raw.properties = described.properties →
        (∀ l, l ∈ raw.labels ↔ l ∈ described.labels) →
        (Node.hydrate raw).labels.Perm node.labels ∧
          (Node.hydrate raw).labels.Pairwise (· < ·) ∧
          (node.has Node.identityEntry = false →
            (Node.hydrate raw).attributes = node.attributes ∧
              (Node.hydrate raw).identity = node.identity ∧
              ((Node.hydrate raw).persisted = true ↔ node.identity ≠ .null)) ∧
          (node.isAnonymous = true →
            (Node.hydrate raw).attributes = node.attributes.erase Node.identityEntry ∧
              (Node.hydrate raw).identity =
                Node.identityOf ((node.attributes.get? Node.identityEntry).getD .null))) ∧
    (node.has Node.identityEntry = true → ∀ raw : StoredNode, raw.properties.Distinct →
      (Node.hydrate raw).attributes ≠ node.attributes) ∧
    (node.has Node.identityEntry = true → origin.has Node.identityEntry = true) ∧
    origin.TakesIdentity := by
  obtain ⟨statement, hinsert, hdescribed⟩ := Node.described?_insertStatement hlabels hnames
  have hsound := h.sound horigin.sound hmoves
  have hidentity := h.hasTextIdentity horigin.hasTextIdentity
  refine ⟨⟨statement, node.toStored, hinsert, hdescribed, fun raw hproperties hraw => ?_⟩,
    fun hhas raw hdistinct => Node.attributes_hydrate_ne hhas hdistinct, hsound.reserved,
    origin.takesIdentity⟩
  obtain ⟨hperm, hsorted⟩ := Node.labels_hydrate hsound.nodup hraw
  refine ⟨hperm, hsorted, fun hapart => ?_, fun hid => ?_⟩
  · have hreserved : node.attributes.get? Node.identityEntry = none :=
      Option.isNone_iff_eq_none.mp (Option.isSome_eq_false_iff.mp hapart)
    exact Node.hydrate_of_toStored hreserved hidentity hproperties
  · rw [Node.properties_toStored hid] at hproperties
    rw [← hproperties]
    exact ⟨rfl, rfl⟩

/-- What is given for a person whose identity stands among the attributes. -/
def aliceInputs : Entries :=
  [(.text "labels", .list [.text "Person"]),
    (.text "attributes", .map [(.text "id", .text "k"), (.text "name", .text "Alice"),
      (.text "nick", .null)])]

/-- The person that is made of it. -/
def alice : Node :=
  { identity := .text "k", labels := ["Person"],
    attributes := [(.text "name", .text "Alice"), (.text "nick", .null)] }

/-- She has become an actor and lost her name. -/
def unnamedActor : Node :=
  { alice with labels := ["Person", "Actor"], attributes := [(.text "nick", .null)] }

theorem properInputs_aliceInputs : Node.ProperInputs aliceInputs := by
  refine Node.properInputs_of_eq_some rfl rfl ?_
  rw [Entries.Distinct]
  decide

theorem life_unnamedActor :
    ∃ happenings, Life alice happenings unnamedActor ∧
      ProperMoves (movesOf happenings) ∧ happenings.map (·.call) =
        [.addLabel (.text "Actor"), .unset (.text "name"), .set (.text "id") (.text "other")] := by
  have hadded : (LifeCall.program (.addLabel (.text "Actor")) alice).Takes [] (.ok true, _) :=
    .done _
  have hremoved : (LifeCall.program (.unset (.text "name"))
      { alice with labels := ["Person", "Actor"] }).Takes [] (.ok true, unnamedActor) := .done _
  -- She cannot be given another identity.
  have hrefused : (LifeCall.program (.set (.text "id") (.text "other")) unnamedActor).Takes []
      (.error .reservedKey, unnamedActor) := .done _
  exact ⟨_, .lived hadded (.lived hremoved (.lived hrefused (.ended _))),
    properMoves_of_nodes_eq_nil rfl, rfl⟩

/-- A store returns her labels in another order than they are written. -/
theorem hydrate_described_alice :
    Node.ofInputs aliceInputs = .ok alice ∧
      (∃ happenings, Life alice happenings unnamedActor) ∧
      ∃ statement described, unnamedActor.insertStatement = .ok statement ∧
        statement.text = "CREATE (n:Person:Actor \x7bnick: $p1, id: $id\x7d) RETURN n" ∧
        statement.described? = some described ∧ described.labels = ["Person", "Actor"] ∧
        (Node.hydrate ⟨["Actor", "Person"], described.properties⟩).attributes =
          [(.text "nick", .null)] ∧
        (Node.hydrate ⟨["Actor", "Person"], described.properties⟩).identity = .text "k" ∧
        (Node.hydrate ⟨["Actor", "Person"], described.properties⟩).persisted = true := by
  have hmade : Node.ofInputs aliceInputs = .ok alice := rfl
  obtain ⟨happenings, hlife, hmoves, -⟩ := life_unnamedActor
  have hlabels : ∀ l ∈ unnamedActor.labels, isName l.toList = true := by decide
  have hnames : unnamedActor.attributes.PlainNames := by
    intro e he
    obtain rfl := List.mem_singleton.mp he
    exact ⟨"nick", rfl, by decide⟩
  have htext : unnamedActor.insertStatement.toOption.map Statement.text =
      some "CREATE (n:Person:Actor \x7bnick: $p1, id: $id\x7d) RETURN n" := by decide +kernel
  have hwritten : (unnamedActor.insertStatement.toOption.bind Statement.described?).map
      StoredNode.labels = some ["Person", "Actor"] := by decide +kernel
  obtain ⟨⟨statement, described, hinsert, hdescribed, hread⟩, -⟩ :=
    hydrate_described (.constructed properInputs_aliceInputs hmade) hlife hmoves hlabels hnames
  rw [hinsert] at htext hwritten
  have hfound : described.labels = ["Person", "Actor"] := by
    change (statement.described?).map StoredNode.labels = _ at hwritten
    rw [hdescribed] at hwritten
    exact Option.some.inj hwritten
  have hreordered : ∀ l, l ∈ ["Actor", "Person"] ↔ l ∈ described.labels := by
    rw [hfound]
    simp [or_comm]
  obtain ⟨-, -, hfull, -⟩ := hread ⟨["Actor", "Person"], described.properties⟩ rfl hreordered
  obtain ⟨hattributes, hidentity, hpersisted⟩ := hfull rfl
  exact ⟨hmade, ⟨happenings, hlife⟩, statement, described, hinsert, Option.some.inj htext,
    hdescribed, hfound, hattributes, hidentity, hpersisted.mpr (by simp [unnamedActor, alice])⟩

/-- **What was inserted can be read back as another node.**  A person for whom the constructor has
left the identity among the attributes is inserted with it, and comes back without that attribute
and with an identity. -/
theorem identity_not_read_back :
    Node.ofInputs overlookedView = .ok overlooked ∧
      ∃ statement described, overlooked.insertStatement = .ok statement ∧
        statement.text = "CREATE (n:Person \x7bid: $p1\x7d) RETURN n" ∧
        statement.described? = some described ∧
        overlooked.attributes = [(.text "id", .text "x")] ∧ overlooked.identity = .null ∧
        (Node.hydrate described).attributes = [] ∧
        (Node.hydrate described).identity = .text "x" :=
  ⟨rfl, _, ⟨["Person"], [(.text "id", .text "x")]⟩, rfl, rfl, rfl, rfl, rfl, rfl, rfl⟩

end GraphMapper
