import GraphMapper.Proofs.Builder.Finding
import GraphMapper.Proofs.Builder.Rows
import GraphMapper.Proofs.Node.Life
import GraphMapper.Proofs.Reading.Assignments

/-!
# The name of the identity

The identity of a node is stored as a property, and no update may assign it.  Every place that
takes names refuses that one, by comparing texts.  But names are written into statements, and what
counts there is what a store reads: the line feed that may stand at the end of an accepted name is
a blank.  So there is one accepted name that is not the name of the identity and is read as it,
`identityAlias`, and there is no other (`readName_eq_iff`).

The name of the identity itself is written too if it is among the properties.  Among the changes of
an accepted update of a query it never is.  Among the attributes of a node it is only if the
constructor has left it there, because no call puts it there (`Node.Sound.reserved`).

* `ReadAs`: properties that were written, as they are read back.  `readAs_of_bindProperties` says it
  of the loop that all statements share.
* `Query.Keeps.readRevision_updateStatement`: what an accepted update of a query is read as.
* `Node.read_updateStatement`, `Node.read_insertStatement`: what the statements of a node are read
  as.

`identity_assigned_iff` collects these.
-/

namespace GraphMapper

/-! ## 1.  Properties as they are read -/

/-- The other name that a store reads as that of the identity. -/
def identityAlias : String := identityKey ++ "\n"

/-- Properties that were written with placeholders, as a store reads them: in order, each under its
name as it is read, and under the name of the identity what was given under it and under the alias,
and nothing else. -/
structure ReadAs (properties : Entries) (entries : List (String × String)) : Prop where
  names : ∃ keys : List String,
    properties.map Prod.fst = keys.map Key.text ∧ entries.map Prod.fst = keys.map readName
  identity : identityKey ∈ entries.map Prod.fst ↔
    properties.has Node.identityEntry = true ∨ properties.has (.text identityAlias) = true

/-- The name of the identity and the alias are read as it, and no other name is. -/
theorem count_map_readName (keys : List String) :
    (keys.map readName).count identityKey = keys.count identityKey + keys.count identityAlias := by
  have hplain : isName identityKey.toList = true := by decide
  have hdifferent : identityAlias ≠ identityKey := by decide
  induction keys with
  | nil => rfl
  | cons key rest ih =>
    have hread : readName key = identityKey ↔ key = identityKey ∨ key = identityAlias :=
      readName_eq_iff hplain
    rw [List.map_cons, List.count_cons, List.count_cons, List.count_cons, ih]
    simp only [beq_iff_eq, hread]
    by_cases hid : key = identityKey
    · have hnot : ¬ key = identityAlias := fun halias => hdifferent (halias.symm.trans hid)
      rw [if_pos (Or.inl hid), if_pos hid, if_neg hnot]
      omega
    · by_cases halias : key = identityAlias
      · rw [if_pos (Or.inr halias), if_neg hid, if_pos halias]
        omega
      · rw [if_neg fun heither => heither.elim hid halias, if_neg hid, if_neg halias]
        omega

/-- **The binding loop writes what is read as the properties.** -/
theorem readAs_of_bindProperties {binding : Binding} {properties : Entries}
    {pairs : List (String × String)}
    (hstem : ∀ c ∈ binding.allocator.stem.toList, isNameChar c = true)
    (h : (bindProperties binding properties).1 = .ok pairs) :
    (∀ pair ∈ pairs, AcceptedEntry pair) ∧ ReadAs properties (pairs.map readEntry) := by
  obtain ⟨keys, hlength, hkeys, haccepted, rfl, -⟩ := bindProperties_eq_ok h
  have hnames : ((keys.zip (binding.allocator.names properties.length)).map readEntry).map
      Prod.fst = keys.map readName := by
    have hfst : (keys.zip (binding.allocator.names properties.length)).map Prod.fst = keys :=
      List.map_fst_zip (Nat.le_of_eq (hlength.trans (Allocator.length_names ..).symm))
    rw [List.map_map, ← congrArg (List.map readName) hfst, List.map_map]
    rfl
  refine ⟨fun pair hpair => ?_, ⟨keys, hkeys, hnames⟩, ?_⟩
  · obtain ⟨hkey, hname⟩ := List.of_mem_zip hpair
    exact ⟨haccepted _ hkey, Allocator.isNameChar_of_mem_names hstem hname,
      Allocator.ne_empty_of_mem_names hname⟩
  · rw [hnames, ← List.count_pos_iff, count_map_readName, Nat.add_pos_iff_pos_or_pos,
      List.count_pos_iff, List.count_pos_iff, ← Entries.has_text_iff hkeys,
      ← Entries.has_text_iff hkeys]
    rfl

/-- Of properties without repetitions at most two are read as the identity. -/
theorem ReadAs.count_eq {properties : Entries} {entries : List (String × String)}
    (h : ReadAs properties entries) (hdistinct : properties.Distinct) :
    (entries.map Prod.fst).count identityKey =
      (properties.has Node.identityEntry).toNat +
        (properties.has (.text identityAlias)).toNat := by
  obtain ⟨keys, hkeys, hnames⟩ := h.names
  have hdifferent : (keys.map Key.text).Nodup := by
    rw [← hkeys]
    refine List.pairwise_map.mpr (hdistinct.imp fun hother hsame => ?_)
    rw [hsame, Key.same_self] at hother
    exact Bool.false_ne_true hother.symm
  have hnodup : keys.Nodup :=
    List.Pairwise.of_map Key.text (fun _ _ => mt (congrArg Key.text)) hdifferent
  have hcount (name : String) : keys.count name = (properties.has (.text name)).toNat := by
    rw [hnodup.count]
    by_cases hmem : name ∈ keys
    · rw [if_pos hmem, (Entries.has_text_iff hkeys).mpr hmem]
      rfl
    · have habsent : properties.has (.text name) = false := by
        rw [← Bool.not_eq_true, Entries.has_text_iff hkeys]
        exact hmem
      rw [if_neg hmem, habsent]
      rfl
  rw [hnames, count_map_readName, hcount, hcount]
  rfl

/-! ## 2.  Updates of a query -/

namespace Query.Keeps

variable {query : Query} {requirements : List Requirement}

/-- **An accepted update is read as the changes that were given**, and the identity is not one of
them under its own name. -/
theorem readRevision_updateStatement (h : query.Keeps requirements) {attributes : Value}
    {statement : Statement} (hupdate : (query.updateStatement attributes).1 = .ok statement) :
    ∃ changes revision, attributes.bare = .map changes ∧
      Entries.has changes Node.identityEntry = false ∧
      readRevision statement.text = some revision ∧ ReadAs changes revision.entries := by
  have hok : (query.updateStatement attributes).1.isOk = true := by
    rw [hupdate]
    rfl
  obtain ⟨hne, -⟩ := (h.isOk_updateStatement_iff attributes).mp hok
  rw [updateStatement, guardMutation_of_ne_nil hne] at hupdate
  obtain ⟨changes, hbare, -, hreserved, hread⟩ | ⟨-, fault, -, hread⟩ :=
    readChanges_cases attributes
  · rw [hread] at hupdate
    obtain ⟨rows, assignments, hrows, hset, rfl⟩ := bindChanges_eq_ok hupdate
    obtain ⟨pairs, hpairs, hassignments⟩ := exists_of_bind_eq_ok hset
    obtain rfl := Except.ok.inj hassignments
    obtain rfl := Except.ok.inj ((h.rows_eq variableName).symm.trans hrows)
    obtain ⟨haccepted, hreadAs⟩ := readAs_of_bindProperties h.stem hpairs
    exact ⟨changes, _, hbare, hreserved,
      readRevision_revisionText h.labels (fun condition => h.readable) haccepted, hreadAs⟩
  · rw [hread] at hupdate
    exact absurd hupdate (by simp)

end Query.Keeps

/-! ## 3.  Statements of a node -/

namespace Node

variable {node : Node}

/-- **An update of a node is read as its attributes.** -/
theorem read_updateStatement {statement : Statement}
    (hupdate : node.updateStatement = .ok statement) :
    ∃ entries, readNodeCommand statement.text = some (.change identityKey entries) ∧
      ReadAs node.attributes entries := by
  obtain ⟨pairs, hpairs, htext⟩ := updateStatement_eq_ok hupdate
  obtain ⟨haccepted, hreadAs⟩ :=
    readAs_of_bindProperties Allocator.isNameChar_of_mem_stem hpairs
  rw [htext]
  exact ⟨_, readNodeCommand_change_of_accepted haccepted, hreadAs⟩

/-- **An insertion of a node is read as its attributes and after them its identity**, under which
the identity is bound. -/
theorem read_insertStatement {statement : Statement}
    (hinsert : node.insertStatement = .ok statement) :
    ∃ labels entries,
      readNodeCommand statement.text = some (.create labels (entries ++ node.ownPair)) ∧
      ReadAs node.attributes entries := by
  obtain ⟨pairs, hpairs, hlabels, htext⟩ := insertStatement_eq_ok hinsert
  obtain ⟨haccepted, hreadAs⟩ :=
    readAs_of_bindProperties Allocator.isNameChar_of_mem_stem hpairs
  have hall : ∀ pair ∈ pairs ++ node.ownPair, AcceptedEntry pair := fun pair hpair =>
    (List.mem_append.mp hpair).elim (haccepted pair) fun hown => (plainEntry_ownPair hown).accepted
  have hown : node.ownPair.map readEntry = node.ownPair :=
    map_readEntry_of_plain fun _ => plainEntry_ownPair
  refine ⟨node.labels.map readName, pairs.map readEntry, ?_, hreadAs⟩
  rw [htext, readNodeCommand_creation_of_accepted hlabels hall, List.map_append, hown]

end Node

/-- **When the identity is assigned.**

* An update of a query that is accepted after any calls, refused ones included, is read as the
  changes that were given.  The identity is among them exactly if the alias was given.
* An update of a node, at any moment of its life, is read as its attributes.  The identity is among
  them exactly if it or the alias is an attribute.
* An insertion of a node is read as its attributes, of which again only the identity and the alias
  are read as the identity, and after them the identity of the node, if it has one, whose
  placeholder stands for it.
* The identity is an attribute only of a node for which the constructor has overlooked it. -/
theorem identity_assigned_iff {given : List Value} {fresh : Query} {origin node : Node}
    {happenings : List Happening} (h : Query.ofLabels given = .ok fresh)
    (horigin : origin.Origin) (hlife : Life origin happenings node)
    (hmoves : ProperMoves (movesOf happenings)) :
    (∀ (calls : List FamilyCall) (attributes : Value) (statement : Statement),
      (((Family.mk fresh []).afterCalls calls).source.updateStatement attributes).1 =
          .ok statement →
        ∃ changes revision, attributes.bare = .map changes ∧
          Entries.has changes Node.identityEntry = false ∧
          readRevision statement.text = some revision ∧ ReadAs changes revision.entries) ∧
    (∀ statement, node.updateStatement = .ok statement →
      ∃ entries, readNodeCommand statement.text = some (.change identityKey entries) ∧
        ReadAs node.attributes entries) ∧
    (∀ statement, node.insertStatement = .ok statement →
      ∃ labels entries,
        readNodeCommand statement.text = some (.create labels (entries ++ node.ownPair)) ∧
        ReadAs node.attributes entries ∧
        (entries.map Prod.fst).count identityKey =
          (node.has Node.identityEntry).toNat + (node.has (.text identityAlias)).toNat ∧
        statement.parameters.get? Node.identityEntry =
          if node.isAnonymous then none else some node.identity) ∧
    (node.has Node.identityEntry = true → origin.has Node.identityEntry = true) ∧
    origin.TakesIdentity := by
  have hsound := hlife.sound horigin.sound hmoves
  refine ⟨fun calls attributes statement hupdate => ?_,
    fun statement hupdate => Node.read_updateStatement hupdate, fun statement hinsert => ?_,
    hsound.reserved, origin.takesIdentity⟩
  · exact (Family.keeps_afterCalls h calls).source.readRevision_updateStatement hupdate
  · obtain ⟨labels, entries, hread, hreadAs⟩ := Node.read_insertStatement hinsert
    exact ⟨labels, entries, hread, hreadAs, hreadAs.count_eq hsound.distinct,
      Node.get?_insertStatement hinsert⟩

/-- The people with a name, as a query finds them. -/
def peopleNamed (name : String) : Query :=
  ((Family.mk { labels := ["Person"] } []).afterCalls
    [.onSource (.«where» (.text "name") (.text name) none)]).source

/-- An update of the age assigns no identity.  A person with an identity is inserted under that one
and no other. -/
theorem identity_assigned_iff_plain :
    (∃ statement revision,
      ((peopleNamed "Alice").updateStatement (.map [(.text "age", .int 40)])).1 = .ok statement ∧
        readRevision statement.text = some revision ∧ identityKey ∉ revision.assigned) ∧
    ∃ statement labels entries, (nameless.under "k").insertStatement = .ok statement ∧
      readNodeCommand statement.text =
        some (.create labels (entries ++ [(identityKey, identityKey)])) ∧
      identityKey ∉ entries.map Prod.fst ∧
      statement.parameters.get? Node.identityEntry = some (.text "k") := by
  have hfresh : Query.ofLabels [.text "Person"] = .ok { labels := ["Person"] } := rfl
  have hsaved : (LifeCall.program (.store (.save true)) nameless).Takes _ (.ok true, _) :=
    .draw "k" (.send (.ok ⟨[.null]⟩) (.done _))
  have hlife := Life.lived hsaved (.ended _)
  obtain ⟨hquery, -, hnode, -, -⟩ := identity_assigned_iff hfresh origin_nameless hlife
    (properMoves_of_nodes_eq_nil rfl)
  constructor
  · obtain ⟨changes, revision, hbare, -, hread, hreadAs⟩ :=
      hquery [.onSource (.«where» (.text "name") (.text "Alice") none)]
        (.map [(.text "age", .int 40)]) _ rfl
    refine ⟨_, revision, rfl, hread, fun hassigned => ?_⟩
    have hhas := hreadAs.identity.mp hassigned
    rw [← Value.map.inj hbare] at hhas
    exact absurd hhas (by decide)
  · obtain ⟨labels, entries, hread, hreadAs, -, hbound⟩ := hnode _ rfl
    refine ⟨_, labels, entries, rfl, hread, fun hwritten => ?_, hbound⟩
    have hhas := hreadAs.identity.mp hwritten
    exact absurd hhas (by decide)

/-- **An accepted update can assign the identity**: the name ends in a line feed, which is let
through, and a store does not take it for a part of the name.  A node accepts the attribute as well,
and is then inserted with two identities. -/
theorem identity_reassigned :
    (∃ statement,
      ((peopleNamed "Alice").updateStatement (.map [(.text "id\n", .text "x")])).1 =
          .ok statement ∧
        statement.text =
          "MATCH (n:Person) WHERE n.name = $p1 SET n.id\n = $p2 RETURN count(n) AS updated" ∧
        (readRevision statement.text).map Revision.assigned = some ["id"]) ∧
    ∃ node update insert, (nameless.under "k").set (.text "id\n") (.text "x") = .ok node ∧
      node.updateStatement = .ok update ∧
      readNodeCommand update.text = some (.change "id" [("id", "p1")]) ∧
      node.insertStatement = .ok insert ∧
      readNodeCommand insert.text = some (.create ["Person"] [("id", "p1"), ("id", "id")]) :=
  ⟨⟨_, rfl, rfl, by decide +kernel⟩, _, _, _, rfl, rfl, by decide +kernel, rfl, by decide +kernel⟩

end GraphMapper
