import GraphMapper.Node.Construct
import GraphMapper.Node.Statements
import GraphMapper.Proofs.Graph.Store
import GraphMapper.Proofs.Placeholder.Binding

/-!
# What a store makes of a node

The statements of a node, as a faithful store executes them.  The names are plain, the values are
not null and the identities are texts; then every statement can be compiled, is understood, and
does what it is for.

* `answer_insertStatement`: insertion appends the node itself, with all its labels and attributes.
* `answer_updateStatement`: an update writes the attributes to every node that carries the
  identity.  It neither adds a label nor removes anything.
* `answer_refreshStatement`: refreshing changes nothing and finds these nodes.
-/

namespace GraphMapper

/-! ## 1.  Plain properties -/

/-- Every key is a plain name. -/
def Entries.PlainNames (entries : Entries) : Prop :=
  ∀ e ∈ entries, ∃ name, e.1 = .text name ∧ isName name.toList = true

/-- Properties as a store can hold them: each under a plain name, none twice, none null. -/
structure Entries.Plain (entries : Entries) : Prop where
  distinct : entries.Distinct
  name : ∀ e ∈ entries, ∃ name, e.1 = .text name ∧ isName name.toList = true
  value : ∀ e ∈ entries, e.2.bare.isNull = false

namespace Entries

theorem plain_nil : Plain [] :=
  ⟨distinct_nil, fun _ h => absurd h List.not_mem_nil, fun _ h => absurd h List.not_mem_nil⟩

namespace Plain

variable {entries : Entries}

theorem put (h : entries.Plain) {name : String} {value : Value}
    (hname : isName name.toList = true) (hvalue : value.bare.isNull = false) :
    (entries.put (.text name) value).Plain where
  distinct := h.distinct.put _ _
  name e he := by
    rcases mem_put he with hkey | ⟨f, hf, hkey⟩
    · exact ⟨name, hkey, hname⟩
    · rw [← hkey]
      exact h.name f hf
  value e he := by
    rcases value_of_mem_put he with hv | he
    · rw [hv]
      exact hvalue
    · exact h.value e he

theorem erase (h : entries.Plain) (key : Key) : (entries.erase key).Plain where
  distinct := h.distinct.erase key
  name e he := h.name e ((erase_sublist entries key).subset he)
  value e he := h.value e ((erase_sublist entries key).subset he)

theorem merge (h : entries.Plain) {new : Entries} (hnew : new.Plain) :
    (entries.merge new).Plain := by
  induction new generalizing entries with
  | nil => exact h
  | cons e rest ih =>
    obtain ⟨name, hkey, hname⟩ := hnew.name e List.mem_cons_self
    have hrest : Plain rest :=
      ⟨(List.pairwise_cons.mp hnew.distinct).2,
        fun f hf => hnew.name f (List.mem_cons_of_mem _ hf),
        fun f hf => hnew.value f (List.mem_cons_of_mem _ hf)⟩
    have hput : (entries.put e.1 e.2).Plain := by
      rw [hkey]
      exact h.put hname (hnew.value e List.mem_cons_self)
    exact ih hput hrest

end Plain

end Entries

/-- What binding makes of properties with plain names: pairs that can be read back, whose
placeholders stand for the values. -/
structure Bound (properties start final : Entries) (pairs : List (String × String))
    (values : List (String × Value)) : Prop where
  plain : ∀ pair ∈ pairs, PlainEntry pair
  named : Entries.named values = properties
  resolved : Graph.resolve final pairs = some values
  identity : final.get? Node.identityEntry = start.get? Node.identityEntry

theorem named_zip {properties : Entries} {keys : List String}
    (h : properties.map (·.1) = keys.map .text) :
    Entries.named (keys.zip (properties.map (·.2))) = properties := by
  induction properties generalizing keys with
  | nil => rw [List.map_nil, List.zip_nil_right]; rfl
  | cons property rest ih =>
    cases keys with
    | nil => exact absurd h (List.cons_ne_nil _ _)
    | cons key keys =>
      rw [List.map_cons, List.map_cons, List.cons.injEq] at h
      have hrest := ih h.2
      rw [List.map_cons, List.zip_cons_cons]
      exact congrArg₂ List.cons (Prod.ext h.1.symm rfl) hrest

/-- Plain names with the placeholders of an allocator can be read back. -/
theorem plainEntry_of_mem_zip {keys : List String} {n : ℕ} {pair : String × String}
    (hkeys : ∀ key ∈ keys, isName key.toList = true)
    (h : pair ∈ keys.zip (({} : Allocator).names n)) : PlainEntry pair := by
  obtain ⟨hkey, hname⟩ := List.of_mem_zip h
  exact ⟨hkeys _ hkey, Allocator.isNameChar_of_mem_names Allocator.isNameChar_of_mem_stem hname,
    Allocator.ne_empty_of_mem_names hname⟩

/-- The texts that the keys are, if the keys are plain names. -/
theorem Entries.PlainNames.isName_of_mem {properties : Entries} (h : properties.PlainNames)
    {keys : List String} (hkeys : properties.map (·.1) = keys.map .text) {key : String}
    (hkey : key ∈ keys) : isName key.toList = true := by
  have hmem : Key.text key ∈ properties.map (·.1) := by
    rw [hkeys]
    exact List.mem_map_of_mem hkey
  obtain ⟨e, he, htext⟩ := List.mem_map.mp hmem
  obtain ⟨name, hname, hplain⟩ := h e he
  rw [htext, Key.text.injEq] at hname
  rwa [hname]

/-- **Properties with plain names can be bound, and a store reads them back.** -/
theorem exists_bound {properties : Entries} (h : properties.PlainNames) (start : Entries) :
    ∃ pairs values, (bindProperties ⟨{}, start⟩ properties).1 = .ok pairs ∧
      Bound properties start (bindProperties ⟨{}, start⟩ properties).2.parameters pairs values := by
  have haccepted : ∀ e ∈ properties, ∃ name, e.1 = .text name ∧ isIdentifier name = true := by
    intro e he
    obtain ⟨name, hkey, hname⟩ := h e he
    exact ⟨name, hkey, isIdentifier_of_isName hname⟩
  obtain ⟨pairs, hpairs⟩ := exists_bindProperties_eq_ok ⟨{}, start⟩ haccepted
  obtain ⟨keys, -, hkeys, -, rfl, hfinal⟩ := bindProperties_eq_ok hpairs
  refine ⟨_, keys.zip (properties.map (·.2)), hpairs, fun pair hpair => ?_, named_zip hkeys,
    ?_, ?_⟩
  · exact plainEntry_of_mem_zip (fun key hkey => h.isName_of_mem hkeys hkey) hpair
  · rw [hfinal]
    refine Graph.resolve_zip ?_
    have hbound := Binding.map_get?_bindAll ⟨{}, start⟩ (properties.map (·.2))
    rwa [List.length_map] at hbound
  · exact get?_bindProperties_of_ne _ _ (Allocator.nameAt_ne rfl (by decide))

/-! ## 2.  Plain nodes -/

/-- A stored node with plain labels and properties, whose identity is a text if it has one. -/
structure StoredNode.Plain (node : StoredNode) : Prop where
  labels : ∀ l ∈ node.labels, isName l.toList = true
  properties : node.properties.Plain
  identity : ∀ value, node.properties.get? Node.identityEntry = some value → ∃ s, value = .text s

/-- A store that holds plain nodes only. -/
def Graph.Plain (graph : Graph) : Prop := ∀ node ∈ graph, node.Plain

namespace Node

/-- A node in memory with plain labels and attributes, whose identity is a text if it has one.
The identity is not an attribute, and the stored identity is not another one. -/
structure Plain (node : Node) : Prop where
  labels : ∀ l ∈ node.labels, isName l.toList = true
  nodup : node.labels.Nodup
  attributes : node.attributes.Plain
  reserved : node.attributes.get? identityEntry = none
  identity : node.identity = .null ∨ ∃ s, node.identity = .text s
  stored : node.storedIdentity = .null ∨ node.storedIdentity = node.identity
  persisted : node.persisted = true → node.isAnonymous = false

variable {node : Node}

/-- Only null is no identity. -/
theorem isAnonymous_iff : node.isAnonymous = true ↔ node.identity = .null := by
  rw [isAnonymous]
  cases node.identity <;> simp [Value.isNull]

/-- An identity that is not null is a text. -/
theorem Plain.exists_identity (h : node.Plain) (hid : node.isAnonymous = false) :
    ∃ s, node.identity = .text s := by
  rw [← Bool.not_eq_true, isAnonymous_iff] at hid
  exact h.identity.resolve_left hid

/-- A plain node is matched by its identity. -/
theorem Plain.identityValue (h : node.Plain) : node.identityValue = node.identity := by
  rw [Node.identityValue]
  rcases h.stored with hstored | hstored
  · rw [hstored]
  · rw [hstored]
    rcases h.identity with hid | ⟨s, hid⟩
    · rw [hid]
    · rw [hid]
      exact ite_self _

/-- The identity as a property, if there is one. -/
def ownProperty (node : Node) : List (String × Value) :=
  if node.isAnonymous then [] else [(identityKey, node.identity)]

/-- The identity with its placeholder, if there is one. -/
def ownPair (node : Node) : List (String × String) :=
  if node.isAnonymous then [] else [(identityKey, identityKey)]

/-- The stored node that a node describes: its labels, its attributes, and after them its
identity. -/
def toStored (node : Node) : StoredNode :=
  ⟨node.labels, node.attributes ++ Entries.named node.ownProperty⟩

/-- A node is stored with plain properties. -/
theorem Plain.properties_toStored (h : node.Plain) : node.toStored.properties.Plain := by
  rw [toStored, ownProperty]
  cases hid : node.isAnonymous with
  | true =>
    rw [if_pos rfl]
    change (node.attributes ++ []).Plain
    rw [List.append_nil]
    exact h.attributes
  | false =>
    obtain ⟨s, hs⟩ := h.exists_identity hid
    rw [if_neg Bool.false_ne_true, hs]
    change (node.attributes ++ [(identityEntry, Value.text s)]).Plain
    rw [← Entries.put_of_get?_eq_none h.reserved]
    exact h.attributes.put (by decide) rfl

/-- The properties that a node is stored with: its identity and its attributes. -/
theorem Plain.get?_toStored (h : node.Plain) (key : Key) :
    node.toStored.properties.get? key =
      if key = identityEntry ∧ node.isAnonymous = false then some node.identity
      else node.attributes.get? key := by
  rw [toStored, ownProperty]
  cases hid : node.isAnonymous with
  | true =>
    rw [if_pos rfl, if_neg (fun hkey => Bool.false_ne_true hkey.2.symm)]
    exact congrArg (Entries.get? · key) (List.append_nil _)
  | false =>
    rw [if_neg Bool.false_ne_true]
    change (node.attributes ++ [(identityEntry, node.identity)]).get? key = _
    rw [← Entries.put_of_get?_eq_none h.reserved, Entries.get?_put]
    by_cases hkey : key = identityEntry
    · rw [hkey, if_pos (Key.same_self _), if_pos ⟨rfl, rfl⟩]
    · have hsame : ¬ identityEntry.same key = true := fun hsame =>
        hkey (Key.same_text_left_iff.mp hsame)
      rw [if_neg hsame, if_neg (fun hboth => hkey hboth.1)]

/-- What a plain node is stored as is plain. -/
theorem Plain.toStored (h : node.Plain) : node.toStored.Plain where
  labels := h.labels
  properties := h.properties_toStored
  identity value hvalue := by
    rw [h.get?_toStored, h.reserved] at hvalue
    by_cases hid : node.isAnonymous = false
    · rw [if_pos ⟨rfl, hid⟩] at hvalue
      obtain ⟨s, hs⟩ := h.exists_identity hid
      exact ⟨s, (Option.some.inj hvalue).symm.trans hs⟩
    · rw [if_neg (fun hboth => hid hboth.2)] at hvalue
      exact absurd hvalue (by simp)

end Node

/-- A stored node with attributes written over its properties. -/
def StoredNode.merge (attributes : Entries) (node : StoredNode) : StoredNode :=
  { node with properties := node.properties.merge attributes }

/-- A store with attributes written to every node that carries an identity. -/
def Graph.merge (graph : Graph) (identity : Value) (attributes : Entries) : Graph :=
  graph.map fun node => if node.carries identity then node.merge attributes else node

/-! ## 3.  Answers to the statements of a node -/

/-- Assigning plain properties is writing them. -/
theorem assignAll_of_plain {attributes : Entries} (h : attributes.Plain)
    {values : List (String × Value)} (hvalues : Entries.named values = attributes)
    (properties : Entries) : properties.assignAll values = properties.merge attributes := by
  have hpresent : ∀ e ∈ values, e.2.bare.isNull = false := fun e he =>
    h.value (.text e.1, e.2) (by rw [← hvalues]; exact List.mem_map_of_mem he)
  rw [Entries.assignAll_eq_merge hpresent, hvalues]

theorem assign_eq_merge {attributes : Entries} (h : attributes.Plain)
    {values : List (String × Value)} (hvalues : Entries.named values = attributes)
    (node : StoredNode) : node.assign values = node.merge attributes := by
  rw [StoredNode.assign, StoredNode.merge, assignAll_of_plain h hvalues]

@[simp] theorem StoredNode.merge_nil (node : StoredNode) : node.merge [] = node := rfl

@[simp] theorem Graph.merge_nil (graph : Graph) (identity : Value) :
    graph.merge identity [] = graph := by
  rw [Graph.merge]
  simp

/-- A change assigns what its placeholders stand for. -/
theorem Graph.execute_change {parameters attributes : Entries} {identity : Value}
    {pairs : List (String × String)} {values : List (String × Value)}
    (hid : parameters.get? Node.identityEntry = some identity)
    (hvalues : Graph.resolve parameters pairs = some values) (hplain : attributes.Plain)
    (hnamed : Entries.named values = attributes) (graph : Graph) :
    graph.execute parameters (.change identityKey pairs) =
      some (graph.merge identity attributes,
        (graph.filter (·.carries identity)).map (·.merge attributes)) := by
  have hid' : parameters.get? (.text identityKey) = some identity := hid
  rw [Graph.execute, hid', hvalues]
  change some (graph.map fun node => if node.carries identity then node.assign values else node,
    (graph.filter (·.carries identity)).map (·.assign values)) = _
  simp only [assign_eq_merge hplain hnamed]
  rfl

/-- An insertion binds the attributes and writes the identity after them. -/
theorem insertStatement_eq_bind (node : Node) :
    node.insertStatement = (do
      let properties ←
        (bindProperties ⟨{}, Entries.named node.ownProperty⟩ node.attributes).1.map fun entries =>
          inlineMap (entries ++ node.ownPair)
      let labels ← labelFragment (node.labels.map .text)
      return ⟨"CREATE (n" ++ labels ++ properties ++ ") RETURN n",
        (bindProperties ⟨{}, Entries.named node.ownProperty⟩ node.attributes).2.parameters⟩) := by
  rw [Node.insertStatement, Node.ownProperty, Node.ownPair]
  cases node.isAnonymous <;> rfl

/-- The text of an insertion: the identity stands after the attributes. -/
theorem insertStatement_eq {node : Node} (h : ∀ l ∈ node.labels, isName l.toList = true)
    {pairs : List (String × String)}
    (hpairs : (bindProperties ⟨{}, Entries.named node.ownProperty⟩ node.attributes).1 = .ok pairs) :
    node.insertStatement = .ok ⟨creationText node.labels (pairs ++ node.ownPair),
      (bindProperties ⟨{}, Entries.named node.ownProperty⟩ node.attributes).2.parameters⟩ := by
  have hlabels : labelFragment (node.labels.map .text) = .ok (Fault.labelsText node.labels) :=
    labelFragment_map_text fun l hl => isIdentifier_of_isName (h l hl)
  rw [insertStatement_eq_bind, hpairs, hlabels]
  rfl

/-- **The statement of an insertion, when it can be written.** -/
theorem insertStatement_eq_ok {node : Node} {statement : Statement}
    (h : node.insertStatement = .ok statement) :
    ∃ pairs,
      (bindProperties ⟨{}, Entries.named node.ownProperty⟩ node.attributes).1 = .ok pairs ∧
      (∀ l ∈ node.labels, isIdentifier l = true) ∧
      statement.text = creationText node.labels (pairs ++ node.ownPair) := by
  rw [insertStatement_eq_bind] at h
  obtain ⟨properties, hproperties, h⟩ := exists_of_bind_eq_ok h
  obtain ⟨pairs, hpairs, hinline⟩ := exists_of_bind_eq_ok hproperties
  obtain ⟨labels, hlabels, h⟩ := exists_of_bind_eq_ok h
  obtain ⟨rfl, haccepted⟩ := labelFragment_eq_ok hlabels
  obtain rfl := Except.ok.inj hinline
  obtain rfl := Except.ok.inj h
  exact ⟨pairs, hpairs, haccepted, rfl⟩

/-- **The statement of an update, when it can be written.** -/
theorem updateStatement_eq_ok {node : Node} {statement : Statement}
    (h : node.updateStatement = .ok statement) :
    ∃ pairs, (bindProperties ⟨{}, node.matchParameters⟩ node.attributes).1 = .ok pairs ∧
      statement.text = changeText pairs := by
  rw [Node.updateStatement] at h
  split at h
  · exact absurd h (by simp)
  · obtain ⟨assignments, hset, h⟩ := exists_of_bind_eq_ok h
    obtain ⟨pairs, hpairs, hassignments⟩ := exists_of_bind_eq_ok hset
    obtain rfl := Except.ok.inj hassignments
    obtain rfl := Except.ok.inj h
    exact ⟨pairs, hpairs, rfl⟩

/-- The placeholder of the identity stands for the identity. -/
theorem resolve_ownPair {node : Node} {parameters : Entries}
    (h : parameters.get? Node.identityEntry =
      (Entries.named node.ownProperty).get? Node.identityEntry) :
    Graph.resolve parameters node.ownPair = some node.ownProperty := by
  rw [Node.ownProperty] at h ⊢
  rw [Node.ownPair]
  cases hid : node.isAnonymous with
  | true => rfl
  | false =>
    rw [hid, if_neg Bool.false_ne_true] at h
    have hbound : parameters.get? (.text identityKey) = some node.identity := h
    rw [if_neg Bool.false_ne_true, if_neg Bool.false_ne_true, Graph.resolve, List.mapM_cons,
      hbound]
    rfl

theorem plainEntry_ownPair {node : Node} {pair : String × String} (h : pair ∈ node.ownPair) :
    PlainEntry pair := by
  rw [Node.ownPair] at h
  cases hid : node.isAnonymous with
  | true =>
    rw [hid, if_pos rfl] at h
    exact absurd h List.not_mem_nil
  | false =>
    rw [hid, if_neg Bool.false_ne_true, List.mem_singleton] at h
    rw [h]
    exact ⟨by decide, List.all_eq_true.mp (by decide), by decide⟩

/-- **The text of an insertion is read as the creation of the node**: with its labels, and with the
properties that it is stored with. -/
theorem exists_creation {node : Node} (hlabels : ∀ l ∈ node.labels, isName l.toList = true)
    (hnames : node.attributes.PlainNames) :
    ∃ statement pairs values, node.insertStatement = .ok statement ∧
      readNodeCommand statement.text = some (.create node.labels pairs) ∧
      Graph.resolve statement.parameters pairs = some values ∧
      Entries.named values = node.toStored.properties := by
  obtain ⟨pairs, values, hpairs, hbound⟩ :=
    exists_bound hnames (Entries.named node.ownProperty)
  have hplain : ∀ pair ∈ pairs ++ node.ownPair, PlainEntry pair := fun pair hpair =>
    (List.mem_append.mp hpair).elim (hbound.plain pair) plainEntry_ownPair
  have hnamed : Entries.named (values ++ node.ownProperty) = node.toStored.properties := by
    rw [Entries.named, List.map_append]
    exact congrArg (· ++ _) hbound.named
  exact ⟨_, _, _, insertStatement_eq hlabels hpairs, readNodeCommand_creation hlabels hplain,
    Graph.resolve_append hbound.resolved (resolve_ownPair hbound.identity), hnamed⟩

/-- **Insertion appends the node itself.** -/
theorem answer_insertStatement {node : Node} (h : node.Plain) :
    ∃ statement, node.insertStatement = .ok statement ∧ ∀ graph : Graph,
      graph.answer statement = (graph ++ [node.toStored], .ok (nodeRecords [node.toStored])) := by
  obtain ⟨statement, pairs, values, hinsert, hread, hresolve, hnamed⟩ :=
    exists_creation h.labels h.attributes.name
  have hstored : StoredNode.mk (distinct node.labels) (Entries.assignAll [] values) =
      node.toStored := by
    rw [assignAll_of_plain h.properties_toStored hnamed,
      Entries.merge_nil h.properties_toStored.distinct, distinct_of_nodup h.nodup]
    rfl
  refine ⟨statement, hinsert, fun graph => Graph.answer_eq hread ?_⟩
  rw [Graph.execute, hresolve]
  exact congrArg (fun stored => some (graph ++ [stored], [stored])) hstored

/-- **An update writes the attributes** to every node that carries the identity. -/
theorem answer_updateStatement {node : Node} (h : node.Plain) (hid : node.isAnonymous = false) :
    ∃ statement, node.updateStatement = .ok statement ∧ ∀ graph : Graph,
      graph.answer statement = (graph.merge node.identity node.attributes,
        .ok (nodeRecords ((graph.filter (·.carries node.identity)).map
          (·.merge node.attributes)))) := by
  obtain ⟨pairs, values, hpairs, hbound⟩ := exists_bound h.attributes.name node.matchParameters
  refine ⟨⟨changeText pairs,
    (bindProperties ⟨{}, node.matchParameters⟩ node.attributes).2.parameters⟩, ?_, fun graph => ?_⟩
  · have hclause : (setClause "n" ⟨{}, node.matchParameters⟩ node.attributes).1 =
        .ok (assignmentsText "n" pairs) := by
      change (bindProperties ⟨{}, node.matchParameters⟩ node.attributes).1.map _ = _
      rw [hpairs]
      rfl
    rw [Node.updateStatement, hid, if_neg Bool.false_ne_true]
    change (setClause "n" ⟨{}, node.matchParameters⟩ node.attributes).1.map _ = _
    rw [hclause]
    rfl
  · have hidentity : node.matchParameters.get? Node.identityEntry = some node.identity := by
      rw [Node.matchParameters, h.identityValue, Entries.get?_cons, if_pos (Key.same_self _)]
    exact Graph.answer_eq (readNodeCommand_change hbound.plain)
      (Graph.execute_change (hbound.identity.trans hidentity) hbound.resolved h.attributes
        hbound.named graph)

/-- **Refreshing finds the nodes that carry the identity.** -/
theorem answer_refreshStatement {node : Node} (h : node.Plain) (graph : Graph) :
    graph.answer node.refreshStatement =
      (graph, .ok (nodeRecords (graph.filter (·.carries node.identity)))) := by
  have htext : "MATCH (n) WHERE n.id = $id RETURN n" = changeText [] := by decide +kernel
  have hread : readNodeCommand node.refreshStatement.text = some (.change identityKey []) := by
    rw [Node.refreshStatement, htext]
    exact readNodeCommand_change fun _ hpair => absurd hpair List.not_mem_nil
  have hidentity : node.refreshStatement.parameters.get? Node.identityEntry =
      some node.identity := by
    change Entries.get? [(Node.identityEntry, node.identityValue)] Node.identityEntry = _
    rw [h.identityValue, Entries.get?_cons, if_pos (Key.same_self _)]
  have hresolve : Graph.resolve node.refreshStatement.parameters [] = some [] := rfl
  rw [Graph.answer_eq hread
    (Graph.execute_change hidentity hresolve Entries.plain_nil rfl graph)]
  simp

end GraphMapper
