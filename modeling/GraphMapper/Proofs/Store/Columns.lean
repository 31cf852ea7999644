import GraphMapper.Node.Construct
import Mathlib.Data.List.Forall2
import Mathlib.Data.Nat.Notation

/-!
# The nodes in a column

A result is looked at before anything is made of it: every record has to hold a node in the column
that is read, and the first one that does not ends the reading.  So there are two things to say
about the nodes of a column, and they exclude each other.  All records hold a node, and these are
the nodes, one for each record and in order.  Or there is a first record that holds none, and the
fault carries its index, however many nodes stand before it.

* `RecordSet.nodes_of_holds`, `RecordSet.nodes_of_lacking`: the two cases, and
  `RecordSet.nodes_cases`, that there is no third.
* `RecordSet.lacks_iff`: what it means to hold no node.  A column can be missing or null, and what
  is in it can have no labels or no properties to list.  Whatever has both is a node.
* `RecordSet.Hydrated`: what comes of a column whose nodes are hydrated, for every list of records.

A record that has no columns at all ends the reading too, with a fault of its own
(`RecordSet.Hydrated.decided`).
-/

namespace GraphMapper

/-! ## 1.  What can be hydrated -/

namespace Value

/-- Whether a value has labels.  Nodes have, as they come from a store and as they are in memory,
and so has a query. -/
def hasLabels : Value → Bool
  | .node .. => true
  | .object kind .. => kind ∈ [.node, .query, .labelsOnly, .unlistable]
  | .shared _ seen => seen.hasLabels
  | _ => false

/-- Whether a value lists its entries when it is asked for them. -/
def listsItems : Value → Bool
  | .map _ => true
  | .node .. => true
  | .object .view .. => true
  | .shared _ seen => seen.listsItems
  | _ => false

/-- **Only a node of a store has labels and lists its properties.** -/
theorem bare_eq_node_iff : ∀ value : Value,
    (∃ stored : StoredNode, value.bare = .node stored.labels stored.properties) ↔
      value.hasLabels = true ∧ value.listsItems = true
  | .node labels properties => by
    simpa [bare, hasLabels, listsItems] using
      (⟨⟨labels, properties⟩, rfl, rfl⟩ : ∃ stored : StoredNode,
        labels = stored.labels ∧ properties = stored.properties)
  | .shared _ seen => bare_eq_node_iff seen
  | .object kind .. => by cases kind <;> simp [bare, hasLabels, listsItems]
  | .map _ | .null | .bool _ | .int _ | .float _ | .text _ | .bytes _ | .list _ | .tuple _ => by
    simp [bare, hasLabels, listsItems]

end Value

/-! ## 2.  The nodes in a column -/

namespace RecordSet

variable {key : Key} {index : ℕ} {record : Value} {records before rest : List Value}
  {stored : StoredNode} {found : List StoredNode}

/-- A record has a stored node in a column. -/
def Holds (key : Key) (record : Value) (stored : StoredNode) : Prop :=
  ∃ value, column key record = .ok value ∧ value.bare = .node stored.labels stored.properties

/-- The fault of a record that has no node in a column. -/
def lacking (key : Key) (index : ℕ) (record : Value) : Fault :=
  match column key record with
  | .error fault => fault
  | .ok value => .malformedRecord index key value

theorem nodesFrom_cons_of_holds (h : Holds key record stored) :
    nodesFrom key index (record :: rest) =
      (nodesFrom key (index + 1) rest).map (stored :: ·) := by
  obtain ⟨value, hcolumn, hbare⟩ := h
  rw [nodesFrom, hcolumn]
  simp only [hbare]

theorem nodesFrom_cons_of_lacking (h : ∀ stored, ¬ Holds key record stored) :
    nodesFrom key index (record :: rest) = .error (lacking key index record) := by
  rw [nodesFrom, lacking]
  cases hcolumn : column key record with
  | error fault => rfl
  | ok value =>
    dsimp only
    split
    · rename_i labels properties hbare
      exact absurd ⟨value, hcolumn, hbare⟩ (h ⟨labels, properties⟩)
    · rfl

/-- **If all records hold a node, these are the nodes of the column.** -/
theorem nodes_of_holds (h : List.Forall₂ (Holds key) records found) :
    nodes ⟨records⟩ key = .ok found := by
  have hfrom : ∀ index, nodesFrom key index records = .ok found := by
    induction h with
    | nil => exact fun _ => rfl
    | cons hfirst _ ih =>
      intro index
      rw [nodesFrom_cons_of_holds hfirst, ih (index + 1)]
      rfl
  exact hfrom 0

/-- **The first record without a node decides**, however many there are before and after it. -/
theorem nodes_of_lacking (hbefore : ∀ r ∈ before, ∃ stored, Holds key r stored)
    (hrecord : ∀ stored, ¬ Holds key record stored) :
    nodes ⟨before ++ record :: rest⟩ key = .error (lacking key before.length record) := by
  have hfrom : ∀ index, nodesFrom key index (before ++ record :: rest) =
      .error (lacking key (index + before.length) record) := by
    induction before with
    | nil => exact fun index => nodesFrom_cons_of_lacking hrecord
    | cons r before ih =>
      intro index
      obtain ⟨⟨stored, hfirst⟩, hmore⟩ := List.forall_mem_cons.mp hbefore
      have hindex : index + 1 + before.length = index + (r :: before).length := by
        rw [List.length_cons]
        omega
      rw [List.cons_append, nodesFrom_cons_of_holds hfirst, ih hmore (index + 1), hindex]
      rfl
  have hzero := hfrom 0
  rw [Nat.zero_add] at hzero
  exact hzero

/-- All records hold a node, or there is a first one that does not. -/
theorem holds_or_lacking (key : Key) (records : List Value) :
    (∃ found, List.Forall₂ (Holds key) records found) ∨
      ∃ before record rest, records = before ++ record :: rest ∧
        (∀ r ∈ before, ∃ stored, Holds key r stored) ∧ ∀ stored, ¬ Holds key record stored := by
  induction records with
  | nil => exact Or.inl ⟨[], .nil⟩
  | cons record records ih =>
    by_cases hrecord : ∃ stored, Holds key record stored
    · obtain ⟨stored, hstored⟩ := hrecord
      rcases ih with ⟨found, hfound⟩ | ⟨before, r, rest, rfl, hbefore, hr⟩
      · exact Or.inl ⟨stored :: found, .cons hstored hfound⟩
      · exact Or.inr ⟨record :: before, r, rest, rfl,
          List.forall_mem_cons.mpr ⟨⟨stored, hstored⟩, hbefore⟩, hr⟩
    · exact Or.inr ⟨[], record, records, rfl, fun _ hr => absurd hr List.not_mem_nil,
        fun stored hstored => hrecord ⟨stored, hstored⟩⟩

/-- **There are these two cases only.** -/
theorem nodes_cases (key : Key) (records : List Value) :
    (∃ found, List.Forall₂ (Holds key) records found ∧ nodes ⟨records⟩ key = .ok found) ∨
      ∃ before record rest, records = before ++ record :: rest ∧
        (∀ r ∈ before, ∃ stored, Holds key r stored) ∧ (∀ stored, ¬ Holds key record stored) ∧
        nodes ⟨records⟩ key = .error (lacking key before.length record) := by
  rcases holds_or_lacking key records with
    ⟨found, hfound⟩ | ⟨before, record, rest, rfl, hbefore, hrecord⟩
  · exact Or.inl ⟨found, hfound, nodes_of_holds hfound⟩
  · exact Or.inr ⟨before, record, rest, rfl, hbefore, hrecord, nodes_of_lacking hbefore hrecord⟩

/-! ## 3.  What it means to hold no node -/

/-- The column of a record is missing or null, or what is in it has no labels or cannot be asked for
its properties. -/
def Lacks (key : Key) (record : Value) : Prop :=
  (∃ entries, record.bare = .map entries ∧ Entries.get? entries key = none) ∨
    ∃ value, column key record = .ok value ∧
      (value = .null ∨ value.hasLabels = false ∨ value.listsItems = false)

theorem column_of_map {entries : Entries} (h : record.bare = .map entries) :
    column key record = .ok ((Entries.get? entries key).getD .null) := by
  rw [column, h]

/-- **A record that has columns either holds a node in one or lacks it there.** -/
theorem lacks_iff {value : Value} (hcolumn : column key record = .ok value) :
    Lacks key record ↔ ∀ stored, ¬ Holds key record stored := by
  have hholds : (∃ stored, Holds key record stored) ↔
      value.hasLabels = true ∧ value.listsItems = true := by
    rw [← value.bare_eq_node_iff]
    simp [Holds, hcolumn]
  rw [← not_exists, hholds, Lacks, hcolumn]
  constructor
  · rintro (⟨entries, hbare, hmissing⟩ | ⟨found, hfound, hlacks⟩)
    · rw [column_of_map hbare, hmissing] at hcolumn
      obtain rfl : Value.null = value := Except.ok.inj hcolumn
      simp [Value.hasLabels]
    · obtain rfl : value = found := Except.ok.inj hfound
      rcases hlacks with rfl | hlabels | hitems
      · simp [Value.hasLabels]
      · simp [hlabels]
      · simp [hitems]
  · intro hneither
    refine Or.inr ⟨value, rfl, Or.inr ?_⟩
    by_cases hlabels : value.hasLabels = true
    · exact Or.inr (Bool.eq_false_iff.mpr fun hitems => hneither ⟨hlabels, hitems⟩)
    · exact Or.inl (Bool.eq_false_iff.mpr hlabels)

theorem Holds.not_lacks (h : Holds key record stored) : ¬ Lacks key record := by
  obtain ⟨value, hvalue, hbare⟩ := h
  exact fun hlacks => (lacks_iff hvalue).mp hlacks stored ⟨value, hvalue, hbare⟩

/-- What ends the reading: a record that lacks a node, or one that has no columns. -/
theorem lacking_cases (h : ∀ stored, ¬ Holds key record stored) (index : ℕ) :
    (Lacks key record ∧ ∃ value, column key record = .ok value ∧
      lacking key index record = .malformedRecord index key value) ∨
    column key record = .error (lacking key index record) := by
  cases hcolumn : column key record with
  | error fault =>
    refine Or.inr ?_
    rw [lacking, hcolumn]
  | ok value =>
    refine Or.inl ⟨(lacks_iff hcolumn).mpr h, value, rfl, ?_⟩
    rw [lacking, hcolumn]

/-! ## 4.  Hydrating a column -/

/-- A record comes to a node: what is in the column hydrates to it. -/
def Hydrates (key : Key) (record : Value) (node : Node) : Prop :=
  ∃ value, column key record = .ok value ∧ Node.ofStored value = .ok node

theorem Holds.hydrates (h : Holds key record stored) : Hydrates key record (.hydrate stored) := by
  obtain ⟨value, hvalue, hbare⟩ := h
  refine ⟨value, hvalue, ?_⟩
  rw [Node.ofStored, hbare]

theorem Hydrates.holds {node : Node} (h : Hydrates key record node) :
    ∃ stored, Holds key record stored ∧ Node.hydrate stored = node := by
  obtain ⟨value, hvalue, hnode⟩ := h
  rw [Node.ofStored] at hnode
  split at hnode
  · rename_i labels properties hbare
    exact ⟨⟨labels, properties⟩, ⟨value, hvalue, hbare⟩, Except.ok.inj hnode⟩
  · exact absurd hnode (by simp)
  · exact absurd hnode (by simp)

/-- The nodes of a column, hydrated. -/
def hydrated (key : Key) (records : List Value) : Except Fault (List Node) :=
  (nodes ⟨records⟩ key).map (·.map Node.hydrate)

theorem forall₂_hydrates_iff {nodes : List Node} :
    List.Forall₂ (Hydrates key) records nodes ↔
      ∃ found, List.Forall₂ (Holds key) records found ∧ found.map Node.hydrate = nodes := by
  constructor
  · intro h
    induction h with
    | nil => exact ⟨[], .nil, rfl⟩
    | cons hfirst _ ih =>
      obtain ⟨stored, hstored, rfl⟩ := hfirst.holds
      obtain ⟨found, hfound, rfl⟩ := ih
      exact ⟨stored :: found, .cons hstored hfound, rfl⟩
  · rintro ⟨found, hfound, rfl⟩
    exact List.forall₂_map_right_iff.mpr (hfound.imp fun _ _ => Holds.hydrates)

/-- What comes of the nodes of a column.  There are never some of them: the outcome is a list for
all records, or a fault. -/
structure Hydrated (key : Key) (records : List Value) (outcome : Except Fault (List Node)) :
    Prop where
  /-- What is returned are the nodes of all records, one for each and in order. -/
  returned : ∀ nodes, outcome = .ok nodes ↔ List.Forall₂ (Hydrates key) records nodes
  /-- If all records have columns, then one that lacks its node is what makes a record malformed. -/
  refused : (∀ record ∈ records, ∃ value, column key record = .ok value) →
    ((∃ index name value, outcome = .error (.malformedRecord index name value)) ↔
      ∃ record ∈ records, Lacks key record)
  /-- It is the first such record that is named, with what was found there. -/
  least : ∀ index name value, outcome = .error (.malformedRecord index name value) →
    name = key ∧
      (∃ record, records[index]? = some record ∧ Lacks key record ∧
        column key record = .ok value) ∧
      ∀ record ∈ records.take index, ¬ Lacks key record
  /-- There is no other fault, if all records have columns. -/
  decided : ∀ fault, outcome = .error fault →
    (∃ index value, fault = .malformedRecord index key value) ∨
      ∃ record ∈ records, column key record = .error fault

/-- A record without columns is not what a malformed record is. -/
theorem column_ne_malformed (index : ℕ) (name : Key) (value : Value) :
    column key record ≠ .error (.malformedRecord index name value) := by
  rw [column]
  split
  · simp
  · rw [attributeOf]
    split
    · simp
    · split <;> simp
  all_goals simp

theorem hydrated_eq_ok_iff {nodes : List Node} :
    hydrated key records = .ok nodes ↔ List.Forall₂ (Hydrates key) records nodes := by
  rw [forall₂_hydrates_iff]
  constructor
  · intro hnodes
    rcases nodes_cases key records with ⟨found, hfound, hread⟩ | ⟨_, _, _, -, -, -, hread⟩
    · rw [hydrated, hread] at hnodes
      exact ⟨found, hfound, Except.ok.inj hnodes⟩
    · rw [hydrated, hread] at hnodes
      exact absurd hnodes (by simp [Except.map])
  · rintro ⟨found, hfound, rfl⟩
    rw [hydrated, nodes_of_holds hfound]
    rfl

/-- **A fault comes from the first record without a node.** -/
theorem exists_of_hydrated_eq_error {fault : Fault} (h : hydrated key records = .error fault) :
    ∃ index record, records[index]? = some record ∧
      (∀ r ∈ records.take index, ¬ Lacks key r) ∧
      ((Lacks key record ∧ ∃ value, column key record = .ok value ∧
          fault = .malformedRecord index key value) ∨
        column key record = .error fault) := by
  rcases nodes_cases key records with
    ⟨found, -, hread⟩ | ⟨before, record, rest, rfl, hbefore, hrecord, hread⟩
  · rw [hydrated, hread] at h
    exact absurd h (by simp [Except.map])
  · rw [hydrated, hread] at h
    obtain rfl : lacking key before.length record = fault := Except.error.inj h
    refine ⟨before.length, record, by simp, fun r hr => ?_, lacking_cases hrecord _⟩
    rw [List.take_left' rfl] at hr
    obtain ⟨stored, hstored⟩ := hbefore r hr
    exact hstored.not_lacks

/-- No record lacks a node if all nodes are returned. -/
theorem not_lacks_of_hydrated_eq_ok {nodes : List Node} (h : hydrated key records = .ok nodes) :
    ∀ record ∈ records, ¬ Lacks key record := by
  obtain ⟨found, hfound, -⟩ := forall₂_hydrates_iff.mp (hydrated_eq_ok_iff.mp h)
  have hall := hfound.imp fun _ _ hholds => And.intro hholds.not_lacks hholds
  exact ((List.forall₂_and_left records found).mp hall).1

/-- **Hydrating a column returns all of its nodes or names the first record without one.** -/
theorem hydrated_spec (key : Key) (records : List Value) :
    Hydrated key records (hydrated key records) where
  returned _ := hydrated_eq_ok_iff
  refused hcolumns := by
    constructor
    · rintro ⟨index, name, value, hmalformed⟩
      obtain ⟨place, record, hplace, -, ⟨hlacks, -⟩ | hcolumn⟩ :=
        exists_of_hydrated_eq_error hmalformed
      · exact ⟨record, List.mem_of_getElem? hplace, hlacks⟩
      · exact absurd hcolumn (column_ne_malformed index name value)
    · rintro ⟨record, hmem, hlacks⟩
      cases houtcome : hydrated key records with
      | ok nodes => exact absurd hlacks (not_lacks_of_hydrated_eq_ok houtcome record hmem)
      | error fault =>
        obtain ⟨index, other, hindex, -, ⟨-, value, -, rfl⟩ | hcolumn⟩ :=
          exists_of_hydrated_eq_error houtcome
        · exact ⟨index, key, value, rfl⟩
        · obtain ⟨value, hvalue⟩ := hcolumns other (List.mem_of_getElem? hindex)
          rw [hvalue] at hcolumn
          exact absurd hcolumn (by simp)
  least index name value hmalformed := by
    obtain ⟨place, record, hplace, hbefore, ⟨hlacks, found, hfound, hfault⟩ | hcolumn⟩ :=
      exists_of_hydrated_eq_error hmalformed
    · obtain ⟨rfl, rfl, rfl⟩ := Fault.malformedRecord.inj hfault
      exact ⟨rfl, ⟨record, hplace, hlacks, hfound⟩, hbefore⟩
    · exact absurd hcolumn (column_ne_malformed index name value)
  decided fault herror := by
    obtain ⟨index, record, hindex, -, ⟨-, value, -, hfault⟩ | hcolumn⟩ :=
      exists_of_hydrated_eq_error herror
    · exact Or.inl ⟨index, value, hfault⟩
    · exact Or.inr ⟨record, List.mem_of_getElem? hindex, hcolumn⟩

end RecordSet

end GraphMapper
