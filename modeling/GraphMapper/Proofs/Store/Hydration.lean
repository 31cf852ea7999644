import GraphMapper.Proofs.Script.Keeping
import GraphMapper.Proofs.Store.Columns
import GraphMapper.Proofs.Store.Surfacing

/-!
# Reading nodes from a store

A query and a traversal read their nodes in one way: one statement is sent, and the column of the
answer is hydrated.

The first target of a traversal is looked for in another way than the first node of a query.  A
query is limited to one node and then read like any other, and it stays limited.  A traversal hands
the limit down to its statement, and hydrates the first node only.  All records of the answer are
looked at nevertheless, so both ways come to the same (`Traversal.first_eq`), also for a store that
does not keep to the limit; but nothing is left behind.

* `Traversal.first_eq`: the two programs are one.
* `nodes_hydrated`: what is read, what it is read from, and that a traversal is left as it is.
-/

namespace GraphMapper

/-! ## 1.  One statement, one column -/

namespace Program

variable {σ α β : Type}

/-- What comes of a statement that the store has answered. -/
theorem performOrFail_query {gateway : Gateway} {world : World σ} {statement : Statement}
    {records : RecordSet} (hrun : (gateway.run statement world).1 = .ok records)
    (read : RecordSet → Except Fault α) :
    ((query (.ok statement) read).performOrFail gateway world).1 = read records := by
  have hnext (fault : Fault) :
      (Program.done ((Except.error fault : Except Fault RecordSet).bind read)) =
        .done (.error fault) := rfl
  rw [query, performOrFail_send hnext, Act.bind_ok (Prod.ext hrun rfl)]
  rfl

/-- What is made of the result of a statement can be made of the answer. -/
theorem map_query (statement : Except Fault Statement) (read : RecordSet → Except Fault α)
    (f : α → β) : (query statement read).map (·.map f) =
      query statement fun records => (read records).map f := by
  cases statement with
  | error fault => rfl
  | ok statement =>
    refine congrArg (Program.send statement) (funext fun answer => ?_)
    cases answer <;> rfl

end Program

/-! ## 2.  The first target -/

namespace Traversal

/-- The traversal that is limited to one target. -/
def limitedToOne (traversal : Traversal) : Traversal := { traversal with limit := some 1 }

theorem withLimit_one (traversal : Traversal) :
    traversal.withLimit (.int 1) = .ok traversal.limitedToOne := rfl

/-- **A limit that is handed down is as good as one that the traversal has.** -/
theorem selectStatement_one (source : Query) (traversal : Traversal) :
    selectStatement source traversal (.int 1) =
      selectStatement source traversal.limitedToOne .null := rfl

/-- **The first target is the head of the targets up to the limit one**, whatever the limit of the
traversal was: the same statement, and the same made of every answer. -/
theorem first_eq (source : Query) (traversal : Traversal) :
    first source traversal =
      (get source traversal.limitedToOne).map fun nodes => nodes.map List.head? := by
  rw [first, get, Program.map_query, selectStatement_one]
  refine congrArg (Program.query _) (funext fun records => ?_)
  rw [readNodes]
  cases records.nodes (.text targetName) with
  | error fault => rfl
  | ok found => exact congrArg Except.ok List.head?_map.symm

end Traversal

/-! ## 3.  Faithful hydration -/

/-- **Nodes are hydrated faithfully.**  Whatever gateway the statement is sent through, and whatever
list of records comes back:

* getting the nodes of a query returns a node for each record, hydrated from the column `n` and in
  order, or it fails on the first record whose column is missing, null, without labels or without
  properties to list;
* so does getting the targets of a traversal, from the column `target`;
* looking for the first target is limiting the traversal to one, getting its targets and taking the
  head;
* and yet the traversal that stands in memory is as it was, its limit with it. -/
theorem nodes_hydrated {σ : Type} (gateway : Gateway) (world : World σ) :
    (∀ (query : Query) (statement : Statement) (records : List Value),
      query.selectStatement = .ok statement →
      (gateway.run statement world).1 = .ok ⟨records⟩ →
        RecordSet.Hydrated (.text "n") records (query.get.performOrFail gateway world).1) ∧
    (∀ (source : Query) (traversal : Traversal) (statement : Statement) (records : List Value),
      traversal.selectStatement source .null = .ok statement →
      (gateway.run statement world).1 = .ok ⟨records⟩ →
        RecordSet.Hydrated (.text "target") records
          ((traversal.get source).performOrFail gateway world).1) ∧
    (∀ (source : Query) (traversal : Traversal), ∃ limited,
      traversal.withLimit (.int 1) = .ok limited ∧
        traversal.first source =
          (limited.get source).map fun nodes => nodes.map List.head?) ∧
    ∀ (memory : World Script.Memory) (place : ℕ) (record : Script.TraversalRecord)
      (inputs : Script.Inputs), memory.own.items[place]? = some (.traversal record) →
        (Script.callTraversal place .first inputs memory).2.own.items[place]? =
          some (.traversal record) := by
  refine ⟨fun query statement records hstatement hrun => ?_,
    fun source traversal statement records hstatement hrun => ?_,
    fun source traversal => ⟨_, traversal.withLimit_one, traversal.first_eq source⟩,
    fun memory place record inputs hrecord => ?_⟩
  · rw [Query.get, hstatement, Program.performOrFail_query hrun]
    exact RecordSet.hydrated_spec (.text "n") records
  · rw [Traversal.get, hstatement, Program.performOrFail_query hrun]
    exact RecordSet.hydrated_spec (.text "target") records
  · have hkept : Script.KeepsItems (Script.callTraversal place .first inputs) :=
      Script.keepsItems_callTraversal place (by decide) inputs
    exact hkept memory place _ hrecord

/-- Memory with a gateway inside a transaction, a query for people, and a traversal from them that
is limited to none. -/
def friendsInMemory : Script.Memory where
  items := [.gateway ⟨none, .bool true, .bool false, .null⟩, .allocator (.text "param_") 0,
    .value (.list [.text "Person"]), .value (.list []), .value (.map []),
    .query { gateway := Script.unseen 0, allocator := Script.unseen 1, labels := Script.unseen 2,
             conditions := Script.unseen 3, parameters := Script.unseen 4 },
    .traversal { source := Script.unseen 5, direction := .text "outgoing",
                 relationshipType := .text "KNOWS", targetLabels := Script.unseen 3,
                 conditions := Script.unseen 3, parameters := Script.unseen 4, limit := .int 0 }]

/-- Alice and Bob are read as people.  As friends they are not read if the record of Bob has no
target, and it is this record that is named.  Looking for a first friend in memory succeeds, and
the traversal stays limited to none. -/
theorem nodes_hydrated_people :
    let alice : StoredNode := ⟨["Person"], [(.text "id", .text "a"), (.text "name", .text "Alice")]⟩
    let bob : StoredNode := ⟨["Person"], [(.text "name", .text "Bob")]⟩
    let row (column : String) (node : StoredNode) : Value := .map [(.text column, node.toValue)]
    let people : Query := { labels := ["Person"] }
    let friends : Traversal :=
      { direction := .outgoing, relationshipType := "KNOWS", limit := some 0 }
    let answering (records : List Value) : World Unit :=
      { store := { answers := [.records records] }, own := () }
    let memory : World Script.Memory :=
      { store := { answers := [.records [row "target" alice]] }, own := friendsInMemory }
    let after := Script.callTraversal 6 .first {} memory
    (people.get.performOrFail (.transaction {}) (answering [row "n" alice, row "n" bob])).1 =
        .ok [.hydrate alice, .hydrate bob] ∧
      ((friends.get people).performOrFail (.transaction {})
        (answering [row "target" alice, row "n" bob])).1 =
          .error (.malformedRecord 1 (.text "target") .null) ∧
      after.1.toOption.isSome = true ∧
      after.2.own.items[6]? = friendsInMemory.items[6]? := by
  intro alice bob row people friends answering memory after
  have hsucceeds : after.1.toOption.isSome = true := by decide +kernel
  refine ⟨?_, ?_, hsucceeds, ?_⟩
  · have hread := (nodes_hydrated (.transaction {}) (answering [row "n" alice, row "n" bob])).1
      people _ _ rfl rfl
    exact (hread.returned _).mpr (.cons ⟨_, rfl, rfl⟩ (.cons ⟨_, rfl, rfl⟩ .nil))
  · have hread := (nodes_hydrated (.transaction {})
      (answering [row "target" alice, row "n" bob])).2.1 people friends _ _ rfl rfl
    have hholds : RecordSet.Holds (.text "target") (row "target" alice) alice := ⟨_, rfl, rfl⟩
    have hbob : RecordSet.column (.text "target") (row "n" bob) = .ok .null := rfl
    have hlacks : RecordSet.Lacks (.text "target") (row "n" bob) := Or.inl ⟨_, rfl, rfl⟩
    obtain ⟨index, name, value, hfault⟩ := (hread.refused (by
      simp only [List.forall_mem_cons]
      exact ⟨⟨_, rfl⟩, ⟨_, rfl⟩, fun _ h => absurd h List.not_mem_nil⟩)).mpr
        ⟨row "n" bob, by simp, hlacks⟩
    obtain ⟨rfl, ⟨record, hindex, hfirst, hvalue⟩, -⟩ := hread.least index name value hfault
    match index, hindex with
    | 0, hindex =>
      obtain rfl : row "target" alice = record := Option.some.inj hindex
      exact absurd hfirst hholds.not_lacks
    | 1, hindex =>
      obtain rfl : row "n" bob = record := Option.some.inj hindex
      rw [hbob] at hvalue
      rw [hfault, ← Except.ok.inj hvalue]
  · exact (nodes_hydrated (.transaction {}) (answering [])).2.2.2 memory 6 _ {} rfl

end GraphMapper
