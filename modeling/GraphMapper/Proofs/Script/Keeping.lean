import GraphMapper.Proofs.Script.Additions
import GraphMapper.Proofs.Transaction.Entities
import GraphMapper.Script.Calls

/-!
# Deeds that keep what is in memory

An operation that asks a store something does more than put things down: it sends statements, draws
identities and writes to the log.  What it must not do is change a thing that somebody holds.  So
less is asked of it than of a deed that makes things, which leaves the whole world as it is but for
what it puts down (`OnlyAdds`).  `KeepsItems` says that whatever stood at a place stands there
afterwards, and leaves the store, the engines and the log out of it.

It is kept by doing one deed after another (`KeepsItems.bind`), and every deed that only adds has
it (`OnlyAdds.keepsItems`).

* `keepsItems_execute`, `keepsItems_performOn`: what a gateway executes, and what a program does
  through it, changes nothing in memory.
* `keepsItems_callTraversal`: a traversal is changed by the operations that build it, and by no
  other.  This is not so for a query, which stays limited when its first node is looked for.
-/

namespace GraphMapper.Script

/-! ## 1.  Keeping -/

variable {α β : Type}

/-- A deed after which everything that was in memory is as it was. -/
def KeepsItems (deed : Deed α) : Prop :=
  ∀ (world : World Memory) (place : ℕ) (item : Item),
    world.own.items[place]? = some item → (deed world).2.own.items[place]? = some item

theorem OnlyAdds.keepsItems {deed : Deed α} (h : OnlyAdds deed) : KeepsItems deed :=
  fun _ _ _ hitem => h.getElem? hitem

/-- A deed that changes nothing in memory keeps everything there. -/
theorem keepsItems_of_own {deed : Deed α} (h : ∀ world, (deed world).2.own = world.own) :
    KeepsItems deed := by
  intro world place item hitem
  rw [h world]
  exact hitem

theorem keepsItems_pure (a : α) : KeepsItems (pure a : Deed α) := (onlyAdds_pure a).keepsItems

theorem keepsItems_fail (fault : Fault) : KeepsItems (Act.fail fault : Deed α) :=
  (onlyAdds_fail fault).keepsItems

theorem keepsItems_ofExcept (result : Except Fault α) :
    KeepsItems (Act.ofExcept result : Deed α) :=
  (onlyAdds_ofExcept result).keepsItems

theorem keepsItems_read (f : World Memory → α) : KeepsItems (Act.read f) :=
  (onlyAdds_read f).keepsItems

theorem keepsItems_look (value : Value) : KeepsItems (look value) :=
  (onlyAdds_look value).keepsItems

theorem keepsItems_itemOf? (value : Value) : KeepsItems (itemOf? value) :=
  (onlyAdds_itemOf? value).keepsItems

/-- **One deed after another** keeps everything if both do. -/
theorem KeepsItems.bind {first : Deed α} {next : α → Deed β} (hfirst : KeepsItems first)
    (hnext : ∀ a, KeepsItems (next a)) : KeepsItems (first >>= next) := by
  intro world place item hitem
  have hkept := hfirst world place item hitem
  change (Act.bind first next world).2.own.items[place]? = _
  rw [Act.bind]
  split
  · rename_i a after hrun
    rw [hrun] at hkept
    exact hnext a after place item hkept
  · rename_i fault after hrun
    rwa [hrun] at hkept

theorem KeepsItems.attempt {deed : Deed α} (h : KeepsItems deed) : KeepsItems deed.attempt := h

theorem KeepsItems.mapFault {deed : Deed α} (h : KeepsItems deed) (f : Fault → Fault) :
    KeepsItems (Act.mapFault f deed) := h

theorem keepsItems_itemAt (place : ℕ) : KeepsItems (itemAt place) := by
  refine keepsItems_of_own fun world => ?_
  rw [itemAt]
  split <;> rfl

theorem keepsItems_hides (value : Value) (operation : Operation) :
    KeepsItems (hides value operation) := by
  refine keepsItems_of_own fun world => ?_
  rw [hides.eq_def]
  split <;> rfl

theorem keepsItems_addedTo? (value : Value) (field : Field) :
    KeepsItems (addedTo? value field) := by
  refine keepsItems_of_own fun world => ?_
  rw [addedTo?.eq_def]
  split <;> rfl

theorem keepsItems_notCallable (value : Value) (operation : Operation) :
    KeepsItems (notCallable value operation) :=
  (keepsItems_hides value operation).bind fun _ => keepsItems_pure _

/-! ## 2.  Gateways -/

theorem keepsItems_gatewayRecord? (value : Value) : KeepsItems (gatewayRecord? value) := by
  refine (keepsItems_itemOf? value).bind fun found => ?_
  split <;> exact keepsItems_pure _

theorem keepsItems_engineNumber (value : Value) : KeepsItems (engineNumber value) := by
  refine (keepsItems_itemOf? value).bind fun found => ?_
  split
  · exact keepsItems_pure _
  · exact keepsItems_read _

theorem keepsItems_sessionSource (value : Value) : KeepsItems (sessionSource value) := by
  refine (keepsItems_hides value .openSession).bind fun hidden => ?_
  cases hidden
  · exact keepsItems_engineNumber value
  · exact keepsItems_read _

theorem keepsItems_gateway (record : GatewayRecord) : KeepsItems record.gateway := by
  refine (keepsItems_look _).bind fun _ => (keepsItems_look _).bind fun _ => ?_
  split
  · exact (keepsItems_sessionSource _).bind fun _ =>
      (keepsItems_look _).bind fun _ => keepsItems_pure _
  · exact keepsItems_pure _

theorem keepsItems_hearing (record : GatewayRecord) : KeepsItems record.hearing := by
  rw [GatewayRecord.hearing]
  split
  · exact (keepsItems_hides _ _).bind fun _ => keepsItems_pure _
  · exact keepsItems_pure _

/-- **What a gateway executes changes nothing in memory.** -/
theorem keepsItems_execute (record : GatewayRecord) (text parameters : Value) :
    KeepsItems (record.execute text parameters) := by
  refine (keepsItems_hearing record).bind fun hearing =>
    (keepsItems_gateway record).bind fun gateway => ?_
  have hexecute : KeepsItems (gateway.execute text parameters) :=
    keepsItems_of_own (gateway.own_execute text parameters)
  exact hexecute.mapFault hearing

theorem keepsItems_offered (value : Value) (operation : Operation) {own : Option (Deed α)}
    (h : ∀ deed, own = some deed → KeepsItems deed) : KeepsItems (offered value operation own) := by
  refine (keepsItems_hides value operation).bind fun hidden => ?_
  split
  · exact h _ rfl
  · exact (keepsItems_notCallable value operation).bind fun _ => keepsItems_fail _

theorem keepsItems_drawThrough (steps : ℕ) (gateway : Value) :
    KeepsItems (drawThrough steps gateway) := by
  induction steps generalizing gateway with
  | zero => exact keepsItems_fail _
  | succ steps ih =>
    refine (keepsItems_gatewayRecord? gateway).bind fun found => ?_
    refine keepsItems_offered _ _ fun deed hdeed => ?_
    obtain ⟨record, -, rfl⟩ := Option.map_eq_some_iff.mp hdeed
    split
    · exact keepsItems_of_own fun _ => rfl
    · exact ih _

theorem keepsItems_drawIdentityOf (gateway : Value) : KeepsItems (drawIdentityOf gateway) :=
  (keepsItems_read _).bind fun _ => keepsItems_drawThrough _ _

/-- A program keeps everything if sending a statement does and drawing an identity does. -/
theorem keepsItems_performBy {run : Statement → Deed RecordSet} {draw : Deed String}
    (hrun : ∀ statement, KeepsItems (run statement)) (hdraw : KeepsItems draw)
    (program : Program α) : KeepsItems (performBy run draw program) := by
  induction program with
  | done result => exact keepsItems_pure _
  | send statement next ih => exact (hrun statement).attempt.bind fun _ => ih _
  | draw next ih => exact hdraw.bind fun _ => ih _
  | warn message next ih =>
    have hwrite : KeepsItems (Act.write .maintenance .warning message : Deed Unit) :=
      keepsItems_of_own fun _ => rfl
    exact hwrite.bind fun _ => ih

/-- **A program changes nothing in memory**, whatever it is run through and whatever comes of
it. -/
theorem keepsItems_performOn (gateway : Value) (program : Program (Except Fault α)) :
    KeepsItems (performOn gateway program) := by
  refine (keepsItems_gatewayRecord? gateway).bind fun found =>
    (keepsItems_addedTo? gateway _).bind fun added => ?_
  refine KeepsItems.bind (keepsItems_performBy (fun statement => ?_) ?_ program) fun _ =>
    keepsItems_ofExcept _
  · refine keepsItems_offered _ _ fun deed hdeed => ?_
    obtain ⟨record, -, rfl⟩ := Option.map_eq_some_iff.mp hdeed
    exact keepsItems_execute record _ _
  · split
    · exact keepsItems_drawIdentityOf gateway
    · exact keepsItems_fail _

/-! ## 3.  Taking things out of memory -/

theorem keepsItems_allocatorOf? (value : Value) : KeepsItems (allocatorOf? value) := by
  refine (keepsItems_itemOf? value).bind fun found => ?_
  split
  · exact (keepsItems_look _).bind fun _ => keepsItems_pure _
  · exact keepsItems_pure _

theorem keepsItems_conditionOf? (value : Value) : KeepsItems (conditionOf? value) := by
  refine (keepsItems_itemOf? value).bind fun found => ?_
  split <;> exact keepsItems_pure _

theorem keepsItems_conditionsOf (values : List Value) : KeepsItems (conditionsOf values) := by
  induction values with
  | nil => exact keepsItems_pure _
  | cons value rest ih =>
    refine (keepsItems_conditionOf? value).bind fun found => ?_
    split
    · exact ih.bind fun _ => keepsItems_pure _
    · exact keepsItems_fail _

theorem keepsItems_pathConditionsOf (values : List Value) :
    KeepsItems (pathConditionsOf values) := by
  induction values with
  | nil => exact keepsItems_pure _
  | cons value rest ih =>
    rw [pathConditionsOf]
    split
    · refine (keepsItems_conditionOf? _).bind fun found => ?_
      split
      · exact ih.bind fun _ => keepsItems_pure _
      · exact keepsItems_fail _
    · exact keepsItems_fail _

theorem keepsItems_query (record : QueryRecord) : KeepsItems record.query :=
  (keepsItems_look _).bind fun _ => (keepsItems_look _).bind fun _ =>
    (keepsItems_conditionsOf _).bind fun _ => (keepsItems_look _).bind fun _ =>
      (keepsItems_look _).bind fun _ => (keepsItems_ofExcept _).bind fun _ =>
        (keepsItems_ofExcept _).bind fun _ => (keepsItems_allocatorOf? _).bind fun _ =>
          keepsItems_pure _

theorem keepsItems_queryAt (place : ℕ) : KeepsItems (queryAt place) := by
  refine (keepsItems_itemAt place).bind fun item => ?_
  split
  · exact (keepsItems_look _).bind fun _ => keepsItems_pure _
  · exact keepsItems_fail _

theorem keepsItems_queryPlace (value : Value) : KeepsItems (queryPlace value) := by
  refine (keepsItems_itemOf? value).bind fun found => ?_
  split
  · exact keepsItems_pure _
  · exact keepsItems_fail _

theorem keepsItems_traversal (record : TraversalRecord) : KeepsItems record.traversal :=
  (keepsItems_look _).bind fun _ => (keepsItems_look _).bind fun _ =>
    (keepsItems_look _).bind fun _ => (keepsItems_look _).bind fun _ =>
      (keepsItems_pathConditionsOf _).bind fun _ => (keepsItems_look _).bind fun _ =>
        (keepsItems_ofExcept _).bind fun _ => keepsItems_pure _

theorem keepsItems_traversalAt (place : ℕ) : KeepsItems (traversalAt place) := by
  refine (keepsItems_itemAt place).bind fun item => ?_
  split
  · exact keepsItems_pure _
  · exact keepsItems_fail _

/-! ## 4.  Reading operations of a traversal -/

theorem keepsItems_passThrough (value : Value) (operations : List Operation) :
    KeepsItems (passThrough value operations) := by
  induction operations with
  | nil => exact keepsItems_pure _
  | cons operation rest ih =>
    refine (keepsItems_hides value operation).bind fun hidden => ?_
    cases hidden
    · exact ih
    · exact (keepsItems_fail _).bind fun _ => ih

theorem keepsItems_passClauses (value : Value) (pattern : Except Fault String) :
    KeepsItems (passClauses value pattern) :=
  (keepsItems_passThrough _ _).bind fun _ => (keepsItems_ofExcept _).bind fun _ =>
    keepsItems_passThrough _ _

theorem keepsItems_makeNodes (nodes : List Node) : KeepsItems (makeNodes nodes) := by
  induction nodes with
  | nil => exact keepsItems_pure _
  | cons node rest ih =>
    exact (onlyAdds_makeNode node).keepsItems.bind fun _ => ih.bind fun _ => keepsItems_pure _

theorem keepsItems_makeOptionalNode : ∀ node : Option Node, KeepsItems (makeOptionalNode node)
  | none => keepsItems_pure _
  | some node => (onlyAdds_makeNode node).keepsItems

theorem keepsItems_makeStatement (result : Except Fault Statement) :
    KeepsItems (makeStatement result) :=
  (keepsItems_ofExcept _).bind fun _ => (onlyAdds_settle _).keepsItems.bind fun _ =>
    (onlyAdds_make _).keepsItems

/-- The operations by which a traversal is built. -/
def buildsTraversal (operation : Operation) : Bool :=
  operation ∈ [.label, .«where», .whereRelationship, .limit]

/-- **What is asked of a traversal leaves it as it is**, with its source and everything else in
memory, whatever the store answers. -/
theorem keepsItems_callTraversal (place : ℕ) {operation : Operation}
    (h : buildsTraversal operation = false) (inputs : Inputs) :
    KeepsItems (callTraversal place operation inputs) := by
  refine (keepsItems_traversalAt place).bind fun record =>
    (keepsItems_queryPlace _).bind fun sourcePlace => (keepsItems_queryAt _).bind fun source =>
    (keepsItems_query _).bind fun query => (keepsItems_traversal record).bind fun traversal =>
    (keepsItems_look _).bind fun sourceLabels => (keepsItems_look _).bind fun targetLabels => ?_
  have hthrough (operations : List Operation) (pattern : Except Fault String) :
      KeepsItems (do
        passThrough (unseen place) operations
        passClauses (unseen sourcePlace) pattern
        passThrough (unseen place) [.relationshipPattern] : Deed Unit) :=
    (keepsItems_passThrough _ _).bind fun _ => (keepsItems_passClauses _ _).bind fun _ =>
      keepsItems_passThrough _ _
  split
  -- the four that build, then the others in the order in which they are defined
  case h_1 | h_2 | h_3 | h_4 => exact absurd h (by decide)
  case h_5 => exact (keepsItems_ofExcept _).bind fun _ => keepsItems_pure _
  case h_6 | h_7 => exact (hthrough _ _).bind fun _ => keepsItems_makeStatement _
  case h_8 =>
    exact (hthrough _ _).bind fun _ => (keepsItems_performOn _ _).bind fun _ =>
      (keepsItems_makeNodes _).bind fun _ => keepsItems_pure _
  case h_9 =>
    exact (hthrough _ _).bind fun _ => (keepsItems_performOn _ _).bind fun _ =>
      keepsItems_makeOptionalNode _
  case h_10 | h_11 =>
    exact (hthrough _ _).bind fun _ => (keepsItems_performOn _ _).bind fun _ => keepsItems_pure _
  case h_12 => exact keepsItems_fail _

end GraphMapper.Script
