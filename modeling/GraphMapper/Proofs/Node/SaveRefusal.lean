import GraphMapper.Proofs.Node.Life
import GraphMapper.Proofs.Store.Terminals

/-!
# A save that is refused

Saving a node can be refused before the store hears of it, because an identity is missing or because
a name cannot be written.  The constructor and hydration let any attribute name through, and
hydration any label, so this is found out when the statement is written.  The question is what is
left of such a save.

* An update is written first, so a refused update leaves everything.
* An insertion draws an identity first, if the node has none, and is written then.  The names are
  refused all the same (`insertStatement_under_eq_error_iff`), but the node keeps the identity that
  was drawn, and the gateway has used it up.

`Node.draws` is the condition under which an identity is drawn, `Node.Unsavable` the condition under
which a save is refused, and `refused_save` says what is left.  The two conditions are independent:
`identity_drawn_by_refused_save` is a node of which both hold.
-/

namespace GraphMapper

namespace Node

variable {node : Node} {fault : Fault} {autoIdentity : Bool}

/-! ## 1.  Statements that cannot be written -/

/-- **What an insertion is refused for**: a key, or else a label.  The identity plays no part. -/
theorem insertStatement_eq_error_iff :
    node.insertStatement = .error fault ↔
      (bindProperties {} node.attributes).1 = .error fault ∨
        (∃ pairs, (bindProperties {} node.attributes).1 = .ok pairs) ∧
          labelFragment (node.labels.map .text) = .error fault := by
  rw [insertStatement_eq_bind]
  cases hbound : (bindProperties ⟨{}, Entries.named node.ownProperty⟩ node.attributes).1 with
  | error refused =>
    have hempty : (bindProperties {} node.attributes).1 = .error refused :=
      bindProperties_eq_error_congr hbound
    rw [hempty]
    simp [Except.map, bind, Except.bind]
  | ok pairs =>
    have hempty : ∃ pairs, (bindProperties {} node.attributes).1 = .ok pairs := by
      cases hempty : (bindProperties {} node.attributes).1 with
      | ok pairs => exact ⟨pairs, rfl⟩
      | error refused =>
        rw [bindProperties_eq_error_congr hempty] at hbound
        exact absurd hbound (by simp)
    obtain ⟨others, hothers⟩ := hempty
    rw [hothers]
    cases labelFragment (node.labels.map .text) with
    | error refused => simp [Except.map, bind, Except.bind]
    | ok text => simp [Except.map, bind, Except.bind, pure, Except.pure]

/-- An identity makes no difference. -/
theorem insertStatement_under_eq_error_iff (identity : String) :
    (node.under identity).insertStatement = .error fault ↔
      node.insertStatement = .error fault := by
  rw [insertStatement_eq_error_iff, insertStatement_eq_error_iff]
  rfl

/-- **What an update is refused for**: a missing identity, or else a key. -/
theorem updateStatement_eq_error_iff :
    node.updateStatement = .error fault ↔
      (node.isAnonymous = true ∧ fault = .missingIdentity .update) ∨
        (node.isAnonymous = false ∧ (bindProperties {} node.attributes).1 = .error fault) := by
  rw [updateStatement]
  cases node.isAnonymous with
  | true => simp [eq_comm]
  | false =>
    have hbound : (bindProperties ⟨{}, node.matchParameters⟩ node.attributes).1 = .error fault ↔
        (bindProperties {} node.attributes).1 = .error fault :=
      ⟨bindProperties_eq_error_congr, bindProperties_eq_error_congr⟩
    rw [if_neg Bool.false_ne_true]
    change ((bindProperties ⟨{}, node.matchParameters⟩ node.attributes).1.map
      (assignmentsText "n")).map _ = _ ↔ _
    rw [← hbound]
    cases (bindProperties ⟨{}, node.matchParameters⟩ node.attributes).1 <;> simp [Except.map]

/-- A name of the node cannot be written into an insertion: a key, or a label. -/
theorem exists_insertStatement_eq_error_iff :
    (∃ fault, node.insertStatement = .error fault) ↔
      (∃ e ∈ node.attributes, e.1.Refused) ∨ ∃ l ∈ node.labels, isIdentifier l = false := by
  rw [← exists_bindProperties_eq_error_iff {}, ← exists_labelFragment_eq_error_iff]
  constructor
  · rintro ⟨fault, hfault⟩
    rcases insertStatement_eq_error_iff.mp hfault with hkeys | ⟨-, hlabels⟩
    · exact Or.inl ⟨fault, hkeys⟩
    · exact Or.inr ⟨fault, hlabels⟩
  · intro hrefused
    cases hkeys : (bindProperties {} node.attributes).1 with
    | error fault => exact ⟨fault, insertStatement_eq_error_iff.mpr (Or.inl hkeys)⟩
    | ok pairs =>
      rcases hrefused with ⟨fault, hfault⟩ | ⟨fault, hlabels⟩
      · exact absurd (hkeys.symm.trans hfault) (by simp)
      · exact ⟨fault, insertStatement_eq_error_iff.mpr (Or.inr ⟨⟨pairs, hkeys⟩, hlabels⟩)⟩

theorem exists_updateStatement_eq_error_iff :
    (∃ fault, node.updateStatement = .error fault) ↔
      node.isAnonymous = true ∨ ∃ e ∈ node.attributes, e.1.Refused := by
  simp only [updateStatement_eq_error_iff]
  rw [← exists_bindProperties_eq_error_iff {}]
  cases node.isAnonymous <;> simp

/-! ## 2.  Saves that are refused -/

/-- Saving a node is refused, whatever the store would say: an identity is missing, or a name cannot
be written.  An update writes no labels. -/
def Unsavable (node : Node) : Prop :=
  (node.isAnonymous = true ∧ (node.persisted = true ∨ node.fromStore = true)) ∨
    (∃ e ∈ node.attributes, e.1.Refused) ∨
    (node.persisted = false ∧ ∃ l ∈ node.labels, isIdentifier l = false)

/-- Saving a node begins with drawing an identity for it. -/
def draws (node : Node) (autoIdentity : Bool) : Bool :=
  !node.persisted && !node.fromStore && node.isAnonymous && autoIdentity

/-- What a save is refused with: an identity is missing, or a name is not accepted. -/
def RefusalFault (fault : Fault) : Prop :=
  (∃ purpose, fault = .missingIdentity purpose) ∨
    ∃ role given, fault = .invalidIdentifier role given

theorem refusalFault_of_insertStatement (h : node.insertStatement = .error fault) :
    RefusalFault fault := by
  rcases insertStatement_eq_error_iff.mp h with hkeys | ⟨-, hlabels⟩
  · exact Or.inr ⟨_, bindProperties_eq_error hkeys⟩
  · exact Or.inr ⟨_, labelFragment_eq_error hlabels⟩

theorem refusalFault_of_updateStatement (h : node.updateStatement = .error fault) :
    RefusalFault fault := by
  rcases updateStatement_eq_error_iff.mp h with ⟨-, hmissing⟩ | ⟨-, hkeys⟩
  · exact Or.inl ⟨_, hmissing⟩
  · exact Or.inr ⟨_, bindProperties_eq_error hkeys⟩

theorem sendInsert_of_eq_error (h : node.insertStatement = .error fault) :
    node.sendInsert = .done (.error fault, node) := by
  rw [sendInsert, h]

theorem update_of_eq_error (h : node.updateStatement = .error fault) :
    node.update = .done (.error fault, node) := by
  rw [update, h]

/-- A node that counts as persisted is not saved if its update cannot be written. -/
theorem unsavable_iff_of_persisted (h : node.persisted = true) :
    node.Unsavable ↔ ∃ fault, node.updateStatement = .error fault := by
  rw [exists_updateStatement_eq_error_iff, Unsavable, h]
  simp

/-- A node that may be inserted is not saved if its insertion cannot be written. -/
theorem unsavable_iff_of_not_persisted (h : node.persisted = false)
    (hread : (node.fromStore && node.isAnonymous) = false) :
    node.Unsavable ↔ ∃ fault, node.insertStatement = .error fault := by
  have hmissing :
      ¬ (node.isAnonymous = true ∧ (node.persisted = true ∨ node.fromStore = true)) := by
    rw [h]
    rintro ⟨hid, hpersisted | hfrom⟩
    · exact absurd hpersisted Bool.false_ne_true
    · rw [hfrom, hid] at hread
      exact absurd hread (by decide)
  rw [exists_insertStatement_eq_error_iff, Unsavable, h]
  simp only [h] at hmissing
  simp only [hmissing, false_or, true_and]

/-- **A save that is refused ends at once**, or right after it has drawn an identity. -/
theorem save_of_unsavable (autoIdentity : Bool) (h : node.Unsavable) :
    ∃ fault, RefusalFault fault ∧ node.save autoIdentity =
      if node.draws autoIdentity then
        .draw fun identity => .done (.error fault, node.under identity)
      else .done (.error fault, node) := by
  cases hpersisted : node.persisted with
  | true =>
    obtain ⟨fault, hfault⟩ := (unsavable_iff_of_persisted hpersisted).mp h
    refine ⟨fault, refusalFault_of_updateStatement hfault, ?_⟩
    rw [save, draws, hpersisted, if_pos rfl]
    exact update_of_eq_error hfault
  | false =>
    cases hread : node.fromStore && node.isAnonymous with
    | true =>
      obtain ⟨hfrom, -⟩ := Bool.and_eq_true_iff.mp hread
      refine ⟨.missingIdentity .insertAgain, Or.inl ⟨_, rfl⟩, ?_⟩
      rw [save, draws, hpersisted, if_neg Bool.false_ne_true, hread, if_pos rfl, hfrom]
      rfl
    | false =>
      obtain ⟨fault, hfault⟩ := (unsavable_iff_of_not_persisted hpersisted hread).mp h
      refine ⟨fault, refusalFault_of_insertStatement hfault, ?_⟩
      rw [save, hpersisted, if_neg Bool.false_ne_true, hread, if_neg Bool.false_ne_true, insert]
      cases hdraw : node.isAnonymous && autoIdentity with
      | true =>
        -- The identity is drawn first, and the statement is refused under it.
        have hdraws : node.draws autoIdentity = true := by
          obtain ⟨hid, hauto⟩ := Bool.and_eq_true_iff.mp hdraw
          rw [hid, Bool.and_true] at hread
          rw [draws, hpersisted, hread, hid, hauto]
          rfl
        have hunder : ∀ identity, (node.under identity).sendInsert =
            .done (.error fault, node.under identity) := fun identity =>
          sendInsert_of_eq_error ((insertStatement_under_eq_error_iff identity).mpr hfault)
        rw [hdraws, if_pos rfl, if_pos rfl]
        exact congrArg Program.draw (funext hunder)
      | false =>
        have hdraws : node.draws autoIdentity = false := by
          rw [draws, Bool.and_assoc, hdraw, Bool.and_false]
        rw [hdraws, if_neg Bool.false_ne_true, if_neg Bool.false_ne_true]
        exact sendInsert_of_eq_error hfault

theorem conversation_sendInsert_ne_nil {σ : Type} (gateway : Gateway) (world : World σ)
    (h : ¬ ∃ fault, node.insertStatement = .error fault) :
    node.sendInsert.conversation gateway world ≠ [] := by
  rw [sendInsert]
  cases hinsert : node.insertStatement with
  | error fault => exact absurd ⟨fault, hinsert⟩ h
  | ok statement => exact List.cons_ne_nil _ _

theorem conversation_update_ne_nil {σ : Type} (gateway : Gateway) (world : World σ)
    (h : ¬ ∃ fault, node.updateStatement = .error fault) :
    node.update.conversation gateway world ≠ [] := by
  rw [update]
  cases hupdate : node.updateStatement with
  | error fault => exact absurd ⟨fault, hupdate⟩ h
  | ok statement => exact List.cons_ne_nil _ _

/-- **Any other save hands its statement over.** -/
theorem conversation_save_ne_nil {σ : Type} (autoIdentity : Bool) (gateway : Gateway)
    (world : World σ) (h : ¬ node.Unsavable) :
    (node.save autoIdentity).conversation gateway world ≠ [] := by
  cases hpersisted : node.persisted with
  | true =>
    rw [unsavable_iff_of_persisted hpersisted] at h
    rw [save, hpersisted, if_pos rfl]
    exact conversation_update_ne_nil gateway world h
  | false =>
    cases hread : node.fromStore && node.isAnonymous with
    | true =>
      obtain ⟨hfrom, hid⟩ := Bool.and_eq_true_iff.mp hread
      exact absurd (Or.inl ⟨hid, Or.inr hfrom⟩) h
    | false =>
      rw [unsavable_iff_of_not_persisted hpersisted hread] at h
      rw [save, hpersisted, if_neg Bool.false_ne_true, hread, if_neg Bool.false_ne_true, insert]
      cases node.isAnonymous && autoIdentity with
      | false =>
        rw [if_neg Bool.false_ne_true]
        exact conversation_sendInsert_ne_nil gateway world h
      | true =>
        rw [if_pos rfl]
        refine conversation_sendInsert_ne_nil gateway _ ?_
        rintro ⟨fault, hfault⟩
        exact h ⟨fault, (insertStatement_under_eq_error_iff _).mp hfault⟩

end Node

/-! ## 3.  What is left -/

/-- **What is left of a save that was refused.**  For every node and through every gateway: a save
is refused before a statement is handed over exactly if the node is unsavable.  Nothing is changed
then, neither the node nor anything else, except by a save that begins with drawing an identity.
After that one the node has the identity, and one more identity has been drawn. -/
theorem refused_save {σ : Type} (node : Node) (gateway : Gateway) (world : World σ) :
    let save := node.save gateway.options.autoIdentity
    ((∃ fault after, (save.perform gateway world).1 = .ok (.error fault, after) ∧
        save.conversation gateway world = []) ↔ node.Unsavable) ∧
    (node.Unsavable → ∃ fault, Node.RefusalFault fault ∧ save.perform gateway world =
      if node.draws gateway.options.autoIdentity then
        (.ok (.error fault, node.under (identityText (world.identities + 1))),
          { world with identities := world.identities + 1 })
      else (.ok (.error fault, node), world)) := by
  intro save
  constructor
  · constructor
    · rintro ⟨fault, after, -, hnothing⟩
      by_contra hsavable
      exact node.conversation_save_ne_nil _ gateway world hsavable hnothing
    · intro hunsavable
      obtain ⟨fault, -, hsave⟩ := node.save_of_unsavable gateway.options.autoIdentity hunsavable
      change ∃ fault after, (Program.perform gateway (node.save _) world).1 = _ ∧
        Program.conversation gateway (node.save _) world = []
      rw [hsave]
      cases node.draws gateway.options.autoIdentity with
      | true => exact ⟨fault, _, rfl, rfl⟩
      | false => exact ⟨fault, _, rfl, rfl⟩
  · intro hunsavable
    obtain ⟨fault, hkind, hsave⟩ := node.save_of_unsavable gateway.options.autoIdentity hunsavable
    refine ⟨fault, hkind, ?_⟩
    change Program.perform gateway (node.save _) world = _
    rw [hsave]
    cases node.draws gateway.options.autoIdentity with
    | true => rfl
    | false => rfl

/-- A person with an attribute whose name cannot be written. -/
def misnamed : Node := { labels := ["Person"], attributes := [(.text "bad key", .int 1)] }

theorem refused_misnamed : ∃ e ∈ misnamed.attributes, e.1.Refused := by
  refine ⟨_, List.mem_cons_self, fun name hname => ?_⟩
  rw [← Key.text.inj hname]
  decide

/-- If she has an identity, a refused save leaves everything. -/
theorem refused_save_misnamed :
    let world : World Unit := { own := () }
    let person := misnamed.under "k"
    person.Unsavable ∧ person.draws true = false ∧
      ∃ fault, Node.RefusalFault fault ∧
        (person.save true).perform (.transaction {}) world =
          (.ok (.error fault, person), world) := by
  intro world person
  have hunsavable : person.Unsavable := Or.inr (Or.inl refused_misnamed)
  obtain ⟨-, hleft⟩ := refused_save person (.transaction {}) world
  obtain ⟨fault, hkind, hperformed⟩ := hleft hunsavable
  exact ⟨hunsavable, rfl, fault, hkind, hperformed⟩

/-- **A refused save can give an identity to the node.**  If she has none, nothing is handed over
either, but she has an identity afterwards, and one has been drawn. -/
theorem identity_drawn_by_refused_save :
    let world : World Unit := { own := () }
    let save := misnamed.save true
    misnamed.identity = .null ∧ save.conversation (.transaction {}) world = [] ∧
      (save.perform (.transaction {}) world).1 =
        .ok (.error (.invalidIdentifier propertyRole (.text "bad key")),
          misnamed.under (identityText 1)) ∧
      (misnamed.under (identityText 1)).identity ≠ .null ∧
      (save.perform (.transaction {}) world).2.identities = 1 :=
  ⟨rfl, rfl, rfl, by simp [Node.under], rfl⟩

end GraphMapper
