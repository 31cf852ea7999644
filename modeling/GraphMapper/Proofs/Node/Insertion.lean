import GraphMapper.Proofs.Node.SaveRefusal

/-!
# A node is inserted once

Whether saving inserts a node depends on three of its fields: on the flag, on whether it was read
from the store, and on whether it has an identity.  `Node.Held` is the condition on them under which
saving does not insert: the node counts as persisted, or it was read and has no identity.

* A node that was read is held (`Node.held_hydrate`), and so is one that was inserted under an
  identity (`Node.held_of_inserts`).
* A held node is not inserted and stays held, unless it is deleted or refreshing finds nothing
  (`Node.Held.step`).
* `not_inserted_again` follows by induction on the run.

An insertion that binds no identity is another matter.  It can succeed, but nothing could find the
node again, so the node does not count as persisted.  `Node.Untraceable` is what it is then.  Only a
save ends that (`Node.Untraceable.step`), and the next save inserts a second node
(`Node.Untraceable.creates`, `inserted_twice`).
-/

namespace GraphMapper

/-! ## 1.  Insertions and releases -/

namespace Happening

/-- A save has created the node and returned true.  The identity is the one that was bound. -/
def Inserts (happening : Happening) (identity : Option Value) : Prop :=
  (∃ autoIdentity, happening.call = .store (.save autoIdentity)) ∧ happening.outcome = .ok true ∧
    ∃ move ∈ happening.moves, move.creates = true ∧ move.identity? = identity

/-- The node was deleted, or refreshing has found no record of it. -/
def Releases (happening : Happening) : Prop :=
  (∃ detach, happening.call = .store (.delete detach) ∧ happening.outcome = .ok true) ∨
    (happening.call = .store .refresh ∧ ∃ statement result,
      happening.moves = [.exchanged ⟨statement, .ok result⟩] ∧ result.count = 0)

theorem not_releases_of_save {happening : Happening}
    (h : ∃ autoIdentity, happening.call = .store (.save autoIdentity)) : ¬ happening.Releases := by
  obtain ⟨autoIdentity, hsave⟩ := h
  rintro (⟨detach, hcall, -⟩ | ⟨hcall, -⟩)
  · exact absurd (hsave.symm.trans hcall) (by simp)
  · exact absurd (hsave.symm.trans hcall) (by simp)

end Happening

/-- Saving does not insert the node: it counts as persisted, or it was read without an identity. -/
def Node.Held (node : Node) : Prop :=
  node.persisted = true ∨ (node.fromStore = true ∧ node.isAnonymous = true)

/-- Nothing could find the stored copy of the node again: it has no identity, and neither counts as
persisted nor was read.  All its names can be written. -/
structure Node.Untraceable (node : Node) : Prop where
  anonymous : node.isAnonymous = true
  persisted : node.persisted = false
  fromStore : node.fromStore = false
  keys : ∀ e ∈ node.attributes, ¬ e.1.Refused
  labels : ∀ l ∈ node.labels, isIdentifier l = true

namespace Node

variable {node after : Node} {moves : List Move} {outcome : Except Fault Bool}

/-- A node that was read is held. -/
theorem held_hydrate (stored : StoredNode) : (hydrate stored).Held := by
  cases hid : (hydrate stored).storedIdentity.isNull with
  | true =>
    refine Or.inr ⟨rfl, ?_⟩
    have hidentity : (hydrate stored).identity = identityOf (hydrate stored).storedIdentity := rfl
    rw [isAnonymous, hidentity, Value.isNull_iff.mp hid]
    rfl
  | false =>
    left
    change (!(hydrate stored).storedIdentity.isNull) = true
    rw [hid]
    rfl

/-- No record has been found if no node has. -/
theorem count_of_nodes_eq_nil {result : RecordSet} {key : Key} (h : result.nodes key = .ok []) :
    result.count = 0 := by
  rw [RecordSet.nodes] at h
  rw [RecordSet.count]
  cases hrecords : result.records with
  | nil => rfl
  | cons record rest =>
    rw [hrecords, RecordSet.nodesFrom] at h
    split at h
    · exact absurd h (by simp)
    · split at h
      · rename_i labels properties hbare
        cases hrest : RecordSet.nodesFrom key 1 rest with
        | error fault =>
          rw [hrest] at h
          exact absurd h (by simp [Except.map])
        | ok found =>
          rw [hrest] at h
          exact absurd (Except.ok.inj h) (by simp)
      · exact absurd h (by simp)

/-- A change in memory leaves all that holds a node. -/
theorem held_of_edit (h : node.Held) {result : Except Fault Node}
    (hresult : ∀ changed, result = .ok changed → changed.Held)
    (htakes : (Program.done (node.changed result)).Takes moves (outcome, after)) :
    after.Held ∧ ∀ move ∈ moves, move.creates = false := by
  obtain ⟨rfl, rfl | hchanged⟩ := takes_changed htakes
  · exact ⟨h, fun _ hmove => absurd hmove List.not_mem_nil⟩
  · exact ⟨hresult after hchanged, fun _ hmove => absurd hmove List.not_mem_nil⟩

/-- **A held node is not inserted by a call, and stays held**, unless the call releases it. -/
theorem Held.step (h : node.Held) {call : LifeCall}
    (htakes : (call.program node).Takes moves (outcome, after))
    (hreleases : ¬ Happening.Releases ⟨call, moves, outcome⟩) :
    after.Held ∧ ∀ move ∈ moves, move.creates = false := by
  cases call with
  | set key value =>
    refine held_of_edit h (fun changed hset => ?_) htakes
    obtain ⟨_, -, -, -, rfl⟩ := set_eq_ok hset
    exact h
  | unset key =>
    refine held_of_edit h (fun changed hunset => ?_) htakes
    rw [← Except.ok.inj hunset]
    exact h
  | addLabel label =>
    refine held_of_edit h (fun changed hadd => ?_) htakes
    obtain ⟨_, -, -, rfl⟩ := addLabel_eq_ok hadd
    exact h
  | store call =>
    cases call with
    | save autoIdentity =>
      rcases takes_save htakes with ⟨rfl, hquiet⟩ | ⟨hpersisted, hread, -⟩
      · exact ⟨h, fun move hmove => (hquiet move hmove).1⟩
      · -- What is inserted is neither persisted nor refused.
        rcases h with hheld | ⟨hfrom, hid⟩
        · exact absurd (hpersisted.symm.trans hheld) Bool.false_ne_true
        · rw [hfrom, hid] at hread
          exact absurd hread.symm Bool.false_ne_true
    | delete detach =>
      obtain ⟨hquiet, rfl | ⟨rfl, -⟩⟩ := takes_delete htakes
      · exact ⟨h, fun move hmove => (hquiet move hmove).1⟩
      · exact absurd (Or.inl ⟨detach, rfl, rfl⟩) hreleases
    | refresh =>
      obtain ⟨hquiet, rfl | ⟨result, found, -, -, hmoves, hfound, rfl⟩⟩ := takes_refresh htakes
      · exact ⟨h, fun move hmove => (hquiet move hmove).1⟩
      · cases found with
        | cons stored rest => exact ⟨Or.inl rfl, fun move hmove => (hquiet move hmove).1⟩
        | nil =>
          exact absurd (Or.inr ⟨rfl, _, result, hmoves, count_of_nodes_eq_nil hfound⟩) hreleases

/-- What an insertion that succeeds leaves: a node that is persisted if it has an identity. -/
theorem inserted_of_sendInsert (h : node.sendInsert.Takes moves (.ok true, after)) :
    after = { node with persisted := node.persisted || !node.isAnonymous } := by
  rcases takes_sendInsert h with ⟨-, hne, -⟩ | ⟨statement, answer, -, -, ⟨hne, -⟩ | ⟨-, rfl⟩⟩
  · exact absurd rfl hne
  · exact absurd rfl hne
  · rfl

/-- **A node that was inserted under an identity is held.** -/
theorem held_of_inserts {call : LifeCall}
    (htakes : (call.program node).Takes moves (outcome, after))
    {identity : Value} (h : Happening.Inserts ⟨call, moves, outcome⟩ (some identity)) :
    after.Held := by
  obtain ⟨-, houtcome, move, hmove, hcreates, hidentity⟩ := h
  obtain rfl : outcome = .ok true := houtcome
  -- After a move that gave an identity the node has it.
  have hid := ((settles_step htakes).given move hmove identity hidentity).2
  have hheld : ∀ {before : Node} {rest : List Move},
      before.sendInsert.Takes rest (.ok true, after) → after.Held := by
    intro before rest hinsert
    rw [inserted_of_sendInsert hinsert] at hid ⊢
    left
    change (before.persisted || !before.isAnonymous) = true
    have hbefore : before.isAnonymous = false := hid
    rw [hbefore]
    exact Bool.or_true _
  rcases step_cases htakes with ⟨-, hquiet⟩ | ⟨_, -, ⟨-, hinsert⟩ | ⟨_, _, -, -, hinsert⟩⟩
  · exact absurd ((hquiet move hmove).1.symm.trans hcreates) Bool.false_ne_true
  · exact hheld hinsert
  · exact hheld hinsert

/-- What was written into an insertion was accepted. -/
theorem accepted_of_sendInsert (h : node.sendInsert.Takes moves (outcome, after)) {move : Move}
    (hmove : move ∈ moves) :
    (∀ e ∈ after.attributes, ¬ e.1.Refused) ∧ ∀ l ∈ after.labels, isIdentifier l = true := by
  rcases takes_sendInsert h with ⟨rfl, -, -⟩ | ⟨statement, answer, hstatement, -, hafter⟩
  · exact absurd hmove List.not_mem_nil
  · have hwritten : ¬ ∃ fault, node.insertStatement = .error fault := by
      rintro ⟨fault, hfault⟩
      exact absurd (hstatement.symm.trans hfault) (by simp)
    rw [exists_insertStatement_eq_error_iff, not_or] at hwritten
    obtain ⟨hkeys, hlabels⟩ := hwritten
    have hboth : (∀ e ∈ node.attributes, ¬ e.1.Refused) ∧
        ∀ l ∈ node.labels, isIdentifier l = true :=
      ⟨fun e he hrefused => hkeys ⟨e, he, hrefused⟩, fun l hl => by
        by_contra hrefused
        exact hlabels ⟨l, hl, Bool.not_eq_true _ ▸ hrefused⟩⟩
    rcases hafter with ⟨-, rfl⟩ | ⟨-, rfl⟩ <;> exact hboth

/-- **A node that was inserted without an identity is untraceable.** -/
theorem untraceable_of_inserts {call : LifeCall}
    (htakes : (call.program node).Takes moves (outcome, after))
    (h : Happening.Inserts ⟨call, moves, outcome⟩ none) : after.Untraceable := by
  obtain ⟨⟨autoIdentity, rfl⟩, houtcome, move, hmove, hcreates, hnone⟩ := h
  obtain rfl : outcome = .ok true := houtcome
  -- An insertion of a node that has an identity binds it.
  have hidentified : ∀ {before : Node} {rest : List Move}, before.isAnonymous = false →
      move ∈ rest → ¬ before.sendInsert.Takes rest (.ok true, after) := by
    intro before rest hid hrest hinsert
    have hsome := (respects_of_sendInsert hid hinsert move hrest).2 hcreates
    rw [hnone] at hsome
    exact absurd hsome (by simp)
  rcases takes_save htakes with ⟨-, hquiet⟩ | ⟨hpersisted, hread, hinsert⟩
  · exact absurd ((hquiet move hmove).1.symm.trans hcreates) Bool.false_ne_true
  rcases hinsert with ⟨-, hinsert⟩ | ⟨identity, rest, -, rfl, hinsert⟩
  · cases hid : node.isAnonymous with
    | false => exact absurd hinsert (hidentified hid hmove)
    | true =>
      rw [hid, Bool.and_true] at hread
      obtain ⟨hkeys, hlabels⟩ := accepted_of_sendInsert hinsert hmove
      obtain rfl := inserted_of_sendInsert hinsert
      refine ⟨hid, ?_, hread, hkeys, hlabels⟩
      change (node.persisted || !node.isAnonymous) = false
      rw [hpersisted, hid]
      rfl
  · rcases List.mem_cons.mp hmove with rfl | hrest
    · exact absurd hcreates Bool.false_ne_true
    · exact absurd hinsert (hidentified rfl hrest)

namespace Untraceable

/-- **A call that is no save leaves an untraceable node untraceable.** -/
theorem step (h : node.Untraceable) {call : LifeCall}
    (hcall : ∀ autoIdentity, call ≠ .store (.save autoIdentity))
    (htakes : (call.program node).Takes moves (outcome, after)) : after.Untraceable := by
  cases call with
  | set key value =>
    obtain ⟨-, rfl | hset⟩ := takes_changed htakes
    · exact h
    · obtain ⟨name, -, -, haccepted, rfl⟩ := set_eq_ok hset
      refine { h with keys := fun e he => ?_ }
      rcases Entries.mem_put he with hkey | ⟨f, hf, hkey⟩
      · exact Key.not_refused_iff.mpr ⟨name, hkey, haccepted⟩
      · rw [← hkey]
        exact h.keys f hf
  | unset key =>
    obtain ⟨-, rfl | hunset⟩ := takes_changed htakes
    · exact h
    · rw [← Except.ok.inj hunset]
      refine { h with keys := fun e he => h.keys e ?_ }
      exact (Entries.erase_sublist node.attributes key).subset he
  | addLabel label =>
    obtain ⟨-, rfl | hadd⟩ := takes_changed htakes
    · exact h
    · obtain ⟨name, -, haccepted, rfl⟩ := addLabel_eq_ok hadd
      refine { h with labels := fun l hl => ?_ }
      rcases mem_addDistinct.mp hl with hl | rfl
      · exact h.labels l hl
      · exact haccepted
  | store call =>
    cases call with
    | save autoIdentity => exact absurd rfl (hcall autoIdentity)
    | delete detach =>
      obtain ⟨-, rfl | ⟨-, rfl⟩⟩ := takes_delete htakes
      · exact h
      · exact { h with persisted := rfl }
    | refresh =>
      obtain ⟨-, rfl | ⟨_, _, hid, -⟩⟩ := takes_refresh htakes
      · exact h
      · exact absurd (hid.symm.trans h.anonymous) Bool.false_ne_true

/-- Under any identity its insertion is written. -/
theorem creates_of_sendInsert (h : node.Untraceable) {identity : Value}
    (htakes : ({ node with identity := identity } : Node).sendInsert.Takes moves (outcome, after)) :
    ∃ move ∈ moves, move.creates = true := by
  rw [sendInsert] at htakes
  split at htakes
  · rename_i fault hfault
    rcases exists_insertStatement_eq_error_iff.mp ⟨fault, hfault⟩ with
      ⟨e, he, hrefused⟩ | ⟨l, hl, hrefused⟩
    · exact absurd hrefused (h.keys e he)
    · exact absurd (hrefused.symm.trans (h.labels l hl)) Bool.false_ne_true
  · rename_i statement hstatement
    cases htakes with
    | send answer htakes => exact ⟨_, List.mem_cons_self, creates_insertStatement hstatement⟩

/-- **Saving an untraceable node creates it**, whatever the gateway and the answer. -/
theorem creates (h : node.Untraceable) {autoIdentity : Bool}
    (htakes : (node.save autoIdentity).Takes moves (outcome, after)) :
    ∃ move ∈ moves, move.creates = true := by
  rw [save, h.persisted, if_neg Bool.false_ne_true, h.fromStore, Bool.false_and,
    if_neg Bool.false_ne_true, insert] at htakes
  split at htakes
  · cases htakes with
    | draw identity htakes =>
      obtain ⟨move, hmove, hcreates⟩ := h.creates_of_sendInsert htakes
      exact ⟨move, List.mem_cons_of_mem _ hmove, hcreates⟩
  · exact h.creates_of_sendInsert htakes

end Untraceable

end Node

/-! ## 2.  Runs -/

namespace Life

variable {node later : Node}

/-- **A held node stays held in every run** in which it is not released. -/
theorem held {happenings : List Happening} (h : Life node happenings later) (hnode : node.Held)
    (hreleases : ∀ happening ∈ happenings, ¬ happening.Releases) : later.Held := by
  induction h with
  | ended node => exact hnode
  | lived htakes _ ih =>
    have hfirst := hnode.step htakes (hreleases _ List.mem_cons_self)
    exact ih hfirst.1 fun happening hmem => hreleases happening (List.mem_cons_of_mem _ hmem)

/-- So a save at the end of such a run does not insert it. -/
theorem not_created_of_held {between rest : List Happening} {last : Happening}
    (h : Life node (between ++ last :: rest) later) (hnode : node.Held)
    (hreleases : ∀ happening ∈ between, ¬ happening.Releases)
    (hsave : ∃ autoIdentity, last.call = .store (.save autoIdentity)) :
    ∀ move ∈ last.moves, move.creates = false := by
  obtain ⟨before, hbetween, hlast⟩ := h.split
  cases hlast with
  | lived htakes _ =>
    exact ((hbetween.held hnode hreleases).step htakes
      (Happening.not_releases_of_save hsave)).2

/-- **An untraceable node stays untraceable in every run** in which it is not saved. -/
theorem untraceable {happenings : List Happening} (h : Life node happenings later)
    (hnode : node.Untraceable) (hsaves : ∀ happening ∈ happenings, ∀ autoIdentity,
      happening.call ≠ .store (.save autoIdentity)) : later.Untraceable := by
  induction h with
  | ended node => exact hnode
  | lived htakes _ ih =>
    refine ih (hnode.step (hsaves _ List.mem_cons_self) htakes) fun happening hmem => ?_
    exact hsaves happening (List.mem_cons_of_mem _ hmem)

end Life

/-- **A node is inserted once.**  In every run of calls on a node, through any gateways and with any
answers:

* after a save that has created the node under an identity and returned true, no save creates it
  until it was deleted or refreshing has found no record of it;
* a node that was read from the store is not created by a save before that;
* after a save that has created the node without an identity, the node has none and does not count
  as persisted, and the next save creates it again. -/
theorem not_inserted_again {origin later : Node} {happenings : List Happening}
    (h : Life origin happenings later) :
    (∀ (first : List Happening) (inserted : Happening) (between : List Happening)
        (last : Happening) (rest : List Happening) (identity : Value),
      happenings = first ++ inserted :: (between ++ last :: rest) →
      inserted.Inserts (some identity) → (∀ happening ∈ between, ¬ happening.Releases) →
      (∃ autoIdentity, last.call = .store (.save autoIdentity)) →
        ∀ move ∈ last.moves, move.creates = false) ∧
    (∀ (stored : StoredNode) (between : List Happening) (last : Happening)
        (rest : List Happening), origin = .hydrate stored →
      happenings = between ++ last :: rest → (∀ happening ∈ between, ¬ happening.Releases) →
      (∃ autoIdentity, last.call = .store (.save autoIdentity)) →
        ∀ move ∈ last.moves, move.creates = false) ∧
    (∀ (first : List Happening) (inserted : Happening) (rest : List Happening),
      happenings = first ++ inserted :: rest → inserted.Inserts none →
      ∃ after, Life origin (first ++ [inserted]) after ∧ Life after rest later ∧
        after.isAnonymous = true ∧ after.persisted = false ∧ after.fromStore = false) ∧
    ∀ (first : List Happening) (inserted : Happening) (between : List Happening)
        (last : Happening) (rest : List Happening),
      happenings = first ++ inserted :: (between ++ last :: rest) → inserted.Inserts none →
      (∀ happening ∈ between, ∀ autoIdentity, happening.call ≠ .store (.save autoIdentity)) →
      (∃ autoIdentity, last.call = .store (.save autoIdentity)) →
        ∃ move ∈ last.moves, move.creates = true := by
  refine ⟨?_, ?_, ?_, ?_⟩
  · rintro first inserted between last rest identity rfl hinserts hreleases hsave
    obtain ⟨before, -, hinserted⟩ := h.split
    cases hinserted with
    | lived htakes hrest =>
      exact hrest.not_created_of_held (Node.held_of_inserts htakes hinserts) hreleases hsave
  · rintro stored between last rest rfl rfl hreleases hsave
    exact h.not_created_of_held (Node.held_hydrate stored) hreleases hsave
  · rintro first inserted rest rfl hinserts
    obtain ⟨before, hfirst, hinserted⟩ := h.split
    cases hinserted with
    | lived htakes hrest =>
      have hafter := Node.untraceable_of_inserts htakes hinserts
      exact ⟨_, hfirst.append (.lived htakes (.ended _)), hrest, hafter.anonymous,
        hafter.persisted, hafter.fromStore⟩
  · rintro first inserted between last rest rfl hinserts hsaves ⟨autoIdentity, hsave⟩
    obtain ⟨before, -, hinserted⟩ := h.split
    cases hinserted with
    | lived htakes hrest =>
      have hafter := Node.untraceable_of_inserts htakes hinserts
      obtain ⟨unsaved, hbetween, hlast⟩ := hrest.split
      cases hlast with
      | @lived _ _ _ call _ _ _ hnext _ =>
        obtain rfl : call = .store (.save autoIdentity) := hsave
        exact (hbetween.untraceable hafter hsaves).creates hnext

/-- A person under an identity who is saved twice is created once. -/
theorem not_inserted_again_person :
    ∃ later first last, Life (nameless.under "k") [first, last] later ∧
      first.Inserts (some (.text "k")) ∧ last.outcome = .ok true ∧
      ∀ move ∈ last.moves, move.creates = false := by
  have hcreated : (LifeCall.program (.store (.save true)) (nameless.under "k")).Takes _
      (.ok true, { nameless.under "k" with persisted := true }) := .send (.ok ⟨[.null]⟩) (.done _)
  have hupdated : (LifeCall.program (.store (.save true))
      { nameless.under "k" with persisted := true }).Takes _ (.ok true, _) :=
    .send (.ok ⟨[.null]⟩) (.done _)
  have hlife := Life.lived hcreated (.lived hupdated (.ended _))
  obtain ⟨hagain, -⟩ := not_inserted_again hlife
  refine ⟨_, _, _, hlife, ?inserts, rfl, hagain [] _ [] _ [] _ rfl ?inserts
    (fun _ hmem => absurd hmem List.not_mem_nil) ⟨true, rfl⟩⟩
  exact ⟨⟨true, rfl⟩, rfl, _, List.mem_cons_self, rfl, rfl⟩

/-- **A node without an identity is inserted by every save**: through a gateway that hands out no
identities, two saves one after the other both create it and both return true. -/
theorem inserted_twice :
    nameless.Origin ∧ ∃ later first second, Life nameless [first, second] later ∧
      first.Inserts none ∧ second.Inserts none ∧ ¬ first.Releases ∧ later.persisted = false := by
  have hcreated : (LifeCall.program (.store (.save false)) nameless).Takes _ (.ok true, nameless) :=
    .send (.ok ⟨[.null]⟩) (.done _)
  have hinserts : ∀ move : Move, move.creates = true → move.identity? = none →
      Happening.Inserts ⟨.store (.save false), [move], .ok true⟩ none :=
    fun move hcreates hnone => ⟨⟨false, rfl⟩, rfl, move, List.mem_cons_self, hcreates, hnone⟩
  exact ⟨origin_nameless, _, _, _, .lived hcreated (.lived hcreated (.ended _)),
    hinserts _ rfl rfl, hinserts _ rfl rfl, Happening.not_releases_of_save ⟨false, rfl⟩, rfl⟩

end GraphMapper
