import GraphMapper.Proofs.Graph.Scene
import GraphMapper.Proofs.Node.Identity

/-!
# The life of a node

A node is made by the constructor, which checks it, or by hydration, which does not.  After that it
is changed in memory, saved, deleted and refreshed, in any order and through any gateways, and every
call can be refused or can fail.  `Life` is any such run.  It lists the calls in order, each
with the moves that it took: the statements that were sent, with what the store answered, and the
identities that were drawn.  Nothing is assumed of the answers.

## 1.  What one call can do

Each call is opened once, in the lemmas `takes_*`: they say what it sends, what it draws, and what
it leaves.  Everything later is a consequence of those.

## 2.  What holds at every moment

* `Node.Sound`: a persisted node has an identity, no label occurs twice, and the identity is an
  attribute only if it was one from the beginning.  `Life.sound` is the induction.
* `Move.Fixes`: an identity that was drawn, or that a creation has bound, is the only one ever
  after.  `Life.fixes` is the induction; it rests on `Life.of_identified`, which says that a node
  that has an identity keeps it, draws none, and is created under no other.

`life_invariant` collects these.

## What does not hold

The identity should be an attribute of no node.  No call makes it one, and hydration leaves it in no
node that it makes.  But the constructor can: it checks more than it looks through for the identity,
and so it can overlook it (`identity_left_among_attributes`).  `Node.TakesIdentity` says when.
-/

namespace GraphMapper

/-! ## 1.  Calls -/

/-- A call on a node: on the node in memory, or one that goes to the store. -/
inductive LifeCall where
  | set (key value : Value)
  | unset (key : Key)
  | addLabel (label : Value)
  | store (call : StoreCall)

/-- What a change in memory comes to: a change that is refused leaves the node. -/
def Node.changed (node : Node) : Except Fault Node → Except Fault Bool × Node
  | .ok after => (.ok true, after)
  | .error fault => (.error fault, node)

/-- What a call does: whether it succeeded, and the node after it. -/
def LifeCall.program : LifeCall → Node → Program (Except Fault Bool × Node)
  | .set key value, node => .done (node.changed (node.set key value))
  | .unset key, node => .done (node.changed (.ok (node.unset key).2))
  | .addLabel label, node => .done (node.changed (node.addLabel label))
  | .store call, node => call.program node

/-- A call that was performed, the moves that it took, and what it came to. -/
structure Happening where
  call : LifeCall
  moves : List Move
  outcome : Except Fault Bool

/-- Any run of calls, from one state of a node to another. -/
inductive Life : Node → List Happening → Node → Prop
  | ended (node : Node) : Life node [] node
  | lived {node between later : Node} {call : LifeCall} {moves : List Move}
      {outcome : Except Fault Bool} {rest : List Happening}
      (htakes : (call.program node).Takes moves (outcome, between)) (h : Life between rest later) :
      Life node (⟨call, moves, outcome⟩ :: rest) later

/-- All the moves of a run, in order. -/
def movesOf (happenings : List Happening) : List Move := happenings.flatMap Happening.moves

theorem movesOf_cons (happening : Happening) (rest : List Happening) :
    movesOf (happening :: rest) = happening.moves ++ movesOf rest := List.flatMap_cons

/-- A run can be cut between two calls. -/
theorem Life.split {node later : Node} {first rest : List Happening}
    (h : Life node (first ++ rest) later) :
    ∃ between, Life node first between ∧ Life between rest later := by
  induction first generalizing node with
  | nil => exact ⟨node, .ended node, h⟩
  | cons happening first ih =>
    cases h with
    | lived htakes h =>
      obtain ⟨between, hfirst, hrest⟩ := ih h
      exact ⟨between, .lived htakes hfirst, hrest⟩

theorem Life.append {node between later : Node} {first rest : List Happening}
    (hfirst : Life node first between) (hrest : Life between rest later) :
    Life node (first ++ rest) later := by
  induction hfirst with
  | ended node => exact hrest
  | lived htakes _ ih => exact .lived htakes (ih hrest)

/-! ## 2.  Creations and draws -/

/-- A statement that creates a node. -/
def Statement.creates (statement : Statement) : Bool :=
  "CREATE".toList.isPrefixOf statement.text.toList

/-- A statement that begins with another letter creates nothing. -/
theorem Statement.creates_of_match {statement : Statement} {start rest : String}
    (htext : statement.text = start ++ rest) (hstart : start.toList.head? = some 'M') :
    statement.creates = false := by
  rw [creates, htext, String.toList_append]
  cases hchars : start.toList with
  | nil =>
    rw [hchars] at hstart
    exact absurd hstart (by simp)
  | cons c rest =>
    rw [hchars] at hstart
    obtain rfl := Option.some.inj hstart
    rfl

namespace Move

/-- A move that sends a statement that creates a node. -/
def creates : Move → Bool
  | .exchanged exchange => exchange.statement.creates
  | .drew _ => false

/-- A move that draws an identity. -/
def draws : Move → Bool
  | .exchanged _ => false
  | .drew _ => true

/-- A move that neither creates a node nor draws an identity. -/
def Quiet (move : Move) : Prop := move.creates = false ∧ move.draws = false

theorem quiet_nil : ∀ move ∈ ([] : List Move), move.Quiet :=
  fun _ hmove => absurd hmove List.not_mem_nil

theorem quiet_exchange {statement : Statement} (answer : Except Fault RecordSet)
    (h : statement.creates = false) : ∀ move ∈ [exchanged ⟨statement, answer⟩], move.Quiet := by
  intro move hmove
  obtain rfl := List.mem_singleton.mp hmove
  exact ⟨h, rfl⟩

/-- The identity that a move gives to the node: the one that was drawn, or the one that is bound by
a statement that creates the node. -/
def identity? : Move → Option Value
  | .exchanged exchange =>
    if exchange.statement.creates then exchange.statement.parameters.get? Node.identityEntry
    else none
  | .drew identity => some (.text identity)

/-- After a move that gave an identity to the node no other is drawn, and none is bound by a
statement that creates the node. -/
def Fixes (earlier later : Move) : Prop :=
  ∀ value, earlier.identity? = some value →
    later.draws = false ∧ (later.creates = true → later.identity? = some value)

/-- The nodes that a move brought back. -/
def nodes : Move → List StoredNode
  | .exchanged exchange => exchange.nodes
  | .drew _ => []

end Move

namespace Node

variable {node after : Node} {moves : List Move} {outcome : Except Fault Bool}

theorem creates_insertStatement {statement : Statement}
    (h : node.insertStatement = .ok statement) : statement.creates = true := by
  obtain ⟨pairs, -, -, htext⟩ := insertStatement_eq_ok h
  rw [Statement.creates, htext, creationText, List.isPrefixOf_iff_prefix]
  simp only [String.toList_append, List.append_assoc]
  exact ⟨" (n".toList ++ _, rfl⟩

theorem creates_updateStatement {statement : Statement}
    (h : node.updateStatement = .ok statement) : statement.creates = false := by
  obtain ⟨pairs, -, htext⟩ := updateStatement_eq_ok h
  exact Statement.creates_of_match (htext.trans (String.append_assoc ..)) (by decide)

theorem creates_deleteStatement (node : Node) (detach : Bool) :
    (node.deleteStatement detach).creates = false := by
  have htext : (node.deleteStatement detach).text =
      "MATCH (n) WHERE n.id = $id " ++ (deleteKeyword detach ++ " n") := String.append_assoc ..
  exact Statement.creates_of_match htext (by decide)

theorem creates_refreshStatement (node : Node) : node.refreshStatement.creates = false := by
  have htext : node.refreshStatement.text = "MATCH (n) WHERE n.id = $id RETURN n" ++ "" :=
    String.append_empty.symm
  exact Statement.creates_of_match htext (by decide)

/-! ## 3.  What one call can do -/

theorem takes_done {result : Except Fault Bool × Node}
    (h : (Program.done result).Takes moves (outcome, after)) :
    moves = [] ∧ outcome = result.1 ∧ after = result.2 := by
  cases h
  exact ⟨rfl, rfl, rfl⟩

/-- A change in memory sends nothing. -/
theorem takes_changed {result : Except Fault Node}
    (h : (Program.done (node.changed result)).Takes moves (outcome, after)) :
    moves = [] ∧ (after = node ∨ result = .ok after) := by
  obtain ⟨hmoves, -, hafter⟩ := takes_done h
  cases result with
  | error fault => exact ⟨hmoves, Or.inl hafter⟩
  | ok changed => exact ⟨hmoves, Or.inr (by rw [hafter]; rfl)⟩

/-- An update leaves the node. -/
theorem takes_update (h : node.update.Takes moves (outcome, after)) :
    after = node ∧ ∀ move ∈ moves, move.Quiet := by
  rw [update] at h
  split at h
  · obtain ⟨rfl, -, rfl⟩ := takes_done h
    exact ⟨rfl, Move.quiet_nil⟩
  · rename_i statement hstatement
    cases h with
    | send answer h =>
      obtain ⟨rfl, -, rfl⟩ := takes_done h
      exact ⟨rfl, Move.quiet_exchange answer (creates_updateStatement hstatement)⟩

/-- An insertion is refused, or it sends one statement.  The node is left, or it is persisted if
there is an identity. -/
theorem takes_sendInsert (h : node.sendInsert.Takes moves (outcome, after)) :
    (moves = [] ∧ outcome ≠ .ok true ∧ after = node) ∨
      ∃ statement answer, node.insertStatement = .ok statement ∧
        moves = [.exchanged ⟨statement, answer⟩] ∧
        ((outcome ≠ .ok true ∧ after = node) ∨
          (outcome = .ok true ∧
            after = { node with persisted := node.persisted || !node.isAnonymous })) := by
  rw [sendInsert] at h
  split at h
  · cases h
    exact Or.inl ⟨rfl, by simp, rfl⟩
  · rename_i statement hstatement
    right
    cases h with
    | send answer h =>
      dsimp only at h
      split at h
      · cases h
        exact ⟨statement, _, hstatement, rfl, Or.inl ⟨by simp, rfl⟩⟩
      · split at h
        · cases h
          exact ⟨statement, _, hstatement, rfl, Or.inl ⟨by simp, rfl⟩⟩
        · cases h
          exact ⟨statement, _, hstatement, rfl, Or.inr ⟨rfl, rfl⟩⟩

/-- The node under an identity. -/
def under (node : Node) (identity : String) : Node := { node with identity := .text identity }

/-- Saving leaves the node and is quiet, or it inserts the node, under an identity that it draws
first if there is none and the gateway allows it. -/
theorem takes_save {autoIdentity : Bool}
    (h : (node.save autoIdentity).Takes moves (outcome, after)) :
    (after = node ∧ ∀ move ∈ moves, move.Quiet) ∨
      (node.persisted = false ∧ (node.fromStore && node.isAnonymous) = false ∧
        ((node.isAnonymous && autoIdentity) = false ∧
            node.sendInsert.Takes moves (outcome, after) ∨
          ∃ identity rest, node.isAnonymous = true ∧ moves = .drew identity :: rest ∧
            (node.under identity).sendInsert.Takes rest (outcome, after))) := by
  rw [save] at h
  cases hpersisted : node.persisted with
  | true =>
    rw [hpersisted, if_pos rfl] at h
    exact Or.inl (takes_update h)
  | false =>
    rw [hpersisted, if_neg Bool.false_ne_true] at h
    cases hrefused : node.fromStore && node.isAnonymous with
    | true =>
      rw [hrefused, if_pos rfl] at h
      obtain ⟨rfl, -, rfl⟩ := takes_done h
      exact Or.inl ⟨rfl, Move.quiet_nil⟩
    | false =>
      rw [hrefused, if_neg Bool.false_ne_true, insert] at h
      refine Or.inr ⟨rfl, rfl, ?_⟩
      cases hdraw : node.isAnonymous && autoIdentity with
      | true =>
        rw [hdraw, if_pos rfl] at h
        cases h with
        | draw identity h =>
          exact Or.inr ⟨identity, _, (Bool.and_eq_true_iff.mp hdraw).1, rfl, h⟩
      | false =>
        rw [hdraw, if_neg Bool.false_ne_true] at h
        exact Or.inl ⟨rfl, h⟩

/-- Deleting is quiet.  It leaves the node, or it succeeds and the node is not persisted. -/
theorem takes_delete {detach : Bool}
    (h : (node.delete detach).Takes moves (outcome, after)) :
    (∀ move ∈ moves, move.Quiet) ∧
      (after = node ∨ (outcome = .ok true ∧ after = { node with persisted := false })) := by
  rw [delete] at h
  split at h
  · obtain ⟨rfl, -, rfl⟩ := takes_done h
    exact ⟨Move.quiet_nil, Or.inl rfl⟩
  · cases h with
    | send answer h =>
      cases answer with
      | error fault =>
        obtain ⟨rfl, -, rfl⟩ := takes_done h
        exact ⟨Move.quiet_exchange _ (creates_deleteStatement _ detach), Or.inl rfl⟩
      | ok _ =>
        obtain ⟨rfl, rfl, rfl⟩ := takes_done h
        exact ⟨Move.quiet_exchange _ (creates_deleteStatement _ detach), Or.inr ⟨rfl, rfl⟩⟩

/-- Refreshing is quiet.  It leaves the node, or the node takes over what was found under its
identity. -/
theorem takes_refresh (h : (StoreCall.refresh.program node).Takes moves (outcome, after)) :
    (∀ move ∈ moves, move.Quiet) ∧
      (after = node ∨ ∃ result found, node.isAnonymous = false ∧ outcome = .ok true ∧
        moves = [.exchanged ⟨node.refreshStatement, .ok result⟩] ∧
        result.nodes (.text "n") = .ok found ∧ after = node.absorb found) := by
  rw [StoreCall.program, refresh] at h
  cases hid : node.isAnonymous with
  | true =>
    rw [hid, if_pos rfl] at h
    obtain ⟨rfl, -, rfl⟩ := takes_done h
    exact ⟨Move.quiet_nil, Or.inl rfl⟩
  | false =>
    rw [hid, if_neg Bool.false_ne_true] at h
    cases h with
    | send answer h =>
      have hquiet := Move.quiet_exchange answer node.creates_refreshStatement
      dsimp only at h
      cases hfound : answer.bind fun result => result.nodes (.text "n") with
      | error fault =>
        rw [hfound] at h
        obtain ⟨rfl, -, rfl⟩ := takes_done h
        exact ⟨hquiet, Or.inl rfl⟩
      | ok found =>
        rw [hfound] at h
        obtain ⟨rfl, rfl, rfl⟩ := takes_done h
        obtain ⟨result, rfl, hnodes⟩ := exists_of_bind_eq_ok hfound
        exact ⟨hquiet, Or.inr ⟨result, found, rfl, rfl, rfl, hnodes, rfl⟩⟩

end Node

/-! ## 4.  What holds at every moment -/

/-- What holds of a node at every moment, whatever it was at the beginning. -/
structure Node.Sound (node origin : Node) : Prop where
  /-- A persisted node has an identity. -/
  persisted : node.persisted = true → node.isAnonymous = false
  /-- The identity is an attribute only if it was one from the beginning. -/
  reserved : node.has Node.identityEntry = true → origin.has Node.identityEntry = true
  /-- No label occurs twice. -/
  nodup : node.labels.Nodup
  /-- No key occurs twice, as in any map. -/
  distinct : node.attributes.Distinct

/-- How a node comes to be: from named inputs, from a value that is validated, or from what a store
returned.  In what is given, no map has a key twice. -/
inductive Node.Origin : Node → Prop
  | constructed {given : Entries} {node : Node} (hgiven : Node.ProperInputs given)
      (h : Node.ofInputs given = .ok node) : Origin node
  | validated {input : Value} {node : Node}
      (hinput : ∀ given, input.bare = .map given → Node.ProperInputs given)
      (h : Node.ofValue input = .ok node) : Origin node
  | hydrated (stored : StoredNode) (h : stored.properties.Distinct) : Origin (.hydrate stored)

/-- When the identity is an attribute of a node that was just made: if the constructor has
overlooked it among what was given, or was given a view of everything, in which it is not looked
for.  It is none of a node that was read. -/
structure Node.TakesIdentity (origin : Node) : Prop where
  constructed : ∀ given, Node.ProperInputs given → Node.ofInputs given = .ok origin →
    (origin.has Node.identityEntry = true ↔ Node.Overlooks given)
  validated : ∀ input given, input.bare = .map given → Node.ProperInputs given →
    Node.ofValue input = .ok origin → (origin.has Node.identityEntry = true ↔
      input.dictionary? ≠ none ∧ Node.Overlooks given ∨
        input.dictionary? = none ∧ Node.NamesIdentity given)
  hydrated : ∀ stored : StoredNode, stored.properties.Distinct → origin = .hydrate stored →
    origin.has Node.identityEntry = false

/-- What came back in these moves are nodes whose properties are maps: no key occurs twice. -/
def ProperMoves (moves : List Move) : Prop :=
  ∀ move ∈ moves, ∀ stored ∈ move.nodes, stored.properties.Distinct

namespace Node

variable {node after origin : Node}

theorem Made.sound (h : node.Made) : node.Sound node :=
  ⟨h.persisted, id, h.nodup, h.distinct⟩

/-- The identity is no attribute of a node that was read. -/
theorem has_identityEntry_hydrate {stored : StoredNode} (h : stored.properties.Distinct) :
    (hydrate stored).has identityEntry = false :=
  Entries.has_erase_self h identityEntry

/-- What hydration makes is sound, although it checks nothing. -/
theorem sound_hydrate {stored : StoredNode} (h : stored.properties.Distinct) :
    (hydrate stored).Sound origin := by
  refine ⟨fun hpersisted => ?_, fun hhas => ?_, nodup_sortLabels _, h.erase identityEntry⟩
  · have hstored : (!(hydrate stored).storedIdentity.isNull) = true := hpersisted
    rw [Bool.not_eq_true'] at hstored
    have hidentity : (hydrate stored).identity = .text (hydrate stored).storedIdentity.plain :=
      identityOf_of_isNull_eq_false hstored
    rw [isAnonymous, hidentity]
    rfl
  · exact absurd ((has_identityEntry_hydrate h).symm.trans hhas) Bool.false_ne_true

theorem Origin.sound (h : node.Origin) : node.Sound node := by
  cases h with
  | constructed hgiven h => exact (made_of_ofInputs hgiven h).sound
  | hydrated stored h => exact sound_hydrate h
  | validated hinput h =>
    obtain ⟨given, hbare, ⟨-, h⟩ | ⟨-, h⟩⟩ := ofValue_eq_ok h
    · exact (made_of_ofInputs (hinput given hbare) h).sound
    · exact (made_of_validated (hinput given hbare) h).1.sound

/-- Setting an attribute does not make the identity one. -/
theorem has_identityEntry_of_set {key value : Value} (hset : node.set key value = .ok after)
    (h : after.has identityEntry = true) : node.has identityEntry = true := by
  obtain ⟨name, rfl, hname, -, rfl⟩ := set_eq_ok hset
  have hother : (Key.text name).same identityEntry = false := by
    rw [identityEntry, Key.same_text]
    exact beq_eq_false_iff_ne.mpr hname
  rw [Node.has, Entries.has_put, hother, Bool.false_or] at h
  exact h

theorem takesIdentity (origin : Node) : origin.TakesIdentity where
  constructed _ hgiven h := has_identityEntry_of_ofInputs hgiven h
  validated input given hbare hgiven h := by
    obtain ⟨found, hfound, ⟨hmap, h⟩ | ⟨hview, h⟩⟩ := ofValue_eq_ok h
    · obtain rfl := Value.map.inj (hbare.symm.trans hfound)
      rw [has_identityEntry_of_ofInputs hgiven h]
      simp [hmap]
    · obtain rfl := Value.map.inj (hbare.symm.trans hfound)
      rw [(made_of_validated hgiven h).2]
      simp [hview]
  hydrated stored h horigin := by
    rw [horigin]
    exact has_identityEntry_hydrate h

namespace Sound

theorem set (h : node.Sound origin) {key value : Value} (hset : node.set key value = .ok after) :
    after.Sound origin := by
  have hreserved := fun hhas => h.reserved (has_identityEntry_of_set hset hhas)
  obtain ⟨name, rfl, -, -, rfl⟩ := set_eq_ok hset
  exact ⟨h.persisted, hreserved, h.nodup, h.distinct.put (.text name) value⟩

theorem unset (h : node.Sound origin) (key : Key) : (node.unset key).2.Sound origin :=
  ⟨h.persisted, fun hhas => h.reserved (Entries.has_of_has_erase hhas), h.nodup,
    h.distinct.erase key⟩

theorem addLabel (h : node.Sound origin) {label : Value} (hadd : node.addLabel label = .ok after) :
    after.Sound origin := by
  obtain ⟨name, -, -, rfl⟩ := addLabel_eq_ok hadd
  exact ⟨h.persisted, h.reserved, nodup_addDistinct h.nodup name, h.distinct⟩

theorem under (h : node.Sound origin) (identity : String) : (node.under identity).Sound origin :=
  ⟨fun _ => rfl, h.reserved, h.nodup, h.distinct⟩

theorem unpersisted (h : node.Sound origin) : Sound { node with persisted := false } origin :=
  ⟨fun hpersisted => absurd hpersisted Bool.false_ne_true, h.reserved, h.nodup, h.distinct⟩

theorem sendInsert (h : node.Sound origin) {moves : List Move} {outcome : Except Fault Bool}
    (htakes : node.sendInsert.Takes moves (outcome, after)) : after.Sound origin := by
  rcases takes_sendInsert htakes with ⟨-, -, rfl⟩ | ⟨statement, answer, -, -, ⟨-, rfl⟩ | ⟨-, rfl⟩⟩
  · exact h
  · exact h
  · refine ⟨fun hpersisted => ?_, h.reserved, h.nodup, h.distinct⟩
    rcases Bool.or_eq_true_iff.mp hpersisted with hbefore | hnow
    · exact h.persisted hbefore
    · rw [Bool.not_eq_true'] at hnow
      exact hnow

/-- A node that has an identity stays sound when it takes over what was found. -/
theorem absorb (h : node.Sound origin) (hid : node.isAnonymous = false) {found : List StoredNode}
    (hfound : ∀ stored ∈ found, stored.properties.Distinct) : (node.absorb found).Sound origin := by
  cases found with
  | nil => exact h.unpersisted
  | cons stored rest =>
    have hfresh : (hydrate stored).Sound origin :=
      sound_hydrate (hfound stored List.mem_cons_self)
    exact ⟨fun _ => hid, hfresh.reserved, hfresh.nodup, hfresh.distinct⟩

/-- **One call leaves a sound node**, whatever came of it. -/
theorem step (h : node.Sound origin) {call : LifeCall} {moves : List Move}
    {outcome : Except Fault Bool} (hmoves : ProperMoves moves)
    (htakes : (call.program node).Takes moves (outcome, after)) : after.Sound origin := by
  cases call with
  | set key value =>
    rcases takes_changed htakes with ⟨-, rfl | hset⟩
    · exact h
    · exact h.set hset
  | unset key =>
    rcases takes_changed htakes with ⟨-, rfl | hunset⟩
    · exact h
    · rw [← Except.ok.inj hunset]
      exact h.unset key
  | addLabel label =>
    rcases takes_changed htakes with ⟨-, rfl | hadd⟩
    · exact h
    · exact h.addLabel hadd
  | store call =>
    cases call with
    | save autoIdentity =>
      rcases takes_save htakes with ⟨rfl, -⟩ | ⟨-, -, ⟨-, hinsert⟩ | ⟨identity, _, -, -, hinsert⟩⟩
      · exact h
      · exact h.sendInsert hinsert
      · exact (h.under identity).sendInsert hinsert
    | delete detach =>
      rcases (takes_delete htakes).2 with rfl | ⟨-, rfl⟩
      · exact h
      · exact h.unpersisted
    | refresh =>
      rcases (takes_refresh htakes).2 with rfl | ⟨result, found, hid, -, rfl, hfound, rfl⟩
      · exact h
      · have hnodes : Exchange.nodes ⟨node.refreshStatement, .ok result⟩ = found :=
          Exchange.nodes_of_ok hfound
        refine h.absorb hid fun stored hstored => hmoves _ List.mem_cons_self stored ?_
        rw [← hnodes] at hstored
        exact hstored

end Sound
end Node

/-- **A node is sound at every moment of its life.** -/
theorem Life.sound {node later origin : Node} {happenings : List Happening}
    (h : Life node happenings later) (hnode : node.Sound origin)
    (hmoves : ProperMoves (movesOf happenings)) : later.Sound origin := by
  induction h with
  | ended node => exact hnode
  | lived htakes _ ih =>
    rw [movesOf_cons] at hmoves
    refine ih (hnode.step (fun move hmove => ?_) htakes) fun move hmove => ?_
    · exact hmoves move (List.mem_append_left _ hmove)
    · exact hmoves move (List.mem_append_right _ hmove)

/-! ## 5.  The one identity of a node -/

namespace Move

theorem Quiet.identity? {move : Move} (h : move.Quiet) : move.identity? = none := by
  cases move with
  | exchanged exchange => exact if_neg (Bool.not_eq_true _ ▸ h.1)
  | drew identity => exact absurd h.2 (by simp [draws])

/-- What a move does for a node that has an identity: it draws none and creates under no other. -/
def Respects (move : Move) (identity : Value) : Prop :=
  move.draws = false ∧ (move.creates = true → move.identity? = some identity)

theorem Quiet.respects {move : Move} (h : move.Quiet) (identity : Value) :
    move.Respects identity :=
  ⟨h.2, fun hcreates => absurd (h.1.symm.trans hcreates) Bool.false_ne_true⟩

end Move

namespace Node

variable {node after : Node} {moves : List Move} {outcome : Except Fault Bool}

/-- The identity that an insertion gives to the node: its own, if it has one. -/
theorem identity?_insertStatement {statement : Statement} (answer : Except Fault RecordSet)
    (h : node.insertStatement = .ok statement) :
    (Move.exchanged ⟨statement, answer⟩).identity? =
      if node.isAnonymous then none else some node.identity :=
  (if_pos (creates_insertStatement h)).trans (get?_insertStatement h)

theorem identity_of_sendInsert (h : node.sendInsert.Takes moves (outcome, after)) :
    after.identity = node.identity := by
  rcases takes_sendInsert h with ⟨-, -, rfl⟩ | ⟨statement, answer, -, -, ⟨-, rfl⟩ | ⟨-, rfl⟩⟩ <;>
    rfl

theorem respects_of_sendInsert (hid : node.isAnonymous = false)
    (h : node.sendInsert.Takes moves (outcome, after)) :
    ∀ move ∈ moves, move.Respects node.identity := by
  rcases takes_sendInsert h with ⟨rfl, -, -⟩ | ⟨statement, answer, hstatement, rfl, -⟩
  · exact fun _ hmove => absurd hmove List.not_mem_nil
  · intro move hmove
    obtain rfl := List.mem_singleton.mp hmove
    refine ⟨rfl, fun _ => ?_⟩
    rw [identity?_insertStatement answer hstatement, hid]
    rfl

/-- A change in memory leaves the identity. -/
theorem identity_of_edit {result : Except Fault Node}
    (hresult : ∀ changed, result = .ok changed → changed.identity = node.identity)
    (h : (Program.done (node.changed result)).Takes moves (outcome, after)) :
    moves = [] ∧ after.identity = node.identity := by
  obtain ⟨rfl, rfl | hchanged⟩ := takes_changed h
  · exact ⟨rfl, rfl⟩
  · exact ⟨rfl, hresult after hchanged⟩

/-- What absorbs stored nodes keeps its identity. -/
theorem identity_absorb (node : Node) (found : List StoredNode) :
    (node.absorb found).identity = node.identity := by
  cases found <;> rfl

/-- **A call is quiet and leaves the identity, or it inserts the node**: under the identity that it
has, or under one that is drawn. -/
theorem step_cases {call : LifeCall} (h : (call.program node).Takes moves (outcome, after)) :
    (after.identity = node.identity ∧ ∀ move ∈ moves, move.Quiet) ∨
      ∃ autoIdentity, call = .store (.save autoIdentity) ∧
        ((node.isAnonymous && autoIdentity) = false ∧
            node.sendInsert.Takes moves (outcome, after) ∨
          ∃ identity rest, node.isAnonymous = true ∧ moves = .drew identity :: rest ∧
            (node.under identity).sendInsert.Takes rest (outcome, after)) := by
  have hedit : moves = [] ∧ after.identity = node.identity →
      after.identity = node.identity ∧ ∀ move ∈ moves, move.Quiet := by
    rintro ⟨rfl, hidentity⟩
    exact ⟨hidentity, Move.quiet_nil⟩
  cases call with
  | set key value =>
    refine Or.inl (hedit (identity_of_edit (fun changed hset => ?_) h))
    obtain ⟨_, -, -, -, rfl⟩ := set_eq_ok hset
    rfl
  | unset key =>
    refine Or.inl (hedit (identity_of_edit (fun changed hunset => ?_) h))
    rw [← Except.ok.inj hunset]
    rfl
  | addLabel label =>
    refine Or.inl (hedit (identity_of_edit (fun changed hadd => ?_) h))
    obtain ⟨_, -, -, rfl⟩ := addLabel_eq_ok hadd
    rfl
  | store call =>
    cases call with
    | save autoIdentity =>
      rcases takes_save h with ⟨rfl, hquiet⟩ | ⟨-, -, hinsert⟩
      · exact Or.inl ⟨rfl, hquiet⟩
      · exact Or.inr ⟨autoIdentity, rfl, hinsert⟩
    | delete detach =>
      obtain ⟨hquiet, rfl | ⟨-, rfl⟩⟩ := takes_delete h
      · exact Or.inl ⟨rfl, hquiet⟩
      · exact Or.inl ⟨rfl, hquiet⟩
    | refresh =>
      obtain ⟨hquiet, rfl | ⟨_, found, -, -, -, -, rfl⟩⟩ := takes_refresh h
      · exact Or.inl ⟨rfl, hquiet⟩
      · exact Or.inl ⟨node.identity_absorb found, hquiet⟩

/-- A call leaves the identity of a node that has one, and respects it. -/
theorem step_of_identified {call : LifeCall} (hid : node.isAnonymous = false)
    (h : (call.program node).Takes moves (outcome, after)) :
    after.identity = node.identity ∧ ∀ move ∈ moves, move.Respects node.identity := by
  rcases step_cases h with ⟨hidentity, hquiet⟩ | ⟨_, -, ⟨-, hinsert⟩ | ⟨_, _, hanonymous, -, -⟩⟩
  · exact ⟨hidentity, fun move hmove => (hquiet move hmove).respects _⟩
  · exact ⟨identity_of_sendInsert hinsert, respects_of_sendInsert hid hinsert⟩
  · exact absurd (hid.symm.trans hanonymous) Bool.false_ne_true

/-- Moves after which the node has the identity that they gave, if they gave one, and in which no
second one is given. -/
structure Settles (moves : List Move) (after : Node) : Prop where
  fixes : moves.Pairwise Move.Fixes
  given : ∀ move ∈ moves, ∀ value, move.identity? = some value →
    after.identity = value ∧ after.isAnonymous = false

theorem Settles.of_quiet (h : ∀ move ∈ moves, move.Quiet) : Settles moves after where
  fixes := List.pairwise_of_forall_mem_list fun earlier hearlier later _ value hvalue => by
    rw [(h earlier hearlier).identity?] at hvalue
    exact absurd hvalue (by simp)
  given move hmove value hvalue := by
    rw [(h move hmove).identity?] at hvalue
    exact absurd hvalue (by simp)

theorem Settles.of_sendInsert (h : node.sendInsert.Takes moves (outcome, after)) :
    Settles moves after := by
  have hidentity := identity_of_sendInsert h
  rcases takes_sendInsert h with ⟨rfl, -, -⟩ | ⟨statement, answer, hstatement, rfl, -⟩
  · exact .of_quiet Move.quiet_nil
  · refine ⟨List.pairwise_singleton .., fun move hmove value hvalue => ?_⟩
    obtain rfl := List.mem_singleton.mp hmove
    rw [identity?_insertStatement answer hstatement] at hvalue
    rw [isAnonymous, hidentity]
    cases hid : node.isAnonymous with
    | true =>
      rw [hid] at hvalue
      exact absurd hvalue (by simp)
    | false =>
      rw [hid] at hvalue
      exact ⟨Option.some.inj hvalue, hid⟩

/-- **One call gives at most one identity to a node**, and the node has it then. -/
theorem settles_step {call : LifeCall} (h : (call.program node).Takes moves (outcome, after)) :
    Settles moves after := by
  rcases step_cases h with ⟨-, hquiet⟩ | ⟨_, -, ⟨-, hinsert⟩ | ⟨identity, rest, -, rfl, hinsert⟩⟩
  · exact .of_quiet hquiet
  · exact .of_sendInsert hinsert
  · -- The insertion respects the identity that was just drawn.
    have hrest := Settles.of_sendInsert hinsert
    have hrespects := respects_of_sendInsert rfl hinsert
    have hidentity : after.identity = .text identity := identity_of_sendInsert hinsert
    refine ⟨List.pairwise_cons.mpr ⟨fun later hlater value hvalue => ?_, hrest.fixes⟩, ?_⟩
    · rw [← Option.some.inj hvalue]
      exact hrespects later hlater
    · intro move hmove value hvalue
      rcases List.mem_cons.mp hmove with rfl | hmove
      · rw [← Option.some.inj hvalue, isAnonymous, hidentity]
        exact ⟨rfl, rfl⟩
      · exact hrest.given move hmove value hvalue

/-- An insertion through a gateway that hands out identities gives one to the node. -/
theorem identity?_of_step (h : (LifeCall.program (.store (.save true)) node).Takes moves
    (outcome, after)) {move : Move} (hmove : move ∈ moves) (hcreates : move.creates = true) :
    ∃ value, move.identity? = some value := by
  rcases step_cases h with ⟨-, hquiet⟩ | ⟨autoIdentity, hcall, hinsert⟩
  · exact absurd ((hquiet move hmove).1.symm.trans hcreates) Bool.false_ne_true
  · obtain rfl : autoIdentity = true := by
      injection hcall with hcall
      injection hcall with hcall
      exact hcall.symm
    rcases hinsert with ⟨hid, hinsert⟩ | ⟨identity, rest, -, rfl, hinsert⟩
    · rw [Bool.and_true] at hid
      exact ⟨_, (respects_of_sendInsert hid hinsert move hmove).2 hcreates⟩
    · rcases List.mem_cons.mp hmove with rfl | hmove
      · exact ⟨_, rfl⟩
      · exact ⟨_, (respects_of_sendInsert rfl hinsert move hmove).2 hcreates⟩

end Node

namespace Life

variable {node later : Node} {happenings : List Happening}

/-- **A node that has an identity keeps it**: none is drawn, and it is created under no other. -/
theorem of_identified (h : Life node happenings later) (hid : node.isAnonymous = false) :
    later.identity = node.identity ∧
      ∀ move ∈ movesOf happenings, move.Respects node.identity := by
  induction h with
  | ended node => exact ⟨rfl, fun _ hmove => absurd hmove List.not_mem_nil⟩
  | lived htakes _ ih =>
    obtain ⟨hidentity, hmoves⟩ := Node.step_of_identified hid htakes
    rw [Node.isAnonymous, hidentity] at ih
    obtain ⟨hlater, hrest⟩ := ih hid
    refine ⟨hlater, fun move hmove => ?_⟩
    rw [movesOf_cons] at hmove
    rcases List.mem_append.mp hmove with hfirst | hmove
    · exact hmoves move hfirst
    · exact hrest move hmove

/-- **The first identity that a node is given is the only one.** -/
theorem fixes (h : Life node happenings later) :
    (movesOf happenings).Pairwise Move.Fixes := by
  induction h with
  | ended node => exact List.Pairwise.nil
  | lived htakes hrest ih =>
    have hsettles := Node.settles_step htakes
    rw [movesOf_cons]
    refine List.pairwise_append.mpr ⟨hsettles.fixes, ih, fun earlier hearlier move hmove => ?_⟩
    -- What gave an identity has left a node that has it.
    intro value hvalue
    obtain ⟨hidentity, hid⟩ := hsettles.given earlier hearlier value hvalue
    rw [← hidentity]
    exact (hrest.of_identified hid).2 move hmove

/-- A call of a run was performed on some node. -/
theorem exists_takes {happening : Happening} (h : Life node happenings later)
    (hmem : happening ∈ happenings) :
    ∃ before after, (happening.call.program before).Takes happening.moves
      (happening.outcome, after) := by
  induction h with
  | ended node => exact absurd hmem List.not_mem_nil
  | lived htakes _ ih =>
    rcases List.mem_cons.mp hmem with rfl | hmem
    · exact ⟨_, _, htakes⟩
    · exact ih hmem

end Life

/-- Of moves that fix the identity only one draws one. -/
theorem countP_draws {moves : List Move} (h : moves.Pairwise Move.Fixes) :
    moves.countP Move.draws ≤ 1 := by
  induction moves with
  | nil => exact Nat.zero_le 1
  | cons move rest ih =>
    obtain ⟨hfirst, hrest⟩ := List.pairwise_cons.mp h
    rw [List.countP_cons]
    cases move with
    | exchanged exchange => exact ih hrest
    | drew identity =>
      have hzero : rest.countP Move.draws = 0 :=
        List.countP_eq_zero.mpr fun later hlater => by
          rw [(hfirst later hlater _ rfl).1]
          exact Bool.false_ne_true
      rw [hzero, Nat.zero_add]
      exact Nat.le_refl 1

/-- **The life of a node.**  After any run of calls on a node that was made or read, whatever the
store answered and whatever failed:

* the node has an identity if it is persisted, and no label occurs twice;
* the identity is an attribute of it only if it was one from the beginning, and that is so exactly
  if it was overlooked among what was given;
* if the node has an identity, it keeps it in every run that follows;
* at most one identity was drawn, and after an identity was drawn, or was bound by a statement that
  creates the node, every such statement binds that one;
* saving through a gateway that hands out identities never creates a node without one.

Every call can be performed through every gateway, and continues the run. -/
theorem life_invariant {origin node : Node} {happenings : List Happening} (horigin : origin.Origin)
    (h : Life origin happenings node) (hmoves : ProperMoves (movesOf happenings)) :
    (node.persisted = true → node.isAnonymous = false) ∧
      (node.has Node.identityEntry = true → origin.has Node.identityEntry = true) ∧
      origin.TakesIdentity ∧
      node.labels.Nodup ∧
      (∀ later rest, Life node rest later → node.isAnonymous = false →
        later.identity = node.identity) ∧
      (movesOf happenings).countP Move.draws ≤ 1 ∧
      (movesOf happenings).Pairwise Move.Fixes ∧
      (∀ happening ∈ happenings, happening.call = .store (.save true) →
        ∀ move ∈ happening.moves, move.creates = true →
          ∃ value, move.identity? = some value) ∧
      ∀ (σ : Type) (call : LifeCall) (gateway : Gateway) (world : World σ),
        (∀ statement (met : World σ), ∀ stored ∈
          Exchange.nodes ⟨statement, (gateway.run statement met).1⟩, stored.properties.Distinct) →
        ∃ moves outcome later,
          ((call.program node).perform gateway world).1 = .ok (outcome, later) ∧
            Life origin (happenings ++ [⟨call, moves, outcome⟩]) later ∧ ProperMoves moves := by
  have hsound := h.sound horigin.sound hmoves
  refine ⟨hsound.persisted, hsound.reserved, origin.takesIdentity, hsound.nodup,
    fun later rest hrest hid => (hrest.of_identified hid).1, countP_draws h.fixes, h.fixes, ?_, ?_⟩
  · intro happening hhappening hcall move hmove hcreates
    obtain ⟨before, after, htakes⟩ := h.exists_takes hhappening
    rw [hcall] at htakes
    exact Node.identity?_of_step htakes hmove hcreates
  · intro σ call gateway world hproper
    obtain ⟨moves, ⟨outcome, later⟩, hresult, htakes, hanswers⟩ :=
      (call.program node).exists_takes gateway world
    refine ⟨moves, outcome, later, hresult, h.append (.lived htakes (.ended later)), ?_⟩
    intro move hmove stored hstored
    cases move with
    | drew identity => exact absurd hstored List.not_mem_nil
    | exchanged exchange =>
      obtain ⟨met, hmet⟩ := hanswers exchange hmove
      refine hproper exchange.statement met stored ?_
      rw [hmet]
      exact hstored

/-- A person without an identity, as the constructor makes one. -/
def nameless : Node := { labels := ["Person"] }

theorem origin_nameless : nameless.Origin := by
  have hnode : Node.ofInputs [(.text "labels", .list [.text "Person"])] = .ok nameless := rfl
  refine .constructed (fun v attributes hv => ?_) hnode
  have hnone : (none : Option Value) = some v := hv
  exact absurd hnone (by simp)

theorem properMoves_of_nodes_eq_nil {moves : List Move} (h : moves.flatMap Move.nodes = []) :
    ProperMoves moves := by
  intro move hmove stored hstored
  have hmem := List.mem_flatMap.mpr ⟨move, hmove, hstored⟩
  rw [h] at hmem
  exact absurd hmem List.not_mem_nil

/-- A person whose insertion fails, and who is saved again, is created both times under the identity
that was drawn the first time. -/
theorem life_invariant_retried :
    ∃ node happenings, Life nameless happenings node ∧ ProperMoves (movesOf happenings) ∧
      (movesOf happenings).countP Move.creates = 2 ∧ node.persisted = true ∧
      node.identity = .text "k" ∧ (movesOf happenings).Pairwise Move.Fixes := by
  have hfailed : (LifeCall.program (.store (.save true)) nameless).Takes _ (.error _, _) :=
    .draw "k" (.send (.error (.storeFailure .statement (.raised ⟨.transient, "boom"⟩))) (.done _))
  have hsaved : (LifeCall.program (.store (.save true)) (nameless.under "k")).Takes _
      (.ok true, _) := .send (.ok ⟨[.null]⟩) (.done _)
  have hlife := Life.lived hfailed (.lived hsaved (.ended _))
  obtain ⟨-, -, -, -, -, -, hfixes, -⟩ :=
    life_invariant origin_nameless hlife (properMoves_of_nodes_eq_nil rfl)
  exact ⟨_, _, hlife, properMoves_of_nodes_eq_nil rfl, rfl, rfl, rfl, hfixes⟩

/-- A person under whose attributes the identity has been left. -/
def overlooked : Node := { labels := ["Person"], attributes := [(.text "id", .text "x")] }

/-- What is given for that person: as attributes a map that must not be changed, seen through a
view. -/
def overlookedView : Entries :=
  let shown := "mappingproxy(\x7b'id': 'x'\x7d)"
  [(.text "labels", .list [.text "Person"]),
    (.text "attributes", .object .view shown shown [(.text "id", .text "x")])]

/-- What is given for that person: as attributes the node of a client, which is a view of its
properties. -/
def overlookedNode : Entries :=
  let shown := "<Node element_id='4:0' labels=frozenset(\x7b'Person'\x7d) " ++
    "properties=\x7b'id': 'x'\x7d>"
  [(.text "labels", .list [.text "Person"]),
    (.text "attributes", .object .view shown shown [(.text "id", .text "x")])]

/-- What is given for that person: as attributes a map with the key as a string of bytes. -/
def overlookedBytes : Entries :=
  [(.text "labels", .list [.text "Person"]),
    (.text "attributes", .map [(.bytes [105, 100], .text "x")])]

/-- **The identity can be left among the attributes.**  It stands where the constructor does not
look for it and where the check accepts it all the same.  The node has no identity then, and has it
as an attribute. -/
theorem identity_left_among_attributes :
    Node.ofInputs overlookedView = .ok overlooked ∧
      Node.ofInputs overlookedNode = .ok overlooked ∧
      Node.ofInputs overlookedBytes = .ok overlooked ∧
      overlooked.has Node.identityEntry = true ∧ overlooked.isAnonymous = true :=
  ⟨rfl, rfl, rfl, rfl, rfl⟩

end GraphMapper
