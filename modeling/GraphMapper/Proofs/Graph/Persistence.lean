import GraphMapper.Node.Persistence
import GraphMapper.Proofs.Graph.NodeStatements

/-!
# Saving and refreshing over a store

What saving and refreshing a plain node comes to when a faithful store answers.  There is one
equation for each branch, with the result, the node and the store afterwards; whoever follows a
node through many calls needs nothing else of the two operations.

* `serve_save_inserts`: a node that is not persisted is appended to the store, under a fresh
  identity if it has none and may have one.
* `serve_save_updates`: a persisted node writes its attributes, and the result says whether any
  stored node carries its identity.
* `serve_refresh`: a node with an identity takes over the first stored node that carries it.
-/

namespace GraphMapper

namespace Node

variable {node : Node} (identities : ℕ → String) (server : Server)

/-- A node under the identity that insertion gives it. -/
def identified (autoIdentity : Bool) (fresh : String) (node : Node) : Node :=
  if node.isAnonymous && autoIdentity then { node with identity := .text fresh } else node

/-- A node after its insertion. -/
def inserted (node : Node) : Node :=
  { node with persisted := node.persisted || !node.isAnonymous }

/-- An identity that is drawn leaves a node plain. -/
theorem Plain.identified (h : node.Plain) (autoIdentity : Bool) (fresh : String) :
    (node.identified autoIdentity fresh).Plain := by
  rw [Node.identified]
  cases hdraw : node.isAnonymous && autoIdentity with
  | false => exact h
  | true =>
    obtain ⟨hid, -⟩ := Bool.and_eq_true_iff.mp hdraw
    refine ⟨h.labels, h.nodup, h.attributes, h.reserved, Or.inr ⟨fresh, rfl⟩, Or.inl ?_,
      fun _ => rfl⟩
    -- A node without an identity has none in the store either.
    exact h.stored.elim id fun hstored => hstored.trans (isAnonymous_iff.mp hid)

theorem Plain.inserted (h : node.Plain) : node.inserted.Plain where
  labels := h.labels
  nodup := h.nodup
  attributes := h.attributes
  reserved := h.reserved
  identity := h.identity
  stored := h.stored
  persisted hpersisted := by
    have hor : (node.persisted || !node.isAnonymous) = true := hpersisted
    rcases Bool.or_eq_true_iff.mp hor with hold | hid
    · exact h.persisted hold
    · rwa [Bool.not_eq_true'] at hid

theorem serve_sendInsert (h : node.Plain) :
    node.sendInsert.serve identities server =
      ((.ok true, node.inserted), { server with graph := server.graph ++ [node.toStored] }) := by
  obtain ⟨statement, hstatement, hanswer⟩ := answer_insertStatement h
  rw [sendInsert, hstatement]
  dsimp only
  rw [Program.serve_send, hanswer server.graph]
  rfl

/-- **Saving a node that is not persisted** appends it to the store. -/
theorem serve_save_inserts (h : node.Plain) (autoIdentity : Bool)
    (hpersisted : node.persisted = false) (hnew : (node.fromStore && node.isAnonymous) = false) :
    ((node.save autoIdentity).serve identities server).1 =
        (.ok true, (node.identified autoIdentity (identities server.drawn)).inserted) ∧
      ((node.save autoIdentity).serve identities server).2.graph =
        server.graph ++ [(node.identified autoIdentity (identities server.drawn)).toStored] := by
  have hplain := h.identified autoIdentity (identities server.drawn)
  rw [save, hpersisted, if_neg Bool.false_ne_true, hnew, if_neg Bool.false_ne_true, insert]
  rw [identified] at hplain ⊢
  cases hdraw : node.isAnonymous && autoIdentity with
  | true =>
    rw [hdraw, if_pos rfl] at hplain
    rw [if_pos rfl, if_pos rfl, Program.serve_draw, serve_sendInsert _ _ hplain]
    exact ⟨rfl, rfl⟩
  | false =>
    rw [if_neg Bool.false_ne_true, if_neg Bool.false_ne_true, serve_sendInsert _ _ h]
    exact ⟨rfl, rfl⟩

/-- A node that was read without an identity is not saved. -/
theorem serve_save_refuses (autoIdentity : Bool) (hpersisted : node.persisted = false)
    (hread : (node.fromStore && node.isAnonymous) = true) :
    (node.save autoIdentity).serve identities server =
      ((.error (.missingIdentity .insertAgain), node), server) := by
  rw [save, hpersisted, if_neg Bool.false_ne_true, hread, if_pos rfl, Program.serve_done]

/-- **Saving a persisted node** writes its attributes to the nodes that carry its identity. -/
theorem serve_save_updates (h : node.Plain) (autoIdentity : Bool)
    (hpersisted : node.persisted = true) :
    (node.save autoIdentity).serve identities server =
      ((.ok (server.graph.any (·.carries node.identity)), node),
        { server with graph := server.graph.merge node.identity node.attributes }) := by
  obtain ⟨statement, hstatement, hanswer⟩ := answer_updateStatement h (h.persisted hpersisted)
  rw [save, hpersisted, if_pos rfl, update, hstatement]
  dsimp only
  rw [Program.serve_send, hanswer server.graph]
  have hcount : decide (0 < ((server.graph.filter (·.carries node.identity)).map
      (·.merge node.attributes)).length) = server.graph.any (·.carries node.identity) := by
    rw [List.length_map, Bool.eq_iff_iff, decide_eq_true_iff, List.length_filter_pos_iff,
      List.any_eq_true]
  rw [← hcount, ← count_nodeRecords]
  rfl

/-- A node without an identity is not refreshed. -/
theorem serve_refresh_refuses (hid : node.isAnonymous = true) :
    node.refresh.serve identities server =
      ((.error (.missingIdentity .refresh), node), server) := by
  rw [refresh, hid, if_pos rfl, Program.serve_done]

/-- **Refreshing** takes over the first stored node that carries the identity. -/
theorem serve_refresh (h : node.Plain) (hid : node.isAnonymous = false) :
    node.refresh.serve identities server =
      ((.ok (), node.absorb (server.graph.filter (·.carries node.identity))), server) := by
  rw [refresh, hid, if_neg Bool.false_ne_true, Program.serve_send,
    answer_refreshStatement h server.graph]
  have hfound := nodes_nodeRecords (server.graph.filter (·.carries node.identity))
  dsimp only [Except.bind]
  rw [hfound]
  rfl

end Node

end GraphMapper
