import GraphMapper.Proofs.Redaction.Family
import GraphMapper.Proofs.Redaction.Node

/-!
# Values never reach the text of a statement

Queries, traversals, nodes and relationships are built side by side, and what is compiled from one
of them can depend on what happened to another: traversals share an allocator with their query, and
a relationship asks its ends for their identities at the moment of compiling.  A `Bench` holds them
all, each under a number, and a `BenchCall` is any call that makes one of them, changes it or
compiles it.  Refused calls are caught and leave the bench as it was, or as the call has left it.

## Two runs

Two runs make the same calls with other values if their calls are the same once they are redacted.
What is seen of a run without the values is its *transcript*: for each call whether it was refused
and why, and the text and the keys of what it compiled.

* `BenchCall.observed_redacted` and `BenchCall.after_redacted` are the step: what is seen of a
  call, and what it makes of the bench, up to values, is determined by the redacted call and the
  redacted bench.
* `Bench.transcript_congr` is the run, by induction on the calls.
* `transcript_of_redacted` starts both runs on an empty bench.
-/

namespace GraphMapper

/-! ## 1.  A bench -/

/-- A relationship that is being built between nodes of a bench. -/
structure Draft where
  source : ℕ
  destination : Option ℕ := none
  plan : Relationship

/-- Everything that is being built. -/
structure Bench where
  families : List Family := []
  nodes : List Node := []
  drafts : List Draft := []

/-- What stands at an end of a relationship between nodes. -/
def Draft.endAt (nodes : List Node) (index : ℕ) : RelationshipEnd :=
  nodes[index]?.elim .unset .node

/-- The relationship between the nodes as they are now. -/
def Draft.relationship (nodes : List Node) (draft : Draft) : Relationship :=
  { draft.plan with
    source := endAt nodes draft.source
    destination := draft.destination.elim .unset (endAt nodes) }

/-- A call on a bench: it makes something, changes it or compiles it. -/
inductive BenchCall where
  | query (labels : List Value)
  | onFamily (index : ℕ) (call : FamilyCall)
  | compile (index : ℕ) (request : Request)
  | node (inputs : Entries)
  | hydrate (stored : StoredNode)
  | onNode (index : ℕ) (call : NodeEdit)
  | compileNode (index : ℕ) (request : NodeRequest)
  | relationship (source : ℕ) (relationshipType : Value)
  | leadTo (index target : ℕ)
  | withProperties (index : ℕ) (properties : Value) (more : Entries)
  | compileRelationship (index : ℕ)

namespace BenchCall

/-- What is seen of a call on one of several things: it is absent, or the call is made on it. -/
def observedAt {α : Type} (things : List α) (index : ℕ) (observed : α → Observation) :
    Observation :=
  things[index]?.elim .absent observed

/-- What is seen of a call. -/
def observed (bench : Bench) : BenchCall → Observation
  | .query labels => .ofResult (Query.ofLabels labels)
  | .onFamily index call => observedAt bench.families index call.observed
  | .compile index request => observedAt bench.families index request.observed
  | .node inputs => .ofResult (Node.ofInputs inputs)
  | .hydrate _ => .done
  | .onNode index call => observedAt bench.nodes index fun node => .ofResult (call.perform node)
  | .compileNode index request =>
    observedAt bench.nodes index fun node => .ofStatement (request.compile node)
  | .relationship source relationshipType =>
    observedAt bench.nodes source fun _ =>
      .ofResult (Relationship.start .unset relationshipType)
  | .leadTo index target =>
    observedAt bench.nodes target fun _ => observedAt bench.drafts index fun _ => .done
  | .withProperties index properties more =>
    observedAt bench.drafts index fun draft =>
      .ofResult (draft.plan.withProperties properties more)
  | .compileRelationship index =>
    observedAt bench.drafts index fun draft =>
      .ofStatement (draft.relationship bench.nodes).createStatement

/-- Several things with one more, if it was made. -/
def addMade {α : Type} (things : List α) (result : Except Fault α) : List α :=
  things ++ result.toOption.toList

/-- A thing after a call that may have been refused. -/
def keepOr {α : Type} (thing : α) (result : Except Fault α) : α := result.toOption.getD thing

/-- The bench after a call. -/
def after (bench : Bench) : BenchCall → Bench
  | .query labels =>
    { bench with
      families := addMade bench.families ((Query.ofLabels labels).map fun query => ⟨query, []⟩) }
  | .onFamily index call =>
    { bench with families := bench.families.modify index call.after }
  | .compile index request =>
    { bench with families := bench.families.modify index request.after }
  | .node inputs => { bench with nodes := addMade bench.nodes (Node.ofInputs inputs) }
  | .hydrate stored => { bench with nodes := bench.nodes ++ [Node.hydrate stored] }
  | .onNode index call =>
    { bench with nodes := bench.nodes.modify index fun node => keepOr node (call.perform node) }
  | .compileNode _ _ => bench
  | .relationship source relationshipType =>
    match bench.nodes[source]? with
    | none => bench
    | some _ =>
      { bench with
        drafts := addMade bench.drafts ((Relationship.start .unset relationshipType).map fun plan =>
          { source := source, plan := plan }) }
  | .leadTo index target =>
    match bench.nodes[target]? with
    | none => bench
    | some _ =>
      { bench with
        drafts := bench.drafts.modify index fun draft =>
          { draft with destination := some target } }
  | .withProperties index properties more =>
    { bench with
      drafts := bench.drafts.modify index fun draft =>
        { draft with plan := keepOr draft.plan (draft.plan.withProperties properties more) } }
  | .compileRelationship _ => bench

end BenchCall

/-- What is seen of a run: one observation for each call, each made on what the calls before it
have left. -/
def Bench.transcript (bench : Bench) : List BenchCall → List Observation
  | [] => []
  | call :: rest => call.observed bench :: (call.after bench).transcript rest

/-! ## 2.  Redaction -/

/-- A relationship that is being built, without the values of its properties. -/
def Draft.redacted (draft : Draft) : Draft := { draft with plan := draft.plan.redacted }

/-- A bench without the values that anything on it has bound. -/
def Bench.redacted (bench : Bench) : Bench where
  families := bench.families.map Family.redacted
  nodes := bench.nodes.map Node.redacted
  drafts := bench.drafts.map Draft.redacted

/-- A call on a bench without the values to be bound. -/
def BenchCall.redacted : BenchCall → BenchCall
  | .query labels => .query labels
  | .onFamily index call => .onFamily index call.redacted
  | .compile index request => .compile index request.redacted
  | .node inputs => .node (Node.redactedInputs inputs)
  | .hydrate stored => .hydrate (Node.redactedStored stored)
  | .onNode index call => .onNode index call.redacted
  | .compileNode index request => .compileNode index request
  | .relationship source relationshipType => .relationship source relationshipType
  | .leadTo index target => .leadTo index target
  | .withProperties index properties more =>
    .withProperties index properties.redactedMap more.redacted
  | .compileRelationship index => .compileRelationship index

@[simp] theorem Draft.redacted_redacted (draft : Draft) :
    draft.redacted.redacted = draft.redacted := by
  rw [redacted, redacted, Relationship.redacted_redacted]

theorem Draft.endAt_redacted (nodes : List Node) (index : ℕ) :
    endAt (nodes.map Node.redacted) index = (endAt nodes index).redacted := by
  rw [endAt, endAt, List.getElem?_map]
  cases nodes[index]? <;> rfl

/-- A relationship between redacted nodes is the redacted relationship. -/
theorem Draft.relationship_redacted (nodes : List Node) (draft : Draft) :
    draft.redacted.relationship (nodes.map Node.redacted) =
      (draft.relationship nodes).redacted := by
  have hdestination : draft.destination.elim .unset (endAt (nodes.map Node.redacted)) =
      (draft.destination.elim .unset (endAt nodes)).redacted := by
    cases draft.destination with
    | none => rfl
    | some target => exact endAt_redacted nodes target
  rw [relationship, relationship, redacted, endAt_redacted, hdestination]
  rfl

section things

variable {α : Type} {redact : α → α}

/-! Things on a bench are told apart by their numbers, which redaction keeps. -/

theorem observedAt_map {observed observedRedacted : α → Observation}
    (h : ∀ a, observedRedacted (redact a) = observed a) (things : List α) (index : ℕ) :
    BenchCall.observedAt (things.map redact) index observedRedacted =
      BenchCall.observedAt things index observed := by
  rw [BenchCall.observedAt, BenchCall.observedAt, List.getElem?_map]
  cases things[index]? with
  | none => rfl
  | some thing => exact h thing

variable (hidem : ∀ a, redact (redact a) = redact a)

include hidem

theorem map_redact_redact (things : List α) :
    (things.map redact).map redact = things.map redact := by
  rw [List.map_map]
  exact List.map_congr_left fun a _ => hidem a

/-- A change of one thing that commutes with redaction does so wherever the thing stands. -/
theorem modify_map_redact {change other : α → α}
    (h : ∀ a, redact (other (redact a)) = redact (change a)) (things : List α) (index : ℕ) :
    ((things.map redact).modify index other).map redact =
      (things.modify index change).map redact := by
  induction things generalizing index with
  | nil => rw [List.map_nil, List.modify_nil, List.modify_nil]
  | cons thing rest ih =>
    cases index with
    | zero => exact congrArg₂ List.cons (h thing) (map_redact_redact hidem rest)
    | succ index => exact congrArg₂ List.cons (hidem thing) (ih index)

theorem addMade_map_redact {made other : Except Fault α} (h : other.map redact = made.map redact)
    (things : List α) :
    (BenchCall.addMade (things.map redact) other).map redact =
      (BenchCall.addMade things made).map redact := by
  have hlist (result : Except Fault α) :
      result.toOption.toList.map redact = (result.map redact).toOption.toList := by
    cases result <;> rfl
  rw [BenchCall.addMade, BenchCall.addMade, List.map_append, List.map_append,
    map_redact_redact hidem, hlist, hlist, h]

theorem keepOr_redact {made other : Except Fault α} (h : other.map redact = made.map redact)
    (thing : α) :
    redact (BenchCall.keepOr (redact thing) other) = redact (BenchCall.keepOr thing made) := by
  have hkept (before : α) (result : Except Fault α) :
      redact (BenchCall.keepOr before result) =
        (result.map redact).toOption.getD (redact before) := by
    cases result <;> rfl
  rw [hkept, hkept, h, hidem]

end things

theorem Bench.redacted_congr {bench other : Bench}
    (hfamilies : bench.families.map Family.redacted = other.families.map Family.redacted)
    (hnodes : bench.nodes.map Node.redacted = other.nodes.map Node.redacted)
    (hdrafts : bench.drafts.map Draft.redacted = other.drafts.map Draft.redacted) :
    bench.redacted = other.redacted := by
  rw [redacted, redacted, hfamilies, hnodes, hdrafts]

namespace BenchCall

/-- **What is seen of a call does not depend on the values**, neither on those that it passes nor on
those that were bound before. -/
theorem observed_redacted (call : BenchCall) (bench : Bench) :
    call.redacted.observed bench.redacted = call.observed bench := by
  cases call with
  | query labels => rfl
  | onFamily index call => exact observedAt_map call.observed_redacted bench.families index
  | compile index request => exact observedAt_map request.observed_redacted bench.families index
  | node inputs =>
    change Observation.ofResult (Node.ofInputs (Node.redactedInputs inputs)) = _
    rw [← Observation.ofResult_map Node.redacted, Node.ofInputs_redactedInputs,
      Observation.ofResult_map]
    rfl
  | hydrate stored => rfl
  | onNode index call =>
    refine observedAt_map (fun node => ?_) bench.nodes index
    rw [← Observation.ofResult_map Node.redacted, node.perform_redacted,
      Observation.ofResult_map]
  | compileNode index request =>
    refine observedAt_map (fun node => ?_) bench.nodes index
    rw [← Observation.ofStatement_map_redacted, node.compile_redacted,
      Observation.ofStatement_map_redacted]
  | relationship source relationshipType =>
    exact observedAt_map (fun _ => rfl) bench.nodes source
  | leadTo index target =>
    refine observedAt_map (fun _ => ?_) bench.nodes target
    exact observedAt_map (fun _ => rfl) bench.drafts index
  | withProperties index properties more =>
    refine observedAt_map (fun draft => ?_) bench.drafts index
    change Observation.ofResult
      (draft.plan.redacted.withProperties properties.redactedMap more.redacted) = _
    rw [Relationship.withProperties_redacted, Observation.ofResult_map]
  | compileRelationship index =>
    refine observedAt_map (fun draft => ?_) bench.drafts index
    change Observation.ofStatement
      (draft.redacted.relationship (bench.nodes.map Node.redacted)).createStatement = _
    rw [Draft.relationship_redacted, ← Observation.ofStatement_map_redacted,
      Relationship.createStatement_redacted, Observation.ofStatement_map_redacted]

/-- **What a call makes of a bench differs in the values only**, if the call and the bench do. -/
theorem after_redacted (call : BenchCall) (bench : Bench) :
    (call.redacted.after bench.redacted).redacted = (call.after bench).redacted := by
  have hfamilies := map_redact_redact Family.redacted_redacted bench.families
  have hnodes := map_redact_redact Node.redacted_redacted bench.nodes
  have hdrafts := map_redact_redact Draft.redacted_redacted bench.drafts
  have hfound (index : ℕ) :
      bench.redacted.nodes[index]? = bench.nodes[index]?.map Node.redacted := List.getElem?_map ..
  cases call with
  | query labels =>
    refine Bench.redacted_congr ?_ hnodes hdrafts
    exact addMade_map_redact Family.redacted_redacted rfl bench.families
  | onFamily index call =>
    refine Bench.redacted_congr ?_ hnodes hdrafts
    exact modify_map_redact Family.redacted_redacted call.after_redacted bench.families index
  | compile index request =>
    refine Bench.redacted_congr ?_ hnodes hdrafts
    exact modify_map_redact Family.redacted_redacted request.after_redacted bench.families index
  | node inputs =>
    refine Bench.redacted_congr hfamilies ?_ hdrafts
    exact addMade_map_redact Node.redacted_redacted (Node.ofInputs_redactedInputs inputs)
      bench.nodes
  | hydrate stored =>
    refine Bench.redacted_congr hfamilies ?_ hdrafts
    change (bench.nodes.map Node.redacted ++ [Node.hydrate (Node.redactedStored stored)]).map
      Node.redacted = (bench.nodes ++ [Node.hydrate stored]).map Node.redacted
    rw [List.map_append, List.map_append, hnodes]
    exact congrArg (_ ++ [·]) (Node.hydrate_redacted stored)
  | onNode index call =>
    refine Bench.redacted_congr hfamilies ?_ hdrafts
    exact modify_map_redact Node.redacted_redacted
      (fun node => keepOr_redact Node.redacted_redacted (node.perform_redacted call) node)
      bench.nodes index
  | compileNode index request => exact Bench.redacted_congr hfamilies hnodes hdrafts
  | relationship source relationshipType =>
    change (after bench.redacted (.relationship source relationshipType)).redacted = _
    rw [after, after, hfound]
    cases bench.nodes[source]? with
    | none => exact Bench.redacted_congr hfamilies hnodes hdrafts
    | some _ =>
      refine Bench.redacted_congr hfamilies hnodes ?_
      exact addMade_map_redact Draft.redacted_redacted rfl bench.drafts
  | leadTo index target =>
    change (after bench.redacted (.leadTo index target)).redacted = _
    rw [after, after, hfound]
    cases bench.nodes[target]? with
    | none => exact Bench.redacted_congr hfamilies hnodes hdrafts
    | some _ =>
      refine Bench.redacted_congr hfamilies hnodes ?_
      refine modify_map_redact Draft.redacted_redacted (fun draft => ?_) bench.drafts index
      exact congrArg (Draft.mk draft.source (some target)) draft.plan.redacted_redacted
  | withProperties index properties more =>
    refine Bench.redacted_congr hfamilies hnodes ?_
    refine modify_map_redact Draft.redacted_redacted (fun draft => ?_) bench.drafts index
    refine congrArg (Draft.mk draft.source draft.destination) ?_
    refine keepOr_redact Relationship.redacted_redacted ?_ draft.plan
    change Except.map _
      (draft.plan.redacted.withProperties properties.redactedMap more.redacted) = _
    rw [Relationship.withProperties_redacted]
    cases draft.plan.withProperties properties more with
    | error fault => rfl
    | ok plan => exact congrArg Except.ok plan.redacted_redacted
  | compileRelationship index => exact Bench.redacted_congr hfamilies hnodes hdrafts

end BenchCall

/-! ## 3.  Two runs -/

/-- **Runs that differ in values only have one transcript.** -/
theorem Bench.transcript_congr {calls others : List BenchCall}
    (hcalls : calls.map BenchCall.redacted = others.map BenchCall.redacted)
    {bench other : Bench} (hbench : bench.redacted = other.redacted) :
    bench.transcript calls = other.transcript others := by
  induction calls generalizing others bench other with
  | nil =>
    rw [List.map_eq_nil_iff.mp hcalls.symm]
    rfl
  | cons call calls ih =>
    cases others with
    | nil => exact absurd hcalls (by simp)
    | cons another others =>
      rw [List.map_cons, List.map_cons, List.cons.injEq] at hcalls
      obtain ⟨hcall, hrest⟩ := hcalls
      have hobserved : call.observed bench = another.observed other := by
        rw [← call.observed_redacted, ← another.observed_redacted, hcall, hbench]
      have hafter : (call.after bench).redacted = (another.after other).redacted := by
        rw [← call.after_redacted, ← another.after_redacted, hcall, hbench]
      exact congrArg₂ List.cons hobserved (ih hrest hafter)

/-- **Bound values never influence what is compiled.**  Two runs of the same calls, on queries,
traversals, nodes and relationships that are all built in the run, with other condition values,
other members of collections, other values of attributes and properties and other identities in the
place of identities, have the same transcript: the same calls are refused for the same reasons, and
every text and every list of parameter keys is the same. -/
theorem transcript_of_redacted {calls others : List BenchCall}
    (h : calls.map BenchCall.redacted = others.map BenchCall.redacted) :
    Bench.transcript {} calls = Bench.transcript {} others :=
  Bench.transcript_congr h rfl

/-- A search, a node that was found by it, and another node that knows it, with any values. -/
def acquaintance (name city age identity since : Value) : List BenchCall :=
  [.query [.text "Person"],
    .onFamily 0 (.onSource (.«where» (.text "name") name none)),
    .onFamily 0 (.onSource (.whereIn (.text "city") (.list [city, .text "Oakland"]))),
    .onFamily 0 (.onSource (.«where» (.text "age") (.text "about") (some age))),
    .compile 0 (.update (.map [(.text "age", age)])),
    .compile 0 .select,
    .hydrate ⟨["Person"], [(.text "name", name), (.text "id", identity)]⟩,
    .node [(.text "labels", .list [.text "Person"]),
      (.text "attributes", .map [(.text "id", identity), (.text "age", age)])],
    .compileNode 1 .insert,
    .relationship 1 (.text "KNOWS"),
    .leadTo 0 0,
    .withProperties 0 .null [(.text "since", since)],
    .compileRelationship 0]

/-- Two runs with values of different kinds, among them a text that looks like part of a statement.
In both the search asks for its two conditions only, since the third was refused. -/
theorem transcript_of_redacted_acquaintance :
    ∃ first second : List BenchCall,
      first = acquaintance (.text "Alice") (.text "Berkeley") (.int 31) (.int 5) (.int 2020) ∧
      second = acquaintance (.text "x' OR 1 = 1") .null (.list []) (.text "n.id") (.map []) ∧
      first.map BenchCall.redacted = second.map BenchCall.redacted ∧
      Bench.transcript {} first = Bench.transcript {} second ∧
      (Bench.transcript {} second)[5]? = some (.compiled
        "MATCH (n:Person) WHERE n.name = $p1 AND n.city IN $p2 RETURN n"
        [.text "p1", .text "p2"]) ∧
      (Bench.transcript {} second).getLast? = some (.compiled
        ("MATCH (a), (b) WHERE a.id = $fromId AND b.id = $toId " ++
          "CREATE (a)-[r:KNOWS \x7bsince: $p1\x7d]->(b) RETURN r")
        [.text "fromId", .text "toId", .text "p1"]) := by
  have hredacted :
      (acquaintance (.text "Alice") (.text "Berkeley") (.int 31) (.int 5) (.int 2020)).map
          BenchCall.redacted =
        (acquaintance (.text "x' OR 1 = 1") .null (.list []) (.text "n.id") (.map [])).map
          BenchCall.redacted := rfl
  exact ⟨_, _, rfl, rfl, hredacted, transcript_of_redacted hredacted, rfl, rfl⟩

end GraphMapper
