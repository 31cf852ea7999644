import GraphMapper.Node.Statements
import GraphMapper.Proofs.Node.Construct
import GraphMapper.Proofs.Redaction.Values
import GraphMapper.Relationship

/-!
# Nodes and relationships with their values left out

A node holds its attributes and its identity, and both are bound by its statements.  Of the
identity only one thing is ever written: whether there is one.  So a redacted node keeps that
(`Value.presence`) and the keys of its attributes.

## The identity among the attributes

The constructor looks for the identity among the attributes and moves it, unless another identity
was given; both ways it asks whether a value is null.  `Node.extractIdentity_redactedInputs` says
that redaction commutes with moving it, exactly and for inputs of any form.  Everything else that
the constructor checks is in the keys, in the labels, or in the flag.

* `Node.ofInputs_redactedInputs`, `Node.hydrate_redacted`: nodes that differ in values are made
  from inputs that do.
* `Node.perform_redacted`: the calls that change a node.
* `NodeRequest.compile_redacted`, `Relationship.createStatement_redacted`: the statements.
-/

namespace GraphMapper

/-! ## 1.  Making nodes -/

namespace Node

/-- A node without its values: whether it has an identity, and the keys of its attributes. -/
def redacted (node : Node) : Node :=
  { node with
    identity := node.identity.presence
    attributes := node.attributes.redacted
    storedIdentity := .null }

/-- Properties without their values; of the identity it is kept whether there is one. -/
def redactedProperty (key : Key) (value : Value) : Value :=
  if key = identityEntry then value.presence else .null

/-- A map of properties without their values. -/
def redactedAttributes (v : Value) : Value := v.revalue redactedProperty

/-- An input of the constructor without values to be bound. -/
def redactedInput (key : Key) (value : Value) : Value :=
  if key = .text "identity" then value.presence
  else if key = .text "attributes" then redactedAttributes value
  else value

/-- The inputs of the constructor without values to be bound. -/
def redactedInputs (inputs : Entries) : Entries := inputs.revalue redactedInput

theorem uniform_redactedProperty : Entries.Uniform redactedProperty :=
  Entries.uniform_text identityKey Value.presence (Entries.uniform_const fun _ => .null)

theorem uniform_redactedInput : Entries.Uniform redactedInput :=
  Entries.uniform_text "identity" Value.presence
    (Entries.uniform_text "attributes" redactedAttributes (Entries.uniform_const id))

theorem get?_redactedInputs (inputs : Entries) (name : String) :
    (redactedInputs inputs).get? (.text name) =
      (inputs.get? (.text name)).map (redactedInput (.text name)) :=
  Entries.get?_revalue uniform_redactedInput inputs _

theorem identityOf_presence (v : Value) : identityOf v.presence = (identityOf v).presence := by
  cases v <;> rfl

/-- The map that is given for the attributes among redacted inputs is the redacted one. -/
theorem dictionary?_redactedInputs (inputs : Entries) :
    ((redactedInputs inputs).get? (.text "attributes")).bind Value.dictionary? =
      ((inputs.get? (.text "attributes")).bind Value.dictionary?).map
        (Entries.revalue redactedProperty) := by
  rw [get?_redactedInputs]
  cases inputs.get? (.text "attributes") with
  | none => rfl
  | some v => exact v.dictionary?_revalue redactedProperty

/-- **Moving the identity out of the attributes does not depend on values**, except on whether
they are null. -/
theorem extractIdentity_redactedInputs (given : Entries) :
    extractIdentity (redactedInputs given) = redactedInputs (extractIdentity given) := by
  have hredacted := dictionary?_redactedInputs given
  cases hentries : (given.get? (.text "attributes")).bind Value.dictionary? with
  | none =>
    rw [hentries] at hredacted
    rw [extractIdentity_of_notMem fun others h => absurd (hredacted.symm.trans h) (by simp),
      extractIdentity_of_notMem fun others h => absurd (hentries.symm.trans h) (by simp)]
  | some entries =>
    rw [hentries, Option.map_some] at hredacted
    have hfound := Entries.get?_revalue uniform_redactedProperty entries identityEntry
    cases hidentity : Entries.get? entries identityEntry with
    | none =>
      rw [hidentity] at hfound
      rw [extractIdentity_of_notMem, extractIdentity_of_notMem]
      · intro others hothers
        rw [← Option.some.inj (hentries.symm.trans hothers), hidentity]
      · intro others hothers
        rw [← Option.some.inj (hredacted.symm.trans hothers), hfound]
        rfl
    | some identity =>
      rw [hidentity] at hfound
      have hrest : (redactedInputs given).put (.text "attributes")
          (.map ((Entries.revalue redactedProperty entries).erase identityEntry)) =
          redactedInputs
            (given.put (.text "attributes") (.map (Entries.erase entries identityEntry))) := by
        have hvalue : redactedInput (.text "attributes")
            (.map (Entries.erase entries identityEntry)) =
            .map ((Entries.revalue redactedProperty entries).erase identityEntry) := by
          rw [← Entries.revalue_erase]
          rfl
        rw [redactedInputs, redactedInputs, Entries.revalue_put uniform_redactedInput, hvalue]
      have hnull : ((redactedInputs given).get? (.text "identity")).all Value.isNull =
          (given.get? (.text "identity")).all Value.isNull := by
        rw [get?_redactedInputs]
        cases given.get? (.text "identity") with
        | none => rfl
        | some v => exact v.isNull_presence
      rw [extractIdentity_of_mem hredacted hfound, extractIdentity_of_mem hentries hidentity]
      simp only [hrest, hnull]
      cases (given.get? (.text "identity")).all Value.isNull with
      | false => rfl
      | true => exact (Entries.revalue_put uniform_redactedInput _ _ identity).symm

/-! The fields are checked one by one, and each of them by its keys, its labels or its flag. -/

theorem optional_redactedInputs {α : Type} {name : String} (hidentity : name ≠ "identity")
    (hattributes : name ≠ "attributes") (default : α) (check : Value → Except (List Issue) α)
    (inputs : Entries) :
    Validation.optional name default check (redactedInputs inputs) =
      Validation.optional name default check inputs := by
  have hinput : redactedInput (.text name) = id := by
    funext v
    rw [redactedInput, if_neg (by simpa using hidentity), if_neg (by simpa using hattributes)]
    rfl
  rw [Validation.optional, Validation.optional, Validation.input?_eq_get?,
    Validation.input?_eq_get?, get?_redactedInputs, hinput, Option.map_id]
  rfl

/-- How keys are read, and which of them cannot be, does not depend on values. -/
theorem textKeys_revalue (name : String) (f : Key → Value → Value) (entries : Entries) :
    Entries.redacted (Validation.textKeys name (entries.revalue f)).1 =
        Entries.redacted (Validation.textKeys name entries).1 ∧
      (Validation.textKeys name (entries.revalue f)).2 = (Validation.textKeys name entries).2 := by
  induction entries with
  | nil => exact ⟨rfl, rfl⟩
  | cons e rest ih =>
    have hcons : Entries.revalue f (e :: rest) = (e.1, f e.1 e.2) :: Entries.revalue f rest := rfl
    rw [hcons, Validation.textKeys, Validation.textKeys]
    cases Validation.text e.1.toValue with
    | error problem => exact ⟨ih.1, congrArg (_ :: ·) ih.2⟩
    | ok s => exact ⟨congrArg (_ :: ·) ih.1, ih.2⟩

/-- Which attributes are accepted does not depend on values, nor under which texts they are kept. -/
theorem textMap_redactedAttributes (name : String) (v : Value) :
    (Validation.textMap name (redactedAttributes v)).map Entries.redacted =
      (Validation.textMap name v).map Entries.redacted := by
  rw [redactedAttributes]
  obtain ⟨entries, hentries⟩ | hnot := v.bare_eq_map_or
  · obtain ⟨hkeys, hissues⟩ := textKeys_revalue name redactedProperty entries
    have hall : ((Entries.revalue redactedProperty entries).all fun e => Validation.isText e.1) =
        entries.all fun e => Validation.isText e.1 := by
      rw [Entries.revalue, List.all_map]
      rfl
    rw [Validation.textMap, Validation.textMap, v.bare_revalue redactedProperty hentries, hentries]
    dsimp only
    cases hread : Validation.textKeys name (Entries.revalue redactedProperty entries) with
    | mk read issues =>
      cases hgiven : Validation.textKeys name entries with
      | mk other others =>
        rw [hread, hgiven] at hkeys hissues
        dsimp only at hkeys hissues
        rw [hissues]
        cases others with
        | cons issue rest => rfl
        | nil =>
          rw [hall]
          refine congrArg Except.ok ?_
          split
          · exact hkeys
          · rw [Entries.ofPairs, Entries.ofPairs, Entries.redacted_merge, Entries.redacted_merge,
              hkeys]
  · rw [Value.revalue_of_not_map _ hnot]

/-- Checks whose results agree up to a function report the same, and accept what agrees. -/
theorem checked_congr {α β : Type} {f : α → β} {checked other : Except (List Issue) α}
    (h : checked.map f = other.map f) :
    (Validation.Checked.of checked).value?.map f = (Validation.Checked.of other).value?.map f ∧
      (Validation.Checked.of checked).issues = (Validation.Checked.of other).issues := by
  cases checked with
  | error issues =>
    cases other with
    | error others => exact ⟨rfl, Except.error.inj h⟩
    | ok b => exact absurd h (by simp [Except.map])
  | ok a =>
    cases other with
    | error others => exact absurd h (by simp [Except.map])
    | ok b => exact ⟨congrArg some (Except.ok.inj h), rfl⟩

theorem attributes_redactedInputs (inputs : Entries) :
    let before := Validation.optional "attributes" [] (Validation.textMap "attributes") inputs
    let after :=
      Validation.optional "attributes" [] (Validation.textMap "attributes") (redactedInputs inputs)
    after.value?.map Entries.redacted = before.value?.map Entries.redacted ∧
      after.issues = before.issues := by
  dsimp only
  rw [Validation.optional, Validation.optional, Validation.input?_eq_get?,
    Validation.input?_eq_get?, get?_redactedInputs]
  cases inputs.get? (.text "attributes") with
  | none => exact ⟨rfl, rfl⟩
  | some v => exact checked_congr (textMap_redactedAttributes "attributes" v)

theorem identity_redactedInputs (inputs : Entries) :
    identityOf ((Validation.input? "identity" (redactedInputs inputs)).getD .null) =
      (identityOf ((Validation.input? "identity" inputs).getD .null)).presence := by
  rw [Validation.input?_eq_get?, Validation.input?_eq_get?, get?_redactedInputs]
  cases inputs.get? (.text "identity") with
  | none => rfl
  | some v => exact identityOf_presence v

theorem unexpected_redactedInputs (inputs : Entries) :
    unexpected (redactedInputs inputs) = unexpected inputs := by
  rw [unexpected, unexpected, redactedInputs, Entries.revalue, List.filterMap_map]
  rfl

/-- Whether inputs are accepted as they are does not depend on values. -/
theorem validated_redactedInputs (inputs : Entries) :
    (validated (redactedInputs inputs)).map redacted = (validated inputs).map redacted := by
  obtain ⟨hattributes, hissues⟩ := attributes_redactedInputs inputs
  rw [validated, validated]
  simp only [identity_redactedInputs, hissues, unexpected_redactedInputs]
  rw [optional_redactedInputs (by decide : "labels" ≠ "identity") (by decide),
    optional_redactedInputs (by decide : "persisted" ≠ "identity") (by decide)]
  generalize Validation.optional "labels" [] readLabels inputs = labels
  generalize Validation.optional "attributes" [] (Validation.textMap "attributes") inputs =
    attributes at hattributes ⊢
  generalize Validation.optional "attributes" [] (Validation.textMap "attributes")
    (redactedInputs inputs) = others at hattributes ⊢
  generalize Validation.optional "persisted" false
    (Validation.scalar "persisted" Validation.bool) inputs = persisted
  generalize identityOf ((Validation.input? "identity" inputs).getD .null) = identity
  generalize labels.issues ++ attributes.issues ++ persisted.issues ++ unexpected inputs = issues
  rw [Value.isNull_presence]
  cases labels.value? with
  | none => rfl
  | some labels =>
    cases hothers : others.value? with
    | none =>
      rw [hothers, Option.map_none] at hattributes
      rw [Option.map_eq_none_iff.mp hattributes.symm]
    | some others =>
      rw [hothers, Option.map_some] at hattributes
      obtain ⟨attributes, hattributes, hsame⟩ := Option.map_eq_some_iff.mp hattributes.symm
      rw [hattributes]
      cases persisted.value? with
      | none => rfl
      | some persisted =>
        cases issues with
        | cons issue issues => rfl
        | nil =>
          dsimp only
          cases persisted && identity.isNull with
          | true => rfl
          | false =>
            refine congrArg Except.ok ?_
            simp only [redacted, Value.presence_presence, hsame]

/-- **Whether the constructor accepts its inputs does not depend on values**, and the nodes that it
makes of inputs with different values differ in those values only. -/
theorem ofInputs_redactedInputs (given : Entries) :
    (ofInputs (redactedInputs given)).map redacted = (ofInputs given).map redacted := by
  rw [ofInputs, ofInputs, extractIdentity_redactedInputs]
  exact validated_redactedInputs (extractIdentity given)

/-- A stored node without its values. -/
def redactedStored (stored : StoredNode) : StoredNode :=
  ⟨stored.labels, stored.properties.revalue redactedProperty⟩

/-- Stored nodes with different values are read as nodes that differ in those values only. -/
theorem hydrate_redacted (stored : StoredNode) :
    (hydrate (redactedStored stored)).redacted = (hydrate stored).redacted := by
  have hidentity : ((stored.properties.revalue redactedProperty).get? identityEntry).getD .null =
      ((stored.properties.get? identityEntry).getD .null).presence := by
    rw [Entries.get?_revalue uniform_redactedProperty]
    cases stored.properties.get? identityEntry <;> rfl
  rw [hydrate, hydrate, redactedStored, hidentity]
  simp only [redacted, identityOf_presence, Value.presence_presence, Value.isNull_presence,
    ← Entries.revalue_erase, Entries.redacted_revalue]

/-! ## 2.  Calls on a node -/

end Node

/-- A call that changes a node in memory. -/
inductive NodeEdit where
  | set (key value : Value)
  | unset (key : Key)
  | addLabel (label : Value)
  | identify (identity : Value)

namespace NodeEdit

/-- Performs a call. -/
def perform (node : Node) : NodeEdit → Except Fault Node
  | .set key value => node.set key value
  | .unset key => .ok (node.unset key).2
  | .addLabel label => node.addLabel label
  | .identify identity => .ok { node with identity := identity }

/-- A call on a node without the value to be bound. -/
def redacted : NodeEdit → NodeEdit
  | .set key _ => .set key .null
  | .identify identity => .identify identity.presence
  | call => call

end NodeEdit

namespace Node

@[simp] theorem redacted_redacted (node : Node) : node.redacted.redacted = node.redacted := by
  simp only [redacted, Value.presence_presence, Entries.redacted_redacted]

variable (node : Node)

theorem isAnonymous_redacted : node.redacted.isAnonymous = node.isAnonymous :=
  node.identity.isNull_presence

theorem set_redacted (key value : Value) :
    (node.redacted.set key .null).map redacted = (node.set key value).map redacted := by
  have hset : ∀ name : String,
      redacted
          { node.redacted with attributes := node.redacted.attributes.put (.text name) .null } =
        redacted { node with attributes := node.attributes.put (.text name) value } := by
    intro name
    simp only [redacted, Value.presence_presence, Entries.redacted_put, Entries.redacted_redacted]
  cases key with
  | text s =>
    rw [set, set]
    by_cases hs : s = identityKey
    · simp only [if_pos hs]
      rfl
    · simp only [if_neg hs]
      cases identifier attributeRole (.text s) with
      | error fault => rfl
      | ok name => exact congrArg Except.ok (hset name)
  | _ => rfl

theorem addLabel_redacted (label : Value) :
    (node.redacted.addLabel label).map redacted = (node.addLabel label).map redacted := by
  rw [addLabel, addLabel]
  cases identifier labelRole label with
  | error fault => rfl
  | ok name =>
    refine congrArg Except.ok ?_
    simp only [redacted, Value.presence_presence, Entries.redacted_redacted]

/-- **A call on a node succeeds or is refused whatever its value is**, and what it makes of the
node differs in that value only. -/
theorem perform_redacted (call : NodeEdit) :
    (call.redacted.perform node.redacted).map redacted = (call.perform node).map redacted := by
  cases call with
  | set key value => exact node.set_redacted key value
  | unset key =>
    refine congrArg Except.ok ?_
    simp only [unset, redacted, Value.presence_presence, Entries.redacted_erase,
      Entries.redacted_redacted]
  | addLabel label => exact node.addLabel_redacted label
  | identify identity =>
    refine congrArg Except.ok ?_
    simp only [redacted, Value.presence_presence, Entries.redacted_redacted]

end Node

/-! ## 3.  Statements -/

/-- What can be compiled from a node. -/
inductive NodeRequest where
  | insert
  | update
  | delete (detach : Bool)

/-- The statement that is asked for. -/
def NodeRequest.compile (node : Node) : NodeRequest → Except Fault Statement
  | .insert => node.insertStatement
  | .update => node.updateStatement
  | .delete detach => .ok (node.deleteStatement detach)

namespace Node

variable (node : Node)

/-- The statement that creates a node with labels, once its properties are bound. -/
def creation (labels : List String) (bound : Except Fault String × Binding) :
    Except Fault Statement := do
  let properties ← bound.1
  let fragment ← labelFragment (labels.map .text)
  return ⟨"CREATE (n" ++ fragment ++ properties ++ ") RETURN n", bound.2.parameters⟩

theorem creation_congr (labels : List String) {bound other : Except Fault String × Binding}
    (hresult : bound.1 = other.1) (hfinal : bound.2.redacted = other.2.redacted) :
    (creation labels bound).map Statement.redacted =
      (creation labels other).map Statement.redacted := by
  rw [creation, creation, hresult]
  cases other.1 with
  | error fault => rfl
  | ok properties =>
    cases labelFragment (labels.map .text) with
    | error fault => rfl
    | ok fragment =>
      exact congrArg (fun final : Binding =>
        (Except.ok ⟨"CREATE (n" ++ fragment ++ properties ++ ") RETURN n", final.parameters⟩ :
          Except Fault Statement)) hfinal

/-- The identity is bound before the attributes, if there is one. -/
theorem insertStatement_eq_creation :
    node.insertStatement = creation node.labels
      (if node.isAnonymous then propertiesMap {} node.attributes none
      else propertiesMap ⟨{}, [(identityEntry, node.identity)]⟩ node.attributes
        (some identityKey)) := by
  rw [insertStatement]
  cases node.isAnonymous <;> rfl

theorem insertStatement_redacted :
    node.redacted.insertStatement.map Statement.redacted =
      node.insertStatement.map Statement.redacted := by
  have hattributes : node.redacted.attributes.redacted = node.attributes.redacted :=
    node.attributes.redacted_redacted
  rw [insertStatement_eq_creation, insertStatement_eq_creation, isAnonymous_redacted]
  cases node.isAnonymous with
  | true =>
    have hbound := propertiesMap_congr {} {} rfl hattributes none
    exact creation_congr node.labels hbound.1 hbound.2
  | false =>
    have hbound := propertiesMap_congr ⟨{}, [(identityEntry, node.redacted.identity)]⟩
      ⟨{}, [(identityEntry, node.identity)]⟩ rfl hattributes (some identityKey)
    exact creation_congr node.labels hbound.1 hbound.2

theorem updateStatement_redacted :
    node.redacted.updateStatement.map Statement.redacted =
      node.updateStatement.map Statement.redacted := by
  rw [updateStatement, updateStatement, isAnonymous_redacted]
  cases node.isAnonymous with
  | true => rfl
  | false =>
    have hbound := setClause_congr "n" ⟨{}, node.redacted.matchParameters⟩
      ⟨{}, node.matchParameters⟩ rfl node.attributes.redacted_redacted
    exact Statement.redacted_of_bound hbound.1 hbound.2 fun assignments =>
      "MATCH (n) WHERE n.id = $id" ++ assignments ++ " RETURN n"

/-- **What is compiled from a node does not depend on its values**, except on whether it has an
identity. -/
theorem compile_redacted (request : NodeRequest) :
    (request.compile node.redacted).map Statement.redacted =
      (request.compile node).map Statement.redacted := by
  cases request with
  | insert => exact node.insertStatement_redacted
  | update => exact node.updateStatement_redacted
  | delete detach => rfl

end Node

/-! ## 4.  Relationships -/

/-- An end of a relationship without its values. -/
def RelationshipEnd.redacted : RelationshipEnd → RelationshipEnd
  | .unset => .unset
  | .node entity => .node entity.redacted
  | .stranger identity fault => .stranger (identity.map Value.presence) fault

@[simp] theorem RelationshipEnd.redacted_redacted (place : RelationshipEnd) :
    place.redacted.redacted = place.redacted := by
  cases place with
  | unset => rfl
  | node entity => exact congrArg RelationshipEnd.node entity.redacted_redacted
  | stranger identity fault =>
    cases identity with
    | none => rfl
    | some identity =>
      exact congrArg (fun v => RelationshipEnd.stranger (some v) fault) identity.presence_presence

/-- A relationship without its values. -/
def Relationship.redacted (relationship : Relationship) : Relationship :=
  { relationship with
    source := relationship.source.redacted
    destination := relationship.destination.redacted
    properties := relationship.properties.redacted }

namespace Relationship

@[simp] theorem redacted_redacted (relationship : Relationship) :
    relationship.redacted.redacted = relationship.redacted := by
  simp only [redacted, RelationshipEnd.redacted_redacted, Entries.redacted_redacted]

/-- Properties whose names are all accepted. -/
def checkNames (merged : Entries) : Except Fault Entries := do
  let _ ← identifiers propertyRole (merged.map (·.1.toValue))
  return merged

theorem checkNames_redacted (merged : Entries) :
    checkNames merged.redacted = (checkNames merged).map Entries.redacted := by
  have hnames : (Entries.redacted merged).map (·.1.toValue) = merged.map (·.1.toValue) := by
    rw [Entries.redacted, Entries.revalue, List.map_map]
    rfl
  rw [checkNames, checkNames, hnames]
  cases identifiers propertyRole (merged.map (·.1.toValue)) <;> rfl

theorem readProperties_of_map {properties : Value} {entries : Entries}
    (h : properties.bare = .map entries) (more : Entries) :
    readProperties properties more = checkNames (entries.merge more) := by
  rw [readProperties, h]
  rfl

theorem readProperties_of_not_map {properties : Value}
    (h : ∀ entries, properties.bare ≠ .map entries) (more : Entries) :
    readProperties properties more =
      if properties.isTruthy then .error .wrongKind else checkNames more := by
  unfold readProperties
  split
  · next entries hentries => exact absurd hentries (h entries)
  · rw [Value.isTruthy_bare]
    cases properties.isTruthy <;> rfl

/-- Which properties are accepted depends on their keys only. -/
theorem readProperties_redactedMap (properties : Value) (more : Entries) :
    readProperties properties.redactedMap more.redacted =
      (readProperties properties more).map Entries.redacted := by
  rw [Value.redactedMap]
  obtain ⟨entries, hentries⟩ | hnot := properties.bare_eq_map_or
  · have hredacted := readProperties_of_map (properties.bare_revalue (fun _ _ => .null) hentries)
      more.redacted
    rw [readProperties_of_map hentries, ← checkNames_redacted, Entries.redacted_merge]
    exact hredacted
  · rw [Value.revalue_of_not_map _ hnot, readProperties_of_not_map hnot,
      readProperties_of_not_map hnot, checkNames_redacted]
    cases properties.isTruthy <;> rfl

theorem withProperties_redacted (relationship : Relationship) (properties : Value)
    (more : Entries) :
    relationship.redacted.withProperties properties.redactedMap more.redacted =
      (relationship.withProperties properties more).map redacted := by
  rw [withProperties, withProperties, readProperties_redactedMap]
  cases readProperties properties more <;> rfl

theorem createBetween_redacted (relationship : Relationship) (source destination : Node) :
    (relationship.redacted.createBetween source.redacted destination.redacted).map
        Statement.redacted =
      (relationship.createBetween source destination).map Statement.redacted := by
  have hbound := propertiesMap_congr
    ⟨{}, endpointParameters source.redacted destination.redacted⟩
    ⟨{}, endpointParameters source destination⟩ rfl relationship.properties.redacted_redacted none
  exact Statement.redacted_of_bound hbound.1 hbound.2 fun properties =>
    "MATCH (a), (b) WHERE a.id = $fromId AND b.id = $toId CREATE (a)-[r:" ++
      relationship.relationshipType ++ properties ++ "]->(b) RETURN r"

theorem checkEnd_redacted (endpoint : Endpoint) (place : RelationshipEnd) :
    checkEnd endpoint place.redacted = checkEnd endpoint place := by
  cases place with
  | unset => rfl
  | node node =>
    change (if node.redacted.isAnonymous then _ else _) = _
    rw [node.isAnonymous_redacted]
    rfl
  | stranger identity fault =>
    cases identity with
    | none => rfl
    | some identity =>
      change (if identity.presence.isNull then _ else _) = _
      rw [identity.isNull_presence]
      rfl

theorem endNode_redacted (place : RelationshipEnd) :
    endNode place.redacted = (endNode place).map Node.redacted := by
  cases place <;> rfl

/-- **What is compiled from a relationship does not depend on its values**, except on whether its
ends have identities. -/
theorem createStatement_redacted (relationship : Relationship) :
    relationship.redacted.createStatement.map Statement.redacted =
      relationship.createStatement.map Statement.redacted := by
  have hsource : relationship.redacted.source = relationship.source.redacted := rfl
  have hdestination : relationship.redacted.destination = relationship.destination.redacted := rfl
  rw [createStatement, createStatement, hsource, hdestination, checkEnd_redacted,
    checkEnd_redacted, endNode_redacted, endNode_redacted]
  cases relationship.destination with
  | unset => rfl
  | node destination =>
    cases checkEnd .source relationship.source with
    | error fault => rfl
    | ok _ =>
      cases checkEnd .destination (.node destination) with
      | error fault => rfl
      | ok _ =>
        cases endNode relationship.source with
        | error fault => rfl
        | ok source => exact relationship.createBetween_redacted source destination
  | stranger identity fault =>
    cases checkEnd .source relationship.source with
    | error fault => rfl
    | ok _ =>
      cases checkEnd .destination (.stranger identity fault) with
      | error fault => rfl
      | ok _ => cases endNode relationship.source <;> rfl

end Relationship

end GraphMapper
