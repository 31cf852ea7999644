import GraphMapper.Proofs.Builder.Placeholders
import GraphMapper.Proofs.Redaction.Values

/-!
# Queries and traversals with their values left out

The calls on a query and on its traversals, without the values of their conditions, the members of
their collections and the values of their assignments.  For each operation the redacted result is
that of the redacted call on the redacted query.

## Where a value decides

Three things that a caller passes are looked at before they are bound.  A condition with two
arguments has its value where one with three has its operator, so redaction must know which form
it is.  A collection is refused if it is a text, so a redacted text is still a text.  And an
assignment to the identity is refused, which depends on the keys alone.

* `QueryCall.perform_redacted`, `TraversalCall.perform_redacted`: the calls that build.
* `Query.updateStatement_redacted`, `Traversal.selectStatement_redacted` and their siblings: the
  statements.
* `FamilyCall.observed_redacted`, `FamilyCall.after_redacted`, `Request.observed_redacted`: a query
  and the traversals that were started from it.
-/

namespace GraphMapper

/-! ## 1.  Arguments -/

/-- A collection without its members; what is no collection stays what it is, and texts stay
texts. -/
def Value.redactedCollection : Value → Value
  | .text _ => .text ""
  | .bytes _ => .bytes []
  | v => if v.members?.isSome then .list [] else v

/-- The arguments of a condition after its field, without the value: it is the only one of them, or
the one after the operator. -/
def redactedOperands (first : Value) : Option Value → Value × Option Value
  | none => (.null, none)
  | some _ => (first, some .null)

theorem splitOperands_redactedOperands (first : Value) (second : Option Value) :
    splitOperands (redactedOperands first second).1 (redactedOperands first second).2 =
      ((splitOperands first second).1, .null) := by
  cases second <;> rfl

section collection

variable {v : Value} (htext : ∀ s, v ≠ .text s) (hbytes : ∀ b, v ≠ .bytes b)

include htext hbytes

theorem Value.redactedCollection_eq :
    v.redactedCollection = if v.members?.isSome then .list [] else v := by
  unfold redactedCollection
  split
  · next s => exact absurd rfl (htext s)
  · next b => exact absurd rfl (hbytes b)
  · rfl

theorem Query.readCollection_eq :
    readCollection v = v.members?.elim (.error .wrongKind) .ok := by
  unfold readCollection
  split
  · next s => exact absurd rfl (htext s)
  · next b => exact absurd rfl (hbytes b)
  · cases v.members? <;> rfl

end collection

/-- Reading a redacted collection succeeds or is refused as before, and finds no members. -/
theorem readCollection_redactedCollection (v : Value) :
    redactedResult id (Query.readCollection v.redactedCollection) =
      redactedResult (fun _ => []) (Query.readCollection v) := by
  by_cases hasText : ∃ s, v = .text s
  · obtain ⟨s, rfl⟩ := hasText
    rfl
  by_cases hasBytes : ∃ b, v = .bytes b
  · obtain ⟨b, rfl⟩ := hasBytes
    rfl
  have htext : ∀ s, v ≠ .text s := fun s h => hasText ⟨s, h⟩
  have hbytes : ∀ b, v ≠ .bytes b := fun b h => hasBytes ⟨b, h⟩
  rw [Value.redactedCollection_eq htext hbytes]
  cases hmembers : v.members? with
  | none =>
    have hread : Query.readCollection v = .error .wrongKind := by
      rw [Query.readCollection_eq htext hbytes, hmembers]
      rfl
    rw [if_neg (by simp), hread]
    rfl
  | some members =>
    have hread : Query.readCollection v = .ok members := by
      rw [Query.readCollection_eq htext hbytes, hmembers]
      rfl
    rw [hread]
    rfl

/-! ## 2.  Queries -/

/-- A query without the values that it has bound. -/
def Query.redacted (query : Query) : Query :=
  { query with parameters := query.parameters.redacted }

/-- A call on a query without the value to be bound. -/
def QueryCall.redacted : QueryCall → QueryCall
  | .«where» field first second =>
    .«where» field (redactedOperands first second).1 (redactedOperands first second).2
  | .orWhere field first second =>
    .orWhere field (redactedOperands first second).1 (redactedOperands first second).2
  | .whereIn field collection => .whereIn field collection.redactedCollection
  | call => call

namespace Query

variable (query : Query)

@[simp] theorem redacted_redacted : query.redacted.redacted = query.redacted := by
  rw [redacted, redacted, Entries.redacted_redacted]

/-- Settings hold no values, so they can be replaced before or after. -/
theorem redacted_settings (labels : List String) (sorting : Option Sorting)
    (limit : Option Nat) :
    Query.redacted
        { query.redacted with labels := labels, sorting := sorting, limit := limit } =
      Query.redacted { query with labels := labels, sorting := sorting, limit := limit } := by
  rw [redacted, redacted, redacted, Entries.redacted_redacted]

theorem redacted_append (field : String) (operator : Operator) (value : Value)
    (connective : Connective) :
    (query.append field operator value connective).redacted =
      query.redacted.append field operator .null connective := by
  rw [redacted, append, Entries.redacted_put]
  rfl

/-- A condition is added, or refused, whatever its value is. -/
theorem addCondition_redacted (field operator value : Value) (connective : Connective) :
    query.redacted.addCondition field operator .null connective =
      (query.addCondition field operator value connective).map redacted := by
  rw [addCondition, addCondition]
  cases identifier fieldRole field with
  | error fault => rfl
  | ok name =>
    cases Operator.read operator with
    | error fault => rfl
    | ok o => exact congrArg Except.ok (query.redacted_append name o value connective).symm

end Query

namespace QueryCall

/-- What a condition leaves of its query without the values. -/
theorem redactedResult_addCondition (query : Query) (field operator value : Value)
    (connective : Connective) :
    redactedResult Query.redacted (query.addCondition field operator value connective) =
      redactedResult id (query.redacted.addCondition field operator .null connective) := by
  rw [Query.addCondition_redacted query field operator value]
  cases query.addCondition field operator value connective <;> rfl

theorem addOperands_redacted (query : Query) (field first : Value) (second : Option Value)
    (connective : Connective) :
    redactedResult Query.redacted (query.redacted.addCondition field
        (splitOperands (redactedOperands first second).1 (redactedOperands first second).2).1
        (splitOperands (redactedOperands first second).1 (redactedOperands first second).2).2
        connective) =
      redactedResult Query.redacted (query.addCondition field (splitOperands first second).1
        (splitOperands first second).2 connective) := by
  rw [splitOperands_redactedOperands, redactedResult_addCondition, redactedResult_addCondition,
    Query.redacted_redacted]

theorem whereIn_redacted (query : Query) (field collection : Value) :
    redactedResult Query.redacted (query.redacted.whereIn field collection.redactedCollection) =
      redactedResult Query.redacted (query.whereIn field collection) := by
  have hcollection := readCollection_redactedCollection collection
  rw [Query.whereIn, Query.whereIn]
  cases hread : Query.readCollection collection with
  | error fault =>
    cases hredacted : Query.readCollection collection.redactedCollection with
    | error other =>
      rw [hread, hredacted] at hcollection
      exact congrArg Except.error (Except.error.inj hcollection)
    | ok members =>
      rw [hread, hredacted] at hcollection
      exact absurd hcollection (by simp [redactedResult])
  | ok members =>
    cases hredacted : Query.readCollection collection.redactedCollection with
    | error other =>
      rw [hread, hredacted] at hcollection
      exact absurd hcollection (by simp [redactedResult])
    | ok others =>
      change redactedResult _ (query.redacted.addCondition field _ (.list others) .and) =
        redactedResult _ (query.addCondition field _ (.list members) .and)
      rw [redactedResult_addCondition, redactedResult_addCondition, Query.redacted_redacted]

/-- **A call on a query succeeds or is refused whatever its value is**, and what it makes of the
query differs in that value only. -/
theorem perform_redacted (call : QueryCall) (query : Query) :
    redactedResult Query.redacted (call.redacted.perform query.redacted) =
      redactedResult Query.redacted (call.perform query) := by
  cases call with
  | label labels =>
    change redactedResult _ (query.redacted.withLabels labels) =
      redactedResult _ (query.withLabels labels)
    rw [Query.withLabels, Query.withLabels]
    cases identifiers labelRole labels with
    | error fault => rfl
    | ok names =>
      exact congrArg Except.ok (query.redacted_settings (distinct names) query.sorting query.limit)
  | «where» field first second =>
    exact addOperands_redacted query field first second .and
  | orWhere field first second =>
    exact addOperands_redacted query field first second .or
  | whereIn field collection => exact whereIn_redacted query field collection
  | orderBy field direction =>
    change redactedResult _ (query.redacted.orderBy field direction) =
      redactedResult _ (query.orderBy field direction)
    rw [Query.orderBy, Query.orderBy]
    cases identifier fieldRole field with
    | error fault => rfl
    | ok name =>
      cases SortDirection.read direction with
      | error fault => rfl
      | ok direction =>
        exact congrArg Except.ok
          (query.redacted_settings query.labels (some ⟨name, direction⟩) query.limit)
  | limit count =>
    change redactedResult _ (query.redacted.withLimit count) =
      redactedResult _ (query.withLimit count)
    rw [Query.withLimit, Query.withLimit]
    cases readLimit count with
    | error fault => rfl
    | ok n =>
      exact congrArg Except.ok (query.redacted_settings query.labels query.sorting (some n))

theorem observed_redacted (call : QueryCall) (query : Query) :
    Observation.ofResult (call.redacted.perform query.redacted) =
      Observation.ofResult (call.perform query) := by
  rw [← Observation.ofResult_redactedResult Query.redacted, perform_redacted,
    Observation.ofResult_redactedResult]

/-- The query after a call, without its values, is what the result shows without them. -/
theorem redacted_after (call : QueryCall) (query : Query) :
    (call.after query).redacted =
      (redactedResult Query.redacted (call.perform query)).toOption.getD query.redacted := by
  rw [after]
  cases call.perform query <;> rfl

theorem after_redacted (call : QueryCall) (query : Query) :
    (call.redacted.after query.redacted).redacted = (call.after query).redacted := by
  rw [redacted_after, redacted_after, perform_redacted, Query.redacted_redacted]

end QueryCall

namespace Query

variable (query : Query)

theorem rows_redacted (var : String) : query.redacted.rows var = query.rows var := rfl

theorem guardMutation_redacted (mutation : Mutation) :
    query.redacted.guardMutation mutation = query.guardMutation mutation := rfl

theorem selectStatement_redacted :
    query.redacted.selectStatement = query.selectStatement.map Statement.redacted := by
  rw [selectStatement, selectStatement, rows_redacted]
  cases query.rows variableName <;> rfl

theorem countStatement_redacted :
    query.redacted.countStatement = query.countStatement.map Statement.redacted := by
  rw [countStatement, countStatement, rows_redacted]
  cases query.rows variableName <;> rfl

theorem deleteStatement_redacted (detach : Bool) :
    query.redacted.deleteStatement detach =
      (query.deleteStatement detach).map Statement.redacted := by
  rw [deleteStatement, deleteStatement, rows_redacted, guardMutation_redacted]
  cases query.guardMutation .delete with
  | error fault => rfl
  | ok _ => cases query.rows variableName <;> rfl

/-- Which attributes an update accepts depends on their keys only. -/
theorem readChanges_redactedMap (attributes : Value) :
    readChanges attributes.redactedMap = (readChanges attributes).map Entries.redacted := by
  rw [Value.redactedMap]
  obtain ⟨entries, hentries⟩ | hnot := attributes.bare_eq_map_or
  · have hredacted := readChanges_of_map (attributes.bare_revalue (fun _ _ => .null) hentries)
    rw [← Entries.redacted, Entries.isEmpty_redacted, Entries.has_redacted] at hredacted
    rw [readChanges_of_map hentries]
    refine hredacted.trans ?_
    cases List.isEmpty entries with
    | true => rfl
    | false => cases Entries.has entries (.text identityKey) <;> rfl
  · obtain ⟨fault, -, hfault⟩ := readChanges_of_not_map hnot
    rw [Value.revalue_of_not_map _ hnot, hfault]
    rfl

/-- The assignments of an update bind the same names in the same order whatever their values. -/
theorem bindChanges_redacted (changes : Entries) :
    query.redacted.bindChanges changes.redacted =
      ((query.bindChanges changes).1.map Statement.redacted,
        (query.bindChanges changes).2.redacted) := by
  have hset : setClause variableName ⟨query.redacted.allocator, query.redacted.parameters⟩
      changes.redacted = _ :=
    setClause_redacted variableName ⟨query.allocator, query.parameters⟩ changes
  rw [bindChanges, bindChanges, hset, rows_redacted]
  obtain ⟨result, final⟩ := setClause variableName ⟨query.allocator, query.parameters⟩ changes
  cases result with
  | error fault => rfl
  | ok assignments =>
    refine Prod.ext ?_ rfl
    cases hrows : query.rows variableName with
    | error fault => rfl
    | ok rows => rfl

theorem updateStatement_redacted (attributes : Value) :
    query.redacted.updateStatement attributes.redactedMap =
      ((query.updateStatement attributes).1.map Statement.redacted,
        (query.updateStatement attributes).2.redacted) := by
  rw [updateStatement, updateStatement, guardMutation_redacted, readChanges_redactedMap]
  cases query.guardMutation .update with
  | error fault => rfl
  | ok _ =>
    cases readChanges attributes with
    | error fault => rfl
    | ok changes => exact query.bindChanges_redacted changes

end Query

/-! ## 3.  Traversals -/

/-- A traversal without the values that it has bound. -/
def Traversal.redacted (traversal : Traversal) : Traversal :=
  { traversal with parameters := traversal.parameters.redacted }

/-- A call on a traversal without the value to be bound. -/
def TraversalCall.redacted : TraversalCall → TraversalCall
  | .«where» part field first second =>
    .«where» part field (redactedOperands first second).1 (redactedOperands first second).2
  | call => call

/-- What a call on a traversal leaves, without the values. -/
def TraversalCall.redactedEnd (result : Except Fault Unit × Query × Traversal) :
    Except Fault Unit × Query × Traversal :=
  (result.1, result.2.1.redacted, result.2.2.redacted)

namespace Traversal

variable (source : Query) (traversal : Traversal)

@[simp] theorem redacted_redacted : traversal.redacted.redacted = traversal.redacted := by
  rw [redacted, redacted, Entries.redacted_redacted]

theorem redacted_bind (name : String) (value : Value) :
    (traversal.bind name value).redacted = traversal.redacted.bind name .null := by
  rw [redacted, bind, Entries.redacted_put]
  rfl

/-- A condition on a traversal binds under the same name, is added or refused, whatever its value
is. -/
theorem addCondition_redacted (part : PathPart) (field operator value : Value) :
    traversal.redacted.addCondition source.redacted part field operator .null =
      TraversalCall.redactedEnd (traversal.addCondition source part field operator value) := by
  rw [addCondition, addCondition]
  cases identifier fieldRole field with
  | error fault => rfl
  | ok name =>
    have hbound := traversal.redacted_bind source.allocator.fresh value
    cases Operator.read operator with
    | error fault => exact Prod.ext rfl (Prod.ext rfl hbound.symm)
    | ok o =>
      have happended := congrArg (·.append part name o source.allocator.fresh) hbound.symm
      exact Prod.ext rfl (Prod.ext rfl happended)

theorem allParameters_redacted :
    allParameters source.redacted traversal.redacted =
      (allParameters source traversal).redacted :=
  (Entries.redacted_merge source.parameters traversal.parameters).symm

theorem rows_redacted :
    rows source.redacted traversal.redacted = rows source traversal := rfl

theorem selectLimited_redacted (limit : Option String) :
    selectLimited source.redacted traversal.redacted limit =
      (selectLimited source traversal limit).map Statement.redacted := by
  unfold selectLimited
  rw [rows_redacted, allParameters_redacted]
  cases rows source traversal <;> rfl

theorem selectStatement_redacted (limit : Value) :
    selectStatement source.redacted traversal.redacted limit =
      (selectStatement source traversal limit).map Statement.redacted :=
  selectLimited_redacted source traversal _

theorem countStatement_redacted :
    countStatement source.redacted traversal.redacted =
      (countStatement source traversal).map Statement.redacted := by
  rw [countStatement, countStatement, rows_redacted, allParameters_redacted]
  cases rows source traversal <;> rfl

end Traversal

/-- **A call on a traversal succeeds or is refused whatever its value is**, and what it leaves
differs in that value only. -/
theorem TraversalCall.perform_redacted (call : TraversalCall) (source : Query)
    (traversal : Traversal) :
    call.redacted.perform source.redacted traversal.redacted =
      redactedEnd (call.perform source traversal) := by
  cases call with
  | label labels =>
    change perform source.redacted traversal.redacted (.label labels) = _
    rw [perform, perform, Traversal.withLabels, Traversal.withLabels]
    cases identifiers labelRole labels <;> rfl
  | «where» part field first second =>
    change traversal.redacted.addCondition source.redacted part field
      (splitOperands (redactedOperands first second).1 (redactedOperands first second).2).1
      (splitOperands (redactedOperands first second).1 (redactedOperands first second).2).2 = _
    rw [splitOperands_redactedOperands]
    exact traversal.addCondition_redacted source part field _ (splitOperands first second).2
  | limit count =>
    change perform source.redacted traversal.redacted (.limit count) = _
    rw [perform, perform, Traversal.withLimit, Traversal.withLimit]
    cases readLimit count <;> rfl

/-! ## 4.  A query and the traversals that were started from it -/

/-- A family without the values that its members have bound. -/
def Family.redacted (family : Family) : Family :=
  ⟨family.source.redacted, family.traversals.map Traversal.redacted⟩

theorem Family.redacted_congr {family other : Family}
    (hsource : family.source.redacted = other.source.redacted)
    (htraversals : family.traversals.map Traversal.redacted =
      other.traversals.map Traversal.redacted) : family.redacted = other.redacted := by
  rw [redacted, redacted, hsource, htraversals]

@[simp] theorem Traversal.map_redacted_redacted (traversals : List Traversal) :
    (traversals.map redacted).map redacted = traversals.map redacted := by
  rw [List.map_map]
  exact List.map_congr_left fun traversal _ => traversal.redacted_redacted

@[simp] theorem Family.redacted_redacted (family : Family) :
    family.redacted.redacted = family.redacted :=
  redacted_congr family.source.redacted_redacted (Traversal.map_redacted_redacted _)

/-- A call on a member of a family without the value to be bound. -/
def FamilyCall.redacted : FamilyCall → FamilyCall
  | .onSource call => .onSource call.redacted
  | .update attributes => .update attributes.redactedMap
  | .start direction relationshipType => .start direction relationshipType
  | .onTraversal index call => .onTraversal index call.redacted

/-- What is seen of a call on a family.  An update is seen as the statement that it compiles to. -/
def FamilyCall.observed (family : Family) : FamilyCall → Observation
  | .onSource call => .ofResult (call.perform family.source)
  | .update attributes => .ofStatement (family.source.updateStatement attributes).1
  | .start direction relationshipType => .ofResult (Traversal.start direction relationshipType)
  | .onTraversal index call =>
    match family.traversals[index]? with
    | none => .absent
    | some traversal => .ofResult (call.perform family.source traversal).1

namespace FamilyCall

theorem observed_redacted (call : FamilyCall) (family : Family) :
    call.redacted.observed family.redacted = call.observed family := by
  cases call with
  | onSource call => exact call.observed_redacted family.source
  | update attributes =>
    change Observation.ofStatement
      (family.source.redacted.updateStatement attributes.redactedMap).1 = _
    rw [Query.updateStatement_redacted]
    exact Observation.ofStatement_map_redacted _
  | start direction relationshipType => rfl
  | onTraversal index call =>
    change observed family.redacted (.onTraversal index call.redacted) = _
    have hfound : family.redacted.traversals[index]? =
        family.traversals[index]?.map Traversal.redacted := List.getElem?_map ..
    rw [observed, observed, hfound]
    cases family.traversals[index]? with
    | none => rfl
    | some traversal =>
      change Observation.ofResult
        (call.redacted.perform family.source.redacted traversal.redacted).1 = _
      rw [TraversalCall.perform_redacted]
      rfl

/-- **What a call makes of a family differs in its value only.** -/
theorem after_redacted (call : FamilyCall) (family : Family) :
    (call.redacted.after family.redacted).redacted = (call.after family).redacted := by
  cases call with
  | onSource call =>
    exact Family.redacted_congr (call.after_redacted family.source)
      (Traversal.map_redacted_redacted family.traversals)
  | update attributes =>
    have hupdate : (family.source.redacted.updateStatement attributes.redactedMap).2.redacted =
        (family.source.updateStatement attributes).2.redacted := by
      rw [Query.updateStatement_redacted, Query.redacted_redacted]
    exact Family.redacted_congr hupdate (Traversal.map_redacted_redacted family.traversals)
  | start direction relationshipType =>
    change (after family.redacted (.start direction relationshipType)).redacted = _
    rw [after, after]
    cases Traversal.start direction relationshipType with
    | error fault => exact family.redacted_redacted
    | ok traversal =>
      refine Family.redacted_congr family.source.redacted_redacted ?_
      change (family.traversals.map Traversal.redacted ++ [traversal]).map Traversal.redacted = _
      rw [List.map_append, List.map_append, Traversal.map_redacted_redacted]
  | onTraversal index call =>
    change (after family.redacted (.onTraversal index call.redacted)).redacted = _
    have hfound : family.redacted.traversals[index]? =
        family.traversals[index]?.map Traversal.redacted := List.getElem?_map ..
    rw [after, after, hfound]
    cases family.traversals[index]? with
    | none => exact family.redacted_redacted
    | some traversal =>
      have hperform := call.perform_redacted family.source traversal
      refine Family.redacted_congr ?_ ?_
      · change (call.redacted.perform family.source.redacted traversal.redacted).2.1.redacted = _
        rw [hperform]
        exact Query.redacted_redacted _
      · change ((family.traversals.map Traversal.redacted).set index
          (call.redacted.perform family.source.redacted traversal.redacted).2.2).map
            Traversal.redacted = _
        rw [hperform, List.map_set, Traversal.map_redacted_redacted, List.map_set]
        exact congrArg (List.set _ index) (Traversal.redacted_redacted _)

end FamilyCall

/-! ## 5.  What is compiled from a family -/

/-- A request without the values to be bound. -/
def Request.redacted : Request → Request
  | .update attributes => .update attributes.redactedMap
  | request => request

/-- The family after something was compiled from it: an update draws placeholders. -/
def Request.after (family : Family) : Request → Family
  | .update attributes => FamilyCall.after family (.update attributes)
  | _ => family

theorem Request.after_redacted (request : Request) (family : Family) :
    (request.redacted.after family.redacted).redacted = (request.after family).redacted := by
  cases request with
  | update attributes => exact FamilyCall.after_redacted (.update attributes) family
  | _ => exact family.redacted_redacted

/-- What is seen of the answer to a request. -/
def Request.observed (family : Family) (request : Request) : Observation :=
  match request.compile family with
  | none => .absent
  | some result => .ofStatement result

/-- **What is compiled does not depend on the values that are bound in it.** -/
theorem Request.observed_redacted (request : Request) (family : Family) :
    request.redacted.observed family.redacted = request.observed family := by
  have hcompile : request.redacted.compile family.redacted =
      (request.compile family).map (·.map Statement.redacted) := by
    cases request with
    | select => exact congrArg some family.source.selectStatement_redacted
    | count => exact congrArg some family.source.countStatement_redacted
    | delete detach => exact congrArg some (family.source.deleteStatement_redacted detach)
    | update attributes =>
      exact congrArg (some ∘ Prod.fst) (family.source.updateStatement_redacted attributes)
    | traversalSelect index limit =>
      change compile family.redacted (.traversalSelect index limit) = _
      rw [compile, compile, Family.redacted, List.getElem?_map, Option.map_map, Option.map_map]
      refine congrArg (Option.map · _) (funext fun traversal => ?_)
      exact traversal.selectStatement_redacted family.source (limit.elim .null .int)
    | traversalCount index =>
      change compile family.redacted (.traversalCount index) = _
      rw [compile, compile, Family.redacted, List.getElem?_map, Option.map_map, Option.map_map]
      refine congrArg (Option.map · _) (funext fun traversal => ?_)
      exact traversal.countStatement_redacted family.source
  rw [observed, observed, hcompile]
  cases request.compile family with
  | none => rfl
  | some result => exact Observation.ofStatement_map_redacted result

end GraphMapper
