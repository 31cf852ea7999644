import GraphMapper.Proofs.Builder.Call
import GraphMapper.Proofs.Placeholder.Binding
import GraphMapper.Query.Statements
import GraphMapper.Traversal.Basic
import Mathlib.Data.List.Forall2

/-!
# A query and its traversals

Traversals start from a query and share its allocator, but each of them keeps its own conditions
and its own values.  All of them can go on growing, in any order.  A *family* is a query with the
traversals that were started from it, and a history is a list of calls on any of its members.

## What a call can do to the others

A placeholder is drawn by four kinds of calls: a condition on the source, a condition on a
traversal, a refused condition on a traversal, and an update, which gives its placeholders to no
member at all.  All that they have in common is that what they bind is bound under a name that
was not drawn before.  So no binding of an earlier name changes anywhere, which is
`Family.Later`; it holds of every call without any assumption on the family, and of every history
because it is transitive.
-/

namespace GraphMapper

/-! ## 1.  Calls -/

/-- A call that builds a traversal. -/
inductive TraversalCall where
  | label (labels : List Value)
  | «where» (part : PathPart) (field first : Value) (second : Option Value)
  | limit (count : Value)

namespace TraversalCall

/-- Performs a call: the fault if it was refused, and the source and the traversal as they are
then. -/
def perform (source : Query) (traversal : Traversal) :
    TraversalCall → Except Fault Unit × Query × Traversal
  | .label labels =>
    match traversal.withLabels labels with
    | .ok changed => (.ok (), source, changed)
    | .error fault => (.error fault, source, traversal)
  | .«where» part field first second => traversal.whereOn source part field first second
  | .limit count =>
    match traversal.withLimit count with
    | .ok changed => (.ok (), source, changed)
    | .error fault => (.error fault, source, traversal)

/-- The condition that a call asks for, and the part that it is about. -/
def requirement? : TraversalCall → Option (Requirement × PathPart)
  | .«where» part field first second =>
    (Requirement.ofOperands? .and field first second).map (·, part)
  | _ => none

end TraversalCall

/-- A query and the traversals that were started from it. -/
structure Family where
  source : Query
  traversals : List Traversal := []

/-- A call on a member of a family, or one that starts a new member.  Compiling an update is a
call as well, since it draws placeholders. -/
inductive FamilyCall where
  | onSource (call : QueryCall)
  | update (attributes : Value)
  | start (direction relationshipType : Value)
  | onTraversal (index : Nat) (call : TraversalCall)

/-- The family after a call whose fault, if there is one, is caught. -/
def FamilyCall.after (family : Family) : FamilyCall → Family
  | .onSource call => { family with source := call.after family.source }
  | .update attributes => { family with source := (family.source.updateStatement attributes).2 }
  | .start direction relationshipType =>
    match Traversal.start direction relationshipType with
    | .ok traversal => { family with traversals := family.traversals ++ [traversal] }
    | .error _ => family
  | .onTraversal index call =>
    match family.traversals[index]? with
    | none => family
    | some traversal =>
      ⟨(call.perform family.source traversal).2.1,
        family.traversals.set index (call.perform family.source traversal).2.2⟩

/-- The family after a history of calls. -/
def Family.afterCalls (family : Family) (calls : List FamilyCall) : Family :=
  calls.foldl (fun family call => call.after family) family

/-! ## 2.  All that a call can do -/

/-- A new traversal has a direction and an accepted type, and nothing else. -/
theorem Traversal.start_eq_ok {direction relationshipType : Value} {traversal : Traversal}
    (h : Traversal.start direction relationshipType = .ok traversal) :
    ∃ checked name, identifier relationshipRole relationshipType = .ok name ∧
      traversal = { direction := checked, relationshipType := name } := by
  rw [start] at h
  obtain ⟨checked, -, h⟩ := exists_of_bind_eq_ok h
  obtain ⟨name, hname, h⟩ := exists_of_bind_eq_ok h
  exact ⟨checked, name, hname, (Except.ok.inj h).symm⟩

/-- A query whose allocator has moved on. -/
def Query.draw (source : Query) : Query :=
  { source with allocator := source.allocator.advance }

/-- All that a call on a traversal can do, with the condition that it asks for: change what is no
condition, bind a value that no condition mentions, or add a condition on a value that it
binds. -/
inductive TraversalCall.Effect (source : Query) (traversal : Traversal) :
    Option (Requirement × PathPart) → Query → Traversal → Prop
  | settings {labels : List String} {limit : Option Nat}
      (h : labels = traversal.targetLabels ∨ ∀ name ∈ labels, isIdentifier name = true) :
      Effect source traversal none source
        { traversal with targetLabels := labels, limit := limit }
  | bound (value : Value) :
      Effect source traversal none source.draw (traversal.bind source.allocator.fresh value)
  | required (requirement : Requirement) (part : PathPart)
      (hfield : isIdentifier requirement.field = true)
      (hconnective : requirement.connective = .and) :
      Effect source traversal (some (requirement, part)) source.draw
        ((traversal.bind source.allocator.fresh requirement.value).append part requirement.field
          requirement.operator source.allocator.fresh)

/-- A condition on a part of a traversal, refused or not. -/
theorem TraversalCall.effect_addCondition (source : Query) (traversal : Traversal)
    (part : PathPart) (field operator value : Value) :
    TraversalCall.Effect source traversal
      ((Requirement.ofOperands? .and field operator (some value)).map (·, part))
      (traversal.addCondition source part field operator value).2.1
      (traversal.addCondition source part field operator value).2.2 := by
  rw [Traversal.addCondition, Requirement.ofOperands?]
  cases hfield : identifier fieldRole field with
  | error fault => exact .settings (Or.inl rfl)
  | ok name =>
    cases Operator.read operator with
    | error fault => exact .bound value
    | ok o => exact .required ⟨name, o, value, .and⟩ part (isIdentifier_of_identifier hfield) rfl

/-- **All that a call on a traversal can do.** -/
theorem TraversalCall.effect_perform (call : TraversalCall) (source : Query)
    (traversal : Traversal) :
    TraversalCall.Effect source traversal call.requirement? (call.perform source traversal).2.1
      (call.perform source traversal).2.2 := by
  cases call with
  | label labels =>
    rw [perform, Traversal.withLabels]
    cases hnames : identifiers labelRole labels with
    | error fault => exact .settings (Or.inl rfl)
    | ok names => exact .settings (Or.inr (eq_map_text_of_identifiers hnames).2)
  | «where» part field first second =>
    rw [requirement?, ← Requirement.ofOperands?_splitOperands]
    exact effect_addCondition source traversal part field _ _
  | limit count =>
    rw [perform, Traversal.withLimit]
    cases readLimit count with
    | error fault => exact .settings (Or.inl rfl)
    | ok limit => exact .settings (Or.inl rfl)

namespace Query

/-- Attributes that are a map are accepted if there are any and the identity is none of them. -/
theorem readChanges_of_map {attributes : Value} {entries : Entries}
    (h : attributes.bare = .map entries) :
    readChanges attributes =
      if entries.isEmpty then .error .emptyUpdate
      else if entries.has (.text identityKey) then .error .identityInUpdate
      else .ok entries := by
  have hmentions : mentionsIdentity attributes = .ok (entries.has (.text identityKey)) := by
    rw [mentionsIdentity, h]
  rw [readChanges, ← Value.isTruthy_bare, hmentions, h, Value.isTruthy]
  cases entries.isEmpty with
  | true => rfl
  | false => cases entries.has (.text identityKey) <;> rfl

/-- The faults of attributes that no update accepts. -/
inductive ChangesFault : Fault → Prop
  | empty : ChangesFault .emptyUpdate
  | identity : ChangesFault .identityInUpdate
  | kind : ChangesFault .wrongKind
  | attribute : ChangesFault .noAttribute

/-- Looking for the identity in attributes finds an answer, or it cannot be looked for. -/
theorem mentionsIdentity_cases (attributes : Value) :
    (∃ mentions, mentionsIdentity attributes = .ok mentions) ∨
      mentionsIdentity attributes = .error .wrongKind := by
  unfold mentionsIdentity
  split
  · exact Or.inl ⟨_, rfl⟩
  · exact Or.inl ⟨_, rfl⟩
  · exact Or.inr rfl
  · split
    · exact Or.inl ⟨_, rfl⟩
    · exact Or.inr rfl

/-- Attributes that are no map are refused. -/
theorem readChanges_of_not_map {attributes : Value} (h : ∀ entries, attributes.bare ≠ .map entries) :
    ∃ fault, ChangesFault fault ∧ readChanges attributes = .error fault := by
  unfold readChanges
  cases attributes.isTruthy with
  | false => exact ⟨_, .empty, rfl⟩
  | true =>
    rcases mentionsIdentity_cases attributes with ⟨mentions, hmentions⟩ | hfault
    · rw [hmentions]
      cases mentions with
      | true => exact ⟨_, .identity, rfl⟩
      | false =>
        refine ⟨_, .attribute, ?_⟩
        split
        · next entries hbare => exact absurd hbare (h entries)
        · rfl
    · rw [hfault]
      exact ⟨_, .kind, rfl⟩

end Query

/-- Compiling an update leaves the source as it was, with an allocator that may have moved on. -/
theorem Query.updateStatement_snd (query : Query) (attributes : Value) :
    ∃ allocator, query.allocator.Le allocator ∧
      (query.updateStatement attributes).2 = { query with allocator := allocator } := by
  rw [updateStatement]
  cases query.guardMutation .update with
  | error fault => exact ⟨query.allocator, Allocator.Le.refl _, rfl⟩
  | ok _ =>
    cases readChanges attributes with
    | error fault => exact ⟨query.allocator, Allocator.Le.refl _, rfl⟩
    | ok changes => exact ⟨_, le_bindProperties ⟨query.allocator, query.parameters⟩ changes, rfl⟩

/-! ## 3.  Nothing that is bound changes -/

/-- Conditions and values at a later moment: the conditions are still there, and what is bound
under a name that was drawn before has not changed. -/
structure Extends {α : Type} (allocator : Allocator) (conditions later : List α)
    (parameters laterParameters : Entries) : Prop where
  conditions : conditions <+: later
  bound : ∀ name, allocator.Drawn name →
    laterParameters.get? (.text name) = parameters.get? (.text name)

namespace Extends

variable {α : Type} {a b : Allocator}

theorem refl (a : Allocator) (conditions : List α) (parameters : Entries) :
    Extends a conditions conditions parameters parameters :=
  ⟨List.prefix_rfl, fun _ _ => rfl⟩

theorem trans {first second third : List α} {p q r : Entries} (hab : a.Le b)
    (h : Extends a first second p q) (h' : Extends b second third q r) :
    Extends a first third p r :=
  ⟨h.conditions.trans h'.conditions, fun name hname =>
    (h'.bound name (hname.mono hab)).trans (h.bound name hname)⟩

/-- Writing under a fresh name, with or without more conditions. -/
theorem put (a : Allocator) (conditions more : List α) (parameters : Entries) (value : Value) :
    Extends a conditions (conditions ++ more) parameters
      (parameters.put (.text a.fresh) value) := by
  refine ⟨List.prefix_append _ _, fun name hname => ?_⟩
  rw [Entries.get?_put_text, if_neg (Ne.symm hname.ne_fresh)]

end Extends

/-- A query at a later moment. -/
structure Query.Later (query later : Query) : Prop where
  allocator : query.allocator.Le later.allocator
  held : Extends query.allocator query.conditions later.conditions query.parameters
    later.parameters

namespace Query.Later

theorem refl (query : Query) : query.Later query :=
  ⟨Allocator.Le.refl _, Extends.refl ..⟩

theorem trans {query later latest : Query} (h : query.Later later) (h' : later.Later latest) :
    query.Later latest :=
  ⟨h.allocator.trans h'.allocator, Extends.trans h.allocator h.held h'.held⟩

/-- Only the allocator has moved on. -/
theorem of_le (query : Query) {allocator : Allocator} (h : query.allocator.Le allocator) :
    query.Later { query with allocator := allocator } :=
  ⟨h, Extends.refl ..⟩

theorem draw (query : Query) : query.Later query.draw :=
  of_le query query.allocator.le_advance

theorem after (call : QueryCall) (query : Query) : query.Later (call.after query) := by
  rw [QueryCall.after_eq, QueryCall.granted]
  cases call.requirement? with
  | none => exact ⟨Allocator.Le.refl _, Extends.refl ..⟩
  | some requirement => exact ⟨query.allocator.le_advance, Extends.put ..⟩

end Query.Later

/-- A family at a later moment: nothing was rebound, neither in the source nor in a traversal. -/
structure Family.Later (family later : Family) : Prop where
  source : family.source.Later later.source
  traversals : ∀ (index : ℕ) (traversal : Traversal), family.traversals[index]? = some traversal →
    ∃ changed : Traversal, later.traversals[index]? = some changed ∧
      Extends family.source.allocator traversal.conditions changed.conditions
        traversal.parameters changed.parameters

namespace Family.Later

/-- Only the source has changed. -/
theorem of_source {family : Family} {source : Query} (h : family.source.Later source) :
    family.Later { family with source := source } :=
  ⟨h, fun _ traversal htraversal => ⟨traversal, htraversal, Extends.refl ..⟩⟩

theorem refl (family : Family) : family.Later family := of_source (Query.Later.refl _)

theorem trans {family later latest : Family} (h : family.Later later)
    (h' : later.Later latest) : family.Later latest := by
  refine ⟨h.source.trans h'.source, fun index traversal htraversal => ?_⟩
  obtain ⟨second, hsecond, hheld⟩ := h.traversals index traversal htraversal
  obtain ⟨third, hthird, hheld'⟩ := h'.traversals index second hsecond
  exact ⟨third, hthird, Extends.trans h.source.allocator hheld hheld'⟩

end Family.Later

/-- A call on a traversal moves the source on and rebinds nothing in the traversal. -/
theorem TraversalCall.Effect.later {source changedSource : Query}
    {traversal changed : Traversal} {asked : Option (Requirement × PathPart)}
    (h : TraversalCall.Effect source traversal asked changedSource changed) :
    source.Later changedSource ∧ Extends source.allocator traversal.conditions
      changed.conditions traversal.parameters changed.parameters := by
  cases h with
  | settings h => exact ⟨Query.Later.refl _, Extends.refl ..⟩
  | bound value =>
    refine ⟨Query.Later.draw _, ?_⟩
    have h := Extends.put source.allocator traversal.conditions [] traversal.parameters value
    rwa [List.append_nil] at h
  | required requirement part hfield hconnective =>
    exact ⟨Query.Later.draw _, Extends.put ..⟩

/-- **No call rebinds anything**, whoever it is made on and whether or not it is refused. -/
theorem FamilyCall.later_after (family : Family) (call : FamilyCall) :
    family.Later (call.after family) := by
  cases call with
  | onSource call => exact Family.Later.of_source (Query.Later.after call _)
  | update attributes =>
    obtain ⟨allocator, hle, hquery⟩ := family.source.updateStatement_snd attributes
    rw [after, hquery]
    exact Family.Later.of_source (Query.Later.of_le _ hle)
  | start direction relationshipType =>
    rw [after]
    cases Traversal.start direction relationshipType with
    | error fault => exact Family.Later.refl family
    | ok traversal =>
      refine ⟨Query.Later.refl _, fun index other hother => ⟨other, ?_, Extends.refl ..⟩⟩
      have hlt : index < family.traversals.length := (List.getElem?_eq_some_iff.mp hother).1
      rw [List.getElem?_append_left hlt]
      exact hother
  | onTraversal index call =>
    rw [after]
    cases htraversal : family.traversals[index]? with
    | none => exact Family.Later.refl family
    | some traversal =>
      have hlater := (call.effect_perform family.source traversal).later
      refine ⟨hlater.1, fun other found hfound => ?_⟩
      rw [List.getElem?_set]
      by_cases hindex : index = other
      · rw [← hindex, htraversal, Option.some.injEq] at hfound
        have hlt : index < family.traversals.length :=
          (List.getElem?_eq_some_iff.mp htraversal).1
        rw [if_pos hindex, if_pos hlt, ← hfound]
        exact ⟨_, rfl, hlater.2⟩
      · rw [if_neg hindex]
        exact ⟨found, hfound, Extends.refl ..⟩

/-- **No history rebinds anything.** -/
theorem Family.later_afterCalls (family : Family) (calls : List FamilyCall) :
    family.Later (family.afterCalls calls) := by
  induction calls generalizing family with
  | nil => exact Family.Later.refl family
  | cons call calls ih => exact (call.later_after family).trans (ih (call.after family))

end GraphMapper
