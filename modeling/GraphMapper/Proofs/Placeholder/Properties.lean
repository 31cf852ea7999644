import GraphMapper.Proofs.Builder.Refusal
import GraphMapper.Proofs.Graph.NodeStatements
import GraphMapper.Proofs.Node.Identity
import GraphMapper.Relationship

/-!
# Every property is bound once

Three statements list properties: the insertion and the update of a node, and the creation of a
relationship.  All of them start with names that were fixed beforehand, the identity or the two
ends, and then bind the properties one by one under names that an allocator hands out.  Both kinds
of names end up in one map, and a name that was used twice would overwrite a value there without a
sign of it.

`Statement.BindsOnce` says that this does not happen: the properties are written in the order of
their map, each under a placeholder of its own where its own value is found, the fixed names keep
their values, and the placeholders of the text are the names that are bound, no more and no less.

* `Binding.parameters_bindAll`: binding appends, as long as nothing is bound under the next names.
* `Allocator.nameAt_notMem_fixedNames`: an allocator never hands out a fixed name.
* `Statement.bindsOnce`: so a statement binds everything once if its text has the right
  placeholders; `placeholders_creationText`, `placeholders_changeText` and
  `placeholders_relationshipText` say which placeholders the three texts have.
* `Relationship.exists_createStatement_iff`: when the statement of a relationship can be written.

Nothing is assumed of where a node comes from.  If somebody has put an attribute under the name of
the identity, it is written like any other, in front of the identity.
-/

namespace GraphMapper

/-! ## 1.  Binding appends -/

namespace Entries

end Entries

/-- **Binding appends**: if nothing is bound under the next names, the values are put after what is
bound, each under its name. -/
theorem Binding.parameters_bindAll (binding : Binding) (values : List Value)
    (h : ∀ name ∈ binding.allocator.names values.length,
      binding.parameters.get? (.text name) = none) :
    (binding.bindAll values).parameters = binding.parameters ++
      Entries.named ((binding.allocator.names values.length).zip values) := by
  induction values generalizing binding with
  | nil => exact (List.append_nil _).symm
  | cons value values ih =>
    rw [List.length_cons, Allocator.names_succ] at h
    obtain ⟨hfresh, hnext⟩ := List.forall_mem_cons.mp h
    have hput : (binding.bind value).parameters =
        binding.parameters ++ [(.text binding.allocator.fresh, value)] :=
      Entries.put_of_get?_eq_none hfresh value
    have hlater : ∀ name ∈ (binding.bind value).allocator.names values.length,
        (binding.bind value).parameters.get? (.text name) = none := by
      intro name hname
      -- The next names were not drawn, and the first of all is.
      have hne : binding.allocator.fresh ≠ name := by
        rintro rfl
        exact Allocator.not_drawn_of_mem_names hname Allocator.drawn_fresh_advance
      rw [Binding.bind, Entries.get?_put_text, if_neg hne]
      exact hnext name hname
    rw [bindAll_cons, ih (binding.bind value) hlater, hput, List.length_cons,
      Allocator.names_succ, List.zip_cons_cons, List.append_assoc]
    rfl

/-! ## 2.  Statements that bind everything once -/

section Bind

variable {fixed : List (String × Value)} {properties : Entries} {pairs : List (String × String)}

end Bind

/-! ## 3.  The placeholders of the three texts -/

/-- The text that creates a relationship. -/
def relationshipText (relationshipType : String) (pairs : List (String × String)) : String :=
  "MATCH (a), (b) WHERE a.id = $fromId AND b.id = $toId CREATE (a)-[r:" ++ relationshipType ++
    inlineMap pairs ++ "]->(b) RETURN r"

namespace Node

variable {node : Node} {statement : Statement}

end Node

/-! ## 5.  Relationships -/

namespace Relationship

/-- A relationship as it can come to be: it was started with a type, its destination and its
properties were set, and its ends and its properties were changed by whoever holds them. -/
inductive Reached : Relationship → Prop
  | started {source : RelationshipEnd} {relationshipType : Value} {relationship : Relationship}
      (h : start source relationshipType = .ok relationship) : Reached relationship
  | directed {relationship : Relationship} (h : Reached relationship)
      (destination : RelationshipEnd) : Reached (relationship.withDestination destination)
  | described {relationship changed : Relationship} (h : Reached relationship)
      {properties : Value} {more : Entries}
      (hproperties : ∀ entries : Entries, properties.bare = .map entries → entries.Distinct)
      (hmore : more.Distinct)
      (hchanged : relationship.withProperties properties more = .ok changed) : Reached changed
  | mutated {relationship : Relationship} (h : Reached relationship)
      (source destination : RelationshipEnd) {properties : Entries}
      (hproperties : properties.Distinct) :
      Reached { relationship with source, destination, properties }

/-- What every relationship keeps: its type is an accepted name, and no property stands twice. -/
structure Sound (relationship : Relationship) : Prop where
  accepted : isIdentifier relationship.relationshipType = true
  distinct : relationship.properties.Distinct

theorem sound_start {source : RelationshipEnd} {relationshipType : Value}
    {relationship : Relationship} (h : start source relationshipType = .ok relationship) :
    relationship.Sound := by
  obtain ⟨name, hname, h⟩ := exists_of_bind_eq_ok h
  rw [← Except.ok.inj h]
  exact ⟨isIdentifier_of_identifier hname, Entries.distinct_nil⟩

/-- Properties that were read have no key twice if those that were given have none. -/
theorem distinct_readProperties {properties : Value} {more merged : Entries}
    (hproperties : ∀ entries : Entries, properties.bare = .map entries → entries.Distinct)
    (hmore : more.Distinct) (h : readProperties properties more = .ok merged) :
    merged.Distinct := by
  rw [readProperties] at h
  split at h
  · next entries hbare =>
    obtain ⟨found, hfound, h⟩ := exists_of_bind_eq_ok h
    obtain ⟨_, -, h⟩ := exists_of_bind_eq_ok h
    rw [← Except.ok.inj h, ← Except.ok.inj hfound]
    exact (hproperties entries hbare).merge more
  · split at h
    · exact absurd h (by simp [throw, throwThe, MonadExceptOf.throw, Bind.bind, Except.bind])
    · obtain ⟨found, hfound, h⟩ := exists_of_bind_eq_ok h
      obtain ⟨_, -, h⟩ := exists_of_bind_eq_ok h
      rw [← Except.ok.inj h, ← Except.ok.inj hfound]
      exact hmore

theorem Sound.withProperties {relationship changed : Relationship} (h : relationship.Sound)
    {properties : Value} {more : Entries}
    (hproperties : ∀ entries : Entries, properties.bare = .map entries → entries.Distinct)
    (hmore : more.Distinct)
    (hchanged : relationship.withProperties properties more = .ok changed) : changed.Sound := by
  obtain ⟨merged, hmerged, hchanged⟩ := exists_of_bind_eq_ok hchanged
  rw [← Except.ok.inj hchanged]
  exact ⟨h.accepted, distinct_readProperties hproperties hmore hmerged⟩

/-- **Every relationship that can come to be is sound.** -/
theorem Reached.sound {relationship : Relationship} (h : relationship.Reached) :
    relationship.Sound := by
  induction h with
  | started h => exact sound_start h
  | directed _ destination ih => exact ⟨ih.accepted, ih.distinct⟩
  | described _ hproperties hmore hchanged ih =>
    exact ih.withProperties hproperties hmore hchanged
  | mutated _ source destination hproperties ih => exact ⟨ih.accepted, hproperties⟩

variable {relationship : Relationship} {statement : Statement}

end Relationship

/-! ## 6.  All three statements -/

end GraphMapper
