import GraphMapper.Proofs.Builder.Family
import GraphMapper.Proofs.Entries
import Mathlib.Data.List.Forall2

/-!
# What a family holds

A `Journal` records the conditions that were asked for, by whom and in which order, from the
arguments of the calls alone.  `Family.Keeps` says that a family holds what its journal says:
the conditions are those of the journal, their placeholders are different from each other, and
under each of them the value of its own condition is found.

## Why the values stay apart

A source and a traversal are compiled into one statement, and there the values of the traversal
are written over those of the source.  That no value of the source is lost needs more than that
each of them keeps its own: no name may be bound in both.  This is `Traversal.Keeps.apart`, and
it survives a call on the source because all names in a traversal were drawn from the source's
allocator, so that the next name is in no traversal.
-/

namespace GraphMapper

/-! ## 1.  Conditions that hold what was asked for -/

/-- A condition on a pattern variable is what became of a requirement. -/
structure Requirement.Met (parameters : Entries) (condition : Condition × String)
    (requirement : Requirement × String) : Prop where
  written : condition = (requirement.1.toCondition condition.1.parameter, requirement.2)
  value : parameters.get? (.text condition.1.parameter) = some requirement.1.value
  field : isIdentifier requirement.1.field = true

/-- Conditions and parameters hold requirements: one condition for each of them, all under
different names, which were drawn from the allocator as every name in the parameters was. -/
structure Holds (allocator : Allocator) (parameters : Entries)
    (conditions : List (Condition × String)) (requirements : List (Requirement × String)) :
    Prop where
  met : List.Forall₂ (Requirement.Met parameters) conditions requirements
  nodup : (conditions.map (·.1.parameter)).Nodup
  drawn : ∀ e ∈ parameters, ∃ name, e.1 = .text name ∧ allocator.Drawn name
  distinct : parameters.Distinct

namespace Holds

variable {allocator later : Allocator} {parameters : Entries}
  {conditions : List (Condition × String)} {requirements : List (Requirement × String)}

theorem nil (allocator : Allocator) : Holds allocator [] [] [] :=
  ⟨.nil, List.nodup_nil, fun _ h => absurd h List.not_mem_nil, Entries.distinct_nil⟩

theorem mono (h : Holds allocator parameters conditions requirements)
    (hle : allocator.Le later) : Holds later parameters conditions requirements := by
  refine ⟨h.met, h.nodup, fun e he => ?_, h.distinct⟩
  obtain ⟨name, hname, hdrawn⟩ := h.drawn e he
  exact ⟨name, hname, hdrawn.mono hle⟩

/-- Nothing is bound under a name that was not drawn. -/
theorem get?_eq_none (h : Holds allocator parameters conditions requirements) {name : String}
    (hname : ¬ allocator.Drawn name) : parameters.get? (.text name) = none := by
  rw [Entries.get?_eq_none_iff]
  intro e he
  obtain ⟨other, hkey, hdrawn⟩ := h.drawn e he
  rw [hkey, Key.same_text, beq_eq_false_iff_ne]
  rintro rfl
  exact hname hdrawn

/-- What the conditions and the requirements have in common, they have in common one by one. -/
theorem map_eq_map {β : Type} {f : Condition × String → β} {g : Requirement × String → β}
    (h : Holds allocator parameters conditions requirements)
    (hfg : ∀ condition requirement, Requirement.Met parameters condition requirement →
      f condition = g requirement) :
    conditions.map f = requirements.map g := by
  have heq : List.Forall₂ (· = ·) (conditions.map f) (requirements.map g) :=
    List.forall₂_map_left_iff.mpr (List.forall₂_map_right_iff.mpr (h.met.imp hfg))
  rwa [List.forall₂_eq_eq_eq] at heq

/-- Under the placeholders of the conditions the values of the requirements are found. -/
theorem map_get? (h : Holds allocator parameters conditions requirements) :
    conditions.map (fun condition => parameters.get? (.text condition.1.parameter)) =
      requirements.map (fun requirement => some requirement.1.value) :=
  h.map_eq_map fun _ _ hmet => hmet.value

/-- The placeholder of a condition was drawn. -/
theorem drawn_of_mem (h : Holds allocator parameters conditions requirements)
    {condition : Condition × String} (hmem : condition ∈ conditions) :
    allocator.Drawn condition.1.parameter := by
  by_contra hnot
  have hvalue := List.mem_map_of_mem
    (f := fun condition : Condition × String => parameters.get? (.text condition.1.parameter)) hmem
  rw [h.map_get?, h.get?_eq_none hnot, List.mem_map] at hvalue
  obtain ⟨requirement, -, hsome⟩ := hvalue
  exact absurd hsome (by simp)

/-- The fields of the conditions were accepted. -/
theorem isIdentifier_field (h : Holds allocator parameters conditions requirements)
    {condition : Condition × String} (hmem : condition ∈ conditions) :
    isIdentifier condition.1.field = true := by
  have hfields : conditions.map (fun condition => isIdentifier condition.1.field) =
      requirements.map (fun _ => true) :=
    h.map_eq_map fun condition requirement hmet => by
      rw [hmet.written]
      exact hmet.field
  have hfield := List.mem_map_of_mem
    (f := fun condition : Condition × String => isIdentifier condition.1.field) hmem
  rw [hfields, List.mem_map] at hfield
  obtain ⟨-, -, htrue⟩ := hfield
  exact htrue.symm

/-- A value that is bound under the next name disturbs nothing. -/
theorem bind (h : Holds allocator parameters conditions requirements) (value : Value) :
    Holds allocator.advance (parameters.put (.text allocator.fresh) value) conditions
      requirements := by
  have hlater := Extends.put allocator conditions [] parameters value
  refine ⟨?_, h.nodup, fun e he => ?_, h.distinct.put _ _⟩
  · have hdrawn : ∀ condition ∈ conditions, allocator.Drawn condition.1.parameter :=
      fun _ hmem => h.drawn_of_mem hmem
    refine ((List.forall₂_and_left _ _).mpr ⟨hdrawn, h.met⟩).imp ?_
    rintro condition requirement ⟨hname, hmet⟩
    exact ⟨hmet.written, (hlater.bound _ hname).trans hmet.value, hmet.field⟩
  · rcases Entries.mem_put he with hkey | ⟨f, hf, hkey⟩
    · exact ⟨allocator.fresh, hkey, Allocator.drawn_fresh_advance⟩
    · obtain ⟨name, hname, hdrawn⟩ := h.drawn f hf
      exact ⟨name, hkey.symm.trans hname, hdrawn.mono allocator.le_advance⟩

/-- **A condition on the next name**, under which its value is bound. -/
theorem require (h : Holds allocator parameters conditions requirements)
    {requirement : Requirement} (hfield : isIdentifier requirement.field = true) (var : String) :
    Holds allocator.advance (parameters.put (.text allocator.fresh) requirement.value)
      (conditions ++ [(requirement.toCondition allocator.fresh, var)])
      (requirements ++ [(requirement, var)]) := by
  have hbound := h.bind requirement.value
  refine ⟨List.rel_append hbound.met (.cons ⟨rfl, ?_, hfield⟩ .nil), ?_, hbound.drawn,
    hbound.distinct⟩
  · exact Entries.get?_put_self ..
  · rw [List.map_append, List.nodup_append]
    refine ⟨h.nodup, List.pairwise_singleton _ _, ?_⟩
    intro name hname other hother
    obtain ⟨condition, hmem, rfl⟩ := List.mem_map.mp hname
    rw [List.map_singleton, List.mem_singleton] at hother
    rw [hother]
    exact (h.drawn_of_mem hmem).ne_fresh

end Holds

/-! ## 2.  Queries and traversals -/

/-- A query holds requirements.  Its conditions are written on different variables, so this is
said of every variable. -/
structure Query.Keeps (query : Query) (requirements : List Requirement) : Prop where
  stem : ∀ c ∈ query.allocator.stem.toList, isNameChar c = true
  labels : ∀ name ∈ query.labels, isIdentifier name = true
  sorting : ∀ sorting ∈ query.sorting, isIdentifier sorting.field = true
  held : ∀ var, Holds query.allocator query.parameters (query.conditions.map (·, var))
    (requirements.map (·, var))

namespace Query.Keeps

variable {query : Query} {requirements : List Requirement}

theorem draw (h : query.Keeps requirements) {allocator : Allocator}
    (hle : query.allocator.Le allocator) :
    Query.Keeps { query with allocator := allocator } requirements := by
  refine ⟨?_, h.labels, h.sorting, fun var => (h.held var).mono hle⟩
  rw [← hle.1]
  exact h.stem

/-- A call on a traversal takes nothing from what its source holds. -/
theorem of_effect (h : query.Keeps requirements) {later : Query} {traversal changed : Traversal}
    {added : Option (Requirement × PathPart)}
    (heffect : TraversalCall.Effect query traversal added later changed) :
    later.Keeps requirements := by
  cases heffect with
  | settings => exact h
  | bound => exact h.draw query.allocator.le_advance
  | required => exact h.draw query.allocator.le_advance

/-- A new query holds nothing. -/
theorem ofLabels {given : List Value} (h : Query.ofLabels given = .ok query) :
    query.Keeps [] := by
  obtain ⟨names, hnames, rfl⟩ := Query.ofLabels_eq_ok h
  refine ⟨Allocator.isNameChar_of_mem_stem, fun name hname => ?_,
    fun _ h => absurd h (by simp), fun var => .nil _⟩
  exact (eq_map_text_of_identifiers hnames).2 name (mem_distinct.mp hname)

/-- A condition with an accepted field is held once it is added. -/
theorem require (h : query.Keeps requirements) {requirement : Requirement}
    (hfield : isIdentifier requirement.field = true) :
    (query.require requirement).Keeps (requirements ++ [requirement]) := by
  refine ⟨h.stem, h.labels, h.sorting, fun var => ?_⟩
  rw [List.map_append, List.map_singleton]
  change Holds query.allocator.advance _
    ((query.conditions ++ [requirement.toCondition query.allocator.fresh]).map (·, var)) _
  rw [List.map_append, List.map_singleton]
  exact (h.held var).require hfield var

/-- A call adds what it asks for to what a query holds. -/
theorem after (h : query.Keeps requirements) (call : QueryCall) :
    (call.after query).Keeps (requirements ++ call.requirement?.toList) := by
  have hlabels : ∀ name ∈ (call.labels?.map distinct).getD query.labels,
      isIdentifier name = true := by
    intro name hname
    cases hasked : call.labels? with
    | none =>
      rw [hasked] at hname
      exact h.labels name hname
    | some names =>
      rw [hasked] at hname
      exact QueryCall.isIdentifier_of_labels? hasked name (mem_distinct.mp hname)
  have hsorting : ∀ sorting ∈ call.sorting?.or query.sorting,
      isIdentifier sorting.field = true := by
    intro sorting hmem
    cases hasked : call.sorting? with
    | none =>
      rw [hasked] at hmem
      exact h.sorting sorting hmem
    | some asked =>
      rw [hasked, Option.some_or, Option.mem_some_iff] at hmem
      rw [← hmem]
      exact QueryCall.isIdentifier_of_sorting? hasked
  rw [QueryCall.after_eq, QueryCall.granted]
  cases hasked : call.requirement? with
  | none =>
    rw [Option.toList_none, List.append_nil]
    exact ⟨h.stem, hlabels, hsorting, h.held⟩
  | some requirement =>
    have hrequired := h.require (QueryCall.isIdentifier_of_requirement? hasked)
    exact ⟨h.stem, hlabels, hsorting, hrequired.held⟩

end Query.Keeps

/-- A traversal holds requirements, each on a part, and shares no name with its source. -/
structure Traversal.Keeps (source : Query) (traversal : Traversal)
    (requirements : List (Requirement × PathPart)) : Prop where
  relationshipType : isIdentifier traversal.relationshipType = true
  targetLabels : ∀ name ∈ traversal.targetLabels, isIdentifier name = true
  held : Holds source.allocator traversal.parameters
    (traversal.conditions.map fun c => (c.1, c.2.var)) (requirements.map fun r => (r.1, r.2.var))
  apart : ∀ name, source.parameters.get? (.text name) = none ∨
    traversal.parameters.get? (.text name) = none

namespace Traversal.Keeps

variable {source later : Query} {traversal changed : Traversal}
  {requirements : List (Requirement × PathPart)}

/-- What a traversal holds it still holds when its source has moved on. -/
theorem of_later (h : traversal.Keeps source requirements) (hlater : source.Later later) :
    traversal.Keeps later requirements := by
  refine ⟨h.relationshipType, h.targetLabels, h.held.mono hlater.allocator, fun name => ?_⟩
  by_cases hname : source.allocator.Drawn name
  · rw [hlater.held.bound name hname]
    exact h.apart name
  · exact Or.inr (h.held.get?_eq_none hname)

/-- A new traversal holds nothing. -/
theorem start {direction relationshipType : Value}
    (h : Traversal.start direction relationshipType = .ok traversal) (source : Query) :
    traversal.Keeps source [] := by
  obtain ⟨checked, name, hname, rfl⟩ := Traversal.start_eq_ok h
  exact ⟨isIdentifier_of_identifier hname, fun _ h => absurd h List.not_mem_nil, .nil _,
    fun _ => Or.inr rfl⟩

/-- Binding under the source's next name keeps the two apart. -/
theorem apart_put {asked : List Requirement} (hsource : source.Keeps asked)
    (h : traversal.Keeps source requirements) (value : Value) (name : String) :
    source.parameters.get? (.text name) = none ∨
      (traversal.parameters.put (.text source.allocator.fresh) value).get? (.text name) =
        none := by
  rw [Entries.get?_put_text]
  by_cases hname : source.allocator.fresh = name
  · rw [← hname]
    exact Or.inl ((hsource.held "").get?_eq_none Allocator.not_drawn_fresh)
  · rw [if_neg hname]
    exact h.apart name

/-- A call adds what it asks for to what a traversal holds. -/
theorem after {asked : List Requirement} (hsource : source.Keeps asked)
    (h : traversal.Keeps source requirements) {added : Option (Requirement × PathPart)}
    (heffect : TraversalCall.Effect source traversal added later changed) :
    changed.Keeps later (requirements ++ added.toList) := by
  cases heffect with
  | @settings labels limit hlabels =>
    rw [Option.toList_none, List.append_nil]
    refine ⟨h.relationshipType, ?_, h.held, h.apart⟩
    rcases hlabels with rfl | hlabels
    · exact h.targetLabels
    · exact hlabels
  | bound value =>
    rw [Option.toList_none, List.append_nil]
    exact ⟨h.relationshipType, h.targetLabels, h.held.bind value, apart_put hsource h value⟩
  | required requirement part hfield hconnective =>
    refine ⟨h.relationshipType, h.targetLabels, ?_, apart_put hsource h requirement.value⟩
    have hheld := h.held.require hfield part.var
    rw [Option.toList_some, List.map_append, List.map_singleton]
    rw [Requirement.toCondition, hconnective] at hheld
    have hconditions (c : Condition) :
        (traversal.conditions ++ [(c, part)]).map (fun c => (c.1, c.2.var)) =
          traversal.conditions.map (fun c => (c.1, c.2.var)) ++ [(c, part.var)] := by
      rw [List.map_append, List.map_singleton]
    rw [← hconditions] at hheld
    exact hheld

end Traversal.Keeps

/-! ## 3.  Families -/

/-- What was asked for: of the source, and of each traversal in the order in which they were
started. -/
structure Journal where
  source : List Requirement := []
  traversals : List (List (Requirement × PathPart)) := []

/-- The journal after a call.  Whether a call asks for a condition can be told from its arguments,
and so can whether a new traversal is started. -/
def FamilyCall.note (journal : Journal) : FamilyCall → Journal
  | .onSource call => { journal with source := journal.source ++ call.requirement?.toList }
  | .update _ => journal
  | .start direction relationshipType =>
    if (Traversal.start direction relationshipType).isOk then
      { journal with traversals := journal.traversals ++ [[]] }
    else journal
  | .onTraversal index call =>
    { journal with
      traversals := journal.traversals.modify index (· ++ call.requirement?.toList) }

/-- The journal of a history of calls. -/
def Journal.ofCalls (calls : List FamilyCall) : Journal :=
  calls.foldl (fun journal call => call.note journal) {}

/-- A family holds what a journal says. -/
structure Family.Keeps (family : Family) (journal : Journal) : Prop where
  source : family.source.Keeps journal.source
  length : family.traversals.length = journal.traversals.length
  traversals : ∀ (index : ℕ) (traversal : Traversal), family.traversals[index]? = some traversal →
    ∃ requirements, journal.traversals[index]? = some requirements ∧
      traversal.Keeps family.source requirements

namespace Family.Keeps

variable {family : Family} {journal : Journal}

/-- The source has moved on and holds more, and the traversals are what they were. -/
theorem of_source (h : family.Keeps journal) {source : Query} {requirements : List Requirement}
    (hlater : family.source.Later source) (hsource : source.Keeps requirements) :
    Family.Keeps { family with source := source } { journal with source := requirements } := by
  refine ⟨hsource, h.length, fun index traversal htraversal => ?_⟩
  obtain ⟨held, hheld, hkeeps⟩ := h.traversals index traversal htraversal
  exact ⟨held, hheld, hkeeps.of_later hlater⟩

/-- One traversal has changed, and the source may have moved on with it. -/
theorem set (h : family.Keeps journal) {source : Query} {index : ℕ} {changed : Traversal}
    {added : List (Requirement × PathPart)} (hlater : family.source.Later source)
    (hsource : source.Keeps journal.source)
    (hchanged : ∀ held, journal.traversals[index]? = some held →
      changed.Keeps source (held ++ added)) :
    Family.Keeps ⟨source, family.traversals.set index changed⟩
      { journal with traversals := journal.traversals.modify index (· ++ added) } := by
  refine ⟨hsource, ?_, fun other traversal htraversal => ?_⟩
  · rw [List.length_set, List.length_modify, h.length]
  · rw [List.getElem?_set] at htraversal
    rw [List.getElem?_modify]
    by_cases hindex : index = other
    · rw [if_pos hindex] at htraversal
      have hlt : index < family.traversals.length := by
        by_contra hge
        rw [if_neg hge] at htraversal
        exact absurd htraversal (by simp)
      rw [if_pos hlt, Option.some.injEq] at htraversal
      obtain ⟨held, hheld⟩ : ∃ held, journal.traversals[index]? = some held :=
        ⟨_, List.getElem?_eq_getElem (h.length ▸ hlt)⟩
      rw [← hindex, hheld, ← htraversal]
      exact ⟨held ++ added, by simp, hchanged held hheld⟩
    · rw [if_neg hindex] at htraversal
      obtain ⟨held, hheld, hkeeps⟩ := h.traversals other traversal htraversal
      exact ⟨held, by simp [hheld, hindex], hkeeps.of_later hlater⟩

/-- **Each call adds to a family what it adds to the journal.** -/
theorem after (h : family.Keeps journal) (call : FamilyCall) :
    (call.after family).Keeps (call.note journal) := by
  cases call with
  | onSource call => exact h.of_source (Query.Later.after call _) (h.source.after call)
  | update attributes =>
    obtain ⟨allocator, hle, hquery⟩ := family.source.updateStatement_snd attributes
    rw [FamilyCall.after, hquery]
    exact h.of_source (Query.Later.of_le _ hle) (h.source.draw hle)
  | start direction relationshipType =>
    rw [FamilyCall.after, FamilyCall.note]
    cases hstart : Traversal.start direction relationshipType with
    | error fault => exact h
    | ok traversal =>
      refine ⟨h.source, ?_, fun index other hother => ?_⟩
      · change (family.traversals ++ [traversal]).length = (journal.traversals ++ [[]]).length
        rw [List.length_append, List.length_append, h.length]
        rfl
      · change (family.traversals ++ [traversal])[index]? = some other at hother
        change ∃ held, (journal.traversals ++ [[]])[index]? = some held ∧ _
        rw [List.getElem?_append] at hother ⊢
        rw [← h.length]
        by_cases hlt : index < family.traversals.length
        · rw [if_pos hlt] at hother ⊢
          exact h.traversals index other hother
        · rw [if_neg hlt] at hother ⊢
          obtain ⟨hindex, hother⟩ := List.getElem?_eq_some_iff.mp hother
          rw [List.length_singleton] at hindex
          refine ⟨[], by rw [List.getElem?_singleton, if_pos (by omega)], ?_⟩
          have htraversal : traversal = other := by
            rw [← hother]
            simp
          rw [← htraversal]
          exact Traversal.Keeps.start hstart family.source
  | onTraversal index call =>
    rw [FamilyCall.after, FamilyCall.note]
    cases htraversal : family.traversals[index]? with
    | none =>
      have hge : journal.traversals.length ≤ index := by
        rw [← h.length]
        exact List.getElem?_eq_none_iff.mp htraversal
      rw [List.modify_eq_self hge]
      exact h
    | some traversal =>
      obtain ⟨held, hheld, hkeeps⟩ := h.traversals index traversal htraversal
      have heffect := call.effect_perform family.source traversal
      refine h.set heffect.later.1 (Query.Keeps.of_effect h.source heffect) fun other hother => ?_
      rw [hheld, Option.some.injEq] at hother
      rw [← hother]
      exact hkeeps.after h.source heffect

end Family.Keeps

/-- **A family holds what the journal of its history says.** -/
theorem Family.keeps_afterCalls {given : List Value} {fresh : Query}
    (h : Query.ofLabels given = .ok fresh) (calls : List FamilyCall) :
    ((Family.mk fresh []).afterCalls calls).Keeps (Journal.ofCalls calls) := by
  induction calls using List.reverseRecOn with
  | nil =>
    refine ⟨Query.Keeps.ofLabels h, rfl, fun index traversal htraversal => ?_⟩
    exact absurd htraversal (by simp [Family.afterCalls])
  | append_singleton calls call ih =>
    rw [Family.afterCalls, Journal.ofCalls, List.foldl_append, List.foldl_append]
    exact ih.after call

end GraphMapper
