import GraphMapper.Proofs.Builder.Placeholders
import Mathlib.Data.List.Nodup

/-!
# What a refused call on a traversal leaves behind

A call that is refused should have no effect.  On a query it has none: a query checks all of a
condition's arguments before it binds the value.  A traversal checks the name of the property,
then draws the placeholder and binds the value, and reads the operator last.  So there is one
kind of refused call that leaves something: a condition whose property is a name and whose
operator is unknown.  `TraversalCall.leftover?` reads off the arguments of a call which value that
is, and `TraversalCall.Outcome` says what each call does, refused or not.

## The leavings of a history

What is left is never removed, and no condition mentions it.  `Leavings` records the values that
are left in each traversal of a family, as a journal records what was asked for.  The parameters
of a compiled traversal are then known exactly: there is one for every placeholder of the text and
one more for every value that was left (`refused_afterCalls`).  Text and parameters fit if and only
if nothing was left.
-/

namespace GraphMapper

/-! ## 1.  What one call does -/

namespace TraversalCall

/-- The value that a call binds although it is refused: that of a condition whose field is a name
and whose operator is unknown. -/
def leftover? : TraversalCall → Option Value
  | .«where» _ field first second =>
    match identifier fieldRole field, Operator.read (splitOperands first second).1 with
    | .ok _, .error _ => some (splitOperands first second).2
    | _, _ => none
  | _ => none

/-- Everything that a call can do, with the condition that it asks for and the value that it
leaves: its fault if it was refused, and the source and the traversal after it. -/
inductive Outcome (source : Query) (traversal : Traversal) :
    Option (Requirement × PathPart) → Option Value → Except Fault Unit × Query × Traversal → Prop
  | settled (labels : List String) (limit : Option ℕ) :
      Outcome source traversal none none
        (.ok (), source, { traversal with targetLabels := labels, limit := limit })
  | required (requirement : Requirement) (part : PathPart) :
      Outcome source traversal (some (requirement, part)) none
        (.ok (), source.draw,
          (traversal.bind source.allocator.fresh requirement.value).append part
            requirement.field requirement.operator source.allocator.fresh)
  | refused (fault : Fault) :
      Outcome source traversal none none (.error fault, source, traversal)
  | refusedLate (fault : Fault) (value : Value) :
      Outcome source traversal none (some value)
        (.error fault, source.draw, traversal.bind source.allocator.fresh value)

/-- **Every call has one of these outcomes.** -/
theorem outcome_perform (call : TraversalCall) (source : Query) (traversal : Traversal) :
    Outcome source traversal call.requirement? call.leftover? (call.perform source traversal) := by
  cases call with
  | label labels =>
    rw [perform, Traversal.withLabels]
    cases identifiers labelRole labels with
    | error fault => exact .refused fault
    | ok names => exact .settled names traversal.limit
  | «where» part field first second =>
    rw [requirement?, ← Requirement.ofOperands?_splitOperands, Requirement.ofOperands?, leftover?]
    change Outcome source traversal _ _ (traversal.addCondition source part field
      (splitOperands first second).1 (splitOperands first second).2)
    rw [Traversal.addCondition]
    cases hfield : identifier fieldRole field with
    | error fault => exact .refused fault
    | ok name =>
      -- From here on the placeholder is drawn and the value bound.
      cases hoperator : Operator.read (splitOperands first second).1 with
      | error fault => exact .refusedLate fault _
      | ok operator => exact .required ⟨name, operator, _, .and⟩ part
  | limit count =>
    rw [perform, Traversal.withLimit]
    cases readLimit count with
    | error fault => exact .refused fault
    | ok limit => exact .settled traversal.targetLabels (some limit)

/-- What a refused call leaves: nothing changes, or the next placeholder is drawn and the value
bound to it. -/
def Residue (source : Query) (traversal : Traversal) :
    Option Value → Query × Traversal → Prop
  | none, after => after = (source, traversal)
  | some value, after =>
      after = (source.draw,
        { traversal with
          parameters := traversal.parameters ++ [(.text source.allocator.fresh, value)] })

/-- **A refused call leaves what its outcome says**, and nothing else. -/
theorem Outcome.residue {source : Query} {traversal : Traversal}
    {asked : Option (Requirement × PathPart)} {left : Option Value}
    {result : Except Fault Unit × Query × Traversal}
    (h : Outcome source traversal asked left result)
    (hfresh : traversal.parameters.get? (.text source.allocator.fresh) = none) {fault : Fault}
    (hrefused : result.1 = .error fault) : Residue source traversal left result.2 := by
  cases h with
  | settled labels limit => exact absurd hrefused (by simp)
  | required requirement part => exact absurd hrefused (by simp)
  | refused fault => rfl
  | refusedLate fault value =>
    have hput := Entries.put_of_get?_eq_none hfresh value
    simp only [Residue, Traversal.bind, hput]

end TraversalCall

/-! ## 2.  The leavings of a history -/

/-- The values that refused calls have left in each traversal, in the order in which the
traversals were started. -/
abbrev Leavings := List (List Value)

/-- The leavings after a call.  Like the journal they are read off the arguments. -/
def FamilyCall.leave (leavings : Leavings) : FamilyCall → Leavings
  | .onSource _ | .update _ => leavings
  | .start direction relationshipType =>
    if (Traversal.start direction relationshipType).isOk then leavings ++ [[]] else leavings
  | .onTraversal index call => leavings.modify index (· ++ call.leftover?.toList)

/-- The leavings of a history of calls. -/
def Leavings.ofCalls (calls : List FamilyCall) : Leavings :=
  calls.foldl (fun leavings call => call.leave leavings) []

/-- What is bound in a query is bound for its conditions. -/
def Query.Tidy (query : Query) : Prop :=
  query.parameters.keys = (query.conditions.map (·.parameter)).map .text

/-- Parameters hold one value for every name of a list, and the values that were left under other
names. -/
def Entries.Leaves (parameters : Entries) (used : List String) (left : List Value) : Prop :=
  ∃ names : List String, parameters.keys.Perm ((used ++ names).map .text) ∧
    names.map (fun name => parameters.get? (.text name)) = left.map some

namespace Entries

variable {parameters : Entries} {used : List String} {left : List Value}

/-- The keys after a write to a new key. -/
theorem keys_put_of_get?_eq_none {name : String} (h : parameters.get? (.text name) = none)
    (value : Value) :
    (parameters.put (.text name) value).keys = parameters.keys ++ [.text name] := by
  rw [put_of_get?_eq_none h, keys, List.map_append]
  rfl

/-- A name under which a value was left is bound. -/
theorem get?_ne_none_of_mem {names : List String}
    (h : names.map (fun name => parameters.get? (.text name)) = left.map some) {name : String}
    (hname : name ∈ names) : parameters.get? (.text name) ≠ none := by
  have hbound := List.mem_map_of_mem (f := fun name => parameters.get? (.text name)) hname
  rw [h, List.mem_map] at hbound
  obtain ⟨value, -, hsome⟩ := hbound
  rw [← hsome]
  exact Option.some_ne_none _

/-- A write to a new name changes nothing under the others. -/
theorem map_get?_put {names : List String} {fresh : String}
    (h : names.map (fun name => parameters.get? (.text name)) = left.map some)
    (hfresh : parameters.get? (.text fresh) = none) (value : Value) :
    names.map (fun name => (parameters.put (.text fresh) value).get? (.text name)) =
      left.map some := by
  rw [← h]
  refine List.map_congr_left fun name hname => ?_
  have hne : fresh ≠ name := by
    rintro rfl
    exact get?_ne_none_of_mem h hname hfresh
  rw [get?_put_text, if_neg hne]

/-- No key occurs twice. -/
theorem Distinct.nodup_keys (h : parameters.Distinct) : parameters.keys.Nodup := by
  refine List.pairwise_map.mpr (h.imp fun {e f} hne heq => ?_)
  rw [heq, Key.same_self] at hne
  exact absurd hne (by simp)

namespace Leaves

/-- A value for one more name in use. -/
theorem use (h : parameters.Leaves used left) {name : String}
    (hname : parameters.get? (.text name) = none) (value : Value) :
    (parameters.put (.text name) value).Leaves (used ++ [name]) left := by
  obtain ⟨names, hkeys, hleft⟩ := h
  refine ⟨names, ?_, map_get?_put hleft hname value⟩
  rw [keys_put_of_get?_eq_none hname]
  have hmove : (used ++ names ++ [name]).Perm (used ++ [name] ++ names) := by
    rw [List.append_assoc, List.append_assoc]
    exact List.perm_append_comm.append_left used
  have hsnoc := hkeys.append_right [Key.text name]
  rw [← List.map_singleton (f := Key.text), ← List.map_append] at hsnoc
  exact hsnoc.trans (hmove.map _)

/-- A value that nothing uses. -/
theorem leave (h : parameters.Leaves used left) {name : String}
    (hname : parameters.get? (.text name) = none) (value : Value) :
    (parameters.put (.text name) value).Leaves used (left ++ [value]) := by
  obtain ⟨names, hkeys, hleft⟩ := h
  refine ⟨names ++ [name], ?_, ?_⟩
  · rw [keys_put_of_get?_eq_none hname, ← List.append_assoc, List.map_append]
    exact hkeys.append_right _
  · rw [List.map_append, List.map_append, map_get?_put hleft hname value, List.map_singleton,
      get?_put_self, List.map_singleton]

/-- **The parameters fit the names in use exactly if nothing was left.** -/
theorem forall_mem_iff (h : parameters.Leaves used left) (hdistinct : parameters.Distinct) :
    (∀ name, Key.text name ∈ parameters.keys ↔ name ∈ used) ↔ left = [] := by
  obtain ⟨names, hkeys, hleft⟩ := h
  have hnodup : (used ++ names).Nodup :=
    List.Nodup.of_map _ (hkeys.nodup_iff.mp hdistinct.nodup_keys)
  have hmem (name : String) : Key.text name ∈ parameters.keys ↔ name ∈ used ++ names := by
    rw [hkeys.mem_iff, List.mem_map_of_injective fun _ _ => Key.text.inj]
  constructor
  · intro hfits
    -- A name under which something was left would be in use as well.
    have hnames : names = [] := by
      refine List.eq_nil_iff_forall_not_mem.mpr fun name hname => ?_
      have hused := (hfits name).mp ((hmem name).mpr (List.mem_append_right _ hname))
      exact (List.nodup_append.mp hnodup).2.2 name hused name hname rfl
    rw [hnames] at hleft
    exact List.map_eq_nil_iff.mp hleft.symm
  · rintro rfl
    have hnames : names = [] := List.map_eq_nil_iff.mp hleft
    intro name
    rw [hmem, hnames, List.append_nil]

end Leaves

end Entries

/-- A call on a query binds for its own condition only. -/
theorem Query.Tidy.after {query : Query} {requirements : List Requirement}
    (h : query.Tidy) (hkeeps : query.Keeps requirements) (call : QueryCall) :
    (call.after query).Tidy := by
  rw [QueryCall.after_eq, QueryCall.granted]
  cases call.requirement? with
  | none => exact h
  | some requirement =>
    have hfresh := (hkeeps.held "").get?_eq_none Allocator.not_drawn_fresh
    have hkeys := Entries.keys_put_of_get?_eq_none hfresh requirement.value
    change (query.parameters.put (.text query.allocator.fresh) requirement.value).keys =
      ((query.conditions ++ [requirement.toCondition query.allocator.fresh]).map
        (·.parameter)).map .text
    rw [hkeys, h, List.map_append, List.map_append]
    rfl

/-- The names that a traversal's conditions use. -/
def Traversal.used (traversal : Traversal) : List String :=
  traversal.conditions.map (·.1.parameter)

theorem Traversal.used_append (traversal : Traversal) (part : PathPart) (field : String)
    (operator : Operator) (parameter : String) :
    (traversal.append part field operator parameter).used = traversal.used ++ [parameter] := by
  rw [used, append, List.map_append, List.map_singleton, used]

/-- A traversal holds values for its conditions and those that refused calls have left. -/
def Traversal.Leaves (traversal : Traversal) (left : List Value) : Prop :=
  traversal.parameters.Leaves traversal.used left

/-- A new traversal holds nothing. -/
theorem Traversal.Leaves.start {direction relationshipType : Value} {traversal : Traversal}
    (h : Traversal.start direction relationshipType = .ok traversal) : traversal.Leaves [] := by
  obtain ⟨checked, name, -, rfl⟩ := Traversal.start_eq_ok h
  exact ⟨[], List.Perm.nil, rfl⟩

namespace TraversalCall.Outcome

variable {source : Query} {traversal : Traversal} {asked : Option (Requirement × PathPart)}
  {added : Option Value} {result : Except Fault Unit × Query × Traversal}

/-- No call on a traversal binds anything in its source. -/
theorem tidy (h : Outcome source traversal asked added result) (hsource : source.Tidy) :
    result.2.1.Tidy := by
  cases h <;> exact hsource

/-- A call leaves in a traversal what its outcome says. -/
theorem leaves (h : Outcome source traversal asked added result)
    (hfresh : traversal.parameters.get? (.text source.allocator.fresh) = none)
    {left : List Value} (hleaves : traversal.Leaves left) :
    result.2.2.Leaves (left ++ added.toList) := by
  cases h with
  | settled labels limit =>
    rw [Option.toList_none, List.append_nil]
    exact hleaves
  | required requirement part =>
    rw [Option.toList_none, List.append_nil]
    have hused := Entries.Leaves.use hleaves hfresh requirement.value
    rw [← Traversal.used_append traversal part requirement.field requirement.operator] at hused
    exact hused
  | refused fault =>
    rw [Option.toList_none, List.append_nil]
    exact hleaves
  | refusedLate fault value => exact Entries.Leaves.leave hleaves hfresh value

end TraversalCall.Outcome

/-! ## 3.  Families -/

section Pointwise

variable {α β : Type} {R : α → β → Prop} {as : List α} {bs : List β}

/-- What belongs together in two lists is found at the same place. -/
theorem exists_of_forall₂ (h : List.Forall₂ R as bs) {index : ℕ} {a : α}
    (ha : as[index]? = some a) : ∃ b, bs[index]? = some b ∧ R a b := by
  induction h generalizing index with
  | nil => exact absurd ha (by simp)
  | @cons first second as bs hfirst hrest ih =>
    cases index with
    | zero =>
      rw [List.getElem?_cons_zero, Option.some.injEq] at ha
      exact ⟨second, rfl, ha ▸ hfirst⟩
    | succ index =>
      rw [List.getElem?_cons_succ] at ha ⊢
      exact ih ha

/-- Two lists can be changed at the same place. -/
theorem forall₂_set_modify (h : List.Forall₂ R as bs) (index : ℕ) {a : α} {f : β → β}
    (hchanged : ∀ b, bs[index]? = some b → R a (f b)) :
    List.Forall₂ R (as.set index a) (bs.modify index f) := by
  induction h generalizing index with
  | nil =>
    rw [List.set_nil, List.modify_nil]
    exact .nil
  | @cons first second as bs hfirst hrest ih =>
    cases index with
    | zero => exact .cons (hchanged second rfl) hrest
    | succ index => exact .cons hfirst (ih index hchanged)

end Pointwise

/-- A name that was not drawn is bound in no traversal. -/
theorem Traversal.Keeps.get?_fresh {source : Query} {traversal : Traversal}
    {requirements : List (Requirement × PathPart)} (h : traversal.Keeps source requirements) :
    traversal.parameters.get? (.text source.allocator.fresh) = none :=
  h.held.get?_eq_none Allocator.not_drawn_fresh

/-- A family holds what its journal says and what refused calls have left, and nothing else. -/
structure Family.Accounts (family : Family) (journal : Journal) (leavings : Leavings) : Prop where
  keeps : family.Keeps journal
  source : family.source.Tidy
  traversals : List.Forall₂ Traversal.Leaves family.traversals leavings

namespace Family.Accounts

variable {family : Family} {journal : Journal} {leavings : Leavings}

/-- Whatever is called, the source binds for its own conditions only. -/
theorem tidy_after (h : family.Accounts journal leavings) (call : FamilyCall) :
    (call.after family).source.Tidy := by
  cases call with
  | onSource call => exact h.source.after h.keeps.source call
  | update attributes =>
    obtain ⟨allocator, -, hquery⟩ := family.source.updateStatement_snd attributes
    rw [FamilyCall.after, hquery]
    exact h.source
  | start direction relationshipType =>
    rw [FamilyCall.after]
    cases Traversal.start direction relationshipType <;> exact h.source
  | onTraversal index call =>
    rw [FamilyCall.after]
    cases family.traversals[index]? with
    | none => exact h.source
    | some traversal => exact (call.outcome_perform family.source traversal).tidy h.source

/-- Whatever is called, each traversal holds what was left in it. -/
theorem leaves_after (h : family.Accounts journal leavings) (call : FamilyCall) :
    List.Forall₂ Traversal.Leaves (call.after family).traversals (call.leave leavings) := by
  cases call with
  | onSource call => exact h.traversals
  | update attributes => exact h.traversals
  | start direction relationshipType =>
    rw [FamilyCall.after, FamilyCall.leave]
    cases hstart : Traversal.start direction relationshipType with
    | error fault => exact h.traversals
    | ok traversal => exact List.rel_append h.traversals (.cons (.start hstart) .nil)
  | onTraversal index call =>
    rw [FamilyCall.after, FamilyCall.leave]
    cases htraversal : family.traversals[index]? with
    | none =>
      have hge : leavings.length ≤ index := by
        rw [← h.traversals.length_eq]
        exact List.getElem?_eq_none_iff.mp htraversal
      rw [List.modify_eq_self hge]
      exact h.traversals
    | some traversal =>
      obtain ⟨requirements, -, hkeeps⟩ := h.keeps.traversals index traversal htraversal
      obtain ⟨left, hleft, hleaves⟩ := exists_of_forall₂ h.traversals htraversal
      refine forall₂_set_modify h.traversals index fun other hother => ?_
      rw [hleft, Option.some.injEq] at hother
      rw [← hother]
      exact (call.outcome_perform family.source traversal).leaves hkeeps.get?_fresh hleaves

/-- **Each call leaves in a family what its arguments say.** -/
theorem after (h : family.Accounts journal leavings) (call : FamilyCall) :
    (call.after family).Accounts (call.note journal) (call.leave leavings) :=
  ⟨h.keeps.after call, h.tidy_after call, h.leaves_after call⟩

end Family.Accounts

/-- A new query binds nothing. -/
theorem Query.tidy_ofLabels {given : List Value} {fresh : Query}
    (h : Query.ofLabels given = .ok fresh) : fresh.Tidy := by
  obtain ⟨names, -, rfl⟩ := ofLabels_eq_ok h
  rfl

/-- **What refused calls leave is what the history says.** -/
theorem Family.accounts_afterCalls {given : List Value} {fresh : Query}
    (h : Query.ofLabels given = .ok fresh) (calls : List FamilyCall) :
    ((Family.mk fresh []).afterCalls calls).Accounts (Journal.ofCalls calls)
      (Leavings.ofCalls calls) := by
  induction calls using List.reverseRecOn with
  | nil => exact ⟨Family.keeps_afterCalls h [], Query.tidy_ofLabels h, .nil⟩
  | append_singleton calls call ih =>
    rw [Family.afterCalls, Journal.ofCalls, Leavings.ofCalls, List.foldl_append,
      List.foldl_append, List.foldl_append]
    exact ih.after call

/-! ## 4.  The parameters of a traversal's statement -/

/-- No name is bound in both halves. -/
theorem Traversal.Keeps.distinct_append {source : Query} {traversal : Traversal}
    {asked : List Requirement} {requirements : List (Requirement × PathPart)}
    (hsource : source.Keeps asked) (h : traversal.Keeps source requirements) :
    Entries.Distinct (source.parameters ++ traversal.parameters) := by
  refine List.pairwise_append.mpr
    ⟨(hsource.held "").distinct, h.held.distinct, fun first hfirst second hsecond => ?_⟩
  obtain ⟨name, hname, -⟩ := (hsource.held "").drawn first hfirst
  rw [← Bool.not_eq_true, hname]
  intro hsame
  rcases h.apart name with hnone | hnone
  · have := Entries.get?_eq_none_iff.mp hnone first hfirst
    rw [hname, Key.same_self] at this
    exact Bool.noConfusion this
  · have := Entries.get?_eq_none_iff.mp hnone second hsecond
    rw [Key.same_symm hsame] at this
    exact Bool.noConfusion this

/-- The parameters of both halves are one after the other. -/
theorem Traversal.Keeps.allParameters_eq {source : Query} {traversal : Traversal}
    {asked : List Requirement} {requirements : List (Requirement × PathPart)}
    (hsource : source.Keeps asked) (h : traversal.Keeps source requirements) :
    traversal.allParameters source = source.parameters ++ traversal.parameters := by
  rw [allParameters]
  exact Entries.merge_of_distinct (h.distinct_append hsource)

/-- The placeholders of a traversal's statement are the names that both halves use. -/
theorem Traversal.Keeps.placeholders_eq {source : Query} {traversal : Traversal}
    {asked : List Requirement} {requirements : List (Requirement × PathPart)}
    (hsource : source.Keeps asked) (h : traversal.Keeps source requirements)
    {statement : Statement} (hends : Ends source traversal statement) :
    placeholders statement.text = source.conditions.map (·.parameter) ++ traversal.used := by
  rw [(spells_of_ends hsource h hends).placeholders_eq, List.map_append, List.map_map,
    List.map_map, List.map_map, List.map_map, used]
  rfl

/-- The parameters of both halves hold what the traversal's own do, under the names of both. -/
theorem Traversal.Keeps.leaves_allParameters {source : Query} {traversal : Traversal}
    {asked : List Requirement} {requirements : List (Requirement × PathPart)}
    (hsource : source.Keeps asked) (htidy : source.Tidy) (h : traversal.Keeps source requirements)
    {left : List Value} (hleaves : traversal.Leaves left) :
    (traversal.allParameters source).Leaves
      (source.conditions.map (·.parameter) ++ traversal.used) left := by
  obtain ⟨names, hkeys, hleft⟩ := hleaves
  refine ⟨names, ?_, ?_⟩
  · rw [Traversal.Keeps.allParameters_eq hsource h, List.append_assoc, List.map_append, ← htidy,
      Entries.keys, List.map_append]
    exact hkeys.append_left _
  · rw [← hleft]
    exact List.map_congr_left fun name hname =>
      h.get?_allParameters_own (Entries.get?_ne_none_of_mem hleft hname)

/-- **The parameters of a traversal's statement**: one for each placeholder, and the values that
refused calls have left. -/
theorem Family.Accounts.leaves_of_compile {family : Family} {journal : Journal}
    {leavings : Leavings} (h : family.Accounts journal leavings) {request : Request} {index : ℕ}
    (hindex : request.traversal? = some index) {statement : Statement}
    (hstatement : request.compile family = some (.ok statement)) :
    statement.parameters.Distinct ∧ ∃ left, leavings[index]? = some left ∧
      statement.parameters.Leaves (placeholders statement.text) left := by
  obtain ⟨traversal, requirements, htraversal, -, hkeeps, hends⟩ :=
    h.keeps.ends hindex hstatement
  obtain ⟨left, hleft, hleaves⟩ := exists_of_forall₂ h.traversals htraversal
  have hplaceholders := hkeeps.placeholders_eq h.keeps.source hends
  have hall := hkeeps.leaves_allParameters h.keeps.source h.source hleaves
  have hdistinct := hkeeps.distinct_append h.keeps.source
  rw [← hkeeps.allParameters_eq h.keeps.source] at hdistinct
  rw [hplaceholders]
  obtain ⟨text, tail, -, -, -, rfl⟩ := hends
  exact ⟨hdistinct, left, hleft, hall⟩

/-- **What refused calls on traversals do.**  After any calls on a new query and the traversals
started from it, refused ones included:

* a call on a traversal that is refused changes nothing, except if it is a condition with a proper
  field and an unknown operator: that one has drawn the next placeholder and bound its value to
  it;
* every statement of a traversal that compiles has the parameters of its placeholders and one more
  for each value that such calls have left in the traversal.  The names of its parameters are
  those of its placeholders if and only if nothing was left. -/
theorem refused_afterCalls {given : List Value} {fresh : Query}
    (h : Query.ofLabels given = .ok fresh) (calls : List FamilyCall) {family : Family}
    (hfamily : family = (Family.mk fresh []).afterCalls calls) :
    (∀ (index : ℕ) (traversal : Traversal) (call : TraversalCall) (fault : Fault),
        family.traversals[index]? = some traversal →
        (call.perform family.source traversal).1 = .error fault →
        TraversalCall.Residue family.source traversal call.leftover?
          (call.perform family.source traversal).2) ∧
      ∀ (request : Request) (index : ℕ) (statement : Statement),
        request.traversal? = some index → request.compile family = some (.ok statement) →
        ∃ left, (Leavings.ofCalls calls)[index]? = some left ∧
          statement.parameters.Leaves (placeholders statement.text) left ∧
          ((∀ name, Key.text name ∈ statement.parameters.keys ↔
              name ∈ placeholders statement.text) ↔ left = []) := by
  have haccounts := Family.accounts_afterCalls h calls
  rw [← hfamily] at haccounts
  refine ⟨fun index traversal call fault htraversal hrefused => ?_, ?_⟩
  · obtain ⟨requirements, -, hkeeps⟩ := haccounts.keeps.traversals index traversal htraversal
    exact (call.outcome_perform family.source traversal).residue hkeeps.get?_fresh hrefused
  · intro request index statement hindex hstatement
    obtain ⟨hdistinct, left, hleft, hleaves⟩ := haccounts.leaves_of_compile hindex hstatement
    exact ⟨left, hleft, hleaves, hleaves.forall_mem_iff hdistinct⟩

/-- A traversal on which a comparison with an unknown operator was tried. -/
def triedOperator : List FamilyCall :=
  [.start (.text "outgoing") (.text "KNOWS"),
    .onTraversal 0 (.«where» .target (.text "age") (.text "about") (some (.int 30)))]

/-- After `triedOperator` the value is still there, and it is sent with a statement that has no
placeholder.  A limit that is refused on the same traversal leaves nothing. -/
theorem refused_afterCalls_operator :
    ∃ fresh family traversal statement, Query.ofLabels [.text "Person"] = .ok fresh ∧
      family = (Family.mk fresh []).afterCalls triedOperator ∧
      family.traversals[0]? = some traversal ∧
      ((TraversalCall.limit (.int (-1))).perform family.source traversal).2 =
        (family.source, traversal) ∧
      Request.compile family (.traversalSelect 0 none) = some (.ok statement) ∧
      placeholders statement.text = [] ∧ statement.parameters.Leaves [] [.int 30] := by
  have hfresh : Query.ofLabels [.text "Person"] = .ok { labels := ["Person"] } := rfl
  have h := refused_afterCalls hfresh triedOperator rfl
  refine ⟨_, _, _, _, hfresh, rfl, rfl, ?_, rfl, by decide +kernel, ?_⟩
  · exact h.1 0 _ (.limit (.int (-1))) _ rfl rfl
  · obtain ⟨left, hleft, hleaves, -⟩ := h.2 (.traversalSelect 0 none) 0 _ rfl rfl
    obtain rfl : [Value.int 30] = left := Option.some.inj hleft
    exact hleaves

/-- **A refused call can have an effect**: an unknown operator is refused, and yet a placeholder
of the source is drawn, a value is bound in the traversal, and what compiles then has a parameter
for which there is no placeholder. -/
theorem refused_operator_binds :
    ∃ source traversal fault later changed statement,
      Query.ofLabels [.text "Person"] = .ok source ∧
      Traversal.start (.text "outgoing") (.text "KNOWS") = .ok traversal ∧
      (TraversalCall.«where» .target (.text "age") (.text "about") (some (.int 30))).perform
        source traversal = (.error fault, later, changed) ∧
      source.allocator.allocated = 0 ∧ later.allocator.allocated = 1 ∧
      traversal.parameters = [] ∧ changed.parameters = [(.text "p1", .int 30)] ∧
      changed.selectStatement later .null = .ok statement ∧
      placeholders statement.text = [] ∧ statement.parameters = [(.text "p1", .int 30)] := by
  refine ⟨{ labels := ["Person"] }, { direction := .outgoing, relationshipType := "KNOWS" },
    .unsupportedOperator (.text "about"), _, _, _, rfl, rfl, rfl, rfl, rfl, rfl, rfl, rfl, ?_, rfl⟩
  decide +kernel

end GraphMapper
