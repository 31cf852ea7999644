import GraphMapper.Proofs.Builder.Refusal
import GraphMapper.Proofs.Placeholder.Renaming
import Mathlib.Order.Monotone.Basic

/-!
# Compiling is inspection

Compiling a statement from a query is meant to be a way of looking at it.  For an update that is
not quite so: its placeholders are drawn from the query's allocator, all of them or, if a key is
refused half-way, some of them, and the names that are drawn later are others than they would have
been.  This is the only trace: whatever is compiled later is the statement that would have been
compiled, with its placeholders renamed.

## 1.  Histories

A history is a list of steps.  A step builds, or it inspects; and of the inspections some are
*asides*, which might as well not have been made.  The statements of the other inspections are the
`answers` of the history.  Two runs are compared, one with the asides and one without them.

## 2.  What a query binds

A query binds for its own conditions only (`Query.Tidy`), and under the placeholder of each it finds
the value that was given with it.  So no value of an update is among its parameters, however many
were compiled.

## 3.  Steps of two runs

`Query.Renamed ρ` is the relation between the two runs, with one function `ρ` on the numbers of the
placeholders.  A step that both of them make keeps it with the same `ρ` (`Renamed.step`), whether it
compiles (`Renamed.compile`) or builds (`Renamed.after`).

## 4.  Asides

An aside is made by one of them only, and it shifts the numbers of the names that are still to be
drawn (`Renamed.aside`).  The numbers of names that have been drawn stay what they are, so an answer
that was given before is renamed the same way by the old function and by the new one
(`Statement.renamed_congr`).  That makes one function do for all answers of a history
(`Renamed.withoutAsides`), and for all that it may go on to show (`answers_renamed`).
-/

namespace GraphMapper

/-! ## 1.  Histories -/

/-- What can be compiled from a query. -/
inductive Inspection where
  | select
  | count
  | delete (detach : Bool)
  | update (attributes : Value)

/-- Compiles a statement: the statement or the fault, and the query as it is then. -/
def Inspection.compile (query : Query) : Inspection → Except Fault Statement × Query
  | .select => (query.selectStatement, query)
  | .count => (query.countStatement, query)
  | .delete detach => (query.deleteStatement detach, query)
  | .update attributes => query.updateStatement attributes

namespace Query

/-- A step in the history of a query.  An aside is an inspection whose statement nobody looks at. -/
inductive Step where
  | build (call : QueryCall)
  | inspect (inspection : Inspection)
  | aside (inspection : Inspection)

namespace Step

/-- The query after a step whose fault, if there is one, is caught. -/
def after (query : Query) : Step → Query
  | .build call => call.after query
  | .inspect inspection | .aside inspection => (inspection.compile query).2

/-- What a step shows. -/
def answer? (query : Query) : Step → Option (Except Fault Statement)
  | .inspect inspection => some (inspection.compile query).1
  | .build _ | .aside _ => none

/-- Whether a step is an aside. -/
def isAside : Step → Bool
  | .aside _ => true
  | .build _ | .inspect _ => false

/-- The condition that a step asks for. -/
def requirement? : Step → Option Requirement
  | .build call => call.requirement?
  | .inspect _ | .aside _ => none

end Step

/-- The query after a history. -/
def afterSteps (query : Query) (steps : List Step) : Query :=
  steps.foldl (fun query step => step.after query) query

/-- What a history shows, in order. -/
def answers (query : Query) : List Step → List (Except Fault Statement)
  | [] => []
  | step :: rest => (step.answer? query).toList ++ (step.after query).answers rest

/-- A history without its asides. -/
def withoutAsides (steps : List Step) : List Step := steps.filter fun step => !step.isAside

variable {query changed : Query} {requirements : List Requirement} {ρ : ℕ → ℕ}

theorem afterSteps_cons (query : Query) (step : Step) (steps : List Step) :
    query.afterSteps (step :: steps) = (step.after query).afterSteps steps := rfl

theorem afterSteps_append (query : Query) (steps later : List Step) :
    query.afterSteps (steps ++ later) = (query.afterSteps steps).afterSteps later :=
  List.foldl_append

theorem answers_append (query : Query) (steps later : List Step) :
    query.answers (steps ++ later) =
      query.answers steps ++ (query.afterSteps steps).answers later := by
  induction steps generalizing query with
  | nil => rfl
  | cons step steps ih =>
    rw [List.cons_append, answers, answers, ih, List.append_assoc, afterSteps_cons]

/-- Compiling leaves a query as it was, with an allocator that may have moved on. -/
theorem compile_snd (query : Query) (inspection : Inspection) :
    ∃ allocator, query.allocator.Le allocator ∧
      (inspection.compile query).2 = { query with allocator := allocator } := by
  cases inspection with
  | update attributes => exact query.updateStatement_snd attributes
  | _ => exact ⟨query.allocator, Allocator.Le.refl _, rfl⟩

/-- What a history asks for, it asks for step by step. -/
theorem append_filterMap_cons (requirements : List Requirement) (step : Step)
    (steps : List Step) :
    requirements ++ (step :: steps).filterMap Step.requirement? =
      (requirements ++ step.requirement?.toList) ++ steps.filterMap Step.requirement? := by
  rw [List.filterMap_cons, List.append_assoc]
  cases step.requirement? <;> rfl

theorem Later.step (query : Query) (step : Step) : query.Later (step.after query) := by
  cases step with
  | build call => exact after call query
  | inspect inspection | aside inspection =>
    obtain ⟨allocator, hle, hquery⟩ := query.compile_snd inspection
    rw [Step.after, hquery]
    exact of_le query hle

theorem Keeps.step (h : query.Keeps requirements) (step : Step) :
    (step.after query).Keeps (requirements ++ step.requirement?.toList) := by
  cases step with
  | build call => exact h.after call
  | inspect inspection | aside inspection =>
    obtain ⟨allocator, hle, hquery⟩ := query.compile_snd inspection
    rw [Step.requirement?, Option.toList_none, List.append_nil, Step.after, hquery]
    exact h.draw hle

theorem Keeps.afterSteps (h : query.Keeps requirements) (steps : List Step) :
    (query.afterSteps steps).Keeps (requirements ++ steps.filterMap Step.requirement?) := by
  induction steps generalizing query requirements with
  | nil =>
    rw [List.filterMap_nil, List.append_nil]
    exact h
  | cons step steps ih =>
    rw [afterSteps_cons, append_filterMap_cons]
    exact ih (h.step step)

/-! ## 2.  What a query binds -/

theorem Tidy.step (h : query.Tidy) (hkeeps : query.Keeps requirements) (step : Step) :
    (step.after query).Tidy := by
  cases step with
  | build call => exact h.after hkeeps call
  | inspect inspection | aside inspection =>
    obtain ⟨allocator, -, hquery⟩ := query.compile_snd inspection
    rw [Step.after, hquery]
    exact h

theorem Tidy.afterSteps (h : query.Tidy) (hkeeps : query.Keeps requirements)
    (steps : List Step) : (query.afterSteps steps).Tidy := by
  induction steps generalizing query requirements with
  | nil => exact h
  | cons step steps ih => exact ih (h.step hkeeps step) (hkeeps.step step)

/-- Under the placeholders of its conditions a query finds the values of its requirements. -/
theorem Keeps.map_get? (h : query.Keeps requirements) :
    query.conditions.map (fun condition => query.parameters.get? (.text condition.parameter)) =
      requirements.map fun requirement => some requirement.value := by
  have hvalues := (h.held "").map_get?
  rw [List.map_map, List.map_map] at hvalues
  exact hvalues

/-! ## 3.  Steps of two runs -/

/-- Two queries that differ in the numbers of their placeholders only. -/
structure Renamed (ρ : ℕ → ℕ) (query changed : Query) : Prop where
  labels : changed.labels = query.labels
  sorting : changed.sorting = query.sorting
  limit : changed.limit = query.limit
  conditions : changed.conditions = query.conditions.map (Condition.renamed (renumber ρ))
  binding : Binding.Renamed ρ ⟨query.allocator, query.parameters⟩
    ⟨changed.allocator, changed.parameters⟩

namespace Renamed

theorem ofLabels {given : List Value} (h : Query.ofLabels given = .ok query) :
    Renamed id query query := by
  obtain ⟨names, -, rfl⟩ := Query.ofLabels_eq_ok h
  exact ⟨rfl, rfl, rfl, rfl, ⟨rfl, rfl, rfl, fun _ => rfl⟩⟩

/-- The part that all statements share is renamed. -/
theorem rows (hkeeps : query.Keeps requirements) (h : Renamed ρ query changed) :
    changed.rows variableName =
      (query.rows variableName).map (renamedText (renumber ρ)) := by
  have hvar : DollarFree variableName := by decide
  obtain ⟨pattern, hpattern, hfree⟩ := hkeeps.matchClause hvar
  have hchanged : changed.matchClause variableName = .ok pattern := by
    rw [← hpattern, matchClause, matchClause, h.labels]
  have hfilter : changed.whereClause variableName =
      renamedText (renumber ρ) (query.whereClause variableName) := by
    refine Eq.trans ?_ (renamedText_whereClauseFor (hkeeps.legible hvar)).symm
    rw [whereClause, GraphMapper.whereClause, h.conditions, List.map_map, List.map_map]
    rfl
  rw [Query.rows, Query.rows, hpattern, hchanged]
  change Except.ok _ = Except.ok _
  rw [renamedText_append_left hfree, hfilter]

/-- A statement that only adds plain text to the shared part is renamed. -/
theorem rows_tail (hkeeps : query.Keeps requirements) (h : Renamed ρ query changed) {tail : String}
    (htail : DollarFree tail) (hclosed : Closed tail) :
    ((changed.rows variableName).map fun rows => Statement.mk (rows ++ tail) changed.parameters) =
      ((query.rows variableName).map fun rows =>
        Statement.mk (rows ++ tail) query.parameters).map (Statement.renamed (renumber ρ)) := by
  rw [h.rows hkeeps]
  cases query.rows variableName with
  | error fault => rfl
  | ok rows =>
    have hparameters : changed.parameters = query.parameters.renamed (renumber ρ) :=
      h.binding.parameters
    change Except.ok _ = Except.ok _
    rw [Statement.renamed, renamedText_append_plain rows htail hclosed, hparameters]

theorem guardMutation (h : Renamed ρ query changed) (mutation : Mutation) :
    changed.guardMutation mutation = query.guardMutation mutation := by
  rw [Query.guardMutation, Query.guardMutation, h.conditions, List.isEmpty_map, h.labels]

/-- The assignments of an update are renamed, and so is what is still to be drawn. -/
theorem bindChanges (hρ : Function.Injective ρ) (hkeeps : query.Keeps requirements)
    (h : Renamed ρ query changed) (changes : Entries) :
    (changed.bindChanges changes).1 =
        (query.bindChanges changes).1.map (Statement.renamed (renumber ρ)) ∧
      Renamed ρ (query.bindChanges changes).2 (changed.bindChanges changes).2 := by
  obtain ⟨hresult, hfinal⟩ := bindProperties_renamed hρ h.binding changes
  refine ⟨?_, h.labels, h.sorting, h.limit, h.conditions, hfinal.stem, hfinal.changedStem,
    h.binding.parameters, hfinal.next⟩
  rw [Keeps.bindChanges_fst, Keeps.bindChanges_fst, hresult, hfinal.parameters, h.rows hkeeps]
  cases hpairs : (bindProperties ⟨query.allocator, query.parameters⟩ changes).1 with
  | error fault => rfl
  | ok pairs =>
    obtain ⟨keys, -, -, hkeys, hzip, -⟩ := bindProperties_eq_ok hpairs
    have hassignments : renamedText (renumber ρ) (assignmentsText variableName pairs) =
        assignmentsText variableName (pairs.map (Prod.map id (renumber ρ))) := by
      rw [hzip]
      exact renamedText_assignmentsText (by decide)
        (fun e he => hkeys _ (List.of_mem_zip he).1)
        (fun e he => Allocator.isNameChar_of_mem_names hkeeps.stem (List.of_mem_zip he).2)
    cases query.rows variableName with
    | error fault => rfl
    | ok rows =>
      change Except.ok _ = Except.ok _
      rw [Statement.renamed, renamedText_append_plain _ (by decide)
        (closed_of_toList_eq rfl (by decide)), renamedText_append _ (closed_assignmentsText _ _),
        hassignments]

/-- **Compiling the same from both queries** gives the same fault, or the same statement renamed,
and leaves two queries that still differ in their numbers only. -/
theorem compile (hρ : Function.Injective ρ) (hkeeps : query.Keeps requirements)
    (h : Renamed ρ query changed) (inspection : Inspection) :
    (inspection.compile changed).1 =
        (inspection.compile query).1.map (Statement.renamed (renumber ρ)) ∧
      Renamed ρ (inspection.compile query).2 (inspection.compile changed).2 := by
  cases inspection with
  | select =>
    refine ⟨?_, h⟩
    rw [Inspection.compile, Inspection.compile, Keeps.selectStatement_eq_map,
      Keeps.selectStatement_eq_map]
    have htail : Keeps.selectTail changed = Keeps.selectTail query := by
      rw [Keeps.selectTail, Keeps.selectTail, h.sorting, h.limit]
    rw [htail]
    exact h.rows_tail hkeeps hkeeps.dollarFree_selectTail (Keeps.closed_selectTail query)
  | count =>
    exact ⟨h.rows_tail hkeeps (by decide) (closed_of_toList_eq rfl (by decide)), h⟩
  | delete detach =>
    refine ⟨?_, h⟩
    rw [Inspection.compile, Inspection.compile, Keeps.deleteStatement_eq_bind,
      Keeps.deleteStatement_eq_bind, h.guardMutation]
    cases query.guardMutation .delete with
    | error fault => rfl
    | ok _ =>
      exact h.rows_tail hkeeps (Keeps.dollarFree_deleteTail detach) (Keeps.closed_deleteTail detach)
  | update attributes =>
    rw [Inspection.compile, Inspection.compile, updateStatement, updateStatement, h.guardMutation]
    cases query.guardMutation .update with
    | error fault => exact ⟨rfl, h⟩
    | ok _ =>
      cases readChanges attributes with
      | error fault => exact ⟨rfl, h⟩
      | ok changes => exact h.bindChanges hρ hkeeps changes

/-- **Building the same on both queries** keeps them the same but for their numbers. -/
theorem after (hρ : Function.Injective ρ) (h : Renamed ρ query changed) (call : QueryCall) :
    Renamed ρ (call.after query) (call.after changed) := by
  have hlabels : (call.labels?.map distinct).getD changed.labels =
      (call.labels?.map distinct).getD query.labels := by rw [h.labels]
  have hsorting : call.sorting?.or changed.sorting = call.sorting?.or query.sorting := by
    rw [h.sorting]
  have hlimit : call.limit?.or changed.limit = call.limit?.or query.limit := by rw [h.limit]
  rw [QueryCall.after_eq, QueryCall.after_eq, QueryCall.granted, QueryCall.granted]
  cases call.requirement? with
  | none => exact ⟨hlabels, hsorting, hlimit, h.conditions, h.binding⟩
  | some requirement =>
    refine ⟨hlabels, hsorting, hlimit, ?_, h.binding.bind hρ requirement.value⟩
    change changed.conditions ++ [requirement.toCondition changed.allocator.fresh] =
      (query.conditions ++ [requirement.toCondition query.allocator.fresh]).map _
    have hfresh : changed.allocator.fresh = renumber ρ query.allocator.fresh := h.binding.fresh
    rw [h.conditions, List.map_append, hfresh]
    rfl

/-- **A step that both runs make** shows the same but for the numbers. -/
theorem step (hρ : Function.Injective ρ) (hkeeps : query.Keeps requirements)
    (h : Renamed ρ query changed) {step : Step} (hstep : step.isAside = false) :
    step.answer? changed =
        (step.answer? query).map (Except.map (Statement.renamed (renumber ρ))) ∧
      Renamed ρ (step.after query) (step.after changed) := by
  cases step with
  | build call => exact ⟨rfl, h.after hρ call⟩
  | inspect inspection =>
    obtain ⟨hanswer, hafter⟩ := h.compile hρ hkeeps inspection
    exact ⟨congrArg some hanswer, hafter⟩
  | aside inspection => exact absurd hstep (by simp [Step.isAside])

/-- **Steps that both runs make.** -/
theorem afterSteps (hρ : Function.Injective ρ) (hkeeps : query.Keeps requirements)
    (h : Renamed ρ query changed) {steps : List Step}
    (hsteps : ∀ step ∈ steps, step.isAside = false) :
    changed.answers steps =
        (query.answers steps).map (Except.map (Statement.renamed (renumber ρ))) ∧
      Renamed ρ (query.afterSteps steps) (changed.afterSteps steps) := by
  induction steps generalizing query changed requirements with
  | nil => exact ⟨rfl, h⟩
  | cons step steps ih =>
    obtain ⟨hstep, hsteps⟩ := List.forall_mem_cons.mp hsteps
    obtain ⟨hanswer, hafter⟩ := h.step hρ hkeeps hstep
    obtain ⟨hanswers, hend⟩ := ih (hkeeps.step step) hafter hsteps
    refine ⟨?_, hend⟩
    rw [answers, answers, hanswer, hanswers, List.map_append, Option.toList_map]

end Renamed

end Query

/-! ## 4.  Asides -/

/-- All placeholders of a statement, and all names in its parameters, were drawn. -/
structure Statement.Drawn (allocator : Allocator) (statement : Statement) : Prop where
  text : ∀ name ∈ placeholders statement.text, allocator.Drawn name
  parameters : ∀ e ∈ statement.parameters, ∃ name, e.1 = .text name ∧ allocator.Drawn name

/-- The placeholders of a statement that fits its carriers are among the names of its
parameters. -/
theorem Statement.Carries.drawn {statement : Statement} {carriers : List Carrier}
    (h : statement.Carries carriers) {allocator : Allocator}
    (hparameters : ∀ e ∈ statement.parameters, ∃ name, e.1 = .text name ∧ allocator.Drawn name) :
    statement.Drawn allocator := by
  refine ⟨fun name hname => ?_, hparameters⟩
  have hvalue := List.mem_map_of_mem
    (f := fun name => statement.parameters.get? (.text name)) hname
  rw [h.bound, List.mem_map] at hvalue
  obtain ⟨carrier, -, hsome⟩ := hvalue
  have hhas : statement.parameters.has (.text name) = true := by
    rw [Entries.has, ← hsome]
    rfl
  obtain ⟨e, he, hkey⟩ := Entries.has_iff.mp hhas
  obtain ⟨other, hother, hdrawn⟩ := hparameters e he
  rw [hother, Key.same_text, beq_iff_eq] at hkey
  rwa [← hkey]

/-- **What was compiled before is renamed alike** by functions that agree on the numbers drawn so
far. -/
theorem Statement.renamed_congr {statement : Statement} {allocator : Allocator}
    (hdrawn : statement.Drawn allocator) (hstem : allocator.stem = "p") {ρ σ : ℕ → ℕ}
    (h : ∀ n ≤ allocator.allocated, σ n = ρ n) :
    statement.renamed (renumber σ) = statement.renamed (renumber ρ) := by
  have htext : renamedText (renumber σ) statement.text =
      renamedText (renumber ρ) statement.text :=
    renamedText_congr fun name hname => renumber_congr hstem h (hdrawn.text name hname)
  have hparameters : statement.parameters.renamed (renumber σ) =
      statement.parameters.renamed (renumber ρ) := by
    refine Entries.renamed_congr fun e he => ?_
    obtain ⟨name, hkey, hname⟩ := hdrawn.parameters e he
    exact ⟨name, hkey, renumber_congr hstem h hname⟩
  rw [renamed, renamed, htext, hparameters]

/-- The binding loop disturbs nothing that is held, not even if it stops half-way. -/
theorem Holds.bindProperties {allocator : Allocator} {parameters : Entries}
    {conditions : List (Condition × String)} {requirements : List (Requirement × String)}
    (h : Holds allocator parameters conditions requirements) (properties : Entries) :
    Holds (GraphMapper.bindProperties ⟨allocator, parameters⟩ properties).2.allocator
      (GraphMapper.bindProperties ⟨allocator, parameters⟩ properties).2.parameters conditions
      requirements := by
  induction properties generalizing allocator parameters with
  | nil => exact h
  | cons property rest ih =>
    rw [GraphMapper.bindProperties]
    cases identifier propertyRole property.1.toValue with
    | error fault => exact h
    | ok name => exact ih (h.bind property.2)

namespace Query

variable {query changed : Query} {requirements : List Requirement} {ρ : ℕ → ℕ}

/-- A statement that is written around the shared part has the parameters it was given. -/
theorem parameters_of_map {result : Except Fault String} {text : String → String}
    {parameters : Entries} {statement : Statement}
    (h : (result.map fun rows => Statement.mk (text rows) parameters) = .ok statement) :
    statement.parameters = parameters := by
  cases result with
  | error fault => exact absurd h (by simp [Except.map])
  | ok rows => rw [← Except.ok.inj h]

/-- The parameters of what is compiled have names that were drawn. -/
theorem Keeps.drawn_parameters (h : query.Keeps requirements) {inspection : Inspection}
    {statement : Statement} (hstatement : (inspection.compile query).1 = .ok statement) :
    ∀ e ∈ statement.parameters, ∃ name, e.1 = .text name ∧
      (inspection.compile query).2.allocator.Drawn name := by
  cases inspection with
  | select =>
    rw [Inspection.compile, Keeps.selectStatement_eq_map] at hstatement
    rw [parameters_of_map hstatement]
    exact (h.held "").drawn
  | count =>
    have hparameters : statement.parameters = query.parameters := parameters_of_map hstatement
    rw [hparameters]
    exact (h.held "").drawn
  | delete detach =>
    rw [Inspection.compile, Keeps.deleteStatement_eq_bind] at hstatement
    obtain ⟨-, -, hrows⟩ := exists_of_bind_eq_ok hstatement
    rw [parameters_of_map hrows]
    exact (h.held "").drawn
  | update attributes =>
    rw [Inspection.compile, updateStatement] at hstatement ⊢
    cases hguard : query.guardMutation .update with
    | error fault =>
      rw [hguard] at hstatement
      exact absurd hstatement (by simp)
    | ok _ =>
      rw [hguard] at hstatement
      cases hchanges : readChanges attributes with
      | error fault =>
        rw [hchanges] at hstatement
        exact absurd hstatement (by simp)
      | ok changes =>
        rw [hchanges] at hstatement
        obtain ⟨-, -, -, -, rfl⟩ := Keeps.bindChanges_eq_ok hstatement
        exact ((h.held "").bindProperties changes).drawn

/-- **What is compiled has drawn names only.** -/
theorem Keeps.drawn_compile (h : query.Keeps requirements) {inspection : Inspection}
    {statement : Statement} (hstatement : (inspection.compile query).1 = .ok statement) :
    statement.Drawn (inspection.compile query).2.allocator := by
  have hparameters := h.drawn_parameters hstatement
  cases inspection with
  | select => exact (h.carries_selectStatement hstatement).drawn hparameters
  | count => exact (h.carries_countStatement hstatement).drawn hparameters
  | delete detach => exact (h.carries_deleteStatement hstatement).drawn hparameters
  | update attributes => exact (h.carries_updateStatement hstatement).drawn hparameters

/-- What a step shows is renamed alike by functions that agree on the numbers drawn by then. -/
theorem Keeps.renamed_answer (h : query.Keeps requirements) {step : Step} {σ : ℕ → ℕ}
    (hstem : (step.after query).allocator.stem = "p")
    (hagree : ∀ n ≤ (step.after query).allocator.allocated, σ n = ρ n) :
    (step.answer? query).map (Except.map (Statement.renamed (renumber ρ))) =
      (step.answer? query).map (Except.map (Statement.renamed (renumber σ))) := by
  cases step with
  | inspect inspection =>
    rw [Step.answer?, Option.map_some, Option.map_some]
    cases hstatement : (inspection.compile query).1 with
    | error fault => rw [Except.map, Except.map]
    | ok statement =>
      have hdrawn := h.drawn_compile hstatement
      rw [Except.map, Except.map, Statement.renamed_congr hdrawn hstem hagree]
  | build call | aside inspection => rw [Step.answer?, Option.map_none, Option.map_none]

/-- Numbers up to `limit` as `ρ` has them, and later ones further on. -/
def shifted (ρ : ℕ → ℕ) (limit distance n : ℕ) : ℕ := if n ≤ limit then ρ n else ρ n + distance

theorem strictMono_shifted (hρ : StrictMono ρ) (limit distance : ℕ) :
    StrictMono (shifted ρ limit distance) := by
  intro m n hlt
  have himage := hρ hlt
  rw [shifted, shifted]
  split <;> split <;> omega

namespace Renamed

/-- **A step that one run makes alone** draws names that the other one does not.  The numbers that
have been drawn before correspond as they did. -/
theorem aside (hρ : StrictMono ρ) (hkeeps : query.Keeps requirements)
    (h : Renamed ρ query changed) (inspection : Inspection) :
    ∃ σ : ℕ → ℕ, StrictMono σ ∧ (∀ n ≤ query.allocator.allocated, σ n = ρ n) ∧
      Renamed σ query (inspection.compile changed).2 := by
  obtain ⟨allocator, hle, hquery⟩ := changed.compile_snd inspection
  have hstem : query.allocator.stem = "p" := h.binding.stem
  have hearlier : ∀ n ≤ query.allocator.allocated,
      shifted ρ query.allocator.allocated (allocator.allocated - changed.allocator.allocated) n =
        ρ n := fun n hn => if_pos hn
  refine ⟨_, strictMono_shifted hρ _ _, hearlier, ?_⟩
  rw [hquery]
  refine ⟨h.labels, h.sorting, h.limit, ?_, hstem, ?_, ?_, fun j => ?_⟩
  · change changed.conditions = _
    rw [h.conditions]
    refine List.map_congr_left fun condition hcondition => ?_
    have hdrawn : query.allocator.Drawn condition.parameter :=
      (hkeeps.held "").drawn_of_mem (List.mem_map_of_mem hcondition)
    rw [Condition.renamed, Condition.renamed, renumber_congr hstem hearlier hdrawn]
  · exact hle.1.symm.trans h.binding.changedStem
  · have hparameters : changed.parameters = query.parameters.renamed (renumber ρ) :=
      h.binding.parameters
    change changed.parameters = _
    rw [hparameters]
    refine Entries.renamed_congr fun e he => ?_
    obtain ⟨name, hkey, hdrawn⟩ := (hkeeps.held "").drawn e he
    exact ⟨name, hkey, (renumber_congr hstem hearlier hdrawn).symm⟩
  · have hnext : ρ (query.allocator.allocated + (j + 1)) =
        changed.allocator.allocated + (j + 1) := h.binding.next j
    have hlater : changed.allocator.allocated ≤ allocator.allocated := hle.2
    change shifted ρ _ _ (query.allocator.allocated + (j + 1)) = allocator.allocated + (j + 1)
    rw [shifted, if_neg (by omega), hnext]
    omega

/-- **Two runs**, one with the asides and one without them, show the same but for the numbers.  One
function on the numbers does for the whole history: the asides of the rest shift only numbers that
have not been drawn yet. -/
theorem withoutAsides (hρ : StrictMono ρ) (hkeeps : query.Keeps requirements)
    (h : Renamed ρ query changed) (steps : List Step) :
    ∃ σ : ℕ → ℕ, StrictMono σ ∧ (∀ n ≤ query.allocator.allocated, σ n = ρ n) ∧
      changed.answers steps = (query.answers (Query.withoutAsides steps)).map
        (Except.map (Statement.renamed (renumber σ))) ∧
      Renamed σ (query.afterSteps (Query.withoutAsides steps)) (changed.afterSteps steps) := by
  induction steps generalizing query changed requirements ρ with
  | nil => exact ⟨ρ, hρ, fun _ _ => rfl, rfl, h⟩
  | cons step steps ih =>
    cases hstep : step.isAside with
    | true =>
      cases step with
      | aside inspection =>
        obtain ⟨τ, hτ, hdrawn, hafter⟩ := h.aside hρ hkeeps inspection
        obtain ⟨σ, hσ, hagree, hanswers, hend⟩ := ih hτ hkeeps hafter
        exact ⟨σ, hσ, fun n hn => (hagree n hn).trans (hdrawn n hn), hanswers, hend⟩
      | _ => exact absurd hstep (by simp [Step.isAside])
    | false =>
      obtain ⟨hanswer, hafter⟩ := h.step hρ.injective hkeeps hstep
      obtain ⟨σ, hσ, hagree, hanswers, hend⟩ := ih hρ (hkeeps.step step) hafter
      have hkept : Query.withoutAsides (step :: steps) = step :: Query.withoutAsides steps := by
        rw [Query.withoutAsides, List.filter_cons, hstep]
        rfl
      refine ⟨σ, hσ, fun n hn => hagree n (hn.trans (Later.step query step).allocator.2), ?_, ?_⟩
      · -- what is shown now has names that are drawn by now, on which the functions agree
        have hsame : step.answer? changed =
            (step.answer? query).map (Except.map (Statement.renamed (renumber σ))) := by
          rw [hanswer]
          exact hkeeps.renamed_answer hafter.binding.stem hagree
        rw [hkept, answers, answers, hsame, hanswers, List.map_append, Option.toList_map]
      · rw [hkept]
        exact hend

end Renamed

/-- **Compiling is inspection.**  Put any compilations, refused ones included, anywhere into the
history of a new query.  There is one increasing function on the numbers of the placeholders such
that all statements and faults that the history shows, and whatever it goes on to show, are those
that it would show without them, renamed in the text and in the parameters alike.  Labels, ordering
and limit are the same, and the query has bound the values of its own conditions and no others. -/
theorem answers_renamed {given : List Value} {fresh : Query}
    (h : Query.ofLabels given = .ok fresh) (steps : List Step) :
    ∃ ρ : ℕ → ℕ, StrictMono ρ ∧ Function.Injective (renumber ρ) ∧
      (∀ n, renumber ρ (({} : Allocator).nameAt n) = ({} : Allocator).nameAt (ρ n)) ∧
      ∀ later : List Step, (∀ step ∈ later, step.isAside = false) →
        ∀ query changed : Query, query = fresh.afterSteps (withoutAsides steps ++ later) →
          changed = fresh.afterSteps (steps ++ later) →
          fresh.answers (steps ++ later) = (fresh.answers (withoutAsides steps ++ later)).map
              (Except.map (Statement.renamed (renumber ρ))) ∧
            changed.labels = query.labels ∧ changed.sorting = query.sorting ∧
            changed.limit = query.limit ∧
            changed.parameters = query.parameters.renamed (renumber ρ) ∧
            changed.Tidy ∧
            changed.conditions.map
                (fun condition => changed.parameters.get? (.text condition.parameter)) =
              ((steps ++ later).filterMap Step.requirement?).map
                fun requirement => some requirement.value := by
  have hfresh : fresh.Keeps [] := Keeps.ofLabels h
  obtain ⟨ρ, hρ, -, hanswers, hend⟩ :=
    (Renamed.ofLabels h).withoutAsides strictMono_id hfresh steps
  refine ⟨ρ, hρ, renumber_injective hρ.injective, renumber_nameAt, ?_⟩
  rintro later hlater query changed rfl rfl
  have hkeeps := hfresh.afterSteps (withoutAsides steps)
  obtain ⟨hmore, hrenamed⟩ := hend.afterSteps hρ.injective hkeeps hlater
  rw [← afterSteps_append, ← afterSteps_append] at hrenamed
  refine ⟨?_, hrenamed.labels, hrenamed.sorting, hrenamed.limit, hrenamed.binding.parameters,
    (tidy_ofLabels h).afterSteps hfresh _, (hfresh.afterSteps _).map_get?⟩
  rw [answers_append, answers_append, hanswers, hmore, List.map_append]

/-- A search that is looked at while it is built.  The first aside is refused at its second key,
after it has drawn a placeholder for the first one. -/
def watchedSearch : List Step :=
  [.build (.«where» (.text "age") (.text ">") (some (.int 25))),
    .aside (.update (.map [(.text "age", .int 26), (.text "bad key", .int 1)])),
    .inspect .select,
    .build (.orWhere (.text "city") (.text "Oakland") none),
    .aside (.update (.map [(.text "city", .text "Salem")])),
    .aside (.delete true)]

/-- What becomes of it. -/
def birthday : List Step := [.inspect (.update (.map [(.text "age", .int 30)]))]

/-- The texts of what a history shows. -/
def answerTexts (query : Query) (steps : List Step) : List (Option String) :=
  (query.answers steps).map fun answer => answer.toOption.map Statement.text

/-- With the asides the second condition gets the third placeholder instead of the second, and the
assignment gets the fifth instead of the third. -/
theorem answers_renamed_watchedSearch :
    ∃ fresh ρ, Query.ofLabels [.text "Person"] = .ok fresh ∧
      (∀ step ∈ birthday, step.isAside = false) ∧ StrictMono ρ ∧
      fresh.answerTexts (withoutAsides watchedSearch ++ birthday) =
        [some "MATCH (n:Person) WHERE n.age > $p1 RETURN n",
          some ("MATCH (n:Person) WHERE n.age > $p1 OR n.city = $p2 SET n.age = $p3" ++
            " RETURN count(n) AS updated")] ∧
      fresh.answerTexts (watchedSearch ++ birthday) =
        [some "MATCH (n:Person) WHERE n.age > $p1 RETURN n",
          some ("MATCH (n:Person) WHERE n.age > $p1 OR n.city = $p3 SET n.age = $p5" ++
            " RETURN count(n) AS updated")] ∧
      fresh.answers (watchedSearch ++ birthday) =
        (fresh.answers (withoutAsides watchedSearch ++ birthday)).map
          (Except.map (Statement.renamed (renumber ρ))) := by
  have hfresh : Query.ofLabels [.text "Person"] = .ok { labels := ["Person"] } := rfl
  have hbirthday : ∀ step ∈ birthday, step.isAside = false := by
    intro step hstep
    rw [List.mem_singleton.mp hstep]
    rfl
  obtain ⟨ρ, hρ, -, -, hanswers⟩ := answers_renamed hfresh watchedSearch
  exact ⟨_, ρ, hfresh, hbirthday, hρ, by decide +kernel, by decide +kernel,
    (hanswers _ hbirthday _ _ rfl rfl).1⟩

end Query

end GraphMapper
