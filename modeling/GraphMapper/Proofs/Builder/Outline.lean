import GraphMapper.Proofs.Builder.Call
import GraphMapper.Proofs.Entries
import GraphMapper.Proofs.Names
import GraphMapper.Query.Statements
import Mathlib.Data.List.Induction

/-!
# What a history of calls compiles to

A query is a state that calls change one after the other.  An `Outline` is the opposite: it is
read off a whole history at once, without a state.  The labels, the ordering and the limit are
those of the last call that asked for any; the requirements are those of all calls that asked for
one, in the order of the calls; a refused call asks for nothing and so does not occur.

## 1.  The outline of a history

`Outline.statement` writes the statement down from these four parts.  It numbers the requirements
from one and does not mention an allocator, a placeholder that was drawn, or a query.

## 2.  The query of an outline

`Outline.query` is the state that an outline stands for, and `afterCalls_eq` says that every
history of calls on a new query ends in the query of its outline.  The induction is on the
history from its end, because the outline of a longer history differs from that of a shorter one
at the end only; the step is `QueryCall.after_eq`, which knows no refusals any more.

## 3.  The statement of a history

`selectStatement_afterCalls` puts the two together.
-/

namespace GraphMapper

/-- What a query says, read off its history. -/
structure Outline where
  labels : List String
  requirements : List Requirement
  sorting : Option Sorting
  limit : Option Nat

namespace Outline

/-! ## 1.  The outline of a history -/

/-- The outline of a history of calls. -/
def ofCalls (calls : List QueryCall) : Outline where
  labels := ((calls.filterMap QueryCall.labels?).getLast?.getD []).eraseDups
  requirements := calls.filterMap QueryCall.requirement?
  sorting := (calls.filterMap QueryCall.sorting?).getLast?
  limit := (calls.filterMap QueryCall.limit?).getLast?

/-- The placeholder of a number. -/
def placeholder (n : Nat) : String := "p" ++ Nat.repr n

/-- A requirement as it is written with its number. -/
def requirementText (entry : Requirement × Nat) : String :=
  "n." ++ entry.1.field ++ " " ++ entry.1.operator.text ++ " $" ++ placeholder entry.2

/-- A requirement that follows another one. -/
def joinedText (entry : Requirement × Nat) : String :=
  " " ++ entry.1.connective.text ++ " " ++ requirementText entry

/-- The filter: the first requirement without its connective, every other one with it. -/
def filterText : List (Requirement × Nat) → String
  | [] => ""
  | first :: rest => " WHERE " ++ requirementText first ++ String.join (rest.map joinedText)

/-- The ordering as it is written. -/
def sortingText : Option Sorting → String
  | some sorting => " ORDER BY n." ++ sorting.field ++ " " ++ sorting.direction.text
  | none => ""

/-- The limit as it is written. -/
def limitText : Option Nat → String
  | some count => " LIMIT " ++ Nat.repr count
  | none => ""

variable (outline : Outline)

/-- The requirements with their numbers. -/
def numbered : List (Requirement × Nat) := outline.requirements.zipIdx 1

/-- The text of the statement. -/
def text : String :=
  "MATCH (n" ++ String.join (outline.labels.map (":" ++ ·)) ++ ")" ++
    filterText outline.numbered ++ " RETURN n" ++ sortingText outline.sorting ++
    limitText outline.limit

/-- The values of the requirements under their placeholders. -/
def parameters : Entries :=
  outline.numbered.map fun entry => (.text (placeholder entry.2), entry.1.value)

/-- The statement that an outline describes. -/
def statement : Statement := ⟨outline.text, outline.parameters⟩

/-- The keys are the placeholders of the numbers from one on, one for each requirement. -/
theorem keys_parameters :
    outline.parameters.keys =
      (List.range' 1 outline.requirements.length).map fun n => .text (placeholder n) := by
  rw [Entries.keys, parameters, List.map_map, numbered]
  rw [← List.zipIdx_map_snd 1 outline.requirements, List.map_map]
  rfl

/-! ## 2.  The query of an outline -/

/-- The query that an outline stands for. -/
def query : Query where
  labels := outline.labels
  conditions := outline.numbered.map fun entry => entry.1.toCondition (placeholder entry.2)
  parameters := outline.parameters
  sorting := outline.sorting
  limit := outline.limit
  allocator := ⟨"p", outline.requirements.length⟩

/-- An outline with one more requirement. -/
def require (requirement : Requirement) : Outline :=
  { outline with requirements := outline.requirements ++ [requirement] }

theorem numbered_require (requirement : Requirement) :
    (outline.require requirement).numbered =
      outline.numbered ++ [(requirement, outline.requirements.length + 1)] := by
  rw [numbered, require, List.zipIdx_append, Nat.add_comm]
  rfl

theorem placeholder_injective : Function.Injective placeholder :=
  Allocator.nameAt_injective {}

/-- The placeholder after those of an outline is not bound yet. -/
theorem get?_parameters_fresh :
    outline.parameters.get? (.text (placeholder (outline.requirements.length + 1))) = none := by
  rw [Entries.get?_eq_none_iff, parameters]
  intro e he
  obtain ⟨entry, hentry, rfl⟩ := List.mem_map.mp he
  have hlt : entry.2 < 1 + outline.requirements.length :=
    (List.mem_zipIdx hentry).2.1
  rw [Key.same_text, beq_eq_false_iff_ne]
  intro h
  have := placeholder_injective h
  omega

/-- Requiring more of the query of an outline is requiring more of the outline. -/
theorem query_require (requirement : Requirement) :
    outline.query.require requirement = (outline.require requirement).query := by
  have hfresh : outline.query.allocator.fresh = placeholder (outline.requirements.length + 1) :=
    rfl
  have hparameters : (outline.require requirement).parameters =
      outline.parameters.put (.text (placeholder (outline.requirements.length + 1)))
        requirement.value := by
    rw [Entries.put_of_get?_eq_none outline.get?_parameters_fresh, parameters, parameters,
      numbered_require, List.map_append]
    rfl
  rw [Query.require, Query.append, hfresh, query, query, hparameters, numbered_require,
    List.map_append, require, List.length_append]
  rfl

/-- What the last call of a history asked for comes last. -/
theorem getLast?_filterMap_concat {α β : Type} (f : α → Option β) (l : List α) (a : α) :
    ((l ++ [a]).filterMap f).getLast? = (f a).or (l.filterMap f).getLast? := by
  cases h : f a with
  | none => simp [List.filterMap_append, h]
  | some b => simp [List.filterMap_append, h]

/-- The outline of a history with one more call. -/
theorem query_ofCalls_concat (calls : List QueryCall) (call : QueryCall) :
    (ofCalls (calls ++ [call])).query = call.granted (ofCalls calls).query := by
  have hlabels : (ofCalls (calls ++ [call])).labels =
      (call.labels?.map distinct).getD (ofCalls calls).labels := by
    change (((calls ++ [call]).filterMap QueryCall.labels?).getLast?.getD []).eraseDups = _
    rw [getLast?_filterMap_concat]
    cases call.labels? with
    | none => rfl
    | some names => exact (distinct_eq_eraseDups names).symm
  have hrequired : call.requirement?.elim (ofCalls calls).query (ofCalls calls).query.require =
      (call.requirement?.elim (ofCalls calls) (ofCalls calls).require).query := by
    cases call.requirement? with
    | none => rfl
    | some requirement => exact query_require _ requirement
  have hrequirements : (ofCalls (calls ++ [call])).requirements =
      (call.requirement?.elim (ofCalls calls) (ofCalls calls).require).requirements := by
    change (calls ++ [call]).filterMap QueryCall.requirement? = _
    rw [List.filterMap_append]
    cases h : call.requirement? with
    | none => simp [ofCalls, h]
    | some requirement => simp [ofCalls, require, h]
  rw [QueryCall.granted, hrequired]
  simp only [query, numbered, parameters, hlabels, hrequirements]
  congr 1
  · exact getLast?_filterMap_concat ..
  · exact getLast?_filterMap_concat ..

end Outline

/-- A new query is the query of the outline of its labels. -/
theorem Query.eq_query_of_ofLabels {given : List Value} {fresh : Query}
    (h : Query.ofLabels given = .ok fresh) :
    fresh = (Outline.ofCalls [.label given]).query := by
  obtain ⟨names, hnames, rfl⟩ := Query.ofLabels_eq_ok h
  have hlabels : QueryCall.labels? (.label given) = some names := by
    rw [QueryCall.labels?, hnames]
    rfl
  rw [distinct_eq_eraseDups]
  simp only [Outline.query, Outline.ofCalls, Outline.numbered, Outline.parameters,
    List.filterMap_cons, hlabels, QueryCall.requirement?, QueryCall.sorting?,
    QueryCall.limit?, List.filterMap_nil]
  rfl

/-- **Every history of calls on a new query ends in the query of its outline.** -/
theorem Query.afterCalls_eq {given : List Value} {fresh : Query}
    (h : Query.ofLabels given = .ok fresh) (calls : List QueryCall) :
    fresh.afterCalls calls = (Outline.ofCalls (.label given :: calls)).query := by
  induction calls using List.reverseRecOn with
  | nil => exact Query.eq_query_of_ofLabels h
  | append_singleton calls call ih =>
    have hstep : fresh.afterCalls (calls ++ [call]) = call.after (fresh.afterCalls calls) :=
      List.foldl_append ..
    rw [hstep, ih, QueryCall.after_eq, ← Outline.query_ofCalls_concat, List.cons_append]

/-! ## 3.  The statement of a history -/

namespace Outline

/-- The labels of an outline were accepted. -/
theorem isIdentifier_of_mem_labels {calls : List QueryCall} {name : String}
    (h : name ∈ (ofCalls calls).labels) : isIdentifier name = true := by
  rw [ofCalls, List.mem_eraseDups] at h
  cases hlast : (calls.filterMap QueryCall.labels?).getLast? with
  | none =>
    rw [hlast] at h
    exact absurd h List.not_mem_nil
  | some names =>
    rw [hlast] at h
    obtain ⟨call, -, hnames⟩ := List.mem_filterMap.mp (List.mem_of_getLast? hlast)
    exact QueryCall.isIdentifier_of_labels? hnames name h

/-- The rest of a chain, written from numbered requirements. -/
theorem chainRest_numbered (entries : List (Requirement × ℕ)) :
    chainRest (entries.map fun entry =>
      (entry.1.toCondition (placeholder entry.2), Query.variableName)) =
        String.join (entries.map joinedText) := by
  induction entries with
  | nil => rfl
  | cons entry rest ih =>
    rw [List.map_cons, List.map_cons, chainRest, String.join_cons, ih]
    rfl

/-- The filter of the query of an outline. -/
theorem whereClause_query (outline : Outline) :
    outline.query.whereClause Query.variableName = filterText outline.numbered := by
  rw [Query.whereClause, whereClause, whereClauseFor, query, List.map_map]
  cases outline.numbered with
  | nil => rfl
  | cons first rest =>
    rw [List.map_cons, List.isEmpty_cons, if_neg Bool.false_ne_true, chain, filterText]
    change " WHERE " ++ (requirementText first ++ chainRest (rest.map fun entry =>
      (entry.1.toCondition (placeholder entry.2), Query.variableName))) = _
    rw [chainRest_numbered, String.append_assoc]

/-- The query of an outline with accepted labels compiles to the statement of the outline. -/
theorem selectStatement_query {outline : Outline}
    (h : ∀ name ∈ outline.labels, isIdentifier name = true) :
    outline.query.selectStatement = .ok outline.statement := by
  have hpattern : outline.query.matchClause Query.variableName =
      .ok ("MATCH (n" ++ Fault.labelsText outline.labels ++ ")") := by
    rw [Query.matchClause, query, labelFragment_map_text h]
    rfl
  have hsorting : Query.sortingClause outline.query.sorting = sortingText outline.sorting := by
    change Query.sortingClause outline.sorting = _
    cases outline.sorting <;> rfl
  have hlimit : Query.limitClause outline.query.limit = limitText outline.limit := by
    change Query.limitClause outline.limit = _
    cases outline.limit <;> rfl
  rw [Query.selectStatement, Query.rows, hpattern, hsorting, hlimit, whereClause_query]
  have hreturn (s : String) : s ++ " RETURN " ++ Query.variableName = s ++ " RETURN n" :=
    String.append_assoc
  have htext : "MATCH (n" ++ Fault.labelsText outline.labels ++ ")" ++
      filterText outline.numbered ++ " RETURN " ++ Query.variableName ++
      sortingText outline.sorting ++ limitText outline.limit = outline.text :=
    congrArg (· ++ sortingText outline.sorting ++ limitText outline.limit) (hreturn _)
  exact congrArg (fun text => Except.ok (Statement.mk text outline.parameters)) htext

end Outline

/-- **The statement of a history of calls.**  A new query on which calls were made, refused ones
included, compiles to the statement of the outline of the history, which binds exactly the
placeholders with the numbers from one to the number of requirements.  A call succeeds exactly if
it asks for something, so the requirements are those of the calls that succeeded; a refused call
can be left out of the history, and neighbours of different kinds can change places. -/
theorem selectStatement_afterCalls {given : List Value} {fresh : Query}
    (h : Query.ofLabels given = .ok fresh) (calls : List QueryCall) :
    (fresh.afterCalls calls).selectStatement =
        .ok (Outline.ofCalls (.label given :: calls)).statement ∧
      (Outline.ofCalls (.label given :: calls)).statement.parameters.keys =
        (List.range' 1 (calls.filterMap QueryCall.requirement?).length).map
          (fun n => .text (Outline.placeholder n)) ∧
      (∀ call query, (QueryCall.perform call query).isOk = call.asks) ∧
      (∀ before call rest fault, calls = before ++ call :: rest →
        call.perform (fresh.afterCalls before) = .error fault →
        fresh.afterCalls calls = fresh.afterCalls (before ++ rest)) ∧
      (∀ before first second rest, calls = before ++ first :: second :: rest →
        first.kind ≠ second.kind →
        fresh.afterCalls calls = fresh.afterCalls (before ++ second :: first :: rest)) := by
  refine ⟨?_, ?_, QueryCall.isOk_perform, ?_, ?_⟩
  · rw [Query.afterCalls_eq h]
    exact Outline.selectStatement_query fun _ => Outline.isIdentifier_of_mem_labels
  · exact Outline.keys_parameters _
  · rintro before call rest fault rfl hfault
    rw [Query.afterCalls, Query.afterCalls, List.foldl_append, List.foldl_append,
      List.foldl_cons]
    rw [Query.afterCalls] at hfault
    rw [QueryCall.after_of_perform_eq_error hfault]
  · rintro before first second rest rfl hkind
    rw [Query.afterCalls, Query.afterCalls, List.foldl_append, List.foldl_append,
      List.foldl_cons, List.foldl_cons, List.foldl_cons, List.foldl_cons,
      QueryCall.after_comm hkind]

/-- A history with a refused operator and two limits. -/
theorem selectStatement_afterCalls_people :
    ∃ fresh, Query.ofLabels [.text "Person"] = .ok fresh ∧
      (fresh.afterCalls
        [.«where» (.text "age") (.text ">") (some (.int 25)), .limit (.int 9),
          .orWhere (.text "age") (.text "about") (some (.int 7)),
          .orWhere (.text "city") (.text "Oakland") none, .limit (.int 5)]).selectStatement =
        .ok ⟨"MATCH (n:Person) WHERE n.age > $p1 OR n.city = $p2 RETURN n LIMIT 5",
          [(.text "p1", .int 25), (.text "p2", .text "Oakland")]⟩ := by
  have hfresh : Query.ofLabels [.text "Person"] = .ok { labels := ["Person"] } := rfl
  refine ⟨_, hfresh, (selectStatement_afterCalls hfresh _).1.trans ?_⟩
  refine congrArg Except.ok ?_
  rw [Outline.statement, Statement.mk.injEq]
  exact ⟨by decide +kernel, rfl⟩

end GraphMapper
