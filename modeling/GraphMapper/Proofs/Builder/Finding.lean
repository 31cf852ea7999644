import GraphMapper.Proofs.Builder.Journal
import GraphMapper.Proofs.Reading.Selection
import GraphMapper.Query.Terminals

/-!
# What finding by identity finds

Looking for a node by its identity adds one more condition to the query, joined by "and", and asks
for one node.  The conditions before it may contain an "or", and there are no parentheses: the new
condition then joins the last alternative only, and a node that meets an earlier one is found
whatever its identity is.

The argument has three steps.  The text of a query is read back as the selection that the query
stands for (`Query.Keeps.readSelection`).  Which nodes pass this selection is said by what was asked
for, without placeholders (`Query.Keeps.passes_selection`).  The last requirement, which is the
identity, is then split off (`sought_iff`).

* `Sought`: what a node must meet to be found, from the calls and the identity alone.
* `find_afterCalls`: after any calls, what is sent selects the nodes that are sought, and what is
  returned is one of those that the store returned.
-/

namespace GraphMapper

/-! ## 1.  What was asked for, and what it means -/

/-- Whether a node meets a requirement. -/
def Requirement.meets (meaning : Meaning) (node : StoredNode) (requirement : Requirement) : Bool :=
  meaning requirement.operator (node.property (readName requirement.field)) requirement.value

/-- The alternatives of what was asked for. -/
def Requirement.alternatives (requirements : List Requirement) : List (List Requirement) :=
  GraphMapper.alternatives (requirements.map fun requirement =>
    (requirement.connective, requirement))

/-- What a node must meet to be found under an identity: one of the alternatives before the last,
or the last and the identity. -/
def Sought (meaning : Meaning) (requirements : List Requirement) (identity : Value)
    (node : StoredNode) : Prop :=
  (∃ block ∈ (Requirement.alternatives requirements).dropLast,
      ∀ requirement ∈ block, requirement.meets meaning node = true) ∨
    ((∀ requirement ∈ (Requirement.alternatives requirements).getLast?.getD [],
        requirement.meets meaning node = true) ∧
      meaning .equal node.identity identity = true)

/-- The requirement that finding adds. -/
def Requirement.ofIdentity (identity : Value) : Requirement := ⟨identityKey, .equal, identity, .and⟩

theorem Requirement.meets_ofIdentity (meaning : Meaning) (node : StoredNode) (identity : Value) :
    (ofIdentity identity).meets meaning node = meaning .equal node.identity identity := by
  have hname : readName identityKey = identityKey := by decide +kernel
  rw [meets, ofIdentity, hname]
  rfl

/-- The identity joins the last alternative. -/
theorem Requirement.alternatives_concat_ofIdentity (requirements : List Requirement)
    (identity : Value) :
    alternatives (requirements ++ [ofIdentity identity]) =
      (alternatives requirements).dropLast ++
        [((alternatives requirements).getLast?.getD []) ++ [ofIdentity identity]] := by
  cases requirements with
  | nil => rfl
  | cons first rest =>
    rw [alternatives, alternatives, List.cons_append, List.map_cons, List.map_append,
      List.map_cons]
    exact alternativesFrom_concat first (ofIdentity identity) _

/-- **What is sought is what meets an alternative**, with the identity asked for as well. -/
theorem sought_iff (meaning : Meaning) (requirements : List Requirement) (identity : Value)
    (node : StoredNode) :
    Sought meaning requirements identity node ↔
      ∃ block ∈ Requirement.alternatives (requirements ++ [Requirement.ofIdentity identity]),
        ∀ requirement ∈ block, requirement.meets meaning node = true := by
  rw [Requirement.alternatives_concat_ofIdentity]
  simp only [List.mem_append, List.mem_singleton, or_and_right, exists_or, exists_eq_left,
    or_imp, forall_and, forall_eq, Requirement.meets_ofIdentity]
  rfl

/-- Without an "or" after the first requirement only nodes with the identity are sought. -/
theorem Sought.identity {meaning : Meaning} {requirements : List Requirement} {identity : Value}
    {node : StoredNode} (h : Sought meaning requirements identity node)
    (hand : ∀ requirement ∈ requirements.tail, requirement.connective = .and) :
    meaning .equal node.identity identity = true := by
  rcases h with ⟨block, hblock, -⟩ | ⟨-, hidentity⟩
  · -- There is one alternative at most, so there is none before the last.
    have hnone : (Requirement.alternatives requirements).dropLast = [] := by
      cases requirements with
      | nil => rfl
      | cons first rest =>
        rw [Requirement.alternatives, List.map_cons, alternatives,
          alternativesFrom_of_and first fun e he => ?_]
        · rfl
        · obtain ⟨requirement, hrequirement, rfl⟩ := List.mem_map.mp he
          exact hand requirement hrequirement
    rw [hnone] at hblock
    exact absurd hblock List.not_mem_nil
  · exact hidentity

/-! ## 2.  The selection that a query stands for -/

namespace Query

/-- The selection that a query stands for, as it is read. -/
def selection (query : Query) : Selection where
  labels := query.labels.map readName
  filter := Condition.toFilter query.conditions
  sorting := query.sorting.map fun sorting => (readName sorting.field, sorting.direction.text)
  limit := query.limit.map Nat.repr

/-- The ordering as it is read. -/
def sortingTokens : Option Sorting → List Token
  | some sorting => [.word "ORDER", .word "BY", .word variableName, .mark '.',
      .word (readName sorting.field), .word sorting.direction.text]
  | none => []

/-- The limit as it is read. -/
def limitTokens : Option ℕ → List Token
  | some count => [.word "LIMIT", .word (Nat.repr count)]
  | none => []

theorem closed_sortingClause (sorting : Option Sorting) : Closed (sortingClause sorting) := by
  cases sorting with
  | none => exact closed_empty
  | some sorting =>
    have hlead : Closed " ORDER BY " := closed_of_toList_eq rfl (by decide)
    change Closed (" ORDER BY " ++ variableName ++ "." ++ sorting.field ++ " " ++
      sorting.direction.text)
    simp only [String.append_assoc]
    exact closed_append_left hlead (by decide)

theorem closed_limitClause (limit : Option ℕ) : Closed (limitClause limit) := by
  cases limit with
  | none => exact closed_empty
  | some count => exact closed_append_left (closed_of_toList_eq rfl (by decide)) (by decide)

theorem tokens_sortingClause {sorting : Option Sorting}
    (h : ∀ asked ∈ sorting, isIdentifier asked.field = true) :
    tokens (sortingClause sorting) = sortingTokens sorting := by
  cases sorting with
  | none => rfl
  | some sorting =>
    have htext : sortingClause (some sorting) =
        " ORDER BY n." ++ (sorting.field ++ (" " ++ sorting.direction.text)) := by
      change " ORDER BY n" ++ "." ++ sorting.field ++ " " ++ sorting.direction.text = _
      simp only [String.append_assoc]
      rfl
    have hlead : Shut " ORDER BY n.".toList := by decide
    have hdirection : tokens sorting.direction.text = [.word sorting.direction.text] := by
      cases sorting.direction <;> decide +kernel
    have hspace : tokens " " = [] := by decide
    have hfield : tokens sorting.field = [.word (readName sorting.field)] :=
      tokens_of_isIdentifier (h sorting rfl)
    have hentry : tokens (sorting.field ++ (" " ++ sorting.direction.text)) =
        [.word (readName sorting.field), .word sorting.direction.text] := by
      rw [tokens_separated (by decide), hfield, hspace, hdirection]
      rfl
    rw [htext, tokens_append_of_shut hlead, hentry]
    rfl

theorem tokens_limitClause (limit : Option ℕ) : tokens (limitClause limit) = limitTokens limit := by
  cases limit with
  | none => rfl
  | some count =>
    have hlead : Shut " LIMIT ".toList := by decide
    have hne : (Nat.repr count).toList ≠ [] := fun hnil =>
      Nat.repr_ne_empty (String.toList_eq_nil_iff.mp hnil)
    have hcount : tokens (Nat.repr count) = [.word (Nat.repr count)] := by
      rw [tokens, tokensFrom_name (fun _ hc => isNameChar_of_mem_repr hc) hne, String.ofList_toList]
    rw [limitClause, tokens_append_of_shut hlead, hcount]
    rfl

theorem limit?_limitTokens (limit : Option ℕ) :
    Reading.limit? (limitTokens limit) = some (limit.map Nat.repr) := by
  cases limit <;> rfl

theorem sorting_sortingTokens (sorting : Option Sorting) (limit : Option ℕ) :
    Reading.sorting variableName (sortingTokens sorting ++ limitTokens limit) =
      (sorting.map fun asked => (readName asked.field, asked.direction.text),
        limitTokens limit) := by
  cases sorting with
  | none => cases limit <;> rfl
  | some sorting => rfl

/-- What stands after the filter has no placeholder. -/
theorem bare_tail (sorting : Option Sorting) (limit : Option ℕ) :
    Reading.Bare (tokens " RETURN n" ++ (sortingTokens sorting ++ limitTokens limit)) := by
  have hreturn : (tokens " RETURN n").all (fun token => !token.isPlaceholder) = true := by
    decide +kernel
  have hsorting : Reading.Bare (sortingTokens sorting) := by
    rw [Reading.Bare]
    cases sorting <;> rfl
  have hlimit : Reading.Bare (limitTokens limit) := by
    rw [Reading.Bare]
    cases limit <;> rfl
  exact Reading.Bare.append hreturn (hsorting.append hlimit)

namespace Keeps

variable {query : Query} {requirements : List Requirement}

/-- A condition of a query can be read. -/
theorem readable (h : query.Keeps requirements) {condition : Condition}
    (hcondition : condition ∈ query.conditions) :
    Condition.Readable (condition, variableName) := by
  have hheld := h.held variableName
  have hmem : (condition, variableName) ∈ query.conditions.map (·, variableName) :=
    List.mem_map_of_mem hcondition
  have hvar : isName variableName.toList = true := by decide
  have hdrawn := hheld.drawn_of_mem hmem
  exact ⟨hvar, hheld.isIdentifier_field hmem, hdrawn.isNameChar h.stem, hdrawn.ne_empty⟩

/-- The tokens of the text of a query. -/
theorem tokens_selectText (h : query.Keeps requirements) :
    tokens ("MATCH (n" ++ Fault.labelsText query.labels ++ ")" ++
      query.whereClause variableName ++ " RETURN n" ++ sortingClause query.sorting ++
      limitClause query.limit) =
        tokens "MATCH (n" ++ (labelTokens (query.labels.map readName) ++ (tokens ")" ++
          (tokens (query.whereClause variableName) ++ (tokens " RETURN n" ++
            (sortingTokens query.sorting ++ limitTokens query.limit))))) := by
  have hbracket : Closed ")" := closed_of_toList_eq rfl (by decide)
  have hreturn : Closed " RETURN n" := closed_of_toList_eq rfl (by decide)
  have hfilter : Closed (query.whereClause variableName) := closed_whereClauseFor _
  rw [tokens_append _ (closed_limitClause _), tokens_append _ (closed_sortingClause _),
    tokens_append _ hreturn, tokens_append _ hfilter, tokens_append _ hbracket,
    tokens_append _ (closed_labelsText _), tokens_labelsText h.labels,
    tokens_sortingClause h.sorting, tokens_limitClause]
  simp only [List.append_assoc]

/-- **The text of a query is read as the selection that it stands for.** -/
theorem readSelection (h : query.Keeps requirements) :
    ∃ text, query.selectStatement = .ok ⟨text, query.parameters⟩ ∧
      GraphMapper.readSelection text = some query.selection := by
  have hpattern : query.matchClause variableName =
      .ok ("MATCH (n" ++ Fault.labelsText query.labels ++ ")") := by
    rw [matchClause, labelFragment_map_text h.labels]
    rfl
  refine ⟨"MATCH (n" ++ Fault.labelsText query.labels ++ ")" ++ query.whereClause variableName ++
    " RETURN n" ++ sortingClause query.sorting ++ limitClause query.limit, ?_, ?_⟩
  · have hreturn (shared : String) : shared ++ " RETURN " ++ variableName = shared ++ " RETURN n" :=
      String.append_assoc
    rw [selectStatement, rows, hpattern, ← hreturn]
    rfl
  obtain ⟨cut, hpieces, hfilter⟩ := filter?_whereClause (fun condition => h.readable)
    (bare_tail query.sorting query.limit)
  exact readSelection_of_parts h.tokens_selectText hpieces hfilter
    (sorting_sortingTokens query.sorting query.limit) (limit?_limitTokens query.limit)

/-- A condition holds of a node if and only if the node meets the requirement. -/
theorem holds_eq_meets {parameters : Entries} {condition : Condition × String}
    {requirement : Requirement × String} (h : Requirement.Met parameters condition requirement)
    (meaning : Meaning) (node : StoredNode) :
    condition.1.toComparison.holds meaning parameters node =
      requirement.1.meets meaning node := by
  have hcondition : condition.1 = requirement.1.toCondition condition.1.parameter :=
    congrArg Prod.fst h.written
  rw [hcondition, Comparison.holds, Condition.toComparison, Requirement.toCondition]
  dsimp only
  rw [h.value]
  rfl

/-- Conditions and requirements agree place by place, with the connectives in front of them. -/
theorem map_holds (h : query.Keeps requirements) (meaning : Meaning) (node : StoredNode) :
    query.conditions.map (fun condition => (condition.connective,
        condition.toComparison.holds meaning query.parameters node)) =
      requirements.map fun requirement =>
        (requirement.connective, requirement.meets meaning node) := by
  have hmet := (h.held variableName).map_eq_map
    (f := fun condition => (condition.1.connective,
      condition.1.toComparison.holds meaning query.parameters node))
    (g := fun requirement => (requirement.1.connective, requirement.1.meets meaning node))
    fun condition requirement hmet => by
      have hconnective : condition.1.connective = requirement.1.connective := by
        rw [hmet.written]
        rfl
      rw [holds_eq_meets hmet, hconnective]
  rwa [List.map_map, List.map_map] at hmet

/-- **Which nodes pass the selection of a query** is said by what was asked for. -/
theorem passes_selection (h : query.Keeps requirements) (meaning : Meaning) (node : StoredNode) :
    query.selection.passes meaning query.parameters node = true ↔
      Requirement.alternatives requirements = [] ∨
        ∃ block ∈ Requirement.alternatives requirements,
          ∀ requirement ∈ block, requirement.meets meaning node = true := by
  have hchain := h.map_holds meaning node
  rw [Selection.passes, selection]
  cases hconditions : query.conditions with
  | nil =>
    rw [hconditions, List.map_nil] at hchain
    have hnone : requirements = [] := List.map_eq_nil_iff.mp hchain.symm
    rw [hnone]
    exact iff_of_true rfl (Or.inl rfl)
  | cons first rest =>
    cases requirements with
    | nil =>
      rw [hconditions] at hchain
      exact absurd hchain (List.cons_ne_nil _ _)
    | cons requirement others =>
      rw [hconditions, List.map_cons, List.map_cons, List.cons.injEq, Prod.mk.injEq] at hchain
      obtain ⟨⟨-, hfirst⟩, hrest⟩ := hchain
      have hne : Requirement.alternatives (requirement :: others) ≠ [] :=
        alternativesFrom_ne_nil _ _
      have hholds := chainHolds_iff (Requirement.meets meaning node) requirement
        (others.map fun requirement => (requirement.connective, requirement))
      rw [List.map_map] at hholds
      rw [Condition.toFilter, or_iff_right hne]
      dsimp only
      rw [List.map_map, hfirst]
      refine Iff.trans ?_ hholds
      exact iff_of_eq (congrArg (chainHolds _ · = true) hrest)

end Keeps

/-- **After any calls a query holds what they asked for.** -/
theorem keeps_afterCalls {given : List Value} {fresh : Query}
    (h : Query.ofLabels given = .ok fresh) (calls : List QueryCall) :
    (fresh.afterCalls calls).Keeps (calls.filterMap QueryCall.requirement?) := by
  induction calls using List.reverseRecOn with
  | nil => exact Keeps.ofLabels h
  | append_singleton calls call ih =>
    have hrequirements : (calls ++ [call]).filterMap QueryCall.requirement? =
        calls.filterMap QueryCall.requirement? ++ call.requirement?.toList := by
      rw [List.filterMap_append]
      cases hasked : call.requirement? <;> simp [hasked]
    rw [afterCalls, List.foldl_append, hrequirements]
    exact ih.after call

/-- The query that finding sends. -/
theorem Keeps.sought {query : Query} {requirements : List Requirement}
    (h : query.Keeps requirements) (identity : Value) :
    (query.identified identity).limitedToOne.Keeps
      (requirements ++ [Requirement.ofIdentity identity]) := by
  have hname : isIdentifier (Requirement.ofIdentity identity).field = true := by
    change isIdentifier identityKey = true
    decide +kernel
  have hrequired := h.require hname
  exact ⟨h.stem, h.labels, h.sorting, hrequired.held⟩

end Query

/-! ## 3.  Finding -/

/-- The node that finding returns: the first of the answer. -/
def Query.readFirst (answer : Except Fault RecordSet) : Except Fault (Option Node) :=
  (answer.bind readNodes).map List.head?

theorem Query.readFirst_eq {records : RecordSet} {nodes : List StoredNode}
    (h : records.nodes (.text "n") = .ok nodes) :
    readFirst (.ok records) = .ok (nodes.head?.map .hydrate) := by
  have hnodes : readNodes records = .ok (nodes.map .hydrate) := by
    rw [readNodes, variableName, h]
    rfl
  rw [readFirst, Except.bind, hnodes, ← List.head?_map]
  rfl

/-- What finding by identity does after requirements: it sends one statement and returns the first
node of the answer. -/
structure Finds (program : Program (Except Fault (Option Node))) (requirements : List Requirement)
    (identity : Value) (statement : Statement) (selection : Selection) : Prop where
  sends : program = .send statement fun answer => .done (Query.readFirst answer)
  /-- The statement selects at most one node. -/
  read : readSelection statement.text = some selection
  limit : selection.limit = some "1"
  /-- Its filter selects what is sought. -/
  passes : ∀ meaning node, selection.passes meaning statement.parameters node = true ↔
    Sought meaning requirements identity node
  /-- Without an "or" after the first requirement these are nodes with the identity. -/
  only : (∀ requirement ∈ requirements.tail, requirement.connective = .and) →
    ∀ meaning node, selection.passes meaning statement.parameters node = true →
      meaning .equal node.identity identity = true
  /-- If a store answers with nodes that pass, the first of them is returned and was sought; nothing
  is returned only if it answers with none. -/
  returns : ∀ meaning records nodes, records.nodes (.text "n") = .ok nodes →
    (∀ node ∈ nodes, selection.passes meaning statement.parameters node = true) →
    Query.readFirst (.ok records) = .ok (nodes.head?.map .hydrate) ∧
      ∀ node ∈ nodes.head?, Sought meaning requirements identity node

theorem Query.Keeps.finds {query : Query} {requirements : List Requirement}
    (h : query.Keeps requirements) (identity : Value) :
    ∃ statement selection,
      Finds (query.find identity).1 requirements identity statement selection := by
  have hkeeps := h.sought identity
  obtain ⟨text, hstatement, hread⟩ := hkeeps.readSelection
  have hpasses (meaning : Meaning) (node : StoredNode) :
      (query.identified identity).limitedToOne.selection.passes meaning
        (query.identified identity).limitedToOne.parameters node = true ↔
          Sought meaning requirements identity node := by
    have hne :
        Requirement.alternatives (requirements ++ [Requirement.ofIdentity identity]) ≠ [] := by
      rw [Requirement.alternatives_concat_ofIdentity]
      exact List.append_ne_nil_of_right_ne_nil _ (List.cons_ne_nil _ _)
    rw [hkeeps.passes_selection, sought_iff, or_iff_right hne]
  refine ⟨⟨text, (query.identified identity).limitedToOne.parameters⟩, _,
    ?_, hread, rfl, hpasses, ?_, ?_⟩
  · rw [find, first, get, hstatement]
    rfl
  · intro hand meaning node hnode
    exact ((hpasses meaning node).mp hnode).identity hand
  · intro meaning records nodes hnodes hall
    refine ⟨Query.readFirst_eq hnodes, fun node hnode => ?_⟩
    have hmem : node ∈ nodes := List.mem_of_mem_head? hnode
    exact (hpasses meaning node).mp (hall node hmem)

/-- **Finding by identity after any calls.**  What is sent selects the nodes that are sought: those
that have the identity and meet the last alternative of what was asked for, and those that meet an
earlier alternative, whatever their identity is.  Refused calls ask for nothing. -/
theorem find_afterCalls {given : List Value} {fresh : Query}
    (h : Query.ofLabels given = .ok fresh) (calls : List QueryCall) (identity : Value) :
    ∃ statement selection, Finds ((fresh.afterCalls calls).find identity).1
      (calls.filterMap QueryCall.requirement?) identity statement selection :=
  (Query.keeps_afterCalls h calls).finds identity

/-- People called Alice, or people from Oakland. -/
def aliceOrOakland : List QueryCall :=
  [.«where» (.text "name") (.text "Alice") none, .orWhere (.text "city") (.text "Oakland") none]

theorem find_afterCalls_aliceOrOakland :
    ∃ fresh, Query.ofLabels [.text "Person"] = .ok fresh ∧
      ∃ statement selection, Finds ((fresh.afterCalls aliceOrOakland).find (.text "x")).1
        (aliceOrOakland.filterMap QueryCall.requirement?) (.text "x") statement selection := by
  have hfresh : Query.ofLabels [.text "Person"] = .ok { labels := ["Person"] } := rfl
  exact ⟨_, hfresh, find_afterCalls hfresh aliceOrOakland (.text "x")⟩

/-- Someone called Alice, under another identity than the one that is looked for. -/
def otherAlice : StoredNode :=
  ⟨["Person"], [(.text "name", .text "Alice"), (.text "id", .text "y")]⟩

/-- The operators on texts, as far as they are needed: equality. -/
def sameText : Meaning
  | .equal, .text found, .text asked => found == asked
  | _, _, _ => false

/-- **An earlier alternative finds a node with another identity**: looking for the identity `x`
among people called Alice or from Oakland sends a filter that another Alice passes, and if the
store answers with her, she is returned. -/
theorem find_earlier_alternative :
    ∃ fresh statement selection, Query.ofLabels [.text "Person"] = .ok fresh ∧
      ((fresh.afterCalls aliceOrOakland).find (.text "x")).1 =
        .send statement (fun answer => .done (Query.readFirst answer)) ∧
      statement.text = "MATCH (n:Person) WHERE n.name = $p1 OR n.city = $p2 AND n.id = $p3 " ++
        "RETURN n LIMIT 1" ∧
      readSelection statement.text = some selection ∧
      selection.passes sameText statement.parameters otherAlice = true ∧
      Query.readFirst (.ok ⟨[.map [(.text "n", otherAlice.toValue)]]⟩) =
        .ok (some (.hydrate otherAlice)) ∧
      sameText .equal otherAlice.identity (.text "x") = false := by
  refine ⟨{ labels := ["Person"] },
    ⟨"MATCH (n:Person) WHERE n.name = $p1 OR n.city = $p2 AND n.id = $p3 RETURN n LIMIT 1",
      [(.text "p1", .text "Alice"), (.text "p2", .text "Oakland"), (.text "p3", .text "x")]⟩,
    ⟨["Person"], some (⟨"name", .equal, "p1"⟩,
      [(.or, ⟨"city", .equal, "p2"⟩), (.and, ⟨"id", .equal, "p3"⟩)]), none, some "1"⟩,
    rfl, ?_, ?_, ?_, ?_, ?_, ?_⟩
  · rfl
  · rfl
  · decide +kernel
  · decide +kernel
  · rfl
  · decide +kernel

end GraphMapper
