import GraphMapper.Proofs.Builder.Placeholders
import GraphMapper.Proofs.Store.RowStore

/-!
# All operations of a query speak of the same rows

A query can return its nodes, count them, change them and delete them, and for each of these it
compiles another text.  That all of them mean the same rows is not said anywhere in the texts: it
rests on their common first part, and on the values under the placeholders in it.  An update binds
more values in the same parameters, and these must not disturb the others; they do not because
their names are fresh.

* `Query.Keeps.rows_eq_matchedRows`: what a statement of a query matches is `Query.matchedRows`,
  which looks neither at the ordering nor at the limit.
* `Query.Keeps.counts`: what each operation returns is said by the number of these rows.
* `Query.isOk_updateStatement_iff`: which attributes an update accepts.
* `sameRows_afterCalls`: all of this after any calls, and that a change is refused exactly if no
  condition was accepted.
-/

namespace GraphMapper

namespace Query

/-! ## 1.  The rows of a query -/

/-- The rows that a query means on a store. -/
def matchedRows (store : RowStore) (query : Query) : List StoredNode :=
  store.matched (query.rowsText variableName)
    (query.conditions.map fun condition => query.parameters.get? (.text condition.parameter))

theorem isRowKeyword_rowPassages (query : Query) (var : String) :
    ∀ passage ∈ query.rowPassages var, isRowKeyword passage.1 = true := by
  have hmatch : isRowKeyword "MATCH" = true := by decide
  have hwhere : isRowKeyword "WHERE" = true := by decide
  refine List.forall_mem_cons.mpr ⟨hmatch, ?_⟩
  cases query.conditions.map (·, var) with
  | nil => exact fun _ h => absurd h List.not_mem_nil
  | cons first rest => exact List.forall_mem_singleton.mpr hwhere

/-- A query with conditions passes the guard of every mutation. -/
theorem guardMutation_of_ne_nil {query : Query} (hne : query.conditions ≠ [])
    (mutation : Mutation) : query.guardMutation mutation = .ok () := by
  rw [guardMutation, if_neg]
  rw [List.isEmpty_iff]
  exact hne

theorem guardMutation_of_eq_nil {query : Query} (hnil : query.conditions = [])
    (mutation : Mutation) :
    query.guardMutation mutation = .error (.unsafeMutation mutation query.labels) := by
  rw [guardMutation, hnil]
  rfl

namespace Keeps

variable {query : Query} {requirements : List Requirement}

/-- The placeholders of the part that says which rows are meant are those of the conditions. -/
theorem placeholders_rowsText (h : query.Keeps requirements) :
    placeholders (query.rowsText variableName) = query.conditions.map (·.parameter) := by
  obtain ⟨text, htext, hspells⟩ := h.rows variableName (by decide)
  rw [h.rows_eq] at htext
  rw [Except.ok.inj htext, hspells.placeholders_eq, List.map_map, List.map_map]
  rfl

/-- **A statement of a query matches the rows that the query means**, if it begins with the part
that says which, and if it has not bound the placeholders of the conditions anew. -/
theorem rows_eq_matchedRows (h : query.Keeps requirements) (store : RowStore) {tail : String}
    {ending : List Passage} {parameters : Entries}
    (htail : AddsWords tail (Passage.words ending)) (hending : ∀ passage ∈ ending, IsClause passage)
    (hhead : ∀ passage ∈ ending.head?, isRowKeyword passage.1 = false)
    (hparameters : ∀ name, query.allocator.Drawn name →
      parameters.get? (.text name) = query.parameters.get? (.text name)) :
    store.rows ⟨query.rowsText variableName ++ tail, parameters⟩ = query.matchedRows store ∧
      Statement.ending ⟨query.rowsText variableName ++ tail, parameters⟩ = ending := by
  obtain ⟨htext, hrest⟩ := Statement.parts_of_clauses
    ⟨query.rowsText variableName ++ tail, parameters⟩
    (h.spacedWords_rowsText (by decide)) (h.clauses_rowsText_append htail hending)
    (query.isRowKeyword_rowPassages _) hhead
  refine ⟨?_, hrest⟩
  rw [RowStore.rows, Statement.rowValues, htext, h.placeholders_rowsText, matchedRows,
    List.map_map]
  refine congrArg (store.matched _) (List.map_congr_left fun condition hcondition => ?_)
  exact hparameters _ ((h.held variableName).drawn_of_mem (List.mem_map_of_mem hcondition))

/-- The answer to the statement that returns the nodes. -/
theorem answer_select (h : query.Keeps requirements) (store : RowStore) :
    store.answer ⟨query.selectText, query.parameters⟩ = .ok (nodeRecords (upTo query.limit
      (store.arranged query.sorting (query.matchedRows store)))) := by
  have hhead : ∀ passage ∈ (("RETURN", ["n"]) ::
      (sortingPassages query.sorting ++ limitPassages query.limit)).head?,
      isRowKeyword passage.1 = false := by
    rintro passage hpassage
    rw [← Option.some.inj hpassage]
    rfl
  obtain ⟨hrows, hending⟩ := h.rows_eq_matchedRows store h.addsWords_selectTail
    query.isClause_selectTail hhead (fun _ _ => rfl)
  rw [RowStore.answer, selectText, hending, readEnding?_nodes, hrows]

/-- The answer to a statement that counts, whatever it changes before. -/
theorem answer_count (h : query.Keeps requirements) (store : RowStore) {tail column : String}
    (changes : List Passage) {parameters : Entries}
    (htail : AddsWords tail (Passage.words (changes ++ [countPassage column])))
    (hclauses : ∀ passage ∈ changes, IsClause passage) (hcolumn : isKeyword column = false)
    (hchanges : ∀ passage ∈ changes, isChangeKeyword passage.1 = true)
    (hparameters : ∀ name, query.allocator.Drawn name →
      parameters.get? (.text name) = query.parameters.get? (.text name)) :
    store.answer ⟨query.rowsText variableName ++ tail, parameters⟩ =
      .ok (countRecord column (query.matchedRows store).length) := by
  have hreturn : isKeyword "RETURN" = true := by decide
  have hcount : isKeyword "count(n)" = false := by decide
  have hnaming : isKeyword "AS" = false := by decide
  have hending : ∀ passage ∈ changes ++ [countPassage column], IsClause passage :=
    List.forall_mem_append.mpr ⟨hclauses, List.forall_mem_singleton.mpr
      ⟨hreturn, List.forall_mem_cons.mpr ⟨hcount, List.forall_mem_cons.mpr
        ⟨hnaming, List.forall_mem_singleton.mpr hcolumn⟩⟩⟩⟩
  have hhead : ∀ passage ∈ (changes ++ [countPassage column]).head?,
      isRowKeyword passage.1 = false := by
    cases changes with
    | nil =>
      rintro passage hpassage
      rw [← Option.some.inj hpassage]
      rfl
    | cons first rest =>
      rintro passage hpassage
      rw [← Option.some.inj hpassage]
      have hfirst := (List.forall_mem_cons.mp hchanges).1
      by_contra hrow
      rw [Bool.not_eq_false, isRowKeyword, Bool.or_eq_true, beq_iff_eq, beq_iff_eq] at hrow
      rcases hrow with hrow | hrow <;> rw [hrow] at hfirst <;> exact absurd hfirst (by decide)
  obtain ⟨hrows, hrest⟩ := h.rows_eq_matchedRows store htail hending hhead hparameters
  rw [RowStore.answer, hrest, readEnding?_count hchanges, hrows]

/-! ## 2.  The statements that count -/

theorem addsWords_returnCount (column : String) (hcolumn : SpaceFree column) :
    AddsWords (returnCount column) (Passage.words [countPassage column]) := by
  have htext : returnCount column =
      (" " ++ "RETURN count(n)") ++ ((" " ++ "AS") ++ (" " ++ column)) := by
    have hopening : " RETURN count(" ++ variableName ++ ") AS " =
        " " ++ "RETURN count(n)" ++ (" " ++ "AS" ++ " ") := by decide
    unfold returnCount
    rw [hopening]
    simp only [String.append_assoc]
  rw [htext]
  exact (AddsWords.text _).append ((AddsWords.word (by decide)).append (AddsWords.word hcolumn))

/-- The clauses that delete. -/
def deletePassages : Bool → List Passage
  | true => [("DETACH", []), ("DELETE", ["n"])]
  | false => [("DELETE", ["n"])]

theorem countStatement_eq (h : query.Keeps requirements) :
    query.countStatement =
      .ok ⟨query.rowsText variableName ++ returnCount totalColumn, query.parameters⟩ := by
  rw [countStatement, h.rows_eq]
  rfl

theorem deleteStatement_eq (h : query.Keeps requirements) (hne : query.conditions ≠ [])
    (detach : Bool) :
    query.deleteStatement detach = .ok ⟨query.rowsText variableName ++
      (" " ++ Node.deleteKeyword detach ++ " n" ++ returnCount deletedColumn),
        query.parameters⟩ := by
  rw [deleteStatement_eq_bind, guardMutation_of_ne_nil hne, h.rows_eq]
  rfl

end Keeps

/-! ## 3.  The statement of an update -/

/-- The words of one assignment, with what follows it, begin no clause. -/
theorem isKeyword_assignment {entry : String × String} (hkey : isIdentifier entry.1 = true)
    (hname : ∀ c ∈ entry.2.toList, isNameChar c = true) {comma : String}
    (hcomma : SpaceFree comma) :
    ∀ word ∈ spacedWords (assignment variableName entry ++ comma), isKeyword word = false := by
  have htext : assignment variableName entry ++ comma =
      "n." ++ entry.1 ++ (" " ++ ("=" ++ (" " ++ ("$" ++ entry.2 ++ comma)))) := by
    rw [assignment]
    simp only [String.append_assoc]
    rfl
  have hproperty : SpaceFree ("n." ++ entry.1) :=
    SpaceFree.append (by decide) (spaceFree_of_isIdentifier hkey)
  have hparameter : SpaceFree entry.2 := fun hc => absurd (hname _ hc) (by decide)
  have hvalue : SpaceFree ("$" ++ entry.2 ++ comma) :=
    (SpaceFree.append (by decide) hparameter).append hcomma
  have hwords : spacedWords (assignment variableName entry ++ comma) =
      ["n." ++ entry.1, "=", "$" ++ entry.2 ++ comma] := by
    rw [htext, AddsWords.text, AddsWords.text, spacedWords_of_spaceFree hproperty,
      spacedWords_of_spaceFree hvalue]
    rfl
  have hequals : isKeyword "=" = false := by decide
  rw [hwords]
  refine List.forall_mem_cons.mpr ⟨?_, List.forall_mem_cons.mpr ⟨hequals, ?_⟩⟩
  · exact isKeyword_of_mem (c := '.') (by simp) (by decide)
  · exact List.forall_mem_singleton.mpr (isKeyword_of_mem (c := '$') (by simp) (by decide))

/-- No word of the assignments begins a clause. -/
theorem isKeyword_assignments {entries : List (String × String)}
    (hkeys : ∀ e ∈ entries, isIdentifier e.1 = true)
    (hnames : ∀ e ∈ entries, ∀ c ∈ e.2.toList, isNameChar c = true) :
    ∀ word ∈ spacedWords (joinTexts ", " (entries.map (assignment variableName))),
      isKeyword word = false := by
  induction entries with
  | nil =>
    have hempty : spacedWords "" = [""] := spacedWords_of_spaceFree (by decide)
    have hnone : isKeyword "" = false := by decide
    change ∀ word ∈ spacedWords "", isKeyword word = false
    rw [hempty]
    exact List.forall_mem_singleton.mpr hnone
  | cons entry rest ih =>
    obtain ⟨hkey, hkeys⟩ := List.forall_mem_cons.mp hkeys
    obtain ⟨hname, hnames⟩ := List.forall_mem_cons.mp hnames
    cases rest with
    | nil =>
      have hempty : SpaceFree "" := by decide
      have hlast := isKeyword_assignment hkey hname hempty
      rw [String.append_empty] at hlast
      rw [List.map_singleton, joinTexts, String.intercalate_singleton]
      exact hlast
    | cons next rest =>
      have htext : joinTexts ", " ((entry :: next :: rest).map (assignment variableName)) =
          assignment variableName entry ++ "," ++
            (" " ++ joinTexts ", " ((next :: rest).map (assignment variableName))) := by
        have hcomma : ", " = "," ++ " " := rfl
        rw [List.map_cons, List.map_cons, joinTexts, String.intercalate_cons_cons, joinTexts]
        nth_rewrite 1 [hcomma]
        simp only [String.append_assoc]
      rw [htext, AddsWords.text]
      exact List.forall_mem_append.mpr ⟨isKeyword_assignment hkey hname (by decide),
        ih hkeys hnames⟩

/-- What an update can assign: at least one property, all of them under accepted names, and none
of them the identity. -/
def Assignable (attributes : Value) : Prop :=
  ∃ entries, attributes.bare = .map entries ∧ entries ≠ [] ∧
    ∀ e ∈ entries, ∃ name, e.1 = .text name ∧ isIdentifier name = true ∧ name ≠ identityKey

theorem has_identity_of_assignable {entries : Entries}
    (h : ∀ e ∈ entries, ∃ name, e.1 = .text name ∧ isIdentifier name = true ∧ name ≠ identityKey) :
    Entries.has entries (.text identityKey) = false := by
  by_contra hhas
  rw [Bool.not_eq_false, Entries.has_iff] at hhas
  obtain ⟨e, he, hsame⟩ := hhas
  obtain ⟨name, hkey, -, hne⟩ := h e he
  rw [hkey, Key.same_text, beq_iff_eq] at hsame
  exact hne hsame

/-- **All that reading changes can do.** -/
theorem readChanges_cases (attributes : Value) :
    (∃ entries, attributes.bare = .map entries ∧ entries ≠ [] ∧
        Entries.has entries (.text identityKey) = false ∧
        readChanges attributes = .ok entries) ∨
      (¬ Assignable attributes ∧
        ∃ fault, ChangesFault fault ∧ readChanges attributes = .error fault) := by
  obtain ⟨entries, hbare⟩ | hnot := attributes.bare_eq_map_or
  · have hassignable (h : Assignable attributes) : entries ≠ [] ∧
        Entries.has entries (.text identityKey) = false := by
      obtain ⟨others, hothers, hne, hall⟩ := h
      rw [hbare, Value.map.injEq] at hothers
      rw [hothers]
      exact ⟨hne, has_identity_of_assignable hall⟩
    rw [readChanges_of_map hbare]
    cases hempty : List.isEmpty entries with
    | true =>
      exact Or.inr ⟨fun h => (hassignable h).1 (List.isEmpty_iff.mp hempty), _, .empty, rfl⟩
    | false =>
      cases hhas : Entries.has entries (.text identityKey) with
      | true =>
        refine Or.inr ⟨fun h => ?_, _, .identity, rfl⟩
        exact absurd (hhas.symm.trans (hassignable h).2) (by decide)
      | false =>
        refine Or.inl ⟨entries, hbare, ?_, hhas, rfl⟩
        rintro rfl
        exact absurd hempty (by decide)
  · exact Or.inr ⟨fun ⟨entries, hbare, _⟩ => hnot entries hbare, readChanges_of_not_map hnot⟩

namespace Keeps

variable {query : Query} {requirements : List Requirement}

/-- **The statement of an update that is accepted**: between the rows and the count it assigns, and
its parameters are those of the query with values under fresh names. -/
theorem updateStatement_eq (h : query.Keeps requirements) (hne : query.conditions ≠ [])
    {attributes : Value} (hassignable : Assignable attributes) :
    ∃ (pairs : List (String × String)) (values : List Value),
      (∀ e ∈ pairs, isIdentifier e.1 = true) ∧
      (∀ e ∈ pairs, ∀ c ∈ e.2.toList, isNameChar c = true) ∧
      (query.updateStatement attributes).1 =
        .ok ⟨query.rowsText variableName ++ (" SET " ++
            joinTexts ", " (pairs.map (assignment variableName)) ++ returnCount updatedColumn),
          ((Binding.mk query.allocator query.parameters).bindAll values).parameters⟩ := by
  obtain ⟨entries, hbare, hnonempty, -, hread⟩ | ⟨hnot, -⟩ := readChanges_cases attributes
  · obtain ⟨others, hothers, -, hall⟩ := hassignable
    obtain rfl : entries = others := Value.map.inj (hbare.symm.trans hothers)
    have hkeys : ∀ e ∈ entries, ∃ name, e.1 = .text name ∧ isIdentifier name = true :=
      fun e he => let ⟨name, hkey, hname, _⟩ := hall e he; ⟨name, hkey, hname⟩
    obtain ⟨pairs, hpairs⟩ :=
      exists_bindProperties_eq_ok ⟨query.allocator, query.parameters⟩ hkeys
    obtain ⟨keys, hlength, -, haccepted, rfl, hfinal⟩ := bindProperties_eq_ok hpairs
    refine ⟨keys.zip (query.allocator.names entries.length), entries.map (·.2),
      fun e he => haccepted _ (List.of_mem_zip he).1,
      fun e he => Allocator.isNameChar_of_mem_names h.stem (List.of_mem_zip he).2, ?_⟩
    have hsome : (keys.zip (query.allocator.names entries.length)).isEmpty = false := by
      rw [List.isEmpty_eq_false_iff, ← List.length_pos_iff, List.length_zip,
        Allocator.length_names, hlength, Nat.min_self]
      exact List.length_pos_iff.mpr hnonempty
    have hset : assignmentsText variableName (keys.zip (query.allocator.names entries.length)) =
        " SET " ++ joinTexts ", "
          ((keys.zip (query.allocator.names entries.length)).map (assignment variableName)) := by
      rw [assignmentsText, if_neg (by rw [hsome]; exact Bool.false_ne_true)]
    rw [updateStatement, guardMutation_of_ne_nil hne, hread]
    change (query.bindChanges entries).1 = _
    rw [bindChanges_fst, hpairs, h.rows_eq, hfinal]
    change Except.ok (Statement.mk (_ ++ assignmentsText variableName _ ++ _) _) = _
    rw [hset, String.append_assoc]
  · exact absurd hassignable hnot

/-- **Which updates are accepted.** -/
theorem isOk_updateStatement_iff (h : query.Keeps requirements) (attributes : Value) :
    (query.updateStatement attributes).1.isOk = true ↔
      query.conditions ≠ [] ∧ Assignable attributes := by
  constructor
  · intro hok
    have hne : query.conditions ≠ [] := by
      intro hnil
      rw [updateStatement, guardMutation_of_eq_nil hnil] at hok
      exact Bool.false_ne_true hok
    refine ⟨hne, ?_⟩
    rw [updateStatement, guardMutation_of_ne_nil hne] at hok
    obtain ⟨entries, hbare, hnonempty, hhas, hread⟩ | ⟨-, fault, -, hread⟩ :=
      readChanges_cases attributes
    · rw [hread] at hok
      cases hbind : (query.bindChanges entries).1 with
      | error fault =>
        have hok : (query.bindChanges entries).1.isOk = true := hok
        rw [hbind] at hok
        exact absurd hok Bool.false_ne_true
      | ok statement =>
        obtain ⟨-, assignments, -, hset, -⟩ := bindChanges_eq_ok hbind
        obtain ⟨keys, -, hkeys, haccepted, -, -⟩ := setClause_eq_ok hset
        refine ⟨entries, hbare, hnonempty, fun e he => ?_⟩
        have hmem : e.1 ∈ keys.map Key.text := hkeys ▸ List.mem_map_of_mem he
        obtain ⟨name, hname, hkey⟩ := List.mem_map.mp hmem
        refine ⟨name, hkey.symm, haccepted name hname, ?_⟩
        rintro rfl
        have hhas' : Entries.has entries (.text identityKey) = true :=
          Entries.has_iff.mpr ⟨e, he, by rw [← hkey, Key.same_self]⟩
        rw [hhas] at hhas'
        exact Bool.false_ne_true hhas'
    · rw [hread] at hok
      exact absurd hok Bool.false_ne_true
  · rintro ⟨hne, hassignable⟩
    obtain ⟨pairs, values, -, -, hstatement⟩ := h.updateStatement_eq hne hassignable
    rw [hstatement]
    rfl

/-- **When an update is refused because no condition selects nodes.** -/
theorem updateStatement_unsafe_iff (h : query.Keeps requirements) (attributes : Value) :
    (query.updateStatement attributes).1 = .error (.unsafeMutation .update query.labels) ↔
      query.conditions = [] := by
  constructor
  · intro hunsafe
    by_contra hne
    rw [updateStatement, guardMutation_of_ne_nil hne] at hunsafe
    obtain ⟨entries, -, -, -, hread⟩ | ⟨-, fault, hfault, hread⟩ := readChanges_cases attributes
    · rw [hread] at hunsafe
      change (query.bindChanges entries).1 = _ at hunsafe
      rw [bindChanges_fst, h.rows_eq] at hunsafe
      cases hpairs : (bindProperties ⟨query.allocator, query.parameters⟩ entries).1 with
      | error fault =>
        obtain ⟨given, rfl⟩ := bindProperties_eq_error hpairs
        rw [hpairs] at hunsafe
        exact absurd (Except.error.inj hunsafe) (by simp)
      | ok pairs =>
        rw [hpairs] at hunsafe
        exact absurd hunsafe (by simp [Except.map, Except.bind])
    · rw [hread] at hunsafe
      obtain rfl : fault = .unsafeMutation .update query.labels := Except.error.inj hunsafe
      cases hfault
  · intro hnil
    rw [updateStatement, guardMutation_of_eq_nil hnil]

end Keeps

/-! ## 4.  What the operations return -/

/-- A number is read from the record that reports it. -/
theorem readNumber_countRecord (column : String) (number : ℕ) :
    readNumber column (countRecord column number) = .ok number := by
  have hcolumn : RecordSet.column (.text column) (.map [(.text column, .int number)]) =
      .ok (.int number) := by
    change Except.ok ((Entries.get? [(.text column, .int number)] (.text column)).getD .null) = _
    rw [Entries.get?_cons, Key.same_self]
    rfl
  have hscalar : (countRecord column number).scalar (.text column) (.int 0) =
      .ok (.int number) := by
    change (RecordSet.column (.text column) (.map [(.text column, .int number)])).map
      (fun v : Value => if v.isNull then .int 0 else v) = _
    rw [hcolumn]
    rfl
  rw [readNumber, hscalar]
  rfl

/-- What the operations of a query return, when the query means a number of rows. -/
structure Counts (store : RowStore) (query : Query) (number : ℕ) : Prop where
  /-- Without a limit, one record is returned for each row. -/
  select : ∃ statement result,
    Query.selectStatement { query with limit := none } = .ok statement ∧
      store.answer statement = .ok result ∧ result.count = number
  /-- The nodes are those of the first rows, up to the limit. -/
  get : ∃ found, store.Returns query.get (.ok found) ∧
    found.length = query.limit.elim number (min · number)
  count : store.Returns query.count (.ok number)
  «exists» : store.Returns query.exists (.ok (decide (0 < number)))
  first : ∃ found, store.Returns query.first.1 (.ok found) ∧ (found.isSome = true ↔ 0 < number)
  update : ∀ attributes, (query.updateStatement attributes).1.isOk = true →
    store.Returns (query.update attributes).1 (.ok number)
  delete : query.conditions ≠ [] → ∀ detach, store.Returns (query.delete detach) (.ok number)

namespace Keeps

variable {query : Query} {requirements : List Requirement}

/-- Keeping does not depend on the limit. -/
theorem with_limit (h : query.Keeps requirements) (limit : Option ℕ) :
    Query.Keeps { query with limit := limit } requirements :=
  ⟨h.stem, h.labels, h.sorting, h.held⟩

theorem returns_get (h : query.Keeps requirements) (store : RowStore) :
    store.Returns query.get (.ok ((upTo query.limit
      (store.arranged query.sorting (query.matchedRows store))).map Node.hydrate)) := by
  have hreturns : store.Returns _ _ :=
    RowStore.returns_query ⟨query.selectText, query.parameters⟩ readNodes
  rw [h.answer_select] at hreturns
  rw [get, h.selectStatement_eq]
  have hnodes : readNodes (nodeRecords (upTo query.limit
      (store.arranged query.sorting (query.matchedRows store)))) =
        .ok ((upTo query.limit
          (store.arranged query.sorting (query.matchedRows store))).map Node.hydrate) := by
    change ((nodeRecords _).nodes (.text "n")).map _ = _
    rw [nodes_nodeRecords]
    rfl
  rw [← hnodes]
  exact hreturns

/-- A program that counts rows returns their number. -/
theorem returns_number {store : RowStore} {statement : Statement} {column : String} {number : ℕ}
    (h : store.answer statement = .ok (countRecord column number)) :
    store.Returns (.query (.ok statement) (readNumber column)) (.ok (number : Int)) := by
  have hreturns : store.Returns _ _ := RowStore.returns_query statement (readNumber column)
  rw [h] at hreturns
  rw [← readNumber_countRecord column number]
  exact hreturns

theorem returns_count (h : query.Keeps requirements) (store : RowStore) :
    store.Returns query.count (.ok ((query.matchedRows store).length : Int)) := by
  rw [count, h.countStatement_eq]
  refine returns_number (h.answer_count store []
    (addsWords_returnCount totalColumn (by decide)) (fun _ h => absurd h List.not_mem_nil)
    (by decide) (fun _ h => absurd h List.not_mem_nil) fun _ _ => rfl)

theorem isClause_deletePassages (detach : Bool) :
    ∀ passage ∈ deletePassages detach,
      IsClause passage ∧ isChangeKeyword passage.1 = true := by
  have hdetach : isKeyword "DETACH" = true := by decide
  have hdelete : isKeyword "DELETE" = true := by decide
  have hvariable : isKeyword "n" = false := by decide
  have hdeletes : IsClause ("DELETE", ["n"]) ∧ isChangeKeyword "DELETE" = true :=
    ⟨⟨hdelete, List.forall_mem_singleton.mpr hvariable⟩, by decide⟩
  cases detach with
  | false => exact List.forall_mem_singleton.mpr hdeletes
  | true =>
    refine List.forall_mem_cons.mpr ⟨⟨⟨hdetach, fun _ h => absurd h List.not_mem_nil⟩, ?_⟩,
      List.forall_mem_singleton.mpr hdeletes⟩
    decide

theorem addsWords_deleteKeyword (detach : Bool) :
    AddsWords (" " ++ Node.deleteKeyword detach ++ " n")
      (Passage.words (deletePassages detach)) := by
  cases detach with
  | false => exact AddsWords.text "DELETE n"
  | true => exact AddsWords.text "DETACH DELETE n"

theorem returns_delete (h : query.Keeps requirements) (store : RowStore)
    (hne : query.conditions ≠ []) (detach : Bool) :
    store.Returns (query.delete detach) (.ok ((query.matchedRows store).length : Int)) := by
  have hpassages := isClause_deletePassages detach
  have htail : AddsWords (" " ++ Node.deleteKeyword detach ++ " n" ++ returnCount deletedColumn)
      (Passage.words (deletePassages detach ++ [countPassage deletedColumn])) := by
    rw [Passage.words_append]
    exact (addsWords_deleteKeyword detach).append (addsWords_returnCount _ (by decide))
  rw [delete, h.deleteStatement_eq hne]
  exact returns_number (h.answer_count store _ htail (fun passage hp => (hpassages passage hp).1)
    (by decide) (fun passage hp => (hpassages passage hp).2) fun _ _ => rfl)

/-- An update counts the rows of the query although it binds more values: their names are fresh. -/
theorem returns_update (h : query.Keeps requirements) (store : RowStore)
    (hne : query.conditions ≠ []) {attributes : Value} (hassignable : Assignable attributes) :
    store.Returns (query.update attributes).1 (.ok ((query.matchedRows store).length : Int)) := by
  obtain ⟨pairs, values, hkeys, hnames, hstatement⟩ := h.updateStatement_eq hne hassignable
  have hset : isKeyword "SET" = true := by decide
  have hchange : isChangeKeyword "SET" = true := by decide
  have hwords := isKeyword_assignments hkeys hnames
  have htail : AddsWords (" SET " ++ joinTexts ", " (pairs.map (assignment variableName)) ++
      returnCount updatedColumn)
      (Passage.words ([("SET",
        spacedWords (joinTexts ", " (pairs.map (assignment variableName))))] ++
          [countPassage updatedColumn])) := by
    have htext : " SET " ++ joinTexts ", " (pairs.map (assignment variableName)) =
        (" " ++ "SET") ++ (" " ++ joinTexts ", " (pairs.map (assignment variableName))) := by
      rw [← String.append_assoc]
      rfl
    rw [Passage.words_append, htext]
    have hword : SpaceFree "SET" := by decide
    have hassign := (AddsWords.word hword).append
      (AddsWords.text (joinTexts ", " (pairs.map (assignment variableName))))
    have hone (passage : Passage) : Passage.words [passage] = passage.1 :: passage.2 :=
      List.append_nil _
    rw [hone]
    exact hassign.append (addsWords_returnCount _ (by decide))
  have hanswer := h.answer_count store _ htail (List.forall_mem_singleton.mpr ⟨hset, hwords⟩)
    (by decide) (List.forall_mem_singleton.mpr hchange)
    fun name hname => Binding.get?_bindAll_of_drawn ⟨query.allocator, query.parameters⟩ values hname
  have hprogram : (query.update attributes).1 =
      .query (query.updateStatement attributes).1 (readNumber updatedColumn) := rfl
  rw [hprogram, hstatement]
  exact returns_number hanswer

/-- **What each operation returns is said by the number of rows.** -/
theorem counts (h : query.Keeps requirements) (store : RowStore) :
    query.Counts store (query.matchedRows store).length where
  select := by
    have hselect := (h.with_limit none).selectStatement_eq
    refine ⟨_, _, hselect, (h.with_limit none).answer_select store, ?_⟩
    rw [count_nodeRecords]
    exact store.length_arranged _ _
  get := by
    refine ⟨_, h.returns_get store, ?_⟩
    rw [List.length_map, length_upTo, store.length_arranged]
  count := h.returns_count store
  «exists» := by
    have hexists := (h.returns_count store).map fun result => result.map fun n => decide (0 < n)
    have hnumber : decide (0 < ((query.matchedRows store).length : Int)) =
        decide (0 < (query.matchedRows store).length) := decide_eq_decide.mpr Int.natCast_pos
    rw [← hnumber]
    exact hexists
  first := by
    have hfirst := ((h.with_limit (some 1)).returns_get store).map fun result =>
      result.map List.head?
    refine ⟨_, hfirst, ?_⟩
    -- The first of the rows is there if there is any, and a limit of one does not cut it off.
    change ((store.arranged query.sorting (query.matchedRows store)).take 1 |>.map
      Node.hydrate).head?.isSome = true ↔ _
    rw [← store.length_arranged query.sorting (query.matchedRows store)]
    cases store.arranged query.sorting (query.matchedRows store) <;> simp
  update attributes hok := by
    obtain ⟨hne, hassignable⟩ := (h.isOk_updateStatement_iff attributes).mp hok
    exact h.returns_update store hne hassignable
  delete hne detach := h.returns_delete store hne detach

end Keeps

end Query

/-! ## 5.  After any calls -/

/-- What a call asks of the source of a family. -/
def FamilyCall.asked : FamilyCall → List Requirement
  | .onSource call => call.requirement?.toList
  | .update _ | .start .. | .onTraversal .. => []

/-- The journal of the source is what was asked of it, in order. -/
theorem Journal.source_ofCalls (calls : List FamilyCall) :
    (Journal.ofCalls calls).source = calls.flatMap FamilyCall.asked := by
  induction calls using List.reverseRecOn with
  | nil => rfl
  | append_singleton calls call ih =>
    have hnote : (call.note (Journal.ofCalls calls)).source =
        (Journal.ofCalls calls).source ++ call.asked := by
      cases call with
      | onSource call => rfl
      | update attributes => exact (List.append_nil _).symm
      | start direction relationshipType =>
        rw [FamilyCall.note, FamilyCall.asked, List.append_nil]
        split <;> rfl
      | onTraversal index call => exact (List.append_nil _).symm
    rw [ofCalls, List.foldl_append, List.flatMap_append, ← ih]
    exact hnote.trans (congrArg _ (List.append_nil _).symm)

/-- A call on conditions is accepted if and only if it asks for one. -/
theorem QueryCall.isOk_perform_iff {call : QueryCall} (h : call.kind = .conditions)
    (query : Query) : (call.perform query).isOk = call.requirement?.isSome := by
  rw [isOk_perform, asks, labels?_eq_none (by simp [h]), sorting?_eq_none (by simp [h]),
    limit?_eq_none (by simp [h])]
  simp

/-- No call on conditions of a history was accepted. -/
def Unconditioned (fresh : Query) (calls : List FamilyCall) : Prop :=
  ∀ before call after, calls = before ++ FamilyCall.onSource call :: after →
    call.kind = .conditions →
    (call.perform ((Family.mk fresh []).afterCalls before).source).isOk = false

/-- **A query has no condition if and only if no call on conditions was accepted.** -/
theorem conditions_eq_nil_iff {given : List Value} {fresh : Query}
    (h : Query.ofLabels given = .ok fresh) (calls : List FamilyCall) :
    ((Family.mk fresh []).afterCalls calls).source.conditions = [] ↔
      Unconditioned fresh calls := by
  have hheld := (Family.keeps_afterCalls h calls).source.held ""
  have hlength := congrArg List.length (hheld.map_get?)
  simp only [List.length_map, Journal.source_ofCalls] at hlength
  rw [← List.length_eq_zero_iff, hlength, List.length_eq_zero_iff, List.flatMap_eq_nil_iff]
  constructor
  · rintro hnone before call after rfl hkind
    have hcall : call.requirement?.toList = [] := hnone (.onSource call) (by simp)
    rw [QueryCall.isOk_perform_iff hkind, Option.toList_eq_nil_iff.mp hcall]
    rfl
  · intro hrefused call hcall
    cases call with
    | onSource call =>
      obtain ⟨before, after, hsplit⟩ := List.append_of_mem hcall
      by_cases hkind : call.kind = .conditions
      · have hfalse := hrefused before call after hsplit hkind
        rw [QueryCall.isOk_perform_iff hkind, Option.isSome_eq_false_iff,
          Option.isNone_iff_eq_none] at hfalse
        exact Option.toList_eq_nil_iff.mpr hfalse
      · exact Option.toList_eq_nil_iff.mpr (QueryCall.requirement?_eq_none hkind)
    | _ => rfl

/-- A program of one statement does nothing exactly if there is no statement. -/
theorem Program.query_eq_done_iff {α : Type} {statement : Except Fault Statement}
    {read : RecordSet → Except Fault α} {fault : Fault} :
    Program.query statement read = .done (.error fault) ↔ statement = .error fault := by
  cases statement with
  | error other => simp [Program.query]
  | ok statement => simp [Program.query]

/-- **All operations of a query speak of the same rows.**  After any calls on a new query, refused
ones included, and on any store that matches rows: the number of records that are returned without a
limit is what counting returns, what every accepted update returns and what a deletion returns,
whatever the ordering and the limit are; there is a node, and a first one, exactly if that number
is positive.  An update or a deletion is refused as unsafe, and nothing is sent, exactly if no call
on conditions was accepted. -/
theorem sameRows_afterCalls (store : RowStore) {given : List Value} {fresh : Query}
    (h : Query.ofLabels given = .ok fresh) (calls : List FamilyCall) (query : Query)
    (hquery : query = ((Family.mk fresh []).afterCalls calls).source) :
    query.Counts store (query.matchedRows store).length ∧
      (∀ attributes, (query.updateStatement attributes).1.isOk = true ↔
        ¬ Unconditioned fresh calls ∧ Query.Assignable attributes) ∧
      (∀ attributes, (query.update attributes).1 =
          .done (.error (.unsafeMutation .update query.labels)) ↔ Unconditioned fresh calls) ∧
      (∀ detach, query.delete detach =
          .done (.error (.unsafeMutation .delete query.labels)) ↔ Unconditioned fresh calls) := by
  have hkeeps : query.Keeps (Journal.ofCalls calls).source := by
    rw [hquery]
    exact (Family.keeps_afterCalls h calls).source
  have hnone : query.conditions = [] ↔ Unconditioned fresh calls := by
    rw [hquery]
    exact conditions_eq_nil_iff h calls
  refine ⟨hkeeps.counts store, fun attributes => ?_, fun attributes => ?_, fun detach => ?_⟩
  · rw [hkeeps.isOk_updateStatement_iff, ← hnone]
  · rw [← hnone, ← hkeeps.updateStatement_unsafe_iff attributes]
    exact Program.query_eq_done_iff
  · rw [← hnone, Query.delete, Program.query_eq_done_iff]
    constructor
    · intro hunsafe
      by_contra hne
      rw [hkeeps.deleteStatement_eq hne] at hunsafe
      exact absurd hunsafe (by simp)
    · intro hnil
      rw [Query.deleteStatement, Query.guardMutation_of_eq_nil hnil]
      rfl

/-- A store with two people.  It finds those who are older than the first value of a statement, and
returns them in reverse if there is an order. -/
def couple : RowStore where
  matched _ values := ([25, 30] : List Int).filterMap fun age =>
    match values with
    | some (.int bound) :: _ =>
      if bound < age then some ⟨["Person"], [(.text "age", .int age)]⟩ else none
    | _ => none
  arranged sorting nodes := if sorting.isSome then nodes.reverse else nodes
  perm_arranged sorting nodes := by
    cases sorting with
    | none => exact List.Perm.refl _
    | some sorting => exact List.reverse_perm nodes
  other _ := .error Graph.refusal

/-- With a limit of zero no node is returned, but there are two: both are counted, and both are
updated. -/
theorem sameRows_afterCalls_couple :
    ∃ query : Query, query.limit = some 0 ∧ query.sorting = some ⟨"age", .ascending⟩ ∧
      (∃ found, couple.Returns query.get (.ok found) ∧ found.length = 0) ∧
      couple.Returns query.count (.ok 2) ∧ couple.Returns query.exists (.ok true) ∧
      couple.Returns (query.update (.map [(.text "age", .int 40)])).1 (.ok 2) := by
  have hfresh : Query.ofLabels [.text "Person"] = .ok { labels := ["Person"] } := rfl
  obtain ⟨hcounts, -⟩ := sameRows_afterCalls couple hfresh
    [.onSource (.«where» (.text "age") (.text ">") (some (.int 20))),
      .onSource (.orderBy (.text "age") (.text "asc")), .onSource (.limit (.int 0))] _ rfl
  exact ⟨_, rfl, rfl, hcounts.get, hcounts.count, hcounts.exists, hcounts.update _ rfl⟩

end GraphMapper
