import GraphMapper.Proofs.Builder.Wording
import GraphMapper.Proofs.Graph.Store
import GraphMapper.Proofs.Store.Conversation

/-!
# A store that matches rows

A statement on nodes has a part that says which rows are meant, its `MATCH` and `WHERE` clauses, and
an ending that says what becomes of them.  A `RowStore` is a store of which only this much is known:

* which rows a statement matches depends on the first part alone, on its text and on the values
  that are found under the placeholders in it (`RowStore.matched`);
* an ending that returns nodes returns one record for each row, in an order that is some
  rearrangement of the rows, and with a limit only the first of them;
* an ending that counts returns one record with the number of rows, whatever is assigned to the
  rows or deleted before.

What it answers to anything else is arbitrary.  `RowStore.Returns` says what a program returns on
such a store, and that it can return nothing else.
-/

namespace GraphMapper

/-! ## 1.  The two parts of a statement -/

/-- Whether a word begins a clause that says which rows are meant. -/
def isRowKeyword (word : String) : Bool := word == "MATCH" || word == "WHERE"

namespace Statement

/-- The part of a text that says which rows are meant. -/
def rowText (statement : Statement) : String :=
  joinTexts " " (Passage.words ((clauses statement.text).takeWhile (isRowKeyword ·.1)))

/-- The values under the placeholders of that part, in order. -/
def rowValues (statement : Statement) : List (Option Value) :=
  (placeholders statement.rowText).map fun name => statement.parameters.get? (.text name)

/-- The clauses after that part. -/
def ending (statement : Statement) : List Passage :=
  (clauses statement.text).dropWhile (isRowKeyword ·.1)

end Statement

/-- What becomes of the rows of a statement. -/
inductive RowEnding where
  | nodes (sorting : Option Sorting) (limit : Option ℕ)
  | count (column : String)
  deriving DecidableEq

/-- Whether a word begins a clause that changes what is stored. -/
def isChangeKeyword (word : String) : Bool := word == "SET" || word == "DETACH" || word == "DELETE"

/-- The column that the number of rows is returned under, whatever was changed before. -/
def readCount? (passages : List Passage) : Option String :=
  match passages.dropWhile (isChangeKeyword ·.1) with
  | [("RETURN", ["count(n)", "AS", column])] => some column
  | _ => none

/-- What becomes of the rows. -/
def readEnding? (passages : List Passage) : Option RowEnding :=
  match readReturn? passages with
  | some (sorting, limit) => some (.nodes sorting limit)
  | none => (readCount? passages).map .count

/-- The clause that counts. -/
def countPassage (column : String) : Passage := ("RETURN", ["count(n)", "AS", column])

/-- **An ending that counts is read as a count**, whatever was changed before. -/
theorem readEnding?_count {changes : List Passage}
    (h : ∀ passage ∈ changes, isChangeKeyword passage.1 = true) (column : String) :
    readEnding? (changes ++ [countPassage column]) = some (.count column) := by
  have hnone : readReturn? (changes ++ [countPassage column]) = none := by
    cases changes with
    | nil => rfl
    | cons passage rest =>
      have hne : passage.1 ≠ "RETURN" := by
        intro heq
        have hpassage := (List.forall_mem_cons.mp h).1
        rw [heq] at hpassage
        exact absurd hpassage (by decide)
      rw [List.cons_append]
      unfold readReturn?
      split
      · rename_i heq
        exact absurd (congrArg Prod.fst (List.cons.inj heq).1) hne
      · rfl
  rw [readEnding?, hnone, readCount?, List.dropWhile_append_of_pos h]
  rfl

theorem readEnding?_nodes (sorting : Option Sorting) (limit : Option ℕ) :
    readEnding? (("RETURN", ["n"]) ::
      (Query.sortingPassages sorting ++ Query.limitPassages limit)) =
        some (.nodes sorting limit) := by
  rw [readEnding?, Query.readReturn?_passages]

/-- **A statement is cut where its ending begins.** -/
theorem Statement.parts_of_clauses (statement : Statement) {text : String}
    {rows ending : List Passage} (htext : spacedWords text = Passage.words rows)
    (hclauses : clauses statement.text = rows ++ ending)
    (hrows : ∀ passage ∈ rows, isRowKeyword passage.1 = true)
    (hending : ∀ passage ∈ ending.head?, isRowKeyword passage.1 = false) :
    statement.rowText = text ∧ statement.ending = ending := by
  have hnone : ending.takeWhile (isRowKeyword ·.1) = [] ∧
      ending.dropWhile (isRowKeyword ·.1) = ending := by
    cases ending with
    | nil => exact ⟨rfl, rfl⟩
    | cons passage rest =>
      have hpassage : isRowKeyword passage.1 = false := hending passage rfl
      exact ⟨List.takeWhile_cons_of_neg (by simp [hpassage]),
        List.dropWhile_cons_of_neg (by simp [hpassage])⟩
  refine ⟨?_, ?_⟩
  · rw [rowText, hclauses, List.takeWhile_append_of_pos hrows, hnone.1, List.append_nil, ← htext,
      joinTexts_spacedWords]
  · rw [Statement.ending, hclauses, List.dropWhile_append_of_pos hrows, hnone.2]

/-! ## 2.  Exchanges of a program -/

namespace Program

variable {α β : Type}

/-- A program of one statement hears one answer. -/
theorem yields_query_iff {statement : Statement} {read : RecordSet → Except Fault α}
    {exchanges : List Exchange} {result : Except Fault α} :
    (Program.query (.ok statement) read).Yields exchanges result ↔
      ∃ answer, exchanges = [⟨statement, answer⟩] ∧ result = answer.bind read := by
  constructor
  · intro h
    cases h with
    | send answer h =>
      cases h
      exact ⟨answer, rfl, rfl⟩
  · rintro ⟨answer, rfl, rfl⟩
    exact .send answer (.done _)

/-- Changing the result of a program does not change what it hears. -/
theorem yields_map_iff {program : Program α} {f : α → β} {exchanges : List Exchange} {result : β} :
    (program.map f).Yields exchanges result ↔
      ∃ found, program.Yields exchanges found ∧ result = f found := by
  induction program generalizing exchanges with
  | done found =>
    constructor
    · intro h
      cases h
      exact ⟨found, .done found, rfl⟩
    · rintro ⟨other, h, rfl⟩
      cases h
      exact .done _
  | send statement next ih =>
    constructor
    · intro h
      cases h with
      | send answer h =>
        obtain ⟨found, hfound, rfl⟩ := (ih answer).mp h
        exact ⟨found, .send answer hfound, rfl⟩
    · rintro ⟨found, h, rfl⟩
      cases h with
      | send answer h => exact .send answer ((ih answer).mpr ⟨found, h, rfl⟩)
  | draw next ih =>
    constructor
    · intro h
      cases h with
      | draw identity h =>
        obtain ⟨found, hfound, rfl⟩ := (ih identity).mp h
        exact ⟨found, .draw identity hfound, rfl⟩
    · rintro ⟨found, h, rfl⟩
      cases h with
      | draw identity h => exact .draw identity ((ih identity).mpr ⟨found, h, rfl⟩)
  | warn message next ih =>
    constructor
    · intro h
      cases h with
      | warn h =>
        obtain ⟨found, hfound, rfl⟩ := ih.mp h
        exact ⟨found, .warn hfound, rfl⟩
    · rintro ⟨found, h, rfl⟩
      cases h with
      | warn h => exact .warn (ih.mpr ⟨found, h, rfl⟩)

end Program

/-! ## 3.  The store -/

/-- A store that matches rows.  `arranged` is the order in which rows are returned. -/
structure RowStore where
  matched : String → List (Option Value) → List StoredNode
  arranged : Option Sorting → List StoredNode → List StoredNode
  perm_arranged : ∀ sorting nodes, (arranged sorting nodes).Perm nodes
  other : Statement → Except Fault RecordSet

/-- The first elements of a list up to a limit, if there is one. -/
def upTo {α : Type} (limit : Option ℕ) (list : List α) : List α := limit.elim list list.take

theorem length_upTo {α : Type} (limit : Option ℕ) (list : List α) :
    (upTo limit list).length = limit.elim list.length (min · list.length) := by
  cases limit with
  | none => rfl
  | some count => exact List.length_take

/-- One record with a number under a column. -/
def countRecord (column : String) (number : ℕ) : RecordSet :=
  ⟨[.map [(.text column, .int number)]]⟩

namespace RowStore

variable (store : RowStore)

/-- The rows of a statement. -/
def rows (statement : Statement) : List StoredNode :=
  store.matched statement.rowText statement.rowValues

/-- What the store answers to a statement. -/
def answer (statement : Statement) : Except Fault RecordSet :=
  match readEnding? statement.ending with
  | some (.nodes sorting limit) =>
    .ok (nodeRecords (upTo limit (store.arranged sorting (store.rows statement))))
  | some (.count column) => .ok (countRecord column (store.rows statement).length)
  | none => store.other statement

theorem length_arranged (sorting : Option Sorting) (nodes : List StoredNode) :
    (store.arranged sorting nodes).length = nodes.length :=
  (store.perm_arranged sorting nodes).length_eq

/-! ## 4.  What a program returns -/

variable {α β : Type}

/-- A program sends statements, hears what the store answers, and ends with a result. -/
def Yields (program : Program α) (sent : List Statement) (result : α) : Prop :=
  program.Yields (sent.map fun statement => ⟨statement, store.answer statement⟩) result

/-- A program returns a result on a store, and no other. -/
def Returns (program : Program α) (result : α) : Prop :=
  (∃ sent, store.Yields program sent result) ∧
    ∀ sent other, store.Yields program sent other → other = result

variable {store}

/-- **A program of one statement returns what it reads from the answer.** -/
theorem returns_query (statement : Statement) (read : RecordSet → Except Fault α) :
    store.Returns (.query (.ok statement) read) ((store.answer statement).bind read) := by
  refine ⟨⟨[statement], .send _ (.done _)⟩, fun sent other h => ?_⟩
  obtain ⟨answer, hsent, rfl⟩ := Program.yields_query_iff.mp h
  obtain ⟨first, hfirst, hexchange⟩ := List.map_eq_singleton_iff.mp hsent
  obtain ⟨rfl, rfl⟩ := Exchange.mk.inj hexchange
  rfl

/-- What is done with a result afterwards. -/
theorem Returns.map {program : Program α} {result : α} (h : store.Returns program result)
    (f : α → β) : store.Returns (program.map f) (f result) := by
  obtain ⟨⟨sent, hsent⟩, hunique⟩ := h
  refine ⟨⟨sent, Program.yields_map_iff.mpr ⟨result, hsent, rfl⟩⟩, fun sent other h => ?_⟩
  obtain ⟨found, hfound, rfl⟩ := Program.yields_map_iff.mp h
  rw [hunique sent found hfound]

end RowStore

end GraphMapper
