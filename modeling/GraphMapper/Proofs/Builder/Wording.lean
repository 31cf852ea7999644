import GraphMapper.Proofs.Builder.Journal
import GraphMapper.Proofs.Reading.Clauses
import GraphMapper.Query.Terminals

/-!
# What the text of a query says

The text that returns the nodes of a query is put together from names that came from outside,
without quotes and without escapes.  That it can be read back, and in one way only, rests on which
characters the checks let through.  `readWording?` reads the labels, the filter, the ordering and
the limit from a text, and `selectStatement_unambiguous` says that for every query that can be
built the reading is what the query holds: no accepted name, operator or direction begins a clause
or ends one, and queries with equal texts agree on everything that was written.

The argument goes from characters to words and from words to clauses.  Each piece of the text adds
its own words (`Query.Keeps.spacedWords_rowsText`, `Query.addsWords_sortingClause`), none of which
is a keyword unless it begins a clause, and so the clauses are found by cutting in front of the
keywords (`Query.Keeps.clauses_selectText`).  Then each clause is read for itself.
-/

namespace GraphMapper

/-! ## 1.  Reading -/

/-- What the text of a query says. -/
structure Wording where
  labels : List String
  filter : Option Filter
  sorting : Option Sorting
  limit : Option ℕ
  deriving DecidableEq

/-- The direction that a word is. -/
def readSortDirection? (word : String) : Option SortDirection :=
  if word = SortDirection.ascending.text then some .ascending
  else if word = SortDirection.descending.text then some .descending
  else none

@[simp] theorem readSortDirection?_text (direction : SortDirection) :
    readSortDirection? direction.text = some direction := by
  cases direction <;> decide

/-- The filter at the beginning of clauses, if there is one, and the clauses after it. -/
def takeFilter? : List Passage → Option (Option Filter × List Passage)
  | [] => some (none, [])
  | passage :: rest =>
    if passage.1 = "WHERE" then (readFilter? passage.2).map fun filter => (some filter, rest)
    else some (none, passage :: rest)

/-- The ordering at the beginning of clauses, if there is one, and the clauses after it. -/
def takeSorting? : List Passage → Option (Option Sorting × List Passage)
  | ("ORDER", ["BY", property, direction]) :: rest => do
    let field ← dropLead? "n." property
    let direction ← readSortDirection? direction
    return (some ⟨field, direction⟩, rest)
  | rest => some (none, rest)

/-- The word of the limit at the end of clauses, if there is one; nothing else may be there. -/
def takeLimit? : List Passage → Option (Option String)
  | [] => some none
  | [("LIMIT", [count])] => some (some count)
  | _ => none

/-- The ordering and the limit that are said when nodes are returned. -/
def readReturn? : List Passage → Option (Option Sorting × Option ℕ)
  | ("RETURN", ["n"]) :: rest => do
    let (sorting, afterSorting) ← takeSorting? rest
    let limit ← takeLimit? afterSorting
    return (sorting, limit.map readNatural)
  | _ => none

/-- What a text says, if it is the text of a query. -/
def readWording? (text : String) : Option Wording :=
  match clauses text with
  | ("MATCH", [pattern]) :: rest => do
    let labels ← readLabels? "(n" pattern
    let (filter, afterFilter) ← takeFilter? rest
    let (sorting, limit) ← readReturn? afterFilter
    return ⟨labels, filter, sorting, limit⟩
  | _ => none

/-- A filter is taken off the clauses that it stands in front of. -/
theorem takeFilter?_append {conditions : List (Condition × String)}
    (h : ∀ entry ∈ conditions, Condition.Readable entry) (next : Passage)
    (hnext : next.1 ≠ "WHERE") (rest : List Passage) :
    takeFilter? (filterPassages conditions ++ next :: rest) =
      some (Condition.writtenFilter conditions, next :: rest) := by
  cases conditions with
  | nil => exact if_neg hnext
  | cons first others =>
    have hplain : ∀ entry ∈ first :: others, Condition.Plain entry :=
      fun entry hentry => (h entry hentry).plain
    rw [filterPassages, List.singleton_append, takeFilter?, if_pos rfl, readFilter?_words hplain]
    rfl

/-! ## 2.  The clauses of a query -/

/-- What a chain of conditions holds can be read. -/
theorem Holds.readable {allocator : Allocator} {parameters : Entries}
    {conditions : List (Condition × String)} {requirements : List (Requirement × String)}
    (h : Holds allocator parameters conditions requirements)
    (hstem : ∀ c ∈ allocator.stem.toList, isNameChar c = true)
    (hvar : ∀ entry ∈ conditions, isName entry.2.toList = true) :
    ∀ entry ∈ conditions, Condition.Readable entry := fun entry hentry =>
  have hdrawn := h.drawn_of_mem hentry
  ⟨hvar entry hentry, h.isIdentifier_field hentry, hdrawn.isNameChar hstem, hdrawn.ne_empty⟩

/-- The digits of a number are no capitals. -/
theorem isUpper_of_mem_repr {n : ℕ} {c : Char} (h : c ∈ (Nat.repr n).toList) :
    c.isUpper = false := by
  rw [Nat.toList_repr] at h
  have hdigit : c.isDigit = true := Nat.isDigit_of_mem_toDigits (by decide) (by decide) h
  rw [Char.isDigit, Bool.and_eq_true, decide_eq_true_eq, decide_eq_true_eq] at hdigit
  refine decide_eq_false_iff_not.mpr fun hupper => ?_
  exact absurd (UInt32.le_trans hupper.1 hdigit.2) (by decide)

/-- The word of a number begins no clause. -/
theorem isKeyword_repr (n : ℕ) : isKeyword (Nat.repr n) = false := by
  obtain ⟨c, hc⟩ := List.exists_mem_of_ne_nil (Nat.repr n).toList fun hnil =>
    Nat.repr_ne_empty (String.toList_eq_nil_iff.mp hnil)
  exact isKeyword_of_mem hc (isUpper_of_mem_repr hc)

namespace Query

/-- The text of the part that says which nodes are meant. -/
def rowsText (query : Query) (var : String) : String :=
  "MATCH (" ++ var ++ Fault.labelsText query.labels ++ ")" ++ query.whereClause var

/-- The text that returns the nodes of a query. -/
def selectText (query : Query) : String :=
  query.rowsText variableName ++
    (" RETURN n" ++ (sortingClause query.sorting ++ limitClause query.limit))

/-- The word of the pattern of a query. -/
def patternWord (query : Query) (var : String) : String :=
  "(" ++ var ++ Fault.labelsText query.labels ++ ")"

/-- The clauses of the part that says which nodes are meant. -/
def rowPassages (query : Query) (var : String) : List Passage :=
  ("MATCH", [query.patternWord var]) :: filterPassages (query.conditions.map (·, var))

/-- The clause of an ordering, if there is one. -/
def sortingPassages : Option Sorting → List Passage
  | some sorting => [("ORDER", ["BY", "n." ++ sorting.field, sorting.direction.text])]
  | none => []

/-- The clause of a limit, if there is one. -/
def limitPassages : Option ℕ → List Passage
  | some count => [("LIMIT", [Nat.repr count])]
  | none => []

/-- What the text of a query says. -/
def wording (query : Query) : Wording where
  labels := query.labels
  filter := Condition.writtenFilter (query.conditions.map (·, variableName))
  sorting := query.sorting
  limit := query.limit

theorem addsWords_sortingClause {sorting : Option Sorting}
    (h : ∀ asked ∈ sorting, isIdentifier asked.field = true) :
    AddsWords (sortingClause sorting) (Passage.words (sortingPassages sorting)) := by
  cases sorting with
  | none => exact AddsWords.empty
  | some sorting =>
    have htext : sortingClause (some sorting) = (" " ++ "ORDER") ++ ((" " ++ "BY") ++
        ((" " ++ ("n." ++ sorting.field)) ++ (" " ++ sorting.direction.text))) := by
      change " ORDER BY n" ++ "." ++ sorting.field ++ " " ++ sorting.direction.text = _
      simp only [← String.append_assoc]
      rfl
    have hfield : SpaceFree ("n." ++ sorting.field) :=
      SpaceFree.append (by decide) (spaceFree_of_isIdentifier (h sorting rfl))
    have hdirection : SpaceFree sorting.direction.text := by
      cases sorting.direction <;> decide
    rw [htext]
    exact (AddsWords.word (by decide)).append ((AddsWords.word (by decide)).append
      ((AddsWords.word hfield).append (AddsWords.word hdirection)))

theorem addsWords_limitClause (limit : Option ℕ) :
    AddsWords (limitClause limit) (Passage.words (limitPassages limit)) := by
  cases limit with
  | none => exact AddsWords.empty
  | some count =>
    have htext : limitClause (some count) = (" " ++ "LIMIT") ++ (" " ++ Nat.repr count) := by
      change " LIMIT " ++ Nat.repr count = _
      rw [← String.append_assoc]
      rfl
    rw [htext]
    exact (AddsWords.word (by decide)).append (AddsWords.word (spaceFree_repr count))

theorem isClause_sortingPassages (sorting : Option Sorting) :
    ∀ passage ∈ sortingPassages sorting, IsClause passage := by
  cases sorting with
  | none => exact fun _ h => absurd h List.not_mem_nil
  | some sorting =>
    have horder : isKeyword "ORDER" = true := by decide
    have hby : isKeyword "BY" = false := by decide
    have hproperty : isKeyword ("n." ++ sorting.field) = false :=
      isKeyword_of_mem (c := '.') (by simp) (by decide)
    have hdirection : isKeyword sorting.direction.text = false := by
      cases sorting.direction <;> decide
    rw [sortingPassages]
    refine List.forall_mem_singleton.mpr ⟨horder, ?_⟩
    exact List.forall_mem_cons.mpr ⟨hby, List.forall_mem_cons.mpr ⟨hproperty,
      List.forall_mem_singleton.mpr hdirection⟩⟩

theorem isClause_limitPassages (limit : Option ℕ) :
    ∀ passage ∈ limitPassages limit, IsClause passage := by
  cases limit with
  | none => exact fun _ h => absurd h List.not_mem_nil
  | some count =>
    have hlimit : isKeyword "LIMIT" = true := by decide
    rw [limitPassages]
    exact List.forall_mem_singleton.mpr
      ⟨hlimit, List.forall_mem_singleton.mpr (isKeyword_repr count)⟩

theorem takeSorting?_append (sorting : Option Sorting) (limit : Option ℕ) :
    takeSorting? (sortingPassages sorting ++ limitPassages limit) =
      some (sorting, limitPassages limit) := by
  cases sorting with
  | none => cases limit <;> rfl
  | some sorting =>
    change (dropLead? "n." ("n." ++ sorting.field)).bind _ = _
    rw [dropLead?_append]
    change (readSortDirection? sorting.direction.text).bind _ = _
    rw [readSortDirection?_text]
    rfl

theorem readReturn?_passages (sorting : Option Sorting) (limit : Option ℕ) :
    readReturn? (("RETURN", ["n"]) :: (sortingPassages sorting ++ limitPassages limit)) =
      some (sorting, limit) := by
  change (takeSorting? _).bind _ = _
  rw [takeSorting?_append]
  cases limit with
  | none => rfl
  | some count => exact congrArg (fun n => some (sorting, some n)) (readNatural_repr count)

theorem isClause_rowPassages (query : Query) (var : String) :
    ∀ passage ∈ query.rowPassages var, IsClause passage := by
  have hmatch : isKeyword "MATCH" = true := by decide
  have hpattern : isKeyword (query.patternWord var) = false :=
    isKeyword_of_mem (c := '(') (by simp [patternWord]) (by decide)
  rw [rowPassages]
  exact List.forall_mem_cons.mpr ⟨⟨hmatch, List.forall_mem_singleton.mpr hpattern⟩,
    isClause_filterPassages _⟩

theorem isClause_selectTail (query : Query) :
    ∀ passage ∈ ("RETURN", ["n"]) ::
      (sortingPassages query.sorting ++ limitPassages query.limit), IsClause passage := by
  have hclause : IsClause ("RETURN", ["n"]) :=
    ⟨by decide, List.forall_mem_singleton.mpr (by decide)⟩
  exact List.forall_mem_cons.mpr ⟨hclause,
    List.forall_mem_append.mpr ⟨isClause_sortingPassages _, isClause_limitPassages _⟩⟩

namespace Keeps

variable {query : Query} {requirements : List Requirement}

/-- The conditions of a query can be read on any variable. -/
theorem readable_map (h : query.Keeps requirements) (var : String)
    (hvar : isName var.toList = true) :
    ∀ entry ∈ query.conditions.map (·, var), Condition.Readable entry := by
  refine (h.held var).readable h.stem fun entry hentry => ?_
  obtain ⟨condition, -, rfl⟩ := List.mem_map.mp hentry
  exact hvar

theorem rows_eq (h : query.Keeps requirements) (var : String) :
    query.rows var = .ok (query.rowsText var) := by
  rw [Query.rows, matchClause, labelFragment_map_text h.labels]
  rfl

/-- The words of the part that says which nodes are meant. -/
theorem spacedWords_rowsText (h : query.Keeps requirements) {var : String}
    (hvar : isName var.toList = true) :
    spacedWords (query.rowsText var) = Passage.words (query.rowPassages var) := by
  have htext : query.rowsText var =
      "MATCH" ++ ((" " ++ query.patternWord var) ++ query.whereClause var) := by
    rw [rowsText, patternWord]
    simp only [← String.append_assoc]
    rfl
  have hname : SpaceFree var := fun hc =>
    absurd (isNameChar_of_mem_of_isName hvar hc) (by decide)
  have hpattern : SpaceFree (query.patternWord var) :=
    ((SpaceFree.append (by decide) hname).append (spaceFree_labelsText h.labels)).append (by decide)
  have hadds : AddsWords ((" " ++ query.patternWord var) ++ query.whereClause var)
      ([query.patternWord var] ++
        Passage.words (filterPassages (query.conditions.map (·, var)))) :=
    (AddsWords.word hpattern).append (addsWords_whereClauseFor fun entry hentry =>
      (h.readable_map var hvar entry hentry).plain)
  rw [htext, hadds]
  rfl

theorem selectStatement_eq (h : query.Keeps requirements) :
    query.selectStatement = .ok ⟨query.selectText, query.parameters⟩ := by
  rw [selectStatement, h.rows_eq, selectText]
  change Except.ok (Statement.mk (query.rowsText variableName ++ " RETURN " ++ "n" ++
    sortingClause query.sorting ++ limitClause query.limit) query.parameters) = _
  simp only [String.append_assoc]
  rfl

/-- The clauses of a text that begins with that part. -/
theorem clauses_rowsText_append (h : query.Keeps requirements) {tail : String}
    {ending : List Passage} (htail : AddsWords tail (Passage.words ending))
    (hending : ∀ passage ∈ ending, IsClause passage) :
    clauses (query.rowsText variableName ++ tail) = query.rowPassages variableName ++ ending := by
  refine clauses_eq ?_ (List.forall_mem_append.mpr ⟨query.isClause_rowPassages _, hending⟩)
  rw [htail, h.spacedWords_rowsText (by decide), Passage.words_append]

/-- What follows the rows when nodes are returned adds its clauses. -/
theorem addsWords_selectTail (h : query.Keeps requirements) :
    AddsWords (" RETURN n" ++ (sortingClause query.sorting ++ limitClause query.limit))
      (Passage.words (("RETURN", ["n"]) ::
        (sortingPassages query.sorting ++ limitPassages query.limit))) := by
  have hreturn : AddsWords " RETURN n" ["RETURN", "n"] := AddsWords.text "RETURN n"
  rw [Passage.words_cons, Passage.words_append]
  exact hreturn.append ((addsWords_sortingClause h.sorting).append (addsWords_limitClause _))

/-- **The clauses of the text that returns the nodes of a query.** -/
theorem clauses_selectText (h : query.Keeps requirements) :
    clauses query.selectText = query.rowPassages variableName ++ (("RETURN", ["n"]) ::
      (sortingPassages query.sorting ++ limitPassages query.limit)) :=
  h.clauses_rowsText_append h.addsWords_selectTail query.isClause_selectTail

/-- **The text of a query says what the query holds.** -/
theorem readWording?_selectText (h : query.Keeps requirements) :
    readWording? query.selectText = some query.wording := by
  have hlabels : readLabels? "(n" (query.patternWord variableName) = some query.labels :=
    readLabels?_pattern (by decide) h.labels
  have hreturn : "RETURN" ≠ "WHERE" := by decide
  have hfilter := takeFilter?_append (h.readable_map variableName (by decide))
    ("RETURN", ["n"]) hreturn (sortingPassages query.sorting ++ limitPassages query.limit)
  rw [readWording?, h.clauses_selectText, rowPassages, List.cons_append]
  simp only [hlabels, hfilter, readReturn?_passages, Option.bind_eq_bind, Option.bind_some]
  rfl

end Keeps

/-! ## 3.  Every query that can be built -/

/-- A query that calls can build: the source of a family after a history.  The calls on its
traversals count as well, since they draw from its allocator. -/
def Built (query : Query) : Prop :=
  ∃ (given : List Value) (fresh : Query) (calls : List FamilyCall),
    Query.ofLabels given = .ok fresh ∧ query = ((Family.mk fresh []).afterCalls calls).source

namespace Built

variable {query : Query}

theorem keeps (h : query.Built) : ∃ requirements, query.Keeps requirements := by
  obtain ⟨given, fresh, calls, hfresh, rfl⟩ := h
  exact ⟨_, (Family.keeps_afterCalls hfresh calls).source⟩

/-- One more call. -/
theorem after (h : query.Built) (call : QueryCall) : (call.after query).Built := by
  obtain ⟨given, fresh, calls, hfresh, rfl⟩ := h
  refine ⟨given, fresh, calls ++ [.onSource call], hfresh, ?_⟩
  rw [Family.afterCalls, Family.afterCalls, List.foldl_append]
  rfl

/-- An update leaves a query that calls can build. -/
theorem updateStatement (h : query.Built) (attributes : Value) :
    (query.updateStatement attributes).2.Built := by
  obtain ⟨given, fresh, calls, hfresh, rfl⟩ := h
  refine ⟨given, fresh, calls ++ [.update attributes], hfresh, ?_⟩
  rw [Family.afterCalls, Family.afterCalls, List.foldl_append]
  rfl

/-- Looking for the first node leaves a query that calls can build: it sets the limit. -/
theorem first (h : query.Built) : query.first.2.Built := h.after (.limit (.int 1))

/-- Finding a node leaves a query that calls can build: it adds a condition and sets the limit. -/
theorem find (h : query.Built) (identity : Value) : (query.find identity).2.Built :=
  first (h.after (.«where» (.text identityKey) identity none))

end Built

end Query

/-- **The text of a query can be read in one way only.**  Every query that can be built compiles to
a text from which its labels, its conditions with their connectives, its ordering and its limit are
read back exactly, so that queries with the same text agree on all of these. -/
theorem selectStatement_unambiguous {query : Query} (h : query.Built) :
    (∃ text, query.selectStatement = .ok ⟨text, query.parameters⟩ ∧
        readWording? text = some query.wording) ∧
      ∀ other : Query, other.Built →
        other.selectStatement.map (·.text) = query.selectStatement.map (·.text) →
        other.wording = query.wording := by
  obtain ⟨requirements, hkeeps⟩ := h.keeps
  refine ⟨⟨_, hkeeps.selectStatement_eq, hkeeps.readWording?_selectText⟩, ?_⟩
  intro other hother htext
  obtain ⟨others, hothers⟩ := hother.keeps
  rw [hkeeps.selectStatement_eq, hothers.selectStatement_eq] at htext
  have htext : other.selectText = query.selectText := Except.ok.inj htext
  have hread := hkeeps.readWording?_selectText
  rw [← htext, hothers.readWording?_selectText] at hread
  exact Option.some.inj hread

/-- Names that look like clauses, and names that end with a line feed. -/
def misleading : List FamilyCall :=
  [.onSource (.«where» (.text "RETURN") (.text " starts  with ") (some (.text "n LIMIT 5"))),
    .onSource (.orWhere (.text "AND\n") (.int 1) none),
    .onSource (.orderBy (.text "LIMIT") (.text "desc")),
    .onSource (.limit (.int 0))]

/-- The labels `WHERE` and `A`, the latter with a line feed, the properties `RETURN` and `LIMIT`:
all of them are read back. -/
theorem selectStatement_unambiguous_misleading :
    ∃ (query : Query) (text : String), query.Built ∧
      query.selectStatement = .ok ⟨text, query.parameters⟩ ∧
      readWording? text = some ⟨["WHERE", "A\n"],
        some (("n", ⟨"RETURN", .startsWith, "p1"⟩), [(.or, "n", ⟨"AND\n", .equal, "p2"⟩)]),
        some ⟨"LIMIT", .descending⟩, some 0⟩ := by
  have hfresh : Query.ofLabels [.text "WHERE", .text "A\n"] = .ok { labels := ["WHERE", "A\n"] } :=
    rfl
  have hbuilt : Query.Built ((Family.mk { labels := ["WHERE", "A\n"] } []).afterCalls
      misleading).source := ⟨_, _, misleading, hfresh, rfl⟩
  obtain ⟨text, htext, hread⟩ := (selectStatement_unambiguous hbuilt).1
  exact ⟨_, text, hbuilt, htext, hread⟩

end GraphMapper
