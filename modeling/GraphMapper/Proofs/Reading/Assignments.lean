import GraphMapper.Proofs.Reading.Selection
import GraphMapper.Query.Statements

/-!
# Reading the assignments of an update

An update of a query finds nodes like a selection does and assigns properties to all of them.
`readRevision` reads one from the tokens of a text.

The tokens are cut after each placeholder, as those of a selection are.  A placeholder ends a
comparison or an assignment, so the pieces of the filter are followed by those of the assignments,
and the first of these begins with the word `SET`.  No piece of a filter does: it begins with the
word for the filter or with a connective, even if a label or a property is called by that word.

`readRevision_revisionText` says that the text is read as the labels, the filter and the assignments
that it was written from, each name as a store reads it.
-/

namespace GraphMapper

/-- A change to all nodes that a filter selects, as it is read: the labels, the filter, and the
assigned properties with the placeholders of their values. -/
structure Revision where
  labels : List String
  filter : Option (Comparison × List (Connective × Comparison))
  entries : List (String × String)
  deriving DecidableEq

/-- The properties that are assigned. -/
def Revision.assigned (revision : Revision) : List String := revision.entries.map Prod.fst

namespace Reading

/-! ## 1.  Reading -/

/-- The assignment to a property of a variable that a piece is. -/
def assignment? (var : String) : List Token × String → Option (String × String)
  | ([.word owner, .mark '.', .word key, .mark '='], parameter) =>
    if owner = var then some (key, parameter) else none
  | _ => none

/-- The assignment that a piece is, after the comma in front of it. -/
def further? (var : String) : List Token × String → Option (String × String)
  | (.mark ',' :: lead, parameter) => assignment? var (lead, parameter)
  | _ => none

/-- The assignments that pieces are, if there are any. -/
def assigned? (var : String) : List (List Token × String) → Option (List (String × String))
  | [] => some []
  | (.word "SET" :: lead, parameter) :: rest => do
    let first ← assignment? var (lead, parameter)
    let others ← rest.mapM (further? var)
    return first :: others
  | _ => none

/-- A piece that belongs to the filter: it does not begin the assignments. -/
def filters (piece : List Token × String) : Bool := piece.1.head? != some (.word "SET")

end Reading

/-- The revision that a text is, if it is one. -/
def readRevision (text : String) : Option Revision := do
  let pattern ← Reading.skip (tokens "MATCH (n") (tokens text)
  let (labels, afterLabels) := Reading.labels pattern
  let afterPattern ← Reading.skip (tokens ")") afterLabels
  let (pieces, tail) := Reading.pieces afterPattern
  let filter ← Reading.filter? "n" (pieces.takeWhile Reading.filters)
  let entries ← Reading.assigned? "n" (pieces.dropWhile Reading.filters)
  let rest ← Reading.skip (tokens " RETURN count(n) AS updated") tail
  if rest.isEmpty then some ⟨labels, filter, entries⟩ else none

namespace Reading

/-! ## 2.  The pieces of assignments -/

/-- What stands in front of the placeholder of an assignment. -/
def assignmentLead (var key : String) : List Token := [.word var, .mark '.', .word key, .mark '=']

/-- The pieces of the assignments after the first. -/
def furtherPieces (var : String) (entries : List (String × String)) : List (List Token × String) :=
  entries.map fun entry => (.mark ',' :: assignmentLead var entry.1, entry.2)

/-- The pieces of assignments: the first begins with the word for them. -/
def assignmentPieces (var : String) : List (String × String) → List (List Token × String)
  | [] => []
  | first :: rest => (.word "SET" :: assignmentLead var first.1, first.2) :: furtherPieces var rest

/-- A list of assignments is cut into them. -/
theorem pieces_intercalate (var : String) (first : String × String)
    (others : List (String × String)) {tail : List Token} (htail : Bare tail) :
    pieces ([Token.mark ','].intercalate ((first :: others).map (assignmentTokens var)) ++ tail) =
      ((assignmentLead var first.1, first.2) :: furtherPieces var others, tail) := by
  induction others generalizing first with
  | nil =>
    have hbare : Bare (assignmentLead var first.1) := rfl
    rw [List.map_singleton, List.intercalate_singleton]
    exact pieces_append hbare first.2 (pieces_of_bare htail)
  | cons next others ih =>
    have hbare : Bare (assignmentLead var first.1) := rfl
    have hnext := ih next
    rw [List.map_cons] at hnext
    rw [List.map_cons, List.map_cons, List.intercalate_cons_cons, List.append_assoc,
      List.append_assoc]
    refine pieces_append hbare first.2 ?_
    change pieces (.mark ',' :: ([Token.mark ','].intercalate (assignmentTokens var next ::
      others.map (assignmentTokens var)) ++ tail)) = _
    rw [pieces_cons_of_bare rfl, hnext]
    rfl

/-- **Assignments are cut into the properties that they assign.** -/
theorem pieces_assignmentsText {var : String} (hvar : isName var.toList = true)
    {pairs : List (String × String)} (h : ∀ pair ∈ pairs, AcceptedEntry pair) {tail : List Token}
    (htail : Bare tail) :
    pieces (tokens (assignmentsText var pairs) ++ tail) =
      (assignmentPieces var (pairs.map readEntry), tail) := by
  cases pairs with
  | nil => exact pieces_of_bare htail
  | cons first others =>
    rw [tokens_assignmentsText hvar (List.cons_ne_nil _ _) h, List.cons_append,
      pieces_cons_of_bare rfl, List.map_cons, pieces_intercalate var _ _ htail]
    rfl

theorem assignment?_assignmentLead (var : String) (entry : String × String) :
    assignment? var (assignmentLead var entry.1, entry.2) = some entry := if_pos rfl

/-- The pieces of assignments are read as them. -/
theorem assigned?_assignmentPieces (var : String) (entries : List (String × String)) :
    assigned? var (assignmentPieces var entries) = some entries := by
  cases entries with
  | nil => rfl
  | cons first rest =>
    have hrest : (furtherPieces var rest).mapM (further? var) = some rest := by
      induction rest with
      | nil => rfl
      | cons next rest ih =>
        have hnext : further? var (.mark ',' :: assignmentLead var next.1, next.2) = some next :=
          assignment?_assignmentLead var next
        rw [furtherPieces] at ih
        rw [furtherPieces, List.map_cons, List.mapM_cons, hnext, ih]
        rfl
    rw [assignmentPieces, assigned?, assignment?_assignmentLead, hrest]
    rfl

/-! ## 3.  Where the filter ends -/

/-- No piece of a filter begins the assignments. -/
theorem filters_of_mem_filterPieces {var : String} {conditions : List Condition}
    {piece : List Token × String} (h : piece ∈ filterPieces var conditions) :
    filters piece = true := by
  cases conditions with
  | nil => exact absurd h List.not_mem_nil
  | cons first rest =>
    rcases List.mem_cons.mp h with rfl | h
    · rfl
    · obtain ⟨condition, -, rfl⟩ := List.mem_map.mp h
      change (some (Token.word condition.connective.text) != some (.word "SET")) = true
      cases condition.connective <;> decide

/-- The first piece of assignments is none of the filter. -/
theorem dropWhile_assignmentPieces (var : String) (entries : List (String × String)) :
    (assignmentPieces var entries).dropWhile filters = assignmentPieces var entries ∧
      (assignmentPieces var entries).takeWhile filters = [] := by
  cases entries with
  | nil => exact ⟨rfl, rfl⟩
  | cons first rest => exact ⟨rfl, rfl⟩

end Reading

/-! ## 4.  Reading a text back -/

/-- The text of an update. -/
def revisionText (labels : List String) (conditions : List Condition)
    (pairs : List (String × String)) : String :=
  "MATCH (n" ++ Fault.labelsText labels ++ ")" ++ whereClause conditions "n" ++
    assignmentsText "n" pairs ++ " RETURN count(n) AS updated"

/-- **The text of an update is read as that update**, each name as a store reads it. -/
theorem readRevision_revisionText {labels : List String} {conditions : List Condition}
    {pairs : List (String × String)} (hlabels : ∀ l ∈ labels, isIdentifier l = true)
    (hconditions : ∀ condition ∈ conditions, Condition.Readable (condition, "n"))
    (hpairs : ∀ pair ∈ pairs, AcceptedEntry pair) :
    readRevision (revisionText labels conditions pairs) =
      some ⟨labels.map readName, Condition.toFilter conditions, pairs.map readEntry⟩ := by
  have hbracket : Closed ")" := closed_of_toList_eq rfl (by decide)
  have hend : Closed " RETURN count(n) AS updated" := closed_of_toList_eq rfl (by decide)
  have hfilterText : Closed (whereClause conditions "n") := closed_whereClauseFor _
  have hvar : isName "n".toList = true := by decide
  have hbare : Reading.Bare (tokens " RETURN count(n) AS updated") := by
    rw [Reading.Bare]
    decide +kernel
  have htokens : tokens (revisionText labels conditions pairs) =
      tokens "MATCH (n" ++ (labelTokens (labels.map readName) ++ (tokens ")" ++
        (tokens (whereClause conditions "n") ++ (tokens (assignmentsText "n" pairs) ++
          tokens " RETURN count(n) AS updated")))) := by
    rw [revisionText, tokens_append _ hend, tokens_append _ (closed_assignmentsText "n" pairs),
      tokens_append _ hfilterText, tokens_append _ hbracket,
      tokens_append _ (closed_labelsText labels), tokens_labelsText hlabels]
    simp only [List.append_assoc]
  have hstart : Reading.labels (labelTokens (labels.map readName) ++ (tokens ")" ++
        (tokens (whereClause conditions "n") ++ (tokens (assignmentsText "n" pairs) ++
          tokens " RETURN count(n) AS updated")))) =
      (labels.map readName, tokens ")" ++ (tokens (whereClause conditions "n") ++
        (tokens (assignmentsText "n" pairs) ++ tokens " RETURN count(n) AS updated"))) := by
    have hread : tokens ")" = [.mark ')'] := by decide
    exact Reading.labels_append _ (by rw [hread]; simp)
  have hpieces := pieces_whereClause hconditions
    (Reading.pieces_assignmentsText hvar hpairs hbare)
  have hfilters : ∀ piece ∈ Reading.filterPieces "n" conditions, Reading.filters piece = true :=
    fun piece => Reading.filters_of_mem_filterPieces
  obtain ⟨hdrop, htake⟩ := Reading.dropWhile_assignmentPieces "n" (pairs.map readEntry)
  have hfilter : (Reading.filterPieces "n" conditions ++
      Reading.assignmentPieces "n" (pairs.map readEntry)).takeWhile Reading.filters =
        Reading.filterPieces "n" conditions := by
    rw [List.takeWhile_append_of_pos hfilters, htake, List.append_nil]
  have hassigned : (Reading.filterPieces "n" conditions ++
      Reading.assignmentPieces "n" (pairs.map readEntry)).dropWhile Reading.filters =
        Reading.assignmentPieces "n" (pairs.map readEntry) := by
    rw [List.dropWhile_append_of_pos hfilters, hdrop]
  have hskip : Reading.skip (tokens " RETURN count(n) AS updated")
      (tokens " RETURN count(n) AS updated") = some [] := by
    have hall := Reading.skip_append (tokens " RETURN count(n) AS updated") []
    rwa [List.append_nil] at hall
  simp only [readRevision, htokens, Reading.skip_append, Option.bind_eq_bind, Option.bind_some,
    hstart, hpieces, hfilter, hassigned, filter?_filterPieces,
    Reading.assigned?_assignmentPieces, hskip]
  rfl

end GraphMapper
