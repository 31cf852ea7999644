import GraphMapper.Proofs.Builder.Finding
import GraphMapper.Proofs.Builder.Placeholders
import GraphMapper.Proofs.Builder.Wording

/-!
# What the text of a traversal says

A traversal writes two patterns with a filter each, and the first pair is written from its source
as the source is at that moment.  The two halves have different authors: conditions on the source
may be joined by "or", those on the relationship and the target never are.  There are no
parentheses, so what keeps an "or" of the source away from the rest is only that there are two
filters, and that each condition stands in the right one.

`readPathWording?` reads both halves from a text.

* `Traversal.Keeps.readPathWording?_selectText`: the text of a traversal is read as what the source
  and the traversal hold.
* `Traversal.Keeps.passes_wording`: a path passes both filters if and only if its source meets an
  alternative of what was asked of the source, and its relationship and its target meet everything
  that was asked of them.
* `traversal_unambiguous`: both of these for every family that can be built; the count has the same
  patterns, filters and parameters, and traversals with the same text agree on all that was written.

The direction of a traversal is checked when it is started, and nothing in a history changes it
(`Family.regular_afterCalls`).  This is why every traversal compiles.
-/

namespace GraphMapper

/-! ## 1.  Directions and connectives -/

/-- A direction that names one. -/
def PathDirection.Known (direction : PathDirection) : Prop := direction.check = .ok direction

/-- What stands in front of the colon of a relationship. -/
def PathDirection.opening : PathDirection → String
  | .incoming => "<-[r"
  | .outgoing | .both | .unknown _ => "-[r"

/-- What stands behind the type of a relationship. -/
def PathDirection.closing : PathDirection → String
  | .outgoing => "]->"
  | .incoming | .both | .unknown _ => "]-"

theorem PathDirection.opening_eq (direction : PathDirection) :
    direction.opening = "-[r" ∨ direction.opening = "<-[r" := by
  cases direction <;> simp [opening]

theorem PathDirection.closing_eq (direction : PathDirection) :
    direction.closing = "]->" ∨ direction.closing = "]-" := by
  cases direction <;> simp [closing]

/-- The relationship of a pattern whose direction is known. -/
def PathDirection.patternText (direction : PathDirection) (name : String) : String :=
  direction.opening ++ (":" ++ (name ++ direction.closing))

theorem PathDirection.pattern_of_known {direction : PathDirection} (h : direction.Known)
    (name : String) : direction.pattern name = .ok (direction.patternText name) := by
  cases direction with
  | unknown given => exact absurd h (by simp [Known, check])
  | _ =>
    rw [patternText, ← String.append_assoc, ← String.append_assoc]
    rfl

/-- A traversal that has a direction, and whose conditions are all joined by "and". -/
structure Traversal.Regular (traversal : Traversal) : Prop where
  direction : traversal.direction.Known
  conjoined : ∀ c ∈ traversal.conditions, c.1.connective = .and

/-- A new traversal has a direction, and no conditions. -/
theorem Traversal.regular_start {direction relationshipType : Value} {traversal : Traversal}
    (h : Traversal.start direction relationshipType = .ok traversal) : traversal.Regular := by
  rw [start] at h
  obtain ⟨checked, hchecked, h⟩ := exists_of_bind_eq_ok h
  obtain ⟨name, -, h⟩ := exists_of_bind_eq_ok h
  obtain rfl : { direction := checked, relationshipType := name } = traversal := Except.ok.inj h
  refine ⟨?_, fun _ hc => absurd hc List.not_mem_nil⟩
  rw [PathDirection.Known]
  cases hgiven : PathDirection.ofValue direction with
  | unknown given =>
    rw [hgiven] at hchecked
    exact absurd hchecked (by simp [PathDirection.check])
  | _ =>
    rw [hgiven] at hchecked
    rw [← Except.ok.inj hchecked]
    rfl

/-- No call changes a direction, and a condition that a call adds is joined by "and". -/
theorem TraversalCall.Effect.regular {source later : Query} {traversal changed : Traversal}
    {added : Option (Requirement × PathPart)}
    (h : TraversalCall.Effect source traversal added later changed) (hregular : traversal.Regular) :
    changed.Regular := by
  cases h with
  | settings => exact ⟨hregular.direction, hregular.conjoined⟩
  | bound value => exact ⟨hregular.direction, hregular.conjoined⟩
  | required requirement part =>
    refine ⟨hregular.direction, List.forall_mem_append.mpr ⟨hregular.conjoined, ?_⟩⟩
    exact List.forall_mem_singleton.mpr rfl

theorem FamilyCall.regular_after {family : Family}
    (h : ∀ traversal ∈ family.traversals, traversal.Regular) (call : FamilyCall) :
    ∀ traversal ∈ (call.after family).traversals, traversal.Regular := by
  cases call with
  | onSource call => exact h
  | update attributes => exact h
  | start direction relationshipType =>
    rw [after]
    cases hstart : Traversal.start direction relationshipType with
    | error fault => exact h
    | ok started =>
      refine List.forall_mem_append.mpr ⟨h, ?_⟩
      exact List.forall_mem_singleton.mpr (Traversal.regular_start hstart)
  | onTraversal index call =>
    rw [after]
    cases htraversal : family.traversals[index]? with
    | none => exact h
    | some traversal =>
      intro other hother
      rcases List.mem_or_eq_of_mem_set hother with hother | rfl
      · exact h other hother
      · have heffect := call.effect_perform family.source traversal
        exact heffect.regular (h traversal (List.mem_of_getElem? htraversal))

/-- **Every traversal of a history has a direction**, and no condition of it is joined by "or". -/
theorem Family.regular_afterCalls {family : Family}
    (h : ∀ traversal ∈ family.traversals, traversal.Regular) (calls : List FamilyCall) :
    ∀ traversal ∈ (family.afterCalls calls).traversals, traversal.Regular := by
  induction calls generalizing family with
  | nil => exact h
  | cons call calls ih => exact ih (FamilyCall.regular_after h call)

/-! ## 2.  Reading -/

/-- What the text of a traversal says. -/
structure PathWording where
  sourceLabels : List String
  sourceFilter : Option Filter
  direction : PathDirection
  relationshipType : String
  targetLabels : List String
  filter : Option Filter
  limit : Option Int

/-- The direction and the type of a relationship, given what stands on both sides of the colon. -/
def readRelationship? (before after : String) : Option (PathDirection × String) := do
  let after ← dropTail? "(target" after
  if before = "(source)<-[r" then (dropTail? "]-" after).map (.incoming, ·)
  else if before = "(source)-[r" then
    match dropTail? "]->" after with
    | some name => some (.outgoing, name)
    | none => (dropTail? "]-" after).map (.both, ·)
  else none

/-- The direction, the type and the labels of the target that a pattern says. -/
def readPath? (word : String) : Option (PathDirection × String × List String) := do
  let inner ← dropTail? ")" word
  match splitText ':' inner with
  | before :: after :: labels =>
    (readRelationship? before after).map fun read => (read.1, read.2, labels)
  | _ => none

/-- The number that digits are, with a minus sign or without. -/
def readInteger (word : String) : Int :=
  match dropLead? "-" word with
  | some digits => -Int.ofNat (readNatural digits)
  | none => Int.ofNat (readNatural word)

/-- The limit that is said when targets are returned. -/
def readTargets? : List Passage → Option (Option Int)
  | ("RETURN", ["target"]) :: rest => (takeLimit? rest).map fun limit => limit.map readInteger
  | _ => none

/-- What is said of the relationship and the target, with the limit. -/
def readSecondHalf? : List Passage →
    Option ((PathDirection × String × List String) × Option Filter × Option Int)
  | ("MATCH", [word]) :: rest => do
    let path ← readPath? word
    let (filter, afterFilter) ← takeFilter? rest
    let limit ← readTargets? afterFilter
    return (path, filter, limit)
  | _ => none

/-- What a text says, if it is the text of a traversal. -/
def readPathWording? (text : String) : Option PathWording :=
  match clauses text with
  | ("MATCH", [pattern]) :: rest => do
    let sourceLabels ← readLabels? "(source" pattern
    let (sourceFilter, afterSource) ← takeFilter? rest
    let ((direction, name, targetLabels), filter, limit) ← readSecondHalf? afterSource
    return ⟨sourceLabels, sourceFilter, direction, name, targetLabels, filter, limit⟩
  | _ => none

/-! ## 3.  The clauses of a traversal -/

namespace Traversal

/-- The conditions of a traversal with their pattern variables. -/
def written (traversal : Traversal) : List (Condition × String) :=
  traversal.conditions.map fun c => (c.1, c.2.var)

/-- The word of the second pattern. -/
def pathWord (traversal : Traversal) : String :=
  "(source)" ++ traversal.direction.patternText traversal.relationshipType ++ "(target" ++
    Fault.labelsText traversal.targetLabels ++ ")"

/-- The text of the part that says which targets are meant. -/
def rowsText (source : Query) (traversal : Traversal) : String :=
  source.rowsText sourceName ++ (" MATCH " ++ traversal.pathWord ++ traversal.filter)

/-- The clauses of the part that says which targets are meant. -/
def rowPassages (source : Query) (traversal : Traversal) : List Passage :=
  source.rowPassages sourceName ++
    ("MATCH", [traversal.pathWord]) :: filterPassages traversal.written

/-- The limit that a statement has: the given one, or else that of the traversal. -/
def effectiveLimit (traversal : Traversal) (limit : Option Int) : Option Int :=
  limit.or (traversal.limit.map Int.ofNat)

/-- What the text of a traversal says. -/
def wording (source : Query) (traversal : Traversal) (limit : Option Int) : PathWording where
  sourceLabels := source.labels
  sourceFilter := Condition.writtenFilter (source.conditions.map (·, sourceName))
  direction := traversal.direction
  relationshipType := traversal.relationshipType
  targetLabels := traversal.targetLabels
  filter := Condition.writtenFilter traversal.written
  limit := traversal.effectiveLimit limit

/-- The clause of a limit, if there is one. -/
def limitPassages : Option Int → List Passage
  | some count => [("LIMIT", [toString count])]
  | none => []

/-- The text of a limit, if there is one. -/
def limitClause (limit : Option Int) : String :=
  limit.elim "" fun count => " LIMIT " ++ toString count

end Traversal

/-- An integer is written with digits, after a minus sign if it is negative. -/
theorem toString_int_cases (n : Int) :
    (∃ m : Nat, n = Int.ofNat m ∧ toString n = Nat.repr m) ∨
      ∃ m : Nat, n = -Int.ofNat m ∧ toString n = "-" ++ Nat.repr m := by
  rw [Int.toString_eq_repr, Int.repr_eq_if]
  by_cases hn : 0 ≤ n
  · rw [if_pos hn]
    exact Or.inl ⟨n.toNat, (Int.toNat_of_nonneg hn).symm, rfl⟩
  · rw [if_neg hn]
    have hneg : 0 ≤ -n := by omega
    refine Or.inr ⟨(-n).toNat, ?_, rfl⟩
    change n = -((-n).toNat : Int)
    rw [Int.toNat_of_nonneg hneg, Int.neg_neg]

theorem spaceFree_toString_int (n : Int) : SpaceFree (toString n) := by
  obtain ⟨m, -, htext⟩ | ⟨m, -, htext⟩ := toString_int_cases n
  · rw [htext]
    exact spaceFree_repr m
  · rw [htext]
    exact SpaceFree.append (by decide) (spaceFree_repr m)

/-- The word of a number begins no clause. -/
theorem isKeyword_toString_int (n : Int) : isKeyword (toString n) = false := by
  obtain ⟨m, -, htext⟩ | ⟨m, -, htext⟩ := toString_int_cases n
  · rw [htext]
    exact isKeyword_repr m
  · rw [htext]
    exact isKeyword_of_mem (c := '-') (by simp) (by decide)

@[simp] theorem readInteger_toString (n : Int) : readInteger (toString n) = n := by
  obtain ⟨m, rfl, htext⟩ | ⟨m, rfl, htext⟩ := toString_int_cases n
  · have hdigits : '-' ∉ (Nat.repr m).toList := fun h =>
      absurd (isNameChar_of_mem_repr h) (by decide)
    rw [htext, readInteger, dropLead?_eq_none (c := '-') (by decide) hdigits]
    exact congrArg Int.ofNat (readNatural_repr m)
  · rw [htext, readInteger, dropLead?_append]
    exact congrArg (fun n => -Int.ofNat n) (readNatural_repr m)

namespace Traversal

theorem addsWords_limitClause (limit : Option Int) :
    AddsWords (limitClause limit) (Passage.words (limitPassages limit)) := by
  cases limit with
  | none => exact AddsWords.empty
  | some count =>
    have htext : limitClause (some count) = (" " ++ "LIMIT") ++ (" " ++ toString count) := by
      change " LIMIT " ++ toString count = _
      rw [← String.append_assoc]
      rfl
    rw [htext]
    exact (AddsWords.word (by decide)).append (AddsWords.word (spaceFree_toString_int count))

theorem isClause_limitPassages (limit : Option Int) :
    ∀ passage ∈ limitPassages limit, IsClause passage := by
  cases limit with
  | none => exact fun _ h => absurd h List.not_mem_nil
  | some count =>
    have hlimit : isKeyword "LIMIT" = true := by decide
    rw [limitPassages]
    exact List.forall_mem_singleton.mpr
      ⟨hlimit, List.forall_mem_singleton.mpr (isKeyword_toString_int count)⟩

theorem readTargets?_passages (limit : Option Int) :
    readTargets? (("RETURN", ["target"]) :: limitPassages limit) = some limit := by
  cases limit with
  | none => rfl
  | some count => exact congrArg (fun n => some (some n)) (readInteger_toString count)

/-- A relationship is read from what stands on both sides of its colon. -/
theorem readRelationship?_opening {direction : PathDirection} (h : direction.Known)
    {name : String} (hname : isIdentifier name = true) :
    readRelationship? ("(source)" ++ direction.opening)
      (name ++ direction.closing ++ "(target") = some (direction, name) := by
  rw [readRelationship?, dropTail?_append]
  cases direction with
  | unknown given => exact absurd h (by simp [PathDirection.Known, PathDirection.check])
  | incoming =>
    change (dropTail? "]-" (name ++ "]-")).map _ = _
    rw [dropTail?_append]
    rfl
  | outgoing =>
    change (match dropTail? "]->" (name ++ "]->") with
      | some name => some (PathDirection.outgoing, name)
      | none => _) = _
    rw [dropTail?_append]
  | both =>
    -- The type has no angle bracket in it, so the arrow has no head.
    have hhead : '>' ∉ (name ++ "]-").toList := by
      rw [String.toList_append, List.mem_append, not_or]
      exact ⟨notMem_of_isIdentifier hname (by decide) (by decide), by decide⟩
    change (match dropTail? "]->" (name ++ "]-") with
      | some name => _
      | none => (dropTail? "]-" (name ++ "]-")).map _) = _
    rw [dropTail?_eq_none (c := '>') (by decide) hhead, dropTail?_append]
    rfl

/-- **The second pattern is read back.** -/
theorem readPath?_pathWord {traversal : Traversal} (hdirection : traversal.direction.Known)
    (hname : isIdentifier traversal.relationshipType = true)
    (hlabels : ∀ name ∈ traversal.targetLabels, isIdentifier name = true) :
    readPath? traversal.pathWord =
      some (traversal.direction, traversal.relationshipType, traversal.targetLabels) := by
  have htext : traversal.pathWord =
      ("(source)" ++ traversal.direction.opening ++ (":" ++
        (traversal.relationshipType ++ traversal.direction.closing ++ "(target" ++
          Fault.labelsText traversal.targetLabels))) ++ ")" := by
    rw [pathWord, PathDirection.patternText]
    simp only [String.append_assoc]
  have hbefore : ':' ∉ ("(source)" ++ traversal.direction.opening).toList := by
    rcases traversal.direction.opening_eq with h | h <;> rw [h] <;> decide
  have hclosing : ':' ∉ traversal.direction.closing.toList := by
    rcases traversal.direction.closing_eq with h | h <;> rw [h] <;> decide
  have hafter : ':' ∉
      (traversal.relationshipType ++ traversal.direction.closing ++ "(target").toList := by
    simp only [String.toList_append, List.mem_append, not_or]
    exact ⟨⟨notMem_of_isIdentifier hname (by decide) (by decide), hclosing⟩, by decide⟩
  rw [readPath?, htext, dropTail?_append]
  change (match splitText ':' _ with
    | before :: after :: labels =>
      (readRelationship? before after).map
        fun (read : PathDirection × String) => (read.1, read.2, labels)
    | _ => none) = _
  rw [splitText_append rfl, splitText_of_notMem hbefore, splitText_labelsText hafter hlabels]
  change (readRelationship? _ _).map _ = _
  rw [readRelationship?_opening hdirection hname]
  rfl

namespace Keeps

variable {source : Query} {traversal : Traversal} {asked : List Requirement}
  {requirements : List (Requirement × PathPart)}

/-- The conditions of a traversal can be read. -/
theorem readable (hsource : source.Keeps asked) (h : traversal.Keeps source requirements) :
    ∀ entry ∈ traversal.written, Condition.Readable entry := by
  refine h.held.readable hsource.stem fun entry hentry => ?_
  obtain ⟨condition, -, rfl⟩ := List.mem_map.mp hentry
  change isName condition.2.var.toList = true
  cases condition.2 <;> decide

theorem rows_eq (hsource : source.Keeps asked) (h : traversal.Keeps source requirements)
    (hdirection : traversal.direction.Known) :
    traversal.rows source = .ok (traversal.rowsText source) := by
  rw [Traversal.rows, hsource.rows_eq, relationshipPattern,
    PathDirection.pattern_of_known hdirection, labelFragment_map_text h.targetLabels]
  change Except.ok (source.rowsText sourceName ++ " MATCH (" ++ "source" ++ ")" ++
    traversal.direction.patternText traversal.relationshipType ++ "(" ++ "target" ++
      Fault.labelsText traversal.targetLabels ++ ")" ++ traversal.filter) = _
  rw [rowsText, pathWord]
  simp only [String.append_assoc]
  rfl

theorem selectStatement_eq (hsource : source.Keeps asked) (h : traversal.Keeps source requirements)
    (hdirection : traversal.direction.Known) (limit : Option Int) :
    traversal.selectStatement source (limit.elim .null .int) =
      .ok ⟨traversal.rowsText source ++ (" RETURN target" ++
        limitClause (traversal.effectiveLimit limit)), traversal.allParameters source⟩ := by
  have hlimit : (if (limit.elim Value.null Value.int).isNull then traversal.limit.map Nat.repr
      else some (limit.elim Value.null Value.int).plain) =
        (traversal.effectiveLimit limit).map toString := by
    rw [effectiveLimit]
    cases limit with
    | some count => rfl
    | none => cases traversal.limit <;> rfl
  have hrows := rows_eq hsource h hdirection
  rw [selectStatement, hlimit]
  unfold selectLimited
  rw [hrows]
  change Except.ok (Statement.mk (traversal.rowsText source ++ " RETURN " ++ "target" ++ _) _) = _
  cases traversal.effectiveLimit limit <;> simp only [String.append_assoc] <;> rfl

theorem countStatement_eq (hsource : source.Keeps asked) (h : traversal.Keeps source requirements)
    (hdirection : traversal.direction.Known) :
    traversal.countStatement source =
      .ok ⟨traversal.rowsText source ++ " RETURN count(target) AS total",
        traversal.allParameters source⟩ := by
  rw [countStatement, rows_eq hsource h hdirection]
  change Except.ok (Statement.mk (traversal.rowsText source ++ " RETURN count(" ++ "target" ++
    ") AS " ++ "total") _) = _
  simp only [String.append_assoc]
  rfl

theorem isClause_rowPassages (source : Query) (traversal : Traversal) :
    ∀ passage ∈ traversal.rowPassages source, IsClause passage := by
  have hmatch : isKeyword "MATCH" = true := by decide
  have hpath : isKeyword traversal.pathWord = false :=
    isKeyword_of_mem (c := '(') (by simp [pathWord]) (by decide)
  refine List.forall_mem_append.mpr ⟨source.isClause_rowPassages _, ?_⟩
  exact List.forall_mem_cons.mpr ⟨⟨hmatch, List.forall_mem_singleton.mpr hpath⟩,
    isClause_filterPassages _⟩

/-- The words of the part that says which targets are meant. -/
theorem spacedWords_rowsText (hsource : source.Keeps asked)
    (h : traversal.Keeps source requirements) :
    spacedWords (traversal.rowsText source) = Passage.words (traversal.rowPassages source) := by
  have hpath : SpaceFree traversal.pathWord := by
    have hname := spaceFree_of_isIdentifier h.relationshipType
    have hopening : SpaceFree traversal.direction.opening := by
      rcases traversal.direction.opening_eq with h | h <;> rw [h] <;> decide
    have hclosing : SpaceFree traversal.direction.closing := by
      rcases traversal.direction.closing_eq with h | h <;> rw [h] <;> decide
    have hrelationship : SpaceFree
        (traversal.direction.patternText traversal.relationshipType) :=
      hopening.append (SpaceFree.append (by decide) (hname.append hclosing))
    exact ((((SpaceFree.append (by decide) hrelationship).append (by decide)).append
      (spaceFree_labelsText h.targetLabels)).append (by decide))
  have hpattern : AddsWords (" MATCH " ++ traversal.pathWord) ["MATCH", traversal.pathWord] := by
    have htext : " MATCH " ++ traversal.pathWord =
        (" " ++ "MATCH") ++ (" " ++ traversal.pathWord) := by
      rw [← String.append_assoc]
      rfl
    rw [htext]
    exact (AddsWords.word (by decide)).append (AddsWords.word hpath)
  have hfilter : AddsWords traversal.filter (Passage.words (filterPassages traversal.written)) :=
    addsWords_whereClauseFor fun entry hentry => (readable hsource h entry hentry).plain
  rw [rowsText, hpattern.append hfilter, hsource.spacedWords_rowsText (by decide), rowPassages,
    Passage.words_append, Passage.words_cons]

/-- **The clauses of the text that returns the targets of a traversal.** -/
theorem clauses_selectText (hsource : source.Keeps asked)
    (h : traversal.Keeps source requirements) (limit : Option Int) :
    clauses (traversal.rowsText source ++ (" RETURN target" ++ limitClause limit)) =
      traversal.rowPassages source ++ ("RETURN", ["target"]) :: limitPassages limit := by
  have hreturn : AddsWords " RETURN target" ["RETURN", "target"] := AddsWords.text "RETURN target"
  have hclause : IsClause ("RETURN", ["target"]) :=
    ⟨by decide, List.forall_mem_singleton.mpr (by decide)⟩
  refine clauses_eq ?_ ?_
  · rw [hreturn.append (addsWords_limitClause limit), spacedWords_rowsText hsource h,
      Passage.words_append, Passage.words_cons]
  · exact List.forall_mem_append.mpr ⟨isClause_rowPassages source traversal,
      List.forall_mem_cons.mpr ⟨hclause, isClause_limitPassages limit⟩⟩

/-- **The text of a traversal says what it and its source hold.** -/
theorem readPathWording?_selectText (hsource : source.Keeps asked)
    (h : traversal.Keeps source requirements) (hdirection : traversal.direction.Known)
    (limit : Option Int) :
    readPathWording? (traversal.rowsText source ++ (" RETURN target" ++
      limitClause (traversal.effectiveLimit limit))) = some (traversal.wording source limit) := by
  have hlabels : readLabels? "(source" (source.patternWord sourceName) = some source.labels :=
    readLabels?_pattern (by decide) hsource.labels
  have hmatch : "MATCH" ≠ "WHERE" := by decide
  have hreturn : "RETURN" ≠ "WHERE" := by decide
  have hfirst := takeFilter?_append (hsource.readable_map sourceName (by decide))
    ("MATCH", [traversal.pathWord]) hmatch (filterPassages traversal.written ++
      ("RETURN", ["target"]) :: limitPassages (traversal.effectiveLimit limit))
  have hsecond := takeFilter?_append (readable hsource h) ("RETURN", ["target"]) hreturn
    (limitPassages (traversal.effectiveLimit limit))
  have hhalf : readSecondHalf? (("MATCH", [traversal.pathWord]) ::
      (filterPassages traversal.written ++
        ("RETURN", ["target"]) :: limitPassages (traversal.effectiveLimit limit))) =
      some ((traversal.direction, traversal.relationshipType, traversal.targetLabels),
        Condition.writtenFilter traversal.written, traversal.effectiveLimit limit) := by
    simp only [readSecondHalf?, readPath?_pathWord hdirection h.relationshipType h.targetLabels,
      hsecond, readTargets?_passages, Option.bind_eq_bind, Option.bind_some]
    rfl
  rw [readPathWording?, clauses_selectText hsource h, rowPassages, Query.rowPassages,
    List.append_assoc, List.cons_append, List.cons_append]
  simp only [hlabels, hfirst, hhalf, Option.bind_eq_bind, Option.bind_some]
  rfl

end Keeps

end Traversal

/-! ## 4.  What a path must meet -/

/-- The properties of the source, the relationship and the target of a path. -/
structure Path where
  source : Entries
  relationship : Entries
  target : Entries

/-- The properties that a pattern variable stands for. -/
def Path.properties (path : Path) (var : String) : Entries :=
  if var = Traversal.sourceName then path.source
  else if var = PathPart.relationship.var then path.relationship
  else path.target

/-- Whether properties meet a requirement; a property that is not there is null. -/
def Requirement.holdsOf (meaning : Meaning) (properties : Entries) (requirement : Requirement) :
    Bool :=
  meaning requirement.operator
    ((properties.get? (.text (readName requirement.field))).getD .null) requirement.value

/-- Whether a condition that was read holds of a path.  What is not bound compares with nothing. -/
def Path.meets (meaning : Meaning) (parameters : Entries) (path : Path)
    (condition : String × Comparison) : Bool :=
  match parameters.get? (.text condition.2.parameter) with
  | some value => meaning condition.2.operator
      (((path.properties condition.1).get? (.text (readName condition.2.field))).getD .null) value
  | none => false

/-- Whether a path passes a filter that was read. -/
def Path.passes (meaning : Meaning) (parameters : Entries) (path : Path) (filter : Filter) : Bool :=
  chainHolds (path.meets meaning parameters filter.1)
    (filter.2.map fun e => (e.1, path.meets meaning parameters e.2))

/-- Whether a path passes both filters of a traversal. -/
def PathWording.passes (meaning : Meaning) (parameters : Entries) (wording : PathWording)
    (path : Path) : Bool :=
  wording.sourceFilter.all (path.passes meaning parameters) &&
    wording.filter.all (path.passes meaning parameters)

/-- The truth of a chain, true if it is empty. -/
def wholeChainHolds : List (Connective × Bool) → Bool
  | [] => true
  | (_, first) :: rest => chainHolds first rest

theorem wholeChainHolds_iff {α : Type} (p : α → Bool) (chain : List (Connective × α)) :
    wholeChainHolds (chain.map fun e => (e.1, p e.2)) = true ↔
      alternatives chain = [] ∨ ∃ block ∈ alternatives chain, ∀ a ∈ block, p a = true := by
  cases chain with
  | nil => exact iff_of_true rfl (Or.inl rfl)
  | cons first rest =>
    have hne : alternatives (first :: rest) ≠ [] := alternativesFrom_ne_nil first.2 rest
    rw [or_iff_right hne]
    exact chainHolds_iff p first.2 rest

/-- A chain without an "or" holds if all of its members do. -/
theorem wholeChainHolds_of_and {α : Type} (p : α → Bool) (chain : List (Connective × α))
    (h : ∀ e ∈ chain, e.1 = .and) :
    wholeChainHolds (chain.map fun e => (e.1, p e.2)) = true ↔ ∀ e ∈ chain, p e.2 = true := by
  rw [wholeChainHolds_iff]
  cases chain with
  | nil => exact iff_of_true (Or.inl rfl) fun _ h => absurd h List.not_mem_nil
  | cons first rest =>
    obtain ⟨-, hrest⟩ := List.forall_mem_cons.mp h
    have hone : alternatives (first :: rest) = [(first :: rest).map (·.2)] :=
      alternativesFrom_of_and first.2 hrest
    rw [hone, or_iff_right (List.cons_ne_nil _ _)]
    simp only [List.mem_singleton, exists_eq_left, List.forall_mem_map]

theorem all_writtenFilter (meaning : Meaning) (parameters : Entries) (path : Path)
    (conditions : List (Condition × String)) :
    (Condition.writtenFilter conditions).all (path.passes meaning parameters) =
      wholeChainHolds (conditions.map fun entry =>
        (entry.1.connective, path.meets meaning parameters (Condition.written entry))) := by
  cases conditions with
  | nil => rfl
  | cons first rest =>
    rw [Condition.writtenFilter, Option.all_some, Path.passes]
    dsimp only
    rw [List.map_map]
    rfl

/-- **A filter holds of a path as what was asked for does**, connective by connective, whatever else
is bound along with the values of its conditions. -/
theorem Holds.all_writtenFilter {allocator : Allocator} {own all : Entries}
    {conditions : List (Condition × String)} {requirements : List (Requirement × String)}
    (h : Holds allocator own conditions requirements)
    (hall : ∀ name, own.get? (.text name) ≠ none →
      all.get? (.text name) = own.get? (.text name))
    (meaning : Meaning) (path : Path) :
    (Condition.writtenFilter conditions).all (path.passes meaning all) =
      wholeChainHolds (requirements.map fun requirement => (requirement.1.connective,
        requirement.1.holdsOf meaning (path.properties requirement.2))) := by
  rw [GraphMapper.all_writtenFilter]
  refine congrArg wholeChainHolds (h.map_eq_map fun condition requirement hmet => ?_)
  have hvalue : all.get? (.text condition.1.parameter) = some requirement.1.value := by
    rw [hall _ (by rw [hmet.value]; simp), hmet.value]
  have hconnective : condition.1.connective = requirement.1.connective := by rw [hmet.written]; rfl
  have hmeets : path.meets meaning all (Condition.written condition) =
      requirement.1.holdsOf meaning (path.properties requirement.2) := by
    rw [Path.meets, Condition.written]
    dsimp only
    rw [hvalue, hmet.written]
    rfl
  rw [hconnective, hmeets]

namespace Traversal.Keeps

variable {source : Query} {traversal : Traversal} {asked : List Requirement}
  {requirements : List (Requirement × PathPart)}

/-- The conditions of a traversal are what was asked of it, in order. -/
theorem map_written (h : traversal.Keeps source requirements) :
    traversal.written.map (fun entry => (entry.2, entry.1.field, entry.1.operator)) =
      requirements.map fun requirement =>
        (requirement.2.var, requirement.1.field, requirement.1.operator) := by
  have hmap := h.held.map_eq_map
    (f := fun entry => (entry.2, entry.1.field, entry.1.operator))
    (g := fun requirement => (requirement.2, requirement.1.field, requirement.1.operator))
    fun entry requirement hmet => by
      rw [hmet.written]
      rfl
  rw [List.map_map (l := requirements)] at hmap
  exact hmap

/-- Whatever was asked of a traversal is joined by "and". -/
theorem conjoined (h : traversal.Keeps source requirements) (hregular : traversal.Regular) :
    ∀ requirement ∈ requirements, requirement.1.connective = .and := by
  have hmap := h.held.map_eq_map (f := fun entry => entry.1.connective)
    (g := fun requirement => requirement.1.connective) fun entry requirement hmet => by
      rw [hmet.written]
      rfl
  rw [List.map_map, List.map_map] at hmap
  intro requirement hrequirement
  have hmem := List.mem_map_of_mem
    (f := (fun r : Requirement × String => r.1.connective) ∘ fun r => (r.1, PathPart.var r.2))
    hrequirement
  rw [← hmap, List.mem_map] at hmem
  obtain ⟨entry, hentry, hconnective⟩ := hmem
  exact hconnective.symm.trans (hregular.conjoined entry hentry)

/-- **Which paths pass the filters of a traversal.**  The alternatives of the source are about the
source only, and everything that was asked of the relationship and the target must hold. -/
theorem passes_wording (hsource : source.Keeps asked) (h : traversal.Keeps source requirements)
    (hregular : traversal.Regular) (limit : Option Int) (meaning : Meaning) (path : Path) :
    (traversal.wording source limit).passes meaning (traversal.allParameters source) path = true ↔
      (Requirement.alternatives asked = [] ∨
        ∃ block ∈ Requirement.alternatives asked,
          ∀ requirement ∈ block, requirement.holdsOf meaning path.source = true) ∧
      ∀ requirement ∈ requirements,
        requirement.1.holdsOf meaning (path.properties requirement.2.var) = true := by
  have hfirst := (hsource.held sourceName).all_writtenFilter
    (fun _ => h.get?_allParameters_source) meaning path
  have hsecond := h.held.all_writtenFilter (fun _ => h.get?_allParameters_own) meaning path
  have hchain := wholeChainHolds_iff (fun requirement => requirement.holdsOf meaning path.source)
    (asked.map fun requirement => (requirement.connective, requirement))
  have hown := wholeChainHolds_of_and
    (fun requirement : Requirement × PathPart =>
      requirement.1.holdsOf meaning (path.properties requirement.2.var))
    (requirements.map fun requirement => (requirement.1.connective, requirement))
    (List.forall_mem_map.mpr (h.conjoined hregular))
  rw [List.map_map] at hfirst hsecond hchain hown
  rw [PathWording.passes, Bool.and_eq_true, wording, written]
  dsimp only
  rw [hfirst, hsecond]
  refine and_congr hchain (hown.trans ?_)
  rw [List.forall_mem_map]

end Traversal.Keeps

/-! ## 5.  Every family that can be built -/

/-- A family that calls can build, with the journal of its history. -/
def Family.Built (family : Family) (journal : Journal) : Prop :=
  ∃ (given : List Value) (fresh : Query) (calls : List FamilyCall),
    Query.ofLabels given = .ok fresh ∧ family = (Family.mk fresh []).afterCalls calls ∧
      journal = Journal.ofCalls calls

namespace Family.Built

variable {family : Family} {journal : Journal}

theorem keeps (h : family.Built journal) : family.Keeps journal := by
  obtain ⟨given, fresh, calls, hfresh, rfl, rfl⟩ := h
  exact Family.keeps_afterCalls hfresh calls

theorem regular (h : family.Built journal) :
    ∀ traversal ∈ family.traversals, traversal.Regular := by
  obtain ⟨given, fresh, calls, -, rfl, -⟩ := h
  exact Family.regular_afterCalls (fun _ h => absurd h List.not_mem_nil) calls

/-- A traversal of such a family keeps what the journal says of it. -/
theorem traversal_keeps (h : family.Built journal) {index : Nat} {traversal : Traversal}
    (htraversal : family.traversals[index]? = some traversal) :
    ∃ requirements, journal.traversals[index]? = some requirements ∧
      traversal.Keeps family.source requirements ∧ traversal.Regular := by
  obtain ⟨requirements, hrequirements, hkeeps⟩ := h.keeps.traversals index traversal htraversal
  exact ⟨requirements, hrequirements, hkeeps, h.regular traversal (List.mem_of_getElem? htraversal)⟩

end Family.Built

/-- **The text of a traversal keeps its halves apart.**  In every family that can be built, each
traversal compiles, with any limit and for a count, to the same patterns and filters with the same
parameters.  What is read from its text is what its source holds now, all under the variable of the
source and in the first filter, then the direction, the type and the labels of the target, and in
the second filter the conditions that were asked of the traversal, in order, each on its own
variable and all joined by "and".  A path passes if and only if its source meets an alternative of
what was asked of the source, and all that was asked of the traversal holds.  Two traversals with
the same text agree on all that can be read. -/
theorem traversal_unambiguous {family : Family} {journal : Journal} (h : family.Built journal)
    {index : Nat} {traversal : Traversal}
    (htraversal : family.traversals[index]? = some traversal) (limit : Option Int) :
    (∃ rows tail requirements, journal.traversals[index]? = some requirements ∧
      traversal.selectStatement family.source (limit.elim .null .int) =
        .ok ⟨rows ++ (" RETURN target" ++ tail), traversal.allParameters family.source⟩ ∧
      traversal.countStatement family.source =
        .ok ⟨rows ++ " RETURN count(target) AS total", traversal.allParameters family.source⟩ ∧
      readPathWording? (rows ++ (" RETURN target" ++ tail)) =
        some (traversal.wording family.source limit) ∧
      traversal.written.map (fun entry => (entry.2, entry.1.field, entry.1.operator)) =
        requirements.map (fun requirement =>
          (requirement.2.var, requirement.1.field, requirement.1.operator)) ∧
      (∀ entry ∈ traversal.written, entry.1.connective = .and) ∧
      ∀ (meaning : Meaning) (path : Path),
        (traversal.wording family.source limit).passes meaning
            (traversal.allParameters family.source) path = true ↔
          (Requirement.alternatives journal.source = [] ∨
            ∃ block ∈ Requirement.alternatives journal.source,
              ∀ requirement ∈ block, requirement.holdsOf meaning path.source = true) ∧
          ∀ requirement ∈ requirements,
            requirement.1.holdsOf meaning (path.properties requirement.2.var) = true) ∧
      ∀ (other : Family) (otherJournal : Journal) (place : Nat) (second : Traversal)
        (bound : Option Int), other.Built otherJournal → other.traversals[place]? = some second →
        (second.selectStatement other.source (bound.elim .null .int)).map (·.text) =
          (traversal.selectStatement family.source (limit.elim .null .int)).map (·.text) →
        second.wording other.source bound = traversal.wording family.source limit := by
  have hsource := h.keeps.source
  obtain ⟨requirements, hrequirements, hkeeps, hregular⟩ := h.traversal_keeps htraversal
  have hselect := hkeeps.selectStatement_eq hsource hregular.direction limit
  have hread := hkeeps.readPathWording?_selectText hsource hregular.direction limit
  refine ⟨⟨traversal.rowsText family.source, _, requirements, hrequirements, hselect,
    hkeeps.countStatement_eq hsource hregular.direction, hread, hkeeps.map_written, ?_, ?_⟩, ?_⟩
  · exact List.forall_mem_map.mpr fun condition => hregular.conjoined condition
  · exact hkeeps.passes_wording hsource hregular limit
  · intro other otherJournal place second bound hother hsecond htext
    obtain ⟨asked, -, hasked, hknown⟩ := hother.traversal_keeps hsecond
    have hother := hother.keeps.source
    have hsame := hasked.readPathWording?_selectText hother hknown.direction bound
    rw [hselect, hasked.selectStatement_eq hother hknown.direction bound] at htext
    have htext := Except.ok.inj htext
    dsimp only at htext
    rw [htext, hread] at hsame
    exact (Option.some.inj hsame).symm

/-- The last call of `colleagues` joins an "or" to the source after a condition on the relationship
was added: it stays in the first filter. -/
theorem traversal_unambiguous_colleagues :
    ∃ (family : Family) (traversal : Traversal) (rows tail : String),
      family.Built (Journal.ofCalls colleagues) ∧ family.traversals[0]? = some traversal ∧
      traversal.selectStatement family.source (.int 3) =
        .ok ⟨rows ++ (" RETURN target" ++ tail), traversal.allParameters family.source⟩ ∧
      readPathWording? (rows ++ (" RETURN target" ++ tail)) = some ⟨["Person"],
        some (("source", ⟨"age", .greater, "p1"⟩), [(.or, "source", ⟨"city", .equal, "p5"⟩)]),
        .outgoing, "WORKS_FOR", [], some (("r", ⟨"since", .equal, "p2"⟩), []), some 3⟩ := by
  have hfresh : Query.ofLabels [.text "Person"] = .ok { labels := ["Person"] } := rfl
  have hbuilt : Family.Built ((Family.mk { labels := ["Person"] } []).afterCalls colleagues)
      (Journal.ofCalls colleagues) := ⟨_, _, colleagues, hfresh, rfl, rfl⟩
  obtain ⟨rows, tail, requirements, -, hselect, -, hread, -⟩ :=
    (@traversal_unambiguous _ _ hbuilt 0 _ rfl (some 3)).1
  exact ⟨_, _, rows, tail, hbuilt, rfl, hselect, hread⟩

end GraphMapper
