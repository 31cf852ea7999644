import GraphMapper.Proofs.Names
import GraphMapper.Proofs.Reading.Token

/-!
# Commands on one node

What a store understands of the statements that write and read one node.  There are two of them:
create a node with labels and properties, or find the nodes with an identity, assign some of
their properties, and return them.

A command is read from the tokens of a text, from left to right.  `readNodeCommand` knows nothing
of how the texts were written, so a name that could end the place where it stands would be read
as something else; that this does not happen with accepted names is what the theorems say.

* `readNodeCommand_creation_of_accepted`: the text of an insertion is read as the creation of a node
  with just these labels and just these properties, each under its name as a store reads it.
* `readNodeCommand_change_of_accepted`: the text of an update is read as just these assignments.
* `readNodeCommand_creation`, `readNodeCommand_change`: plain names are read as they are written.
-/

namespace GraphMapper

/-- A command on one node.  Properties come with the placeholders of their values. -/
inductive NodeCommand where
  | create (labels : List String) (entries : List (String × String))
  | change (parameter : String) (entries : List (String × String))
  deriving DecidableEq

namespace Reading

/-- What stands after a fixed beginning. -/
def skip : List Token → List Token → Option (List Token)
  | [], tokens => some tokens
  | _ :: _, [] => none
  | expected :: more, token :: rest => if token = expected then skip more rest else none

/-- The labels of a pattern, and what stands after them. -/
def labels : List Token → List String × List Token
  | .mark ':' :: .word label :: rest => ((labels rest).1.cons label, (labels rest).2)
  | rest => ([], rest)

/-- The entries of a map up to the closing brace, and what stands after it. -/
def entries : List Token → Option (List (String × String) × List Token)
  | .word key :: .mark ':' :: .placeholder name :: .mark ',' :: rest =>
    (entries rest).map fun found => ((key, name) :: found.1, found.2)
  | .word key :: .mark ':' :: .placeholder name :: .mark '}' :: rest => some ([(key, name)], rest)
  | _ => none

/-- The inline properties of a pattern, if there are any, and what stands after them. -/
def inlineProperties : List Token → Option (List (String × String) × List Token)
  | .mark '{' :: rest => entries rest
  | rest => some ([], rest)

/-- The assignments to properties of a variable, and what stands after them. -/
def assignments (var : String) : List Token → Option (List (String × String) × List Token)
  | .word owner :: .mark '.' :: .word key :: .mark '=' :: .placeholder name :: rest =>
    if owner = var then
      match rest with
      | .mark c :: others =>
        if c = ',' then
          (assignments var others).map fun found => ((key, name) :: found.1, found.2)
        else some ([(key, name)], rest)
      | _ => some ([(key, name)], rest)
    else none
  | _ => none

/-- The assignments of an update, if there are any, and what stands after them. -/
def setClause (var : String) : List Token → Option (List (String × String) × List Token)
  | .word "SET" :: rest => assignments var rest
  | rest => some ([], rest)

/-- The creation of a node. -/
def creation (all : List Token) : Option NodeCommand := do
  let pattern ← skip (tokens "CREATE (n") all
  let (labels, afterLabels) := labels pattern
  let (entries, afterEntries) ← inlineProperties afterLabels
  let rest ← skip (tokens ") RETURN n") afterEntries
  if rest.isEmpty then some (.create labels entries) else none

/-- A change to the nodes with an identity. -/
def change (all : List Token) : Option NodeCommand := do
  let condition ← skip (tokens "MATCH (n) WHERE n.id = ") all
  match condition with
  | .placeholder parameter :: afterCondition =>
    let (entries, afterEntries) ← setClause "n" afterCondition
    let rest ← skip (tokens " RETURN n") afterEntries
    if rest.isEmpty then some (.change parameter entries) else none
  | _ => none

end Reading

/-- The command that a text is, if it is one on one node. -/
def readNodeCommand (text : String) : Option NodeCommand :=
  Reading.creation (tokens text) <|> Reading.change (tokens text)

/-! ## 1.  The tokens of the pieces -/

/-- A list of texts is read as its texts, with commas between them. -/
theorem tokens_joinTexts (texts : List String) :
    tokens (joinTexts ", " texts) = [Token.mark ','].intercalate (texts.map tokens) := by
  induction texts with
  | nil => rfl
  | cons text rest ih =>
    cases rest with
    | nil =>
      rw [joinTexts, String.intercalate_singleton, List.map_cons, List.map_nil,
        List.intercalate_singleton]
    | cons next rest =>
      rw [joinTexts_cons_cons, tokens_separated (by decide), ih, List.map_cons, List.map_cons,
        List.map_cons, List.intercalate_cons_cons, List.append_assoc]
      rfl

/-- A property with its placeholder, as they can be written: the name is accepted, and the
placeholder is made of name characters. -/
structure AcceptedEntry (entry : String × String) : Prop where
  key : isIdentifier entry.1 = true
  parameter : ∀ c ∈ entry.2.toList, isNameChar c = true
  parameter_ne : entry.2 ≠ ""

/-- A property with its placeholder, both of which can be read as what they are. -/
structure PlainEntry (entry : String × String) : Prop where
  key : isName entry.1.toList = true
  parameter : ∀ c ∈ entry.2.toList, isNameChar c = true
  parameter_ne : entry.2 ≠ ""

theorem PlainEntry.accepted {entry : String × String} (h : PlainEntry entry) :
    AcceptedEntry entry :=
  ⟨isIdentifier_of_isName h.key, h.parameter, h.parameter_ne⟩

/-- A property with its placeholder, as a store reads them. -/
def readEntry (entry : String × String) : String × String := (readName entry.1, entry.2)

theorem map_readEntry_of_plain {pairs : List (String × String)}
    (h : ∀ pair ∈ pairs, PlainEntry pair) : pairs.map readEntry = pairs := by
  have hread : pairs.map readEntry = pairs.map id := List.map_congr_left fun pair hpair => by
    rw [readEntry, readName_of_isName (h pair hpair).key]
    rfl
  rw [hread, List.map_id]

/-- A property with its placeholder, as it stands in a pattern. -/
def entryTokens (entry : String × String) : List Token :=
  [.word entry.1, .mark ':', .placeholder entry.2]

/-- A property with its placeholder, as it stands among assignments. -/
def assignmentTokens (var : String) (entry : String × String) : List Token :=
  [.word var, .mark '.', .word entry.1, .mark '=', .placeholder entry.2]

/-- Labels, as they stand in a pattern. -/
def labelTokens (labels : List String) : List Token :=
  labels.flatMap fun label => [.mark ':', .word label]

theorem tokens_inlineEntry {entry : String × String} (h : AcceptedEntry entry) :
    tokens (inlineEntry entry) = entryTokens (readEntry entry) := by
  have htext : inlineEntry entry = entry.1 ++ (": " ++ ("$" ++ entry.2)) := by
    have hcolon : ": $" ++ entry.2 = ": " ++ ("$" ++ entry.2) :=
      (String.append_assoc : ": " ++ "$" ++ entry.2 = _)
    rw [inlineEntry, String.append_assoc, hcolon]
  rw [htext, tokens_separated (by decide), tokens_of_isIdentifier h.key,
    tokens_placeholder h.parameter h.parameter_ne]
  rfl

theorem tokens_assignment {var : String} (hvar : isName var.toList = true)
    {entry : String × String} (h : AcceptedEntry entry) :
    tokens (assignment var entry) = assignmentTokens var (readEntry entry) := by
  have htext : assignment var entry =
      var ++ ("." ++ (entry.1 ++ (" = " ++ ("$" ++ entry.2)))) := by
    have hequals : " = $" ++ entry.2 = " = " ++ ("$" ++ entry.2) :=
      (String.append_assoc : " = " ++ "$" ++ entry.2 = _)
    rw [assignment, String.append_assoc, String.append_assoc, String.append_assoc, hequals]
  rw [htext, tokens_separated (by decide), tokens_separated (by decide), tokens_name hvar,
    tokens_of_isIdentifier h.key, tokens_placeholder h.parameter h.parameter_ne]
  rfl

theorem closed_labelsText (labels : List String) : Closed (Fault.labelsText labels) := by
  cases labels with
  | nil => exact closed_empty
  | cons label rest => exact closed_of_toList_eq (toList_labelsText _) (by decide)

theorem tokens_labelsText {labels : List String} (h : ∀ l ∈ labels, isIdentifier l = true) :
    tokens (Fault.labelsText labels) = labelTokens (labels.map readName) := by
  induction labels with
  | nil => rfl
  | cons label rest ih =>
    obtain ⟨hlabel, hrest⟩ := List.forall_mem_cons.mp h
    have hcolon : Shut ":".toList := by decide
    have htext : Fault.labelsText (label :: rest) =
        ":" ++ (label ++ Fault.labelsText rest) := by
      rw [Fault.labelsText, List.map_cons, String.join_cons, String.append_assoc]
      rfl
    rw [htext, tokens_append_of_shut hcolon, tokens_append _ (closed_labelsText rest),
      tokens_of_isIdentifier hlabel, ih hrest]
    rfl

/-! ## 2.  Reading the pieces back -/

namespace Reading

theorem skip_append (expected rest : List Token) :
    skip expected (expected ++ rest) = some rest := by
  induction expected with
  | nil => rfl
  | cons token more ih =>
    rw [List.cons_append, skip, if_pos rfl]
    exact ih

theorem skip_eq_none {expected s t : List Token}
    (h : ∃ e token, expected.head? = some e ∧ s.head? = some token ∧ token ≠ e) :
    skip expected (s ++ t) = none := by
  obtain ⟨e, token, he, htoken, hne⟩ := h
  cases expected with
  | nil => exact absurd he (by simp)
  | cons e' more =>
    cases s with
    | nil => exact absurd htoken (by simp)
    | cons token' rest =>
      rw [List.head?_cons, Option.some.injEq] at he htoken
      rw [List.cons_append, skip, he, htoken, if_neg hne]

/-- Labels end where no colon follows. -/
theorem labels_append (names : List String) {rest : List Token}
    (h : rest.head? ≠ some (.mark ':')) : labels (labelTokens names ++ rest) = (names, rest) := by
  induction names with
  | nil =>
    change labels rest = _
    unfold labels
    split
    · exact absurd rfl h
    · rfl
  | cons name more ih =>
    change ((labels (labelTokens more ++ rest)).1.cons name,
      (labels (labelTokens more ++ rest)).2) = _
    rw [ih]

/-- The entries of a map end with its brace. -/
theorem entries_append {pairs : List (String × String)} (hne : pairs ≠ []) (rest : List Token) :
    entries ([Token.mark ','].intercalate (pairs.map entryTokens) ++ .mark '}' :: rest) =
      some (pairs, rest) := by
  induction pairs with
  | nil => exact absurd rfl hne
  | cons pair more ih =>
    cases more with
    | nil => rfl
    | cons next more =>
      have hmore := ih (List.cons_ne_nil _ _)
      rw [List.map_cons] at hmore
      rw [List.map_cons, List.map_cons, List.intercalate_cons_cons, List.append_assoc,
        List.append_assoc]
      exact congrArg (Option.map fun found => (pair :: found.1, found.2)) hmore

theorem assignments_comma (var : String) (pair : String × String) (rest : List Token) :
    assignments var (assignmentTokens var pair ++ .mark ',' :: rest) =
      (assignments var rest).map fun found => (pair :: found.1, found.2) := by
  change (if var = var then (assignments var rest).map _ else none) = _
  rw [if_pos rfl]

/-- The last assignment is the one after which no comma stands. -/
theorem assignments_last (var : String) (pair : String × String) {rest : List Token}
    (h : rest.head? ≠ some (.mark ',')) :
    assignments var (assignmentTokens var pair ++ rest) = some ([pair], rest) := by
  have hvar : (if var = var then some ([pair], rest) else none) = some ([pair], rest) := if_pos rfl
  cases rest with
  | nil => exact hvar
  | cons token rest =>
    cases token with
    | word text => exact hvar
    | placeholder name => exact hvar
    | mark c =>
      have hc : c ≠ ',' := fun hc => h (by rw [hc]; rfl)
      change (if var = var then if c = ',' then _ else some ([pair], _) else none) = _
      rw [if_pos rfl, if_neg hc]
      rfl

/-- Assignments end where no comma follows. -/
theorem assignments_append (var : String) {pairs : List (String × String)} (hne : pairs ≠ [])
    {rest : List Token} (h : rest.head? ≠ some (.mark ',')) :
    assignments var ([Token.mark ','].intercalate (pairs.map (assignmentTokens var)) ++ rest) =
      some (pairs, rest) := by
  induction pairs with
  | nil => exact absurd rfl hne
  | cons pair more ih =>
    cases more with
    | nil =>
      rw [List.map_cons, List.map_nil, List.intercalate_singleton]
      exact assignments_last var pair h
    | cons next more =>
      have hmore := ih (List.cons_ne_nil _ _)
      rw [List.map_cons] at hmore
      rw [List.map_cons, List.map_cons, List.intercalate_cons_cons, List.append_assoc,
        List.append_assoc]
      refine (assignments_comma var pair _).trans ?_
      exact congrArg (Option.map fun found => (pair :: found.1, found.2)) hmore

end Reading

/-! ## 3.  Reading a statement back -/

/-- The inline properties of a pattern, as tokens. -/
theorem tokens_inlineMap {pairs : List (String × String)} (hne : pairs ≠ [])
    (h : ∀ pair ∈ pairs, AcceptedEntry pair) :
    tokens (inlineMap pairs) =
      .mark '{' :: ([Token.mark ','].intercalate ((pairs.map readEntry).map entryTokens) ++
        [.mark '}']) := by
  have hbrace : Shut " \x7b".toList := by decide
  have hclosed : Closed "\x7d" := closed_of_toList_eq rfl (by decide)
  have hmap : (pairs.map inlineEntry).map tokens = (pairs.map readEntry).map entryTokens := by
    rw [List.map_map, List.map_map]
    exact List.map_congr_left fun pair hpair => tokens_inlineEntry (h pair hpair)
  rw [inlineMap, if_neg (by rw [List.isEmpty_iff]; exact hne), tokens_append _ hclosed,
    tokens_append_of_shut hbrace, tokens_joinTexts, hmap]
  rfl

theorem tokens_assignmentsText {var : String} (hvar : isName var.toList = true)
    {pairs : List (String × String)} (hne : pairs ≠ [])
    (h : ∀ pair ∈ pairs, AcceptedEntry pair) :
    tokens (assignmentsText var pairs) = .word "SET" ::
      [Token.mark ','].intercalate ((pairs.map readEntry).map (assignmentTokens var)) := by
  have hset : Shut " SET ".toList := by decide
  have hmap : (pairs.map (assignment var)).map tokens =
      (pairs.map readEntry).map (assignmentTokens var) := by
    rw [List.map_map, List.map_map]
    exact List.map_congr_left fun pair hpair => tokens_assignment hvar (h pair hpair)
  rw [assignmentsText, if_neg (by rw [List.isEmpty_iff]; exact hne), tokens_append_of_shut hset,
    tokens_joinTexts, hmap]
  rfl

theorem closed_inlineMap (pairs : List (String × String)) : Closed (inlineMap pairs) := by
  rw [inlineMap]
  cases pairs with
  | nil => exact closed_empty
  | cons pair rest =>
    rw [List.isEmpty_cons, if_neg Bool.false_ne_true, String.append_assoc]
    exact closed_append_left (closed_of_toList_eq rfl (by decide)) (by decide)

/-- The text of an insertion. -/
def creationText (labels : List String) (pairs : List (String × String)) : String :=
  "CREATE (n" ++ Fault.labelsText labels ++ inlineMap pairs ++ ") RETURN n"

/-- The text of an update; without assignments it only reads. -/
def changeText (pairs : List (String × String)) : String :=
  "MATCH (n) WHERE n.id = $id" ++ assignmentsText "n" pairs ++ " RETURN n"

/-- **The text of an insertion is read as that insertion**, each name as a store reads it. -/
theorem readNodeCommand_creation_of_accepted {labels : List String}
    {pairs : List (String × String)} (hlabels : ∀ l ∈ labels, isIdentifier l = true)
    (hpairs : ∀ pair ∈ pairs, AcceptedEntry pair) :
    readNodeCommand (creationText labels pairs) =
      some (.create (labels.map readName) (pairs.map readEntry)) := by
  have hend : Closed ") RETURN n" := closed_of_toList_eq rfl (by decide)
  have htokens : tokens (creationText labels pairs) =
      tokens "CREATE (n" ++ (labelTokens (labels.map readName) ++
        (tokens (inlineMap pairs) ++ tokens ") RETURN n")) := by
    rw [creationText, tokens_append _ hend, tokens_append _ (closed_inlineMap pairs),
      tokens_append _ (closed_labelsText labels), tokens_labelsText hlabels, List.append_assoc,
      List.append_assoc]
  have hstart : (tokens (inlineMap pairs) ++ tokens ") RETURN n").head? ≠ some (.mark ':') := by
    cases pairs with
    | nil => decide
    | cons pair rest =>
      have hbrace : some (Token.mark '{') ≠ some (.mark ':') := by decide
      rw [tokens_inlineMap (List.cons_ne_nil _ _) hpairs]
      exact hbrace
  have hproperties : Reading.inlineProperties (tokens (inlineMap pairs) ++ tokens ") RETURN n") =
      some (pairs.map readEntry, tokens ") RETURN n") := by
    cases pairs with
    | nil => rfl
    | cons pair rest =>
      rw [tokens_inlineMap (List.cons_ne_nil _ _) hpairs, List.cons_append, List.append_assoc]
      exact Reading.entries_append (List.cons_ne_nil _ _) _
  have hcreation : Reading.creation (tokens (creationText labels pairs)) =
      some (.create (labels.map readName) (pairs.map readEntry)) := by
    rw [htokens, Reading.creation, Reading.skip_append]
    change (do
      let (entries, afterEntries) ← Reading.inlineProperties (Reading.labels _).2
      let rest ← Reading.skip (tokens ") RETURN n") afterEntries
      if rest.isEmpty then some (NodeCommand.create (Reading.labels _).1 entries) else none) = _
    rw [Reading.labels_append _ hstart, hproperties]
    rfl
  rw [readNodeCommand, hcreation]
  rfl

/-- **The text of an update is read as that update**, each name as a store reads it. -/
theorem readNodeCommand_change_of_accepted {pairs : List (String × String)}
    (h : ∀ pair ∈ pairs, AcceptedEntry pair) :
    readNodeCommand (changeText pairs) = some (.change "id" (pairs.map readEntry)) := by
  have hend : Closed " RETURN n" := closed_of_toList_eq rfl (by decide)
  have hcondition : tokens "MATCH (n) WHERE n.id = $id" =
      tokens "MATCH (n) WHERE n.id = " ++ [.placeholder "id"] := by decide +kernel
  have hpieces : tokens (changeText pairs) = tokens "MATCH (n) WHERE n.id = $id" ++
      (tokens (assignmentsText "n" pairs) ++ tokens " RETURN n") :=
    tokens_append_append _ (closed_assignmentsText "n" pairs) hend
  have htokens : tokens (changeText pairs) =
      tokens "MATCH (n) WHERE n.id = " ++ (.placeholder "id" ::
        (tokens (assignmentsText "n" pairs) ++ tokens " RETURN n")) := by
    rw [hpieces, hcondition, List.append_assoc, List.singleton_append]
  have hassignments : Reading.setClause "n" (tokens (assignmentsText "n" pairs) ++
      tokens " RETURN n") = some (pairs.map readEntry, tokens " RETURN n") := by
    cases pairs with
    | nil => rfl
    | cons pair rest =>
      rw [tokens_assignmentsText (by decide) (List.cons_ne_nil _ _) h]
      exact Reading.assignments_append "n" (List.cons_ne_nil _ _) (by decide)
  have hcreation : Reading.creation (tokens (changeText pairs)) = none := by
    rw [htokens, Reading.creation, Reading.skip_eq_none
      ⟨.word "CREATE", .word "MATCH", by decide +kernel, by decide +kernel, by decide⟩]
    rfl
  have hread : readNodeCommand (changeText pairs) = Reading.change (tokens (changeText pairs)) := by
    rw [readNodeCommand, hcreation]
    rfl
  rw [hread, htokens, Reading.change, Reading.skip_append]
  change (do
    let (entries, afterEntries) ← Reading.setClause "n" _
    let rest ← Reading.skip (tokens " RETURN n") afterEntries
    if rest.isEmpty then some (NodeCommand.change "id" entries) else none) = _
  rw [hassignments]
  rfl

/-- Plain names are read as they are written: the text of an insertion. -/
theorem readNodeCommand_creation {labels : List String} {pairs : List (String × String)}
    (hlabels : ∀ l ∈ labels, isName l.toList = true) (hpairs : ∀ pair ∈ pairs, PlainEntry pair) :
    readNodeCommand (creationText labels pairs) = some (.create labels pairs) := by
  have hread : labels.map readName = labels :=
    (List.map_congr_left fun l hl => readName_of_isName (hlabels l hl)).trans (List.map_id _)
  rw [readNodeCommand_creation_of_accepted (fun l hl => isIdentifier_of_isName (hlabels l hl))
    fun pair hpair => (hpairs pair hpair).accepted, hread, map_readEntry_of_plain hpairs]

/-- Plain names are read as they are written: the text of an update. -/
theorem readNodeCommand_change {pairs : List (String × String)}
    (h : ∀ pair ∈ pairs, PlainEntry pair) :
    readNodeCommand (changeText pairs) = some (.change "id" pairs) := by
  rw [readNodeCommand_change_of_accepted fun pair hpair => (h pair hpair).accepted,
    map_readEntry_of_plain h]

end GraphMapper
