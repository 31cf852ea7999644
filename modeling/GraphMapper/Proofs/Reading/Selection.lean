import GraphMapper.Condition
import GraphMapper.Proofs.Graph.Store
import GraphMapper.Proofs.Placeholder.Binding
import GraphMapper.Proofs.Reading.NodeCommand

/-!
# Reading a selection of nodes

A selection finds nodes by their labels and by a filter, and returns them in an order and up to a
limit.  `readSelection` reads one from the tokens of a text.

## What a filter means

A filter is a chain of comparisons joined by "and" and "or", without parentheses.  "And" binds
tighter: what is joined by it goes on with the conjunction that was begun, and an "or" begins
another one.  `chainHolds` computes the truth of a chain from left to right in this way.

To say which nodes pass, the chain is cut before each "or".  What lies between two cuts is one
*alternative*, and `chainHolds_iff` says that a chain holds if all of some alternative does.

What an operator means is left open.  A `Meaning` says which property values an operator accepts
for which operands, and every statement below holds for all of them.  A comparison with null is
neither true nor false to a store, but a filter has no negation, so what matters to it is only
which comparisons are true.

## How the text is read

In a filter a placeholder ends a comparison and occurs nowhere else, so `Reading.pieces` cuts the
tokens after each placeholder.  What is left in front of it is a comparison, with the connective
before it or, in the first piece, the word that begins the filter.
-/

namespace GraphMapper

/-! ## 1.  Chains and their alternatives -/

/-- The truth of a chain, given what holds so far of the conjunction that was begun. -/
def chainHolds : Bool → List (Connective × Bool) → Bool
  | begun, [] => begun
  | begun, (.and, next) :: rest => chainHolds (begun && next) rest
  | begun, (.or, next) :: rest => begun || chainHolds next rest

section Alternatives

variable {α : Type}

/-- The alternatives of a chain, given its first member and the others with their connectives. -/
def alternativesFrom (first : α) : List (Connective × α) → List (List α)
  | [] => [[first]]
  | (.or, next) :: rest => [first] :: alternativesFrom next rest
  | (.and, next) :: rest =>
    match alternativesFrom next rest with
    | [] => [[first]]
    | block :: blocks => (first :: block) :: blocks

/-- The alternatives of a chain: it is cut before each member that is joined by "or".  How the
first member is joined does not matter. -/
def alternatives : List (Connective × α) → List (List α)
  | [] => []
  | (_, first) :: rest => alternativesFrom first rest

theorem alternativesFrom_ne_nil (first : α) (rest : List (Connective × α)) :
    alternativesFrom first rest ≠ [] := by
  cases rest with
  | nil => exact List.cons_ne_nil _ _
  | cons e rest =>
    obtain ⟨connective, next⟩ := e
    cases connective with
    | or => exact List.cons_ne_nil _ _
    | and =>
      rw [alternativesFrom]
      split <;> exact List.cons_ne_nil _ _

/-- What was begun before a chain belongs to its first alternative. -/
theorem chainHolds_and (p : α → Bool) (begun : Bool) (first : α) (rest : List (Connective × α))
    {block : List α} {blocks : List (List α)} (h : alternativesFrom first rest = block :: blocks) :
    chainHolds (begun && p first) (rest.map fun e => (e.1, p e.2)) =
      ((begun && block.all p) || blocks.any (·.all p)) := by
  induction rest generalizing begun first block blocks with
  | nil =>
    obtain ⟨rfl, rfl⟩ := List.cons.inj h
    simp [chainHolds]
  | cons e rest ih =>
    obtain ⟨connective, next⟩ := e
    obtain ⟨later, others, hlater⟩ := List.exists_cons_of_ne_nil (alternativesFrom_ne_nil next rest)
    cases connective with
    | or =>
      rw [alternativesFrom, hlater] at h
      obtain ⟨rfl, rfl⟩ := List.cons.inj h
      have hnext := ih true next hlater
      rw [Bool.true_and, Bool.true_and] at hnext
      rw [List.map_cons, chainHolds, hnext]
      simp
    | and =>
      rw [alternativesFrom, hlater] at h
      obtain ⟨rfl, rfl⟩ := List.cons.inj h
      rw [List.map_cons, chainHolds, ih (begun && p first) next hlater, List.all_cons,
        Bool.and_assoc]

/-- **A chain holds if all of some alternative does.** -/
theorem chainHolds_iff (p : α → Bool) (first : α) (rest : List (Connective × α)) :
    chainHolds (p first) (rest.map fun e => (e.1, p e.2)) = true ↔
      ∃ block ∈ alternativesFrom first rest, ∀ a ∈ block, p a = true := by
  obtain ⟨block, blocks, hblocks⟩ := List.exists_cons_of_ne_nil (alternativesFrom_ne_nil first rest)
  have hholds := chainHolds_and p true first rest hblocks
  rw [Bool.true_and, Bool.true_and] at hholds
  rw [hholds, hblocks, Bool.or_eq_true, List.all_eq_true, List.any_eq_true]
  simp only [List.all_eq_true, List.exists_mem_cons_iff]

/-- **A member that is joined by "and" joins the last alternative.** -/
theorem alternativesFrom_concat (first last : α) (rest : List (Connective × α)) :
    alternativesFrom first (rest ++ [(.and, last)]) =
      (alternativesFrom first rest).dropLast ++
        [((alternativesFrom first rest).getLast?.getD []) ++ [last]] := by
  induction rest generalizing first with
  | nil => rfl
  | cons e rest ih =>
    obtain ⟨connective, next⟩ := e
    obtain ⟨block, blocks, hblocks⟩ :=
      List.exists_cons_of_ne_nil (alternativesFrom_ne_nil next rest)
    cases connective with
    | or =>
      rw [List.cons_append, alternativesFrom, alternativesFrom, ih, hblocks]
      simp [List.getLast?_cons_cons]
    | and =>
      rw [List.cons_append, alternativesFrom, alternativesFrom, ih, hblocks]
      cases blocks <;> simp [List.getLast?_cons_cons]

/-- Without an "or" there is one alternative. -/
theorem alternativesFrom_of_and (first : α) {rest : List (Connective × α)}
    (h : ∀ e ∈ rest, e.1 = .and) : alternativesFrom first rest = [first :: rest.map (·.2)] := by
  induction rest generalizing first with
  | nil => rfl
  | cons e rest ih =>
    obtain ⟨hfirst, hrest⟩ := List.forall_mem_cons.mp h
    obtain ⟨connective, next⟩ := e
    obtain rfl : connective = .and := hfirst
    rw [alternativesFrom, ih next hrest]
    rfl

end Alternatives

/-! ## 2.  What a selection is, and what it means -/

/-- A comparison of a property with a placeholder, as it is read. -/
structure Comparison where
  field : String
  operator : Operator
  parameter : String
  deriving DecidableEq

/-- A selection as it is read: the labels, the first comparison of the filter with the others and
their connectives, the property and the word that the order goes by, and the limit. -/
structure Selection where
  labels : List String
  filter : Option (Comparison × List (Connective × Comparison))
  sorting : Option (String × String)
  limit : Option String
  deriving DecidableEq

/-- Which operands an operator accepts for which values. -/
abbrev Meaning := Operator → Value → Value → Bool

/-- The value of a property, null if the node does not have it. -/
def StoredNode.property (node : StoredNode) (field : String) : Value :=
  (node.properties.get? (.text field)).getD .null

/-- Whether a comparison holds of a node.  What is not bound compares with nothing. -/
def Comparison.holds (meaning : Meaning) (parameters : Entries) (node : StoredNode)
    (comparison : Comparison) : Bool :=
  match parameters.get? (.text comparison.parameter) with
  | some value => meaning comparison.operator (node.property comparison.field) value
  | none => false

/-- Whether a node passes the filter of a selection. -/
def Selection.passes (meaning : Meaning) (parameters : Entries) (selection : Selection)
    (node : StoredNode) : Bool :=
  match selection.filter with
  | none => true
  | some (first, others) => chainHolds (first.holds meaning parameters node)
      (others.map fun e => (e.1, e.2.holds meaning parameters node))

/-! ## 3.  Reading -/

/-- Whether a token is a placeholder. -/
def Token.isPlaceholder : Token → Bool
  | .placeholder _ => true
  | .word _ | .mark _ => false

namespace Reading

/-- The operator that tokens are. -/
def operator? : List Token → Option Operator
  | [.mark '='] => some .equal
  | [.mark '<', .mark '>'] => some .notEqual
  | [.mark '<'] => some .less
  | [.mark '<', .mark '='] => some .lessOrEqual
  | [.mark '>'] => some .greater
  | [.mark '>', .mark '='] => some .greaterOrEqual
  | [.mark '=', .mark '~'] => some .matchesPattern
  | [.word "IN"] => some .oneOf
  | [.word "CONTAINS"] => some .contains
  | [.word "STARTS", .word "WITH"] => some .startsWith
  | [.word "ENDS", .word "WITH"] => some .endsWith
  | _ => none

/-- The tokens up to each placeholder with its name, and those after the last one. -/
def pieces : List Token → List (List Token × String) × List Token
  | [] => ([], [])
  | .placeholder name :: rest => (([], name) :: (pieces rest).1, (pieces rest).2)
  | token :: rest =>
    match pieces rest with
    | ([], tail) => ([], token :: tail)
    | ((lead, name) :: others, tail) => ((token :: lead, name) :: others, tail)

/-- The comparison on a variable that a piece is. -/
def comparison? (var : String) : List Token × String → Option Comparison
  | (.word owner :: .mark '.' :: .word field :: rest, parameter) =>
    if owner = var then (operator? rest).map fun operator => ⟨field, operator, parameter⟩ else none
  | _ => none

/-- The comparison that a piece is, with the connective in front of it. -/
def joined? (var : String) : List Token × String → Option (Connective × Comparison)
  | (.word "AND" :: lead, parameter) => (comparison? var (lead, parameter)).map (.and, ·)
  | (.word "OR" :: lead, parameter) => (comparison? var (lead, parameter)).map (.or, ·)
  | _ => none

/-- The filter that pieces are, if there is one. -/
def filter? (var : String) : List (List Token × String) →
    Option (Option (Comparison × List (Connective × Comparison)))
  | [] => some none
  | (.word "WHERE" :: lead, parameter) :: rest => do
    let first ← comparison? var (lead, parameter)
    let others ← rest.mapM (joined? var)
    return some (first, others)
  | _ => none

/-- The order, if there is one, and what stands after it. -/
def sorting (var : String) : List Token → Option (String × String) × List Token
  | .word "ORDER" :: .word "BY" :: .word owner :: .mark '.' :: .word field :: .word direction ::
      rest =>
    if owner = var then (some (field, direction), rest) else (none, rest)
  | rest => (none, rest)

/-- The limit, if there is one; nothing else may follow. -/
def limit? : List Token → Option (Option String)
  | [] => some none
  | [.word "LIMIT", .word count] => some (some count)
  | _ => none

end Reading

/-- The selection that a text is, if it is one. -/
def readSelection (text : String) : Option Selection := do
  let pattern ← Reading.skip (tokens "MATCH (n") (tokens text)
  let (labels, afterLabels) := Reading.labels pattern
  let afterPattern ← Reading.skip (tokens ")") afterLabels
  let (pieces, tail) := Reading.pieces afterPattern
  let filter ← Reading.filter? "n" pieces
  let afterReturn ← Reading.skip (tokens " RETURN n") tail
  let (sorting, afterSorting) := Reading.sorting "n" afterReturn
  let limit ← Reading.limit? afterSorting
  return ⟨labels, filter, sorting, limit⟩

/-! ## 4.  The tokens of the pieces -/

/-- What a condition needs to be read back: a plain variable, an accepted field and a placeholder
made of name characters. -/
structure Condition.Readable (entry : Condition × String) : Prop where
  var : isName entry.2.toList = true
  field : isIdentifier entry.1.field = true
  parameter : ∀ c ∈ entry.1.parameter.toList, isNameChar c = true
  parameter_ne : entry.1.parameter ≠ ""

/-- What stands in front of the placeholder of a condition, as tokens. -/
def Condition.leadTokens (entry : Condition × String) : List Token :=
  [.word entry.2, .mark '.', .word (readName entry.1.field)] ++ tokens entry.1.operator.text

/-- A condition as it is read. -/
def Condition.toComparison (condition : Condition) : Comparison :=
  ⟨readName condition.field, condition.operator, condition.parameter⟩

/-- A chain of conditions as it is read: the connective of the first is not written. -/
def Condition.toFilter : List Condition → Option (Comparison × List (Connective × Comparison))
  | [] => none
  | first :: rest => some (first.toComparison, rest.map fun condition =>
      (condition.connective, condition.toComparison))

theorem tokens_condition {entry : Condition × String} (h : Condition.Readable entry) :
    tokens (entry.1.text entry.2) =
      Condition.leadTokens entry ++ [.placeholder entry.1.parameter] := by
  have htext : entry.1.text entry.2 = entry.2 ++ ("." ++ (entry.1.field ++ (" " ++
      (entry.1.operator.text ++ (" " ++ ("$" ++ entry.1.parameter)))))) := by
    rw [Condition.text]
    simp only [String.append_assoc]
    rfl
  have hspace : tokens " " = [] := by decide
  rw [htext, tokens_separated (by decide), tokens_separated (by decide),
    tokens_separated (by decide), tokens_name h.var, tokens_of_isIdentifier h.field,
    tokens_placeholder h.parameter h.parameter_ne, hspace, Condition.leadTokens]
  simp only [List.append_assoc]
  rfl

/-! ## 5.  Reading the pieces back -/

namespace Reading

/-- Tokens without a placeholder. -/
def Bare (read : List Token) : Prop := read.all (fun token => !token.isPlaceholder) = true

theorem bare_cons_iff {token : Token} {read : List Token} :
    Bare (token :: read) ↔ token.isPlaceholder = false ∧ Bare read := by
  rw [Bare, List.all_cons, Bool.and_eq_true, Bool.not_eq_true']
  rfl

theorem Bare.append {read more : List Token} (h : Bare read) (h' : Bare more) :
    Bare (read ++ more) := by
  rw [Bare, List.all_append, Bool.and_eq_true]
  exact ⟨h, h'⟩

theorem pieces_cons_of_bare {token : Token} (h : token.isPlaceholder = false) (rest : List Token) :
    pieces (token :: rest) =
      match pieces rest with
      | ([], tail) => ([], token :: tail)
      | ((lead, name) :: others, tail) => ((token :: lead, name) :: others, tail) := by
  cases token with
  | word text => rfl
  | mark c => rfl
  | placeholder name => exact absurd h (by simp [Token.isPlaceholder])

/-- Bare tokens are no piece. -/
theorem pieces_of_bare {read : List Token} (h : Bare read) : pieces read = ([], read) := by
  induction read with
  | nil => rfl
  | cons token rest ih =>
    obtain ⟨htoken, hrest⟩ := bare_cons_iff.mp h
    rw [pieces_cons_of_bare htoken, ih hrest]

/-- A placeholder ends a piece. -/
theorem pieces_append {lead : List Token} (h : Bare lead) (name : String) {rest tail : List Token}
    {cut : List (List Token × String)} (hrest : pieces rest = (cut, tail)) :
    pieces (lead ++ .placeholder name :: rest) = ((lead, name) :: cut, tail) := by
  induction lead with
  | nil => rw [List.nil_append, pieces, hrest]
  | cons token lead ih =>
    obtain ⟨htoken, hlead⟩ := bare_cons_iff.mp h
    rw [List.cons_append, pieces_cons_of_bare htoken, ih hlead]

/-- Every operator is read from its tokens. -/
theorem operator?_tokens (operator : Operator) :
    operator? (tokens operator.text) = some operator := by
  cases operator <;> decide +kernel

theorem bare_operator (operator : Operator) : Bare (tokens operator.text) := by
  rw [Bare]
  cases operator <;> decide +kernel

theorem bare_leadTokens (entry : Condition × String) : Bare (Condition.leadTokens entry) :=
  Bare.append rfl (bare_operator _)

/-- A comparison is read from its tokens. -/
theorem comparison?_leadTokens (condition : Condition) (var : String) :
    comparison? var (Condition.leadTokens (condition, var), condition.parameter) =
      some condition.toComparison := by
  change (if var = var then (operator? (tokens condition.operator.text)).map _ else none) = _
  rw [if_pos rfl, operator?_tokens]
  rfl

/-- The pieces of the conditions of a chain after its first. -/
def joinedPieces (var : String) (conditions : List Condition) : List (List Token × String) :=
  conditions.map fun condition =>
    (.word condition.connective.text :: Condition.leadTokens (condition, var),
      condition.parameter)

theorem mapM_joined?_joinedPieces (var : String) (conditions : List Condition) :
    (joinedPieces var conditions).mapM (joined? var) =
      some (conditions.map fun condition => (condition.connective, condition.toComparison)) := by
  induction conditions with
  | nil => rfl
  | cons condition rest ih =>
    have hjoined : joined? var (.word condition.connective.text ::
        Condition.leadTokens (condition, var), condition.parameter) =
          some (condition.connective, condition.toComparison) := by
      cases hconnective : condition.connective with
      | and =>
        change (comparison? var _).map _ = _
        rw [comparison?_leadTokens]
        rfl
      | or =>
        change (comparison? var _).map _ = _
        rw [comparison?_leadTokens]
        rfl
    rw [joinedPieces] at ih
    rw [joinedPieces, List.map_cons, List.mapM_cons, hjoined, ih]
    rfl

end Reading

/-- The rest of a chain is cut into its conditions, in front of what stands after it. -/
theorem pieces_chainRest {var : String} {conditions : List Condition}
    (h : ∀ condition ∈ conditions, Condition.Readable (condition, var)) {rest tail : List Token}
    {more : List (List Token × String)} (hrest : Reading.pieces rest = (more, tail)) :
    Reading.pieces (tokens (chainRest (conditions.map (·, var))) ++ rest) =
      (Reading.joinedPieces var conditions ++ more, tail) := by
  induction conditions with
  | nil => exact hrest
  | cons condition others ih =>
    obtain ⟨hcondition, hothers⟩ := List.forall_mem_cons.mp h
    have htokens : tokens (chainRest ((condition :: others).map (·, var))) =
        (.word condition.connective.text :: Condition.leadTokens (condition, var)) ++
          .placeholder condition.parameter :: tokens (chainRest (others.map (·, var))) := by
      have hjoin : tokens (" " ++ condition.connective.text ++ " ") =
          [.word condition.connective.text] := by
        cases condition.connective <;> decide +kernel
      have hshut : Shut (" " ++ condition.connective.text ++ " ").toList := by
        cases condition.connective <;> decide +kernel
      rw [List.map_cons, chainRest, tokens_append _ (closed_chainRest _),
        tokens_append_of_shut hshut, hjoin, tokens_condition hcondition]
      simp only [List.append_assoc]
      rfl
    have hbare : Reading.Bare
        (.word condition.connective.text :: Condition.leadTokens (condition, var)) :=
      Reading.bare_cons_iff.mpr ⟨rfl, Reading.bare_leadTokens _⟩
    rw [htokens, List.append_assoc]
    exact Reading.pieces_append hbare condition.parameter (ih hothers)

/-- The pieces of a filter: the first begins with the word for it, the others with a
connective. -/
def Reading.filterPieces (var : String) : List Condition → List (List Token × String)
  | [] => []
  | first :: rest =>
    (.word "WHERE" :: Condition.leadTokens (first, var), first.parameter) :: joinedPieces var rest

/-- **A filter is cut into its conditions**, in front of what stands after it. -/
theorem pieces_whereClause {var : String} {conditions : List Condition}
    (h : ∀ condition ∈ conditions, Condition.Readable (condition, var)) {rest tail : List Token}
    {more : List (List Token × String)} (hrest : Reading.pieces rest = (more, tail)) :
    Reading.pieces (tokens (whereClause conditions var) ++ rest) =
      (Reading.filterPieces var conditions ++ more, tail) := by
  cases conditions with
  | nil => exact hrest
  | cons first others =>
    obtain ⟨hfirst, hothers⟩ := List.forall_mem_cons.mp h
    have hshut : Shut " WHERE ".toList := by decide
    have htokens : tokens (whereClause (first :: others) var) =
        (.word "WHERE" :: Condition.leadTokens (first, var)) ++
          .placeholder first.parameter :: tokens (chainRest (others.map (·, var))) := by
      rw [whereClause, List.map_cons, whereClauseFor, List.isEmpty_cons,
        if_neg Bool.false_ne_true, chain, tokens_append_of_shut hshut,
        tokens_append _ (closed_chainRest _), tokens_condition hfirst]
      simp only [List.append_assoc]
      rfl
    have hbare : Reading.Bare (.word "WHERE" :: Condition.leadTokens (first, var)) :=
      Reading.bare_cons_iff.mpr ⟨rfl, Reading.bare_leadTokens _⟩
    rw [htokens, List.append_assoc]
    exact Reading.pieces_append hbare first.parameter (pieces_chainRest hothers hrest)

/-- The pieces of a filter are read as its conditions. -/
theorem filter?_filterPieces (var : String) (conditions : List Condition) :
    Reading.filter? var (Reading.filterPieces var conditions) =
      some (Condition.toFilter conditions) := by
  cases conditions with
  | nil => rfl
  | cons first rest =>
    rw [Reading.filterPieces, Reading.filter?, Reading.comparison?_leadTokens,
      Reading.mapM_joined?_joinedPieces]
    rfl

/-- **A filter is read as the conditions it was written from**, up to what stands after it. -/
theorem filter?_whereClause {var : String} {conditions : List Condition}
    (h : ∀ condition ∈ conditions, Condition.Readable (condition, var)) {tail : List Token}
    (htail : Reading.Bare tail) :
    ∃ cut, Reading.pieces (tokens (whereClause conditions var) ++ tail) = (cut, tail) ∧
      Reading.filter? var cut = some (Condition.toFilter conditions) := by
  refine ⟨_, pieces_whereClause h (Reading.pieces_of_bare htail), ?_⟩
  rw [List.append_nil]
  exact filter?_filterPieces var conditions

/-- **A selection is read part by part.** -/
theorem readSelection_of_parts {text : String} {labels : List String} {body after last : List Token}
    {cut : List (List Token × String)}
    {filter : Option (Comparison × List (Connective × Comparison))}
    {sorting : Option (String × String)} {limit : Option String}
    (htext : tokens text = tokens "MATCH (n" ++ (labelTokens labels ++ (tokens ")" ++ body)))
    (hpieces : Reading.pieces body = (cut, tokens " RETURN n" ++ after))
    (hfilter : Reading.filter? "n" cut = some filter)
    (hsorting : Reading.sorting "n" after = (sorting, last))
    (hlimit : Reading.limit? last = some limit) :
    readSelection text = some ⟨labels, filter, sorting, limit⟩ := by
  have hlabels : Reading.labels (labelTokens labels ++ (tokens ")" ++ body)) =
      (labels, tokens ")" ++ body) := by
    have hbracket : tokens ")" = [.mark ')'] := by decide
    exact Reading.labels_append _ (by rw [hbracket]; simp)
  simp only [readSelection, htext, Reading.skip_append, Option.bind_eq_bind, Option.bind_some,
    hlabels, hpieces, hfilter, hsorting, hlimit]
  rfl

end GraphMapper
