import GraphMapper.Proofs.Reading.Clauses
import Mathlib.Data.List.SplitBy

/-!
# What a flat chain of conditions means

A filter is written without parentheses: its conditions stand in a row, each with its connective in
front.  Its meaning is therefore decided by whoever reads it, and all that is known of the reader is
that "and" binds tighter than "or".

## 1.  Reading a formula

`readFormula?` is a reader of that kind, in two levels.  A disjunction is cut at its "or"s, each piece
is a conjunction that is cut at its "and"s, and each piece of that is a condition.  What comes out is
a `Formula`, a tree that says which conditions were taken together.

## 2.  Blocks

`blocks` cuts the list of the conditions, not the text: before each condition that is joined by "or",
except the first condition of all.  `chainWords_flatten` says that the words of a chain are the words
of its blocks with "OR" between the blocks and "AND" within them.  This holds of any way to write a
list as blocks that are cut there, so the proof is an induction on the blocks.

## 3.  What the filter means

No word of a condition is a connective, so the reader cuts the text where the list is cut.
`filter_means_blocks` is the law: the filter is read as the disjunction of the conjunctions of the
blocks, and it holds if all conditions of some block do.
-/

namespace GraphMapper

/-! ## 1.  Reading a formula -/

/-- A formula over conditions, each on its pattern variable. -/
inductive Formula where
  | atom (condition : String × Comparison)
  | and (left right : Formula)
  | or (left right : Formula)
  deriving DecidableEq

namespace Formula

/-- Whether a formula holds under an interpretation of its conditions. -/
def Holds (truth : String × Comparison → Prop) : Formula → Prop
  | .atom condition => truth condition
  | .and left right => left.Holds truth ∧ right.Holds truth
  | .or left right => left.Holds truth ∨ right.Holds truth

/-- Formulas in a row, joined from the left. -/
def joined (join : Formula → Formula → Formula) : List Formula → Option Formula
  | [] => none
  | first :: rest => some (rest.foldl join first)

/-- The conjunction of conditions, in order. -/
def conjunction (conditions : List (String × Comparison)) : Option Formula :=
  joined .and (conditions.map .atom)

/-- The disjunction of conjunctions, in order. -/
def disjunction (conjunctions : List (List (String × Comparison))) : Option Formula := do
  let formulas ← conjunctions.mapM conjunction
  joined .or formulas

section Meaning

variable {truth : String × Comparison → Prop}

theorem holds_foldl_and (first : Formula) (rest : List Formula) :
    (rest.foldl .and first).Holds truth ↔
      first.Holds truth ∧ ∀ formula ∈ rest, formula.Holds truth := by
  induction rest generalizing first with
  | nil => simp
  | cons next rest ih =>
    rw [List.foldl_cons, ih, Holds, List.forall_mem_cons, and_assoc]

theorem holds_foldl_or (first : Formula) (rest : List Formula) :
    (rest.foldl .or first).Holds truth ↔
      first.Holds truth ∨ ∃ formula ∈ rest, formula.Holds truth := by
  induction rest generalizing first with
  | nil => simp
  | cons next rest ih =>
    rw [List.foldl_cons, ih, Holds, List.exists_mem_cons_iff, or_assoc]

/-- A conjunction holds if all of its conditions do. -/
theorem holds_conjunction {conditions : List (String × Comparison)} {formula : Formula}
    (h : conjunction conditions = some formula) :
    formula.Holds truth ↔ ∀ condition ∈ conditions, truth condition := by
  cases conditions with
  | nil => exact absurd h (by simp [conjunction, joined])
  | cons first rest =>
    obtain rfl := Option.some.inj h
    rw [holds_foldl_and, List.forall_mem_cons, List.forall_mem_map]
    rfl

theorem exists_conjunction {conditions : List (String × Comparison)} (h : conditions ≠ []) :
    ∃ formula, conjunction conditions = some formula := by
  cases conditions with
  | nil => exact absurd rfl h
  | cons first rest => exact ⟨_, rfl⟩

/-- Conjunctions of conditions that are there: each is a formula, which holds if all of its
conditions do. -/
theorem exists_conjunctions {conjunctions : List (List (String × Comparison))}
    (h : ∀ conditions ∈ conjunctions, conditions ≠ []) :
    ∃ formulas, conjunctions.mapM conjunction = some formulas ∧
      formulas.length = conjunctions.length ∧
      ∀ truth, (∃ formula ∈ formulas, formula.Holds truth) ↔
        ∃ conditions ∈ conjunctions, ∀ condition ∈ conditions, truth condition := by
  induction conjunctions with
  | nil => exact ⟨[], rfl, rfl, by simp⟩
  | cons conditions rest ih =>
    obtain ⟨hconditions, hrest⟩ := List.forall_mem_cons.mp h
    obtain ⟨formula, hformula⟩ := exists_conjunction hconditions
    obtain ⟨formulas, hformulas, hlength, hholds⟩ := ih hrest
    refine ⟨formula :: formulas, ?_, by simp [hlength], fun truth => ?_⟩
    · rw [List.mapM_cons, hformula, hformulas]
      rfl
    · rw [List.exists_mem_cons_iff, List.exists_mem_cons_iff, hholds, holds_conjunction hformula]

/-- **A disjunction of conjunctions** that are there is a formula.  It holds if all conditions of one
of them do. -/
theorem exists_disjunction {conjunctions : List (List (String × Comparison))}
    (hsome : conjunctions ≠ []) (h : ∀ conditions ∈ conjunctions, conditions ≠ []) :
    ∃ formula, disjunction conjunctions = some formula ∧
      ∀ truth, formula.Holds truth ↔
        ∃ conditions ∈ conjunctions, ∀ condition ∈ conditions, truth condition := by
  obtain ⟨formulas, hformulas, hlength, hholds⟩ := exists_conjunctions h
  cases formulas with
  | nil =>
    have hnone : conjunctions = [] := List.length_eq_zero_iff.mp hlength.symm
    exact absurd hnone hsome
  | cons first rest =>
    refine ⟨rest.foldl .or first, ?_, fun truth => ?_⟩
    · rw [disjunction, hformulas]
      rfl
    · rw [holds_foldl_or, ← hholds, List.exists_mem_cons_iff]

end Meaning

end Formula

/-- The conjunction that words are: conditions with "AND" between them. -/
def readConjunction? (words : List String) : Option Formula := do
  let conditions ← (words.splitOn Connective.and.text).mapM readCondition?
  Formula.conjunction conditions

/-- The disjunction that words are: conjunctions with "OR" between them. -/
def readDisjunction? (words : List String) : Option Formula := do
  let formulas ← (words.splitOn Connective.or.text).mapM readConjunction?
  Formula.joined .or formulas

/-- The formula that a filter is, read with "and" binding tighter than "or". -/
def readFormula? (text : String) : Option Formula := do
  let chain ← dropLead? " WHERE " text
  readDisjunction? (spacedWords chain)

/-! ## 2.  Blocks -/

/-- The conditions of a chain in blocks: the list is cut before each condition that is joined by
"or", except the first. -/
def blocks (conditions : List (Condition × String)) : List (List (Condition × String)) :=
  conditions.splitBy fun _ next => next.1.connective == .and

/-- The words of a chain. -/
def chainWords : List (Condition × String) → List String
  | [] => []
  | first :: rest => Condition.words first ++ Passage.words (Condition.joinedPassages rest)

/-- The words of a block: its conditions with "AND" between them. -/
def blockWords (block : List (Condition × String)) : List String :=
  [Connective.and.text].intercalate (block.map Condition.words)

/-- Behind other conditions, a chain begins with the connective of its first one. -/
theorem words_joinedPassages_cons (first : Condition × String)
    (rest : List (Condition × String)) :
    Passage.words (Condition.joinedPassages (first :: rest)) =
      first.1.connective.text :: chainWords (first :: rest) :=
  Passage.words_cons _ _

theorem words_joinedPassages_append (conditions more : List (Condition × String)) :
    Passage.words (Condition.joinedPassages (conditions ++ more)) =
      Passage.words (Condition.joinedPassages conditions) ++
        Passage.words (Condition.joinedPassages more) := by
  rw [Condition.joinedPassages, List.map_append, Passage.words_append]
  rfl

/-- In a block every condition but the first is joined by "and". -/
theorem chainWords_block {block : List (Condition × String)}
    (h : block.IsChain fun _ next => (next.1.connective == .and) = true) :
    chainWords block = blockWords block := by
  induction block with
  | nil => rfl
  | cons first rest ih =>
    cases rest with
    | nil => simp [chainWords, blockWords, Condition.joinedPassages, Passage.words]
    | cons next others =>
      obtain ⟨hnext, hothers⟩ := List.isChain_cons_cons.mp h
      have hand : next.1.connective = .and := beq_iff_eq.mp hnext
      have hwords : blockWords (first :: next :: others) =
          Condition.words first ++ [Connective.and.text] ++ blockWords (next :: others) :=
        List.intercalate_cons_cons
      rw [chainWords, words_joinedPassages_cons, ih hothers, hand, hwords, List.append_assoc]
      rfl

/-- **The words of a chain are those of its blocks**, with "OR" between them. -/
theorem chainWords_flatten {cut : List (List (Condition × String))} (hnil : [] ∉ cut)
    (hand : ∀ block ∈ cut, block.IsChain fun _ next => (next.1.connective == .and) = true)
    (hor : cut.IsChain fun block next => ∃ (_ : block ≠ []) (h : next ≠ []),
      ((next.head h).1.connective == .and) = false) :
    chainWords cut.flatten = [Connective.or.text].intercalate (cut.map blockWords) := by
  induction cut with
  | nil => rfl
  | cons block more ih =>
    have hblock := chainWords_block (hand block List.mem_cons_self)
    cases more with
    | nil => simpa using hblock
    | cons next others =>
      obtain ⟨⟨hfirst, hnext, hconnective⟩, hothers⟩ := List.isChain_cons_cons.mp hor
      have hrest := ih (fun hmem => hnil (List.mem_cons_of_mem _ hmem))
        (fun other hother => hand other (List.mem_cons_of_mem _ hother)) hothers
      obtain ⟨first, rest, rfl⟩ := List.exists_cons_of_ne_nil hfirst
      obtain ⟨head, tail, rfl⟩ := List.exists_cons_of_ne_nil hnext
      have hjoint : head.1.connective = .or := by
        cases hhead : head.1.connective with
        | or => rfl
        | and => exact absurd hconnective (by simp [hhead])
      have hwords : Passage.words (Condition.joinedPassages ((head :: tail) :: others).flatten) =
          Connective.or.text :: chainWords ((head :: tail) :: others).flatten := by
        rw [List.flatten_cons, List.cons_append, words_joinedPassages_cons, hjoint]
      calc chainWords ((first :: rest) :: (head :: tail) :: others).flatten
          = chainWords (first :: rest) ++
              Passage.words (Condition.joinedPassages ((head :: tail) :: others).flatten) := by
            rw [List.flatten_cons, List.cons_append, chainWords, words_joinedPassages_append,
              ← List.append_assoc]
            rfl
        _ = blockWords (first :: rest) ++ [Connective.or.text] ++
              [Connective.or.text].intercalate (((head :: tail) :: others).map blockWords) := by
            rw [hblock, hwords, hrest, List.append_assoc]
            rfl
        _ = _ := List.intercalate_cons_cons.symm

/-! ## 3.  What the filter means -/

/-- Words with one between them are words of the pieces, or that one. -/
theorem mem_intercalate {γ : Type} {mark word : γ} {pieces : List (List γ)}
    (h : word ∈ [mark].intercalate pieces) : word = mark ∨ ∃ piece ∈ pieces, word ∈ piece := by
  induction pieces with
  | nil => exact absurd h (by simp)
  | cons piece rest ih =>
    cases rest with
    | nil =>
      rw [List.intercalate_singleton] at h
      exact Or.inr ⟨piece, List.mem_cons_self, h⟩
    | cons next others =>
      rw [List.intercalate_cons_cons, List.mem_append, List.mem_append, List.mem_singleton] at h
      rcases h with (hpiece | hmark) | hrest
      · exact Or.inr ⟨piece, List.mem_cons_self, hpiece⟩
      · exact Or.inl hmark
      · rcases ih hrest with hmark | ⟨other, hother, hword⟩
        · exact Or.inl hmark
        · exact Or.inr ⟨other, List.mem_cons_of_mem _ hother, hword⟩

theorem mapM_congr {γ δ : Type} {f g : γ → Option δ} {list : List γ} (h : ∀ a ∈ list, f a = g a) :
    list.mapM f = list.mapM g := by
  induction list with
  | nil => rfl
  | cons first rest ih =>
    obtain ⟨hfirst, hrest⟩ := List.forall_mem_cons.mp h
    rw [List.mapM_cons, List.mapM_cons, hfirst, ih hrest]

/-- No word of a condition is a connective. -/
theorem connective_notMem_words (connective : Connective) (entry : Condition × String) :
    connective.text ∉ Condition.words entry := by
  intro hmem
  have hjoint := Condition.isJoint_words entry _ hmem
  rw [isJoint, readConnective?_text] at hjoint
  exact absurd hjoint (by simp)

theorem or_notMem_blockWords (block : List (Condition × String)) :
    Connective.or.text ∉ blockWords block := by
  intro hmem
  rcases mem_intercalate hmem with hsame | ⟨words, hwords, hword⟩
  · exact absurd hsame (by decide)
  · obtain ⟨entry, -, rfl⟩ := List.mem_map.mp hwords
    exact connective_notMem_words .or entry hword

/-- **A block is read as the conjunction of its conditions.** -/
theorem readConjunction?_blockWords {block : List (Condition × String)} (hne : block ≠ [])
    (hplain : ∀ entry ∈ block, Condition.Plain entry) :
    readConjunction? (blockWords block) = Formula.conjunction (block.map Condition.written) := by
  have hcut : (blockWords block).splitOn Connective.and.text = block.map Condition.words := by
    refine List.splitOn_intercalate _ (fun words hwords => ?_) (by simpa using hne)
    obtain ⟨entry, -, rfl⟩ := List.mem_map.mp hwords
    exact connective_notMem_words .and entry
  have hread : (block.map Condition.words).mapM readCondition? =
      some (block.map Condition.written) := by
    have hpieces : ∀ entry ∈ block, (readCondition? ∘ Condition.words) entry =
        pure (Condition.written entry) :=
      fun entry hentry => readCondition?_words (hplain entry hentry)
    rw [List.mapM_map, mapM_congr hpieces, List.mapM_pure]
    rfl
  rw [readConjunction?, hcut, hread]
  rfl

/-- **Blocks are read as the disjunction of their conjunctions.** -/
theorem readDisjunction?_blocks {cut : List (List (Condition × String))} (hsome : cut ≠ [])
    (hnil : [] ∉ cut) (hplain : ∀ block ∈ cut, ∀ entry ∈ block, Condition.Plain entry) :
    readDisjunction? ([Connective.or.text].intercalate (cut.map blockWords)) =
      Formula.disjunction (cut.map (List.map Condition.written)) := by
  have hcut : ([Connective.or.text].intercalate (cut.map blockWords)).splitOn
      Connective.or.text = cut.map blockWords := by
    refine List.splitOn_intercalate _ (fun words hwords => ?_) (by simpa using hsome)
    obtain ⟨block, -, rfl⟩ := List.mem_map.mp hwords
    exact or_notMem_blockWords block
  have hread : (cut.map blockWords).mapM readConjunction? =
      (cut.map (List.map Condition.written)).mapM Formula.conjunction := by
    rw [List.mapM_map, List.mapM_map]
    refine mapM_congr fun block hblock => ?_
    have hne : block ≠ [] := fun heq => hnil (heq ▸ hblock)
    exact readConjunction?_blockWords hne (hplain block hblock)
  rw [readDisjunction?, hcut, hread]
  rfl

/-- The text of a chain is its words. -/
theorem spacedWords_chain {conditions : List (Condition × String)} (hne : conditions ≠ [])
    (hplain : ∀ entry ∈ conditions, Condition.Plain entry) :
    spacedWords (chain conditions) = chainWords conditions := by
  obtain ⟨first, rest, rfl⟩ := List.exists_cons_of_ne_nil hne
  obtain ⟨hfirst, hrest⟩ := List.forall_mem_cons.mp hplain
  have hadds : AddsWords (" " ++ chain (first :: rest)) (chainWords (first :: rest)) := by
    rw [chain, ← String.append_assoc]
    exact (Condition.addsWords_text hfirst).append (addsWords_chainRest hrest)
  -- behind an empty text there is one empty word more, on both sides
  have hempty := hadds ""
  rw [AddsWords.text (chain (first :: rest)) ""] at hempty
  exact List.append_cancel_left hempty

/-- A filter with conditions is read as the disjunction of its blocks. -/
theorem readFormula?_whereClauseFor {conditions : List (Condition × String)}
    (hne : conditions ≠ []) (hplain : ∀ entry ∈ conditions, Condition.Plain entry) :
    readFormula? (whereClauseFor conditions) =
      Formula.disjunction ((blocks conditions).map (List.map Condition.written)) := by
  have hnil : [] ∉ blocks conditions := List.nil_notMem_splitBy _ _
  have hflat : (blocks conditions).flatten = conditions := List.flatten_splitBy _ _
  have hwords : chainWords conditions =
      [Connective.or.text].intercalate ((blocks conditions).map blockWords) := by
    have hor : (blocks conditions).IsChain fun block next => ∃ (_ : block ≠ []) (h : next ≠ []),
        ((next.head h).1.connective == .and) = false :=
      List.isChain_getLast_head_splitBy (fun _ next => next.1.connective == .and) conditions
    have hcut := chainWords_flatten hnil (fun block hblock => List.isChain_of_mem_splitBy hblock) hor
    rwa [hflat] at hcut
  have hsome : blocks conditions ≠ [] := List.splitBy_ne_nil.mpr hne
  have hinside : ∀ block ∈ blocks conditions, ∀ entry ∈ block, Condition.Plain entry := by
    intro block hblock entry hentry
    refine hplain entry ?_
    rw [← hflat]
    exact List.mem_flatten_of_mem hblock hentry
  have htext : whereClauseFor conditions = " WHERE " ++ chain conditions := by
    rw [whereClauseFor, if_neg (by simpa using hne)]
  rw [readFormula?, htext, dropLead?_append]
  change readDisjunction? (spacedWords (chain conditions)) = _
  rw [spacedWords_chain hne hplain, hwords, readDisjunction?_blocks hsome hnil hinside]

/-- **A flat chain means the disjunction of its blocks.**  Without conditions there is no clause.
With conditions the clause is read as the disjunction of the conjunctions of the blocks, in order, and
under every interpretation of the conditions it holds if all conditions of some block hold.  The same
goes for conditions on one variable.  How the first condition is joined makes no difference. -/
theorem filter_means_blocks (conditions : List (Condition × String))
    (hplain : ∀ entry ∈ conditions, Condition.Plain entry) :
    (conditions = [] → whereClauseFor conditions = "") ∧
    (conditions ≠ [] → ∃ formula, readFormula? (whereClauseFor conditions) = some formula ∧
      Formula.disjunction ((blocks conditions).map (List.map Condition.written)) = some formula ∧
      ∀ truth, formula.Holds truth ↔
        ∃ block ∈ blocks conditions, ∀ entry ∈ block, truth (Condition.written entry)) ∧
    (∀ single var, conditions = single.map (fun condition => (condition, var)) →
      whereClause single var = whereClauseFor conditions) ∧
    ∀ first rest connective, conditions = first :: rest →
      whereClauseFor (({ first.1 with connective := connective }, first.2) :: rest) =
        whereClauseFor conditions := by
  refine ⟨?empty, ?meaning, ?single, ?first⟩
  case empty =>
    rintro rfl
    rfl
  case meaning =>
    intro hne
    have hnil : [] ∉ blocks conditions := List.nil_notMem_splitBy _ _
    have hsome : (blocks conditions).map (List.map Condition.written) ≠ [] := by
      rw [Ne, List.map_eq_nil_iff]
      exact List.splitBy_ne_nil.mpr hne
    obtain ⟨formula, hformula, hholds⟩ := Formula.exists_disjunction hsome (by
      intro written hwritten
      obtain ⟨block, hblock, rfl⟩ := List.mem_map.mp hwritten
      rw [Ne, List.map_eq_nil_iff]
      exact fun heq => hnil (heq ▸ hblock))
    refine ⟨formula, ?_, hformula, fun truth => ?_⟩
    · rw [readFormula?_whereClauseFor hne hplain, hformula]
    · rw [hholds]
      constructor
      · rintro ⟨written, hwritten, hall⟩
        obtain ⟨block, hblock, rfl⟩ := List.mem_map.mp hwritten
        exact ⟨block, hblock, List.forall_mem_map.mp hall⟩
      · rintro ⟨block, hblock, hall⟩
        exact ⟨_, List.mem_map_of_mem hblock, List.forall_mem_map.mpr hall⟩
  case single =>
    rintro single var rfl
    rfl
  case first =>
    rintro first rest connective rfl
    rfl

/-- An "or" in front, and names that are connectives themselves. -/
theorem filter_means_blocks_leading_or :
    let a : Condition × String := (⟨"OR", .equal, "p1", .or⟩, "AND")
    let b : Condition × String := (⟨"age", .greater, "p2", .and⟩, "n")
    let c : Condition × String := (⟨"name", .startsWith, "p3", .or⟩, "n")
    let atom (entry : Condition × String) : Formula := .atom (Condition.written entry)
    (∀ entry ∈ [a, b, c], Condition.Plain entry) ∧
    whereClauseFor [a, b, c] = " WHERE AND.OR = $p1 AND n.age > $p2 OR n.name STARTS WITH $p3" ∧
    readFormula? (whereClauseFor [a, b, c]) = some (.or (.and (atom a) (atom b)) (atom c)) := by
  intro a b c atom
  have hplain : ∀ entry ∈ [a, b, c], Condition.Plain entry := by
    simp only [List.forall_mem_cons, List.not_mem_nil, false_imp_iff, implies_true, and_true]
    exact ⟨⟨by decide, by decide, by decide⟩, ⟨by decide, by decide, by decide⟩,
      ⟨by decide, by decide, by decide⟩⟩
  obtain ⟨-, hmeaning, -⟩ := filter_means_blocks [a, b, c] hplain
  obtain ⟨formula, hread, hformula, -⟩ := hmeaning (List.cons_ne_nil _ _)
  refine ⟨hplain, by decide, ?_⟩
  rw [hread, ← hformula]
  rfl

/-- A placeholder of several words could be more conditions, so there is no telling them apart. -/
example : whereClauseFor [(⟨"a", .equal, "p1 OR n.b = $p2", .and⟩, "n")] =
    whereClauseFor [(⟨"a", .equal, "p1", .and⟩, "n"), (⟨"b", .equal, "p2", .or⟩, "n")] := by
  decide

end GraphMapper
