import GraphMapper.Proofs.Reading.Selection

/-!
# Words and clauses of a statement

Whoever writes a statement puts one space between two words, and nothing that is written from
outside has a space in it: accepted names consist of name characters, apart from a line feed that
may stand at their end.  So a text is cut into words at its spaces, and a word is exactly what was
written, line feeds included.  This is a finer reading than `tokens`, which is what a store sees:
there blanks are dropped, and two names that differ in the line feed are the same.

* `spacedWords`: the words of a text, and `AddsWords`: what a piece of a text adds to them.
* `cutBefore`: words are cut in front of each word of a kind, which gives the clauses of a statement
  and the conditions of a filter; `cutBefore_words` says that it finds the passages that the words
  were put together from.
* `isKeyword_of_mem`, `isJoint_of_mem`: keywords and connectives consist of capitals, so a word
  with another character in it begins neither a clause nor a condition.  This is why nothing that
  is accepted can introduce a clause or swallow one.
* `readLabels?`, `readCondition?`, `readFilter?`, `readNatural`: reading the words of a clause.
-/

namespace GraphMapper

/-! ## 1.  Splitting a text -/

/-- The pieces of a text between the occurrences of a character. -/
def splitText (c : Char) (text : String) : List String :=
  (text.toList.splitOn c).map String.ofList

/-- **A mark between two texts keeps their pieces apart**, whatever the texts are. -/
theorem splitText_append {c : Char} {mark : String} (hmark : mark.toList = [c]) (s t : String) :
    splitText c (s ++ (mark ++ t)) = splitText c s ++ splitText c t := by
  have hlist : (s ++ (mark ++ t)).toList = s.toList ++ c :: t.toList := by
    rw [String.toList_append, String.toList_append, hmark]
    rfl
  rw [splitText, hlist, List.splitOn_append_cons_self, List.map_append]
  rfl

theorem splitText_of_notMem {c : Char} {text : String} (h : c ∉ text.toList) :
    splitText c text = [text] := by
  rw [splitText, List.splitOn_eq_singleton h, List.map_singleton, String.ofList_toList]

/-- Pieces with their mark between them are the text again. -/
theorem joinTexts_splitText {c : Char} {mark : String} (hmark : mark.toList = [c])
    (text : String) : joinTexts mark (splitText c text) = text := by
  have hpieces : (splitText c text).map String.toList = text.toList.splitOn c := by
    rw [splitText, List.map_map]
    exact (List.map_congr_left fun piece _ => String.toList_ofList).trans (List.map_id _)
  apply String.toList_injective
  rw [joinTexts, String.toList_intercalate, hpieces, hmark, List.intercalate_splitOn]

/-- The text behind a beginning. -/
def dropLead? (lead text : String) : Option String :=
  (text.toList.dropPrefix? lead.toList).map String.ofList

/-- The text in front of an ending. -/
def dropTail? (tail text : String) : Option String :=
  (text.toList.dropSuffix? tail.toList).map String.ofList

@[simp] theorem dropLead?_append (lead text : String) :
    dropLead? lead (lead ++ text) = some text := by
  rw [dropLead?, String.toList_append, List.dropPrefix?_append_of_beq _ (BEq.refl _),
    Option.map_some, String.ofList_toList]

theorem dropTail?_append (text tail : String) : dropTail? tail (text ++ tail) = some text := by
  have hdrop : (text ++ tail).toList.dropSuffix? tail.toList = some text.toList :=
    List.dropSuffix?_eq_some_iff.mpr ⟨tail.toList, String.toList_append, BEq.refl _⟩
  rw [dropTail?, hdrop, Option.map_some, String.ofList_toList]

/-- A text does not begin with what has a character that the text has not. -/
theorem dropLead?_eq_none {lead text : String} {c : Char} (hlead : c ∈ lead.toList)
    (htext : c ∉ text.toList) : dropLead? lead text = none := by
  cases h : text.toList.dropPrefix? lead.toList with
  | none => rw [dropLead?, h, Option.map_none]
  | some rest =>
    obtain ⟨same, hsplit, hsame⟩ := List.dropPrefix?_eq_some_iff.mp h
    rw [hsplit, beq_iff_eq.mp hsame, List.mem_append, not_or] at htext
    exact absurd hlead htext.1

/-- A text does not end with what has a character that the text has not. -/
theorem dropTail?_eq_none {tail text : String} {c : Char} (htail : c ∈ tail.toList)
    (htext : c ∉ text.toList) : dropTail? tail text = none := by
  cases h : text.toList.dropSuffix? tail.toList with
  | none => rw [dropTail?, h, Option.map_none]
  | some rest =>
    obtain ⟨same, hsplit, hsame⟩ := List.dropSuffix?_eq_some_iff.mp h
    rw [hsplit, beq_iff_eq.mp hsame, List.mem_append, not_or] at htext
    exact absurd htail htext.2

/-! ## 2.  Words -/

/-- The words of a text: what stands between its spaces. -/
def spacedWords (text : String) : List String := splitText ' ' text

/-- A text without a space. -/
def SpaceFree (text : String) : Prop := ' ' ∉ text.toList

instance (text : String) : Decidable (SpaceFree text) := inferInstanceAs (Decidable (¬ _))

theorem SpaceFree.append {s t : String} (hs : SpaceFree s) (ht : SpaceFree t) :
    SpaceFree (s ++ t) := by
  rw [SpaceFree, String.toList_append, List.mem_append, not_or]
  exact ⟨hs, ht⟩

theorem spacedWords_of_spaceFree {text : String} (h : SpaceFree text) :
    spacedWords text = [text] := splitText_of_notMem h

/-- Words with spaces between them are the text again. -/
theorem joinTexts_spacedWords (text : String) : joinTexts " " (spacedWords text) = text :=
  joinTexts_splitText rfl text

/-- A piece of a text that adds words of its own to whatever it is written behind. -/
def AddsWords (text : String) (added : List String) : Prop :=
  ∀ s, spacedWords (s ++ text) = spacedWords s ++ added

namespace AddsWords

theorem empty : AddsWords "" [] := fun s => by
  rw [String.append_empty, List.append_nil]

/-- What follows a space adds its words. -/
theorem text (text : String) : AddsWords (" " ++ text) (spacedWords text) :=
  fun s => splitText_append rfl s text

theorem word {word : String} (h : SpaceFree word) : AddsWords (" " ++ word) [word] := by
  rw [← spacedWords_of_spaceFree h]
  exact text word

theorem append {t u : String} {added more : List String} (ht : AddsWords t added)
    (hu : AddsWords u more) : AddsWords (t ++ u) (added ++ more) := fun s => by
  rw [← String.append_assoc, hu, ht, List.append_assoc]

end AddsWords

/-- A character that is no name character and no line feed does not occur in an accepted name. -/
theorem notMem_of_isIdentifier {name : String} (h : isIdentifier name = true) {c : Char}
    (hname : isNameChar c = false) (hline : c ≠ '\n') : c ∉ name.toList := by
  intro hc
  rcases isNameChar_or_eq_of_isIdentifier h hc with hchar | rfl
  · rw [hname] at hchar
    exact absurd hchar Bool.false_ne_true
  · exact hline rfl

theorem spaceFree_of_isIdentifier {name : String} (h : isIdentifier name = true) :
    SpaceFree name := notMem_of_isIdentifier h (by decide) (by decide)

theorem spaceFree_labelsText {labels : List String}
    (h : ∀ name ∈ labels, isIdentifier name = true) : SpaceFree (Fault.labelsText labels) := by
  rw [SpaceFree, toList_labelsText, List.mem_flatMap]
  rintro ⟨label, hlabel, hc⟩
  rcases List.mem_cons.mp hc with hc | hc
  · exact absurd hc (by decide)
  · exact spaceFree_of_isIdentifier (h label hlabel) hc

theorem spaceFree_repr (n : ℕ) : SpaceFree (Nat.repr n) :=
  fun h => absurd (isNameChar_of_mem_repr h) (by decide)

/-! ## 3.  Cutting words into passages -/

/-- A passage: the word that it begins with, and the words after that. -/
abbrev Passage := String × List String

/-- The words of passages, in order. -/
def Passage.words (passages : List Passage) : List String :=
  passages.flatMap fun passage => passage.1 :: passage.2

theorem Passage.words_cons (passage : Passage) (rest : List Passage) :
    Passage.words (passage :: rest) = passage.1 :: passage.2 ++ Passage.words rest :=
  List.flatMap_cons

theorem Passage.words_append (passages more : List Passage) :
    Passage.words (passages ++ more) = Passage.words passages ++ Passage.words more :=
  List.flatMap_append

/-- Words that are cut in front of each word of a kind: those before the first such word, and the
passages that begin with one. -/
def cutBefore (begins : String → Bool) : List String → List String × List Passage
  | [] => ([], [])
  | word :: rest =>
    let (lead, passages) := cutBefore begins rest
    if begins word then ([], (word, lead) :: passages) else (word :: lead, passages)

section Cutting

variable {begins : String → Bool}

/-- Words that begin no passage belong to what stands before them. -/
theorem cutBefore_append {lead : List String} (h : ∀ word ∈ lead, begins word = false)
    (rest : List String) :
    cutBefore begins (lead ++ rest) =
      (lead ++ (cutBefore begins rest).1, (cutBefore begins rest).2) := by
  induction lead with
  | nil => rfl
  | cons word lead ih =>
    obtain ⟨hword, hlead⟩ := List.forall_mem_cons.mp h
    rw [List.cons_append, cutBefore, ih hlead, hword]
    rfl

/-- **Cutting finds the passages that words were put together from.** -/
theorem cutBefore_words {lead : List String} (hlead : ∀ word ∈ lead, begins word = false)
    {passages : List Passage}
    (h : ∀ passage ∈ passages, begins passage.1 = true ∧
      ∀ word ∈ passage.2, begins word = false) :
    cutBefore begins (lead ++ Passage.words passages) = (lead, passages) := by
  induction passages generalizing lead with
  | nil =>
    rw [cutBefore_append hlead]
    exact Prod.ext (List.append_nil lead) rfl
  | cons passage rest ih =>
    obtain ⟨⟨hbegins, hbody⟩, hrest⟩ := List.forall_mem_cons.mp h
    rw [cutBefore_append hlead, Passage.words_cons, List.cons_append, cutBefore, ih hbody hrest]
    dsimp only
    rw [if_pos hbegins]
    exact Prod.ext (List.append_nil lead) rfl

end Cutting

/-! ## 4.  Keywords and connectives -/

/-- The words that begin a clause. -/
def keywords : List String :=
  ["MATCH", "WHERE", "SET", "DETACH", "DELETE", "RETURN", "ORDER", "LIMIT"]

/-- Whether a word begins a clause. -/
def isKeyword (word : String) : Bool := keywords.contains word

/-- The connective that a word is. -/
def readConnective? (word : String) : Option Connective :=
  if word = Connective.and.text then some .and
  else if word = Connective.or.text then some .or
  else none

/-- Whether a word joins two conditions. -/
def isJoint (word : String) : Bool := (readConnective? word).isSome

@[simp] theorem readConnective?_text (connective : Connective) :
    readConnective? connective.text = some connective := by
  cases connective <;> decide

/-- A word with a character that is no capital begins no clause. -/
theorem isKeyword_of_mem {word : String} {c : Char} (hc : c ∈ word.toList)
    (hcapital : c.isUpper = false) : isKeyword word = false := by
  have hall : ∀ keyword ∈ keywords, keyword.toList.all Char.isUpper = true := by decide
  by_contra h
  rw [Bool.not_eq_false, isKeyword, List.contains_iff_mem] at h
  have hupper := List.all_eq_true.mp (hall word h) c hc
  rw [hcapital] at hupper
  exact Bool.false_ne_true hupper

/-- A word with a character that is no capital joins no conditions. -/
theorem isJoint_of_mem {word : String} {c : Char} (hc : c ∈ word.toList)
    (hcapital : c.isUpper = false) : isJoint word = false := by
  have hne : ∀ connective : Connective, word ≠ connective.text := by
    rintro connective rfl
    have hall : connective.text.toList.all Char.isUpper = true := by cases connective <;> decide
    have hupper := List.all_eq_true.mp hall c hc
    rw [hcapital] at hupper
    exact Bool.false_ne_true hupper
  rw [isJoint, readConnective?, if_neg (hne .and), if_neg (hne .or)]
  rfl

/-- A passage that is one clause: a keyword, and no other after it. -/
def IsClause (passage : Passage) : Prop :=
  isKeyword passage.1 = true ∧ ∀ word ∈ passage.2, isKeyword word = false

/-- The clauses of a text. -/
def clauses (text : String) : List Passage := (cutBefore isKeyword (spacedWords text)).2

/-- **The clauses of a text** are those that its words were put together from. -/
theorem clauses_eq {text : String} {passages : List Passage}
    (htext : spacedWords text = Passage.words passages)
    (h : ∀ passage ∈ passages, IsClause passage) : clauses text = passages := by
  rw [clauses, htext, ← List.nil_append (Passage.words passages),
    cutBefore_words (fun _ hword => absurd hword List.not_mem_nil) h]

/-! ## 5.  Labels -/

/-- The labels of a pattern that opens with a text. -/
def readLabels? (lead word : String) : Option (List String) := do
  let inner ← dropTail? ")" word
  match splitText ':' inner with
  | first :: labels => if first = lead then some labels else none
  | [] => none

theorem splitText_labelsText {lead : String} (hlead : ':' ∉ lead.toList) {labels : List String}
    (h : ∀ name ∈ labels, isIdentifier name = true) :
    splitText ':' (lead ++ Fault.labelsText labels) = lead :: labels := by
  induction labels generalizing lead with
  | nil =>
    have hnone : lead ++ Fault.labelsText [] = lead := String.append_empty
    rw [hnone, splitText_of_notMem hlead]
  | cons label rest ih =>
    obtain ⟨hlabel, hrest⟩ := List.forall_mem_cons.mp h
    have htext : lead ++ Fault.labelsText (label :: rest) =
        lead ++ (":" ++ (label ++ Fault.labelsText rest)) := by
      have hlabels : Fault.labelsText (label :: rest) =
          (":" ++ label) ++ Fault.labelsText rest := String.join_cons
      rw [hlabels, String.append_assoc]
    have hfirst : ':' ∉ label.toList := notMem_of_isIdentifier hlabel (by decide) (by decide)
    rw [htext, splitText_append rfl, splitText_of_notMem hlead, ih hfirst hrest]
    rfl

/-- **Labels are read from their pattern.** -/
theorem readLabels?_pattern {lead : String} (hlead : ':' ∉ lead.toList) {labels : List String}
    (h : ∀ name ∈ labels, isIdentifier name = true) :
    readLabels? lead (lead ++ Fault.labelsText labels ++ ")") = some labels := by
  rw [readLabels?, dropTail?_append]
  change (match splitText ':' (lead ++ Fault.labelsText labels) with
    | first :: labels => if first = lead then some labels else none
    | [] => none) = some labels
  rw [splitText_labelsText hlead h]
  exact if_pos rfl

/-! ## 6.  Conditions and filters -/

/-- The condition that words are, with the pattern variable that it is on. -/
def readCondition? : List String → Option (String × Comparison)
  | property :: rest =>
    match splitText '.' property with
    | [var, field] => do
      let parameter ← rest.getLast? >>= dropLead? "$"
      let operator ← Operator.ofSpelling? (joinTexts " " rest.dropLast)
      return (var, ⟨field, operator, parameter⟩)
    | _ => none
  | [] => none

/-- A filter: its first condition, and the others with their connectives. -/
abbrev Filter := (String × Comparison) × List (Connective × String × Comparison)

/-- The condition that a passage is, with the connective that it begins with. -/
def readJoined? (passage : Passage) : Option (Connective × String × Comparison) := do
  let connective ← readConnective? passage.1
  let condition ← readCondition? passage.2
  return (connective, condition)

/-- The filter that the words after its keyword are. -/
def readFilter? (words : List String) : Option Filter := do
  let (lead, passages) := cutBefore isJoint words
  let first ← readCondition? lead
  let others ← passages.mapM readJoined?
  return (first, others)

/-- A condition as it is written. -/
def Condition.written (entry : Condition × String) : String × Comparison :=
  (entry.2, ⟨entry.1.field, entry.1.operator, entry.1.parameter⟩)

/-- Conditions as they are written: the connective of the first is not. -/
def Condition.writtenFilter : List (Condition × String) → Option Filter
  | [] => none
  | first :: rest => some (written first, rest.map fun entry => (entry.1.connective, written entry))

/-- The words of a condition. -/
def Condition.words (entry : Condition × String) : List String :=
  (entry.2 ++ "." ++ entry.1.field) ::
    (spacedWords entry.1.operator.text ++ ["$" ++ entry.1.parameter])

/-- The passages of a chain of conditions after its first: each begins with its connective. -/
def Condition.joinedPassages (conditions : List (Condition × String)) : List Passage :=
  conditions.map fun entry => (entry.1.connective.text, words entry)

/-- The clause of a filter, if there is one. -/
def filterPassages : List (Condition × String) → List Passage
  | [] => []
  | first :: rest =>
    [("WHERE", Condition.words first ++ Passage.words (Condition.joinedPassages rest))]

section Conditions

variable {entry : Condition × String} {conditions : List (Condition × String)}

/-- A condition that is written in words of its own: variable and field are accepted names, and the
placeholder is one word. -/
structure Condition.Plain (entry : Condition × String) : Prop where
  var : isIdentifier entry.2 = true
  field : isIdentifier entry.1.field = true
  parameter : SpaceFree entry.1.parameter

/-- A condition that can be read back by a store is written in words of its own. -/
theorem Condition.Readable.plain (h : Condition.Readable entry) : Condition.Plain entry := by
  refine ⟨isIdentifier_of_isName h.var, h.field, ?_⟩
  intro hspace
  have hname := h.parameter ' ' hspace
  exact absurd hname (by decide)

/-- The words of a condition are neither keywords nor connectives: a property has a dot, a
placeholder has a dollar sign, and the words of the operators are known. -/
theorem Condition.begins_words {begins : String → Bool}
    (hbegins : ∀ (word : String) (c : Char), c ∈ word.toList → c.isUpper = false →
      begins word = false)
    (hoperator : ∀ (operator : Operator), ∀ word ∈ spacedWords operator.text,
      begins word = false)
    (entry : Condition × String) : ∀ word ∈ words entry, begins word = false := by
  intro word hword
  rw [words, List.mem_cons, List.mem_append, List.mem_singleton] at hword
  rcases hword with rfl | hword | rfl
  · exact hbegins _ '.' (by simp) (by decide)
  · exact hoperator _ word hword
  · exact hbegins _ '$' (by simp) (by decide)

theorem Condition.isJoint_words (entry : Condition × String) :
    ∀ word ∈ words entry, isJoint word = false :=
  begins_words (fun _ _ => isJoint_of_mem) (fun operator => by cases operator <;> decide +kernel)
    entry

theorem Condition.isKeyword_words (entry : Condition × String) :
    ∀ word ∈ words entry, isKeyword word = false :=
  begins_words (fun _ _ => isKeyword_of_mem)
    (fun operator => by cases operator <;> decide +kernel) entry

/-- The text of a condition adds its words. -/
theorem Condition.addsWords_text (h : Condition.Plain entry) :
    AddsWords (" " ++ entry.1.text entry.2) (words entry) := by
  have htext : " " ++ entry.1.text entry.2 =
      (" " ++ (entry.2 ++ "." ++ entry.1.field)) ++
        ((" " ++ entry.1.operator.text) ++ (" " ++ ("$" ++ entry.1.parameter))) := by
    rw [Condition.text]
    simp only [String.append_assoc]
    rfl
  have hproperty : SpaceFree (entry.2 ++ "." ++ entry.1.field) :=
    (SpaceFree.append (spaceFree_of_isIdentifier h.var) (by decide)).append
      (spaceFree_of_isIdentifier h.field)
  have hparameter : SpaceFree ("$" ++ entry.1.parameter) :=
    SpaceFree.append (by decide) h.parameter
  rw [htext]
  exact (AddsWords.word hproperty).append ((AddsWords.text _).append (AddsWords.word hparameter))

theorem addsWords_chainRest (h : ∀ entry ∈ conditions, Condition.Plain entry) :
    AddsWords (chainRest conditions) (Passage.words (Condition.joinedPassages conditions)) := by
  induction conditions with
  | nil => exact AddsWords.empty
  | cons entry rest ih =>
    obtain ⟨hentry, hrest⟩ := List.forall_mem_cons.mp h
    have hjoint : SpaceFree entry.1.connective.text := by
      cases entry.1.connective <;> decide
    have htext : chainRest (entry :: rest) = (" " ++ entry.1.connective.text) ++
        ((" " ++ entry.1.text entry.2) ++ chainRest rest) := by
      rw [chainRest]
      simp only [String.append_assoc]
    rw [htext]
    exact (AddsWords.word hjoint).append ((Condition.addsWords_text hentry).append (ih hrest))

/-- **The text of a filter adds the words of its clause.** -/
theorem addsWords_whereClauseFor (h : ∀ entry ∈ conditions, Condition.Plain entry) :
    AddsWords (whereClauseFor conditions) (Passage.words (filterPassages conditions)) := by
  cases conditions with
  | nil => exact AddsWords.empty
  | cons entry rest =>
    obtain ⟨hentry, hrest⟩ := List.forall_mem_cons.mp h
    have htext : whereClauseFor (entry :: rest) =
        (" " ++ "WHERE") ++ ((" " ++ entry.1.text entry.2) ++ chainRest rest) := by
      rw [whereClauseFor, List.isEmpty_cons, if_neg Bool.false_ne_true, chain]
      simp only [← String.append_assoc]
      rfl
    have hwords : Passage.words (filterPassages (entry :: rest)) =
        ["WHERE"] ++ (Condition.words entry ++
          Passage.words (Condition.joinedPassages rest)) := List.append_nil _
    rw [htext, hwords]
    exact (AddsWords.word (by decide)).append
      ((Condition.addsWords_text hentry).append (addsWords_chainRest hrest))

/-- The clause of a filter is one clause. -/
theorem isClause_filterPassages (conditions : List (Condition × String)) :
    ∀ passage ∈ filterPassages conditions, IsClause passage := by
  cases conditions with
  | nil => exact fun _ h => absurd h List.not_mem_nil
  | cons entry rest =>
    rw [filterPassages]
    have hwhere : isKeyword "WHERE" = true := by decide
    have hjoint (connective : Connective) : isKeyword connective.text = false := by
      cases connective <;> decide
    refine List.forall_mem_singleton.mpr ⟨hwhere, fun word hword => ?_⟩
    rcases List.mem_append.mp hword with hword | hword
    · exact Condition.isKeyword_words entry word hword
    · obtain ⟨passage, hpassage, hword⟩ := List.mem_flatMap.mp hword
      obtain ⟨other, -, rfl⟩ := List.mem_map.mp hpassage
      rcases List.mem_cons.mp hword with rfl | hword
      · exact hjoint _
      · exact Condition.isKeyword_words other word hword

/-- A condition is read from its words. -/
theorem readCondition?_words (h : Condition.Plain entry) :
    readCondition? (Condition.words entry) = some (Condition.written entry) := by
  have hproperty : splitText '.' (entry.2 ++ "." ++ entry.1.field) =
      [entry.2, entry.1.field] := by
    rw [String.append_assoc, splitText_append rfl,
      splitText_of_notMem (notMem_of_isIdentifier h.var (by decide) (by decide)),
      splitText_of_notMem (notMem_of_isIdentifier h.field (by decide) (by decide))]
    rfl
  rw [Condition.words, readCondition?, hproperty]
  dsimp only
  rw [List.getLast?_concat, List.dropLast_concat, joinTexts_spacedWords]
  change (dropLead? "$" ("$" ++ entry.1.parameter)).bind _ = _
  rw [dropLead?_append, Operator.ofSpelling?_text]
  rfl

theorem mapM_readJoined? (h : ∀ entry ∈ conditions, Condition.Plain entry) :
    (Condition.joinedPassages conditions).mapM readJoined? =
      some (conditions.map fun entry => (entry.1.connective, Condition.written entry)) := by
  induction conditions with
  | nil => rfl
  | cons entry rest ih =>
    obtain ⟨hentry, hrest⟩ := List.forall_mem_cons.mp h
    have hjoined : readJoined? (entry.1.connective.text, Condition.words entry) =
        some (entry.1.connective, Condition.written entry) := by
      rw [readJoined?, readConnective?_text, readCondition?_words hentry]
      rfl
    have ih := ih hrest
    rw [Condition.joinedPassages] at ih ⊢
    rw [List.map_cons, List.mapM_cons, hjoined, ih]
    rfl

/-- **A filter is read from the words of its clause.** -/
theorem readFilter?_words {first : Condition × String} {rest : List (Condition × String)}
    (h : ∀ entry ∈ first :: rest, Condition.Plain entry) :
    readFilter? (Condition.words first ++ Passage.words (Condition.joinedPassages rest)) =
      Condition.writtenFilter (first :: rest) := by
  obtain ⟨hfirst, hrest⟩ := List.forall_mem_cons.mp h
  have hcut : cutBefore isJoint (Condition.words first ++
      Passage.words (Condition.joinedPassages rest)) =
        (Condition.words first, Condition.joinedPassages rest) := by
    refine cutBefore_words (Condition.isJoint_words first) fun passage hpassage => ?_
    obtain ⟨entry, -, rfl⟩ := List.mem_map.mp hpassage
    refine ⟨?_, Condition.isJoint_words entry⟩
    rw [isJoint, readConnective?_text]
    rfl
  rw [readFilter?, hcut]
  dsimp only
  rw [readCondition?_words hfirst, mapM_readJoined? hrest]
  rfl

end Conditions

/-! ## 7.  Numbers -/

/-- The number that digits are. -/
def readNatural (word : String) : ℕ := Nat.ofDigitChars 10 word.toList 0

@[simp] theorem readNatural_repr (n : ℕ) : readNatural (Nat.repr n) = n := by
  rw [readNatural, Nat.toList_repr, Nat.ofDigitChars_ten_toDigits]

end GraphMapper
