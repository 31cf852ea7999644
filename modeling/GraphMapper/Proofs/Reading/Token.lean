import GraphMapper.Proofs.Placeholder.Spelling

/-!
# Tokens of a statement

A store does not see a text as characters.  It sees words, placeholders and marks, and blanks only
keep words apart.  `tokens` is that reading.

Whoever proves what a store makes of a text reads the text piece by piece, in the order in which
it was written.  Two pieces can be read apart unless the first ends in the middle of a name that
the second goes on with.  There are two ways to see that this does not happen: the second piece
goes on with no name (`tokens_append`), or the first ends with a mark or a blank
(`tokens_append_of_shut`).

The reading recurses on the characters from the left and looks one character ahead, so it can be
evaluated, and the two lemmas are inductions on the first piece.
-/

namespace GraphMapper

/-- What a store reads in a text: a word, a placeholder, or a mark of one character. -/
inductive Token where
  | word (text : String)
  | placeholder (name : String)
  | mark (c : Char)
  deriving DecidableEq

/-- The blanks between tokens. -/
def isBlankChar (c : Char) : Bool := c == ' ' || c == '\n' || c == '\t' || c == '\r'

/-- Whether a text goes on with a name. -/
def startsName : List Char → Bool
  | [] => false
  | c :: _ => isNameChar c

/-- A token on the left of others.  A name character extends the word that starts right after it,
and a dollar sign turns that word into a placeholder. -/
def readChar (c : Char) (follows : Bool) (others : List Token) : List Token :=
  if isNameChar c then
    match follows, others with
    | true, .word text :: rest => .word (String.ofList (c :: text.toList)) :: rest
    | _, _ => .word (String.ofList [c]) :: others
  else if c = '$' then
    match follows, others with
    | true, .word text :: rest => .placeholder text :: rest
    | _, _ => .placeholder "" :: others
  else if isBlankChar c then others
  else .mark c :: others

/-- The tokens of a text. -/
def tokensFrom : List Char → List Token
  | [] => []
  | c :: rest => readChar c (startsName rest) (tokensFrom rest)

@[inherit_doc tokensFrom] def tokens (text : String) : List Token := tokensFrom text.toList

/-! ## Reading piece by piece -/

/-- Where a name starts, a word is read. -/
theorem exists_word_of_startsName {s : List Char} (h : startsName s = true) :
    ∃ text rest, tokensFrom s = .word text :: rest := by
  cases s with
  | nil => exact absurd h Bool.false_ne_true
  | cons c s =>
    have hc : isNameChar c = true := h
    rw [tokensFrom]
    unfold readChar
    rw [if_pos hc]
    cases startsName s with
    | false => exact ⟨_, _, rfl⟩
    | true =>
      cases tokensFrom s with
      | nil => exact ⟨_, _, rfl⟩
      | cons token rest => cases token <;> exact ⟨_, _, rfl⟩

/-- What is read further on does not change what is read of a character, unless a name goes on. -/
theorem readChar_append (c : Char) {follows : Bool} {others : List Token}
    (h : follows = true → ∃ text rest, others = .word text :: rest) (more : List Token) :
    readChar c follows (others ++ more) = readChar c follows others ++ more := by
  cases follows with
  | false =>
    unfold readChar
    split_ifs <;> rfl
  | true =>
    obtain ⟨text, rest, rfl⟩ := h rfl
    unfold readChar
    split_ifs <;> rfl

/-- A mark or a blank is read by itself. -/
theorem readChar_of_shut {c : Char} (hname : isNameChar c = false) (hdollar : c ≠ '$')
    (follows : Bool) (others : List Token) :
    readChar c follows others = readChar c false [] ++ others := by
  unfold readChar
  rw [hname, if_neg Bool.false_ne_true, if_neg Bool.false_ne_true, if_neg hdollar, if_neg hdollar]
  split_ifs <;> rfl

/-- **Two pieces are read apart** if the second goes on with no name. -/
theorem tokensFrom_append {s t : List Char} (h : startsName t = false) :
    tokensFrom (s ++ t) = tokensFrom s ++ tokensFrom t := by
  induction s with
  | nil => rfl
  | cons c s ih =>
    have hstarts : startsName (s ++ t) = startsName s := by
      cases s with
      | nil => exact h
      | cons d s => rfl
    rw [List.cons_append, tokensFrom, tokensFrom, hstarts, ih]
    exact readChar_append c exists_word_of_startsName _

/-- A text that ends with a mark or a blank. -/
def Shut (text : List Char) : Prop :=
  (text.getLast?.all fun c => !isNameChar c && c != '$') = true

instance (text : List Char) : Decidable (Shut text) := inferInstanceAs (Decidable (_ = true))

/-- **Two pieces are read apart** if the first ends with a mark or a blank. -/
theorem tokensFrom_append_of_shut {s : List Char} (h : Shut s) (t : List Char) :
    tokensFrom (s ++ t) = tokensFrom s ++ tokensFrom t := by
  induction s with
  | nil => rfl
  | cons c s ih =>
    cases s with
    | nil =>
      have hc : (!isNameChar c && c != '$') = true := h
      obtain ⟨hname, hdollar⟩ := Bool.and_eq_true_iff.mp hc
      exact readChar_of_shut ((Bool.not_eq_true' _).mp hname) (bne_iff_ne.mp hdollar) _ _
    | cons d s =>
      have hrest : Shut (d :: s) := by rwa [Shut, List.getLast?_cons_cons] at h
      have hstarts : startsName (d :: s ++ t) = startsName (d :: s) := rfl
      rw [List.cons_append, tokensFrom, hstarts, ih hrest, tokensFrom.eq_2 c]
      exact readChar_append c exists_word_of_startsName _

/-- A name is read as one word. -/
theorem tokensFrom_name {s : List Char} (h : ∀ c ∈ s, isNameChar c = true) (hne : s ≠ []) :
    tokensFrom s = [.word (String.ofList s)] := by
  induction s with
  | nil => exact absurd rfl hne
  | cons c s ih =>
    obtain ⟨hc, hs⟩ := List.forall_mem_cons.mp h
    cases s with
    | nil =>
      rw [tokensFrom]
      unfold readChar
      rw [if_pos hc]
      rfl
    | cons d s =>
      have hd : startsName (d :: s) = true := hs d List.mem_cons_self
      rw [tokensFrom, ih hs (List.cons_ne_nil _ _), hd]
      unfold readChar
      rw [if_pos hc]
      change [Token.word (String.ofList (c :: (String.ofList (d :: s)).toList))] = _
      rw [String.toList_ofList]

/-- A dollar sign with a name is read as one placeholder. -/
theorem tokensFrom_placeholder {s : List Char} (h : ∀ c ∈ s, isNameChar c = true) (hne : s ≠ []) :
    tokensFrom ('$' :: s) = [.placeholder (String.ofList s)] := by
  have hstarts : startsName s = true := by
    cases s with
    | nil => exact absurd rfl hne
    | cons c s => exact h c List.mem_cons_self
  have hdollar : ¬ isNameChar '$' = true := by decide
  rw [tokensFrom, hstarts, tokensFrom_name h hne]
  unfold readChar
  rw [if_neg hdollar, if_pos rfl]

/-! ## Texts -/

theorem startsName_eq_false {text : String} (h : Closed text) : startsName text.toList = false := by
  cases htext : text.toList with
  | nil => rfl
  | cons c rest => exact h c (by rw [htext]; rfl)

theorem tokens_append (s : String) {t : String} (h : Closed t) :
    tokens (s ++ t) = tokens s ++ tokens t := by
  rw [tokens, String.toList_append]
  exact tokensFrom_append (startsName_eq_false h)

theorem tokens_append_append (r : String) {s t : String} (hs : Closed s) (ht : Closed t) :
    tokens (r ++ s ++ t) = tokens r ++ (tokens s ++ tokens t) := by
  rw [tokens_append _ ht, tokens_append _ hs, List.append_assoc]

theorem tokens_append_of_shut {s : String} (h : Shut s.toList) (t : String) :
    tokens (s ++ t) = tokens s ++ tokens t := by
  rw [tokens, String.toList_append]
  exact tokensFrom_append_of_shut h _

/-- A text that keeps apart what stands around it: it starts and ends with a mark or a blank. -/
def Separates (text : String) : Prop :=
  startsName text.toList = false ∧ Shut text.toList ∧ text.toList ≠ []

instance (text : String) : Decidable (Separates text) := inferInstanceAs (Decidable (_ ∧ _))

/-- **What stands around a separator is read apart.** -/
theorem tokens_separated {separator : String} (h : Separates separator) (s t : String) :
    tokens (s ++ (separator ++ t)) = tokens s ++ (tokens separator ++ tokens t) := by
  obtain ⟨hstart, hshut, hne⟩ := h
  have hrest : startsName (separator ++ t).toList = false := by
    rw [String.toList_append]
    cases htext : separator.toList with
    | nil => exact absurd htext hne
    | cons c rest =>
      rw [htext] at hstart
      exact hstart
  rw [tokens, String.toList_append, tokensFrom_append hrest]
  exact congrArg (tokensFrom s.toList ++ ·) (tokens_append_of_shut hshut t)

/-- A plain name is read as one word. -/
theorem tokens_name {name : String} (h : isName name.toList = true) :
    tokens name = [.word name] := by
  have hne : name.toList ≠ [] := fun hnil => by rw [hnil] at h; exact absurd h Bool.false_ne_true
  rw [tokens, tokensFrom_name (fun c hc => isNameChar_of_mem_of_isName h hc) hne,
    String.ofList_toList]

/-- A name as a store reads it: without the line feed that may stand at its end. -/
def readName (name : String) : String := String.ofList (dropFinalLineFeed name.toList)

theorem tokens_of_isIdentifier {name : String} (h : isIdentifier name = true) :
    tokens name = [.word (readName name)] := by
  have hname : isName (dropFinalLineFeed name.toList) = true := h
  have hword : tokensFrom (dropFinalLineFeed name.toList) = [.word (readName name)] := by
    have hread : tokens (readName name) = [.word (readName name)] :=
      tokens_name (by rwa [readName, String.toList_ofList])
    rwa [tokens, readName, String.toList_ofList] at hread
  rw [tokens]
  rw [dropFinalLineFeed] at hword
  by_cases hlast : name.toList.getLast? = some '\n'
  · rw [if_pos hlast] at hword
    have hne : name.toList ≠ [] := fun hnil => by rw [hnil] at hlast; exact absurd hlast (by simp)
    rw [List.getLast?_eq_some_getLast hne, Option.some.injEq] at hlast
    have hsplit := List.dropLast_append_getLast hne
    rw [hlast] at hsplit
    -- The line feed is a blank, so the name ends in front of it.
    rw [← hsplit, tokensFrom_append (by decide), hword]
    rfl
  · rwa [if_neg hlast] at hword

/-- A plain name is read as it is. -/
theorem readName_of_isName {name : String} (h : isName name.toList = true) :
    readName name = name := by
  rw [readName, dropFinalLineFeed_of_isName h, String.ofList_toList]

/-- **Two names are read as a plain one**: the name itself, and that with a line feed after it. -/
theorem readName_eq_iff {name plain : String} (hplain : isName plain.toList = true) :
    readName name = plain ↔ name = plain ∨ name = plain ++ "\n" := by
  have hfeed : ("\n" : String).toList = ['\n'] := rfl
  constructor
  · intro hread
    have hdrop : dropFinalLineFeed name.toList = plain.toList := by
      rw [← hread, readName, String.toList_ofList]
    rw [dropFinalLineFeed] at hdrop
    by_cases hlast : name.toList.getLast? = some '\n'
    · rw [if_pos hlast] at hdrop
      right
      have hsplit := List.dropLast_append_getLast? '\n' hlast
      rw [← String.toList_inj, String.toList_append, hfeed, ← hsplit, hdrop]
    · rw [if_neg hlast] at hdrop
      exact Or.inl (String.toList_inj.mp hdrop)
  · rintro (rfl | rfl)
    · exact readName_of_isName hplain
    · rw [readName, dropFinalLineFeed, String.toList_append, hfeed, List.getLast?_concat,
        if_pos rfl, List.dropLast_concat, String.ofList_toList]

theorem tokens_placeholder {name : String} (h : ∀ c ∈ name.toList, isNameChar c = true)
    (hne : name ≠ "") : tokens ("$" ++ name) = [.placeholder name] := by
  have hne : name.toList ≠ [] := fun hnil => hne (String.toList_eq_nil_iff.mp hnil)
  have htext : ("$" ++ name).toList = '$' :: name.toList := String.toList_append
  rw [tokens, htext, tokensFrom_placeholder h hne, String.ofList_toList]

end GraphMapper
