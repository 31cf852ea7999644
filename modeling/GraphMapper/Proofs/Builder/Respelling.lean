import GraphMapper.Proofs.Builder.Family
import Mathlib.Logic.Relation

/-!
# Spellings of an operator

An operator may be written in small or capital letters and with any white space around and between
its words.  So there are many texts for one operator, and two things have to be true of them: that
it makes no difference which of them is given, and that the one which is kept is one of them.

## What makes no difference

`Respelling` lists the changes one by one: the letter case of Basic Latin letters, a stretch of
white space in the place of another, white space added at an end.  Two texts are *respelled* if a
sequence of such changes, or of their inverses, leads from one to the other.  A change keeps the
words of a text up to letter case (`Respelling.capitalWords_eq`), so a sequence does, and that is
all that there is to it (`respelled_iff`).

The capitals of Unicode are taken after the words have been cut and joined.  Two facts about
characters are needed for that to be harmless: neither a letter nor its capital is white space, and
both have the same capitals in the sense of Unicode.

## Reading twice

A condition is built from inputs of its own, and its constructor reads the operator that it is
given.  A query has read it before, so the constructor is given the spelling that was kept.  What
would happen if that were refused is said by `Query.addStepwise`: the value is bound by then and
stays bound.  It never happens (`QueryCall.performStepwise_eq`,
`TraversalCall.performStepwise_eq`), so it is right that adding a condition to a query is defined
without the second reading.
-/

namespace GraphMapper

namespace Text

/-! ## 1.  Letter case -/

/-- The number of the Basic Latin capital of a character. -/
theorem toNat_toUpper (c : Char) :
    c.toUpper.toNat = if 97 ≤ c.toNat ∧ c.toNat ≤ 122 then c.toNat - 32 else c.toNat := by
  have hsmall : ('a'.val ≤ c.val ∧ c.val ≤ 'z'.val) ↔ 97 ≤ c.toNat ∧ c.toNat ≤ 122 := by
    rw [UInt32.le_iff_toNat_le, UInt32.le_iff_toNat_le]
    exact Iff.rfl
  by_cases h : 97 ≤ c.toNat ∧ c.toNat ≤ 122
  · have hval : c.toUpper.val = c.val + ('A'.val - 'a'.val) := by
      delta Char.toUpper
      rw [dif_pos (hsmall.mpr h)]
    -- The difference of the two cases is added modulo the size of a word.
    have hsum : c.toUpper.val.toNat = (c.toNat + 4294967264) % 4294967296 := by
      rw [hval]
      exact UInt32.toNat_add ..
    rw [if_pos h]
    change c.toUpper.val.toNat = c.toNat - 32
    omega
  · have hsame : c.toUpper = c := dif_neg fun hc => h (hsmall.mp hc)
    rw [hsame, if_neg h]

/-- A character is its own Basic Latin capital, or it is a small letter. -/
theorem toUpper_eq_self_or (c : Char) :
    c.toUpper = c ∨ 97 ≤ c.toNat ∧ c.toNat ≤ 122 ∧ c.toUpper.toNat = c.toNat - 32 := by
  by_cases h : 97 ≤ c.toNat ∧ c.toNat ≤ 122
  · exact Or.inr ⟨h.1, h.2, by rw [toNat_toUpper, if_pos h]⟩
  · exact Or.inl (Char.toNat_inj.mp (by rw [toNat_toUpper, if_neg h]))

/-- A capital is its own capital. -/
theorem toUpper_toUpper (c : Char) : c.toUpper.toUpper = c.toUpper := by
  rcases toUpper_eq_self_or c with h | ⟨hlow, hhigh, h⟩
  · rw [h, h]
  · refine Char.toNat_inj.mp ?_
    rw [toNat_toUpper, if_neg (by omega)]

/-- A letter and its Basic Latin capital have the same capitals. -/
theorem upperChar_toUpper (c : Char) : upperChar c.toUpper = upperChar c := by
  rcases toUpper_eq_self_or c with h | ⟨hlow, hhigh, h⟩
  · rw [h]
  · rw [upperChar, if_pos (by omega), toUpper_toUpper, upperChar,
      if_pos (by omega)]

/-- A letter is as blank as its capital. -/
theorem isBlank_toUpper (c : Char) : isBlank c.toUpper = isBlank c := by
  rcases toUpper_eq_self_or c with h | ⟨hlow, hhigh, h⟩
  · rw [h]
  · rw [isBlank_of_graphic (by omega), isBlank_of_graphic (by omega)]

/-! ## 2.  Words -/

/-- Nothing but white space. -/
def Blank (s : List Char) : Prop := ∀ c ∈ s, isBlank c = true

/-- At a blank the word read so far ends. -/
theorem wordsFrom_cons_of_blank {c : Char} (hc : isBlank c = true) (current s : List Char) :
    wordsFrom current (c :: s) = wordsFrom current [] ++ words s := by
  rw [wordsFrom.eq_2, if_pos hc, wordsFrom.eq_1]
  cases current <;> rfl

/-- Any other character goes on with it. -/
theorem wordsFrom_cons_of_not_blank {c : Char} (hc : isBlank c = false) (current s : List Char) :
    wordsFrom current (c :: s) = wordsFrom (current ++ [c]) s := by
  rw [wordsFrom.eq_2, hc, if_neg Bool.false_ne_true]

/-- White space in front of a text adds no word. -/
theorem words_blank_append {gap : List Char} (h : Blank gap) (s : List Char) :
    words (gap ++ s) = words s := by
  induction gap with
  | nil => rfl
  | cons c gap ih =>
    obtain ⟨hc, hgap⟩ := List.forall_mem_cons.mp h
    rw [words, List.cons_append, wordsFrom_cons_of_blank hc, ih hgap]
    rfl

theorem wordsFrom_append_blank_append (current s : List Char) {gap : List Char} (h : Blank gap)
    (hne : gap ≠ []) (t : List Char) :
    wordsFrom current (s ++ (gap ++ t)) = wordsFrom current s ++ words t := by
  induction s generalizing current with
  | nil =>
    cases gap with
    | nil => exact absurd rfl hne
    | cons c gap =>
      obtain ⟨hc, hgap⟩ := List.forall_mem_cons.mp h
      rw [List.nil_append, List.cons_append, wordsFrom_cons_of_blank hc, words_blank_append hgap]
  | cons c s ih =>
    rw [List.cons_append]
    cases hc : isBlank c with
    | false => rw [wordsFrom_cons_of_not_blank hc, wordsFrom_cons_of_not_blank hc, ih]
    | true =>
      have hrest : words (s ++ (gap ++ t)) = words s ++ words t := ih []
      rw [wordsFrom_cons_of_blank hc, wordsFrom_cons_of_blank hc, hrest, List.append_assoc]

/-- **White space between two texts keeps their words apart**, whatever white space it is. -/
theorem words_append_blank_append (s : List Char) {gap : List Char} (h : Blank gap)
    (hne : gap ≠ []) (t : List Char) : words (s ++ (gap ++ t)) = words s ++ words t :=
  wordsFrom_append_blank_append [] s h hne t

/-- White space after a text adds no word. -/
theorem words_append_blank (s : List Char) {gap : List Char} (h : Blank gap) :
    words (s ++ gap) = words s := by
  by_cases hne : gap = []
  · rw [hne, List.append_nil]
  · have hcut := words_append_blank_append s h hne []
    rwa [List.append_nil, show words [] = [] from rfl, List.append_nil] at hcut

/-- Cutting a text into words does not look at the letter case. -/
theorem wordsFrom_map_toUpper (current s : List Char) :
    wordsFrom (current.map Char.toUpper) (s.map Char.toUpper) =
      (wordsFrom current s).map (·.map Char.toUpper) := by
  have hend (current : List Char) : wordsFrom (current.map Char.toUpper) [] =
      (wordsFrom current []).map (·.map Char.toUpper) := by
    cases current <;> rfl
  induction s generalizing current with
  | nil => exact hend current
  | cons c s ih =>
    rw [List.map_cons]
    cases hc : isBlank c with
    | false =>
      have hupper : isBlank c.toUpper = false := (isBlank_toUpper c).trans hc
      rw [wordsFrom_cons_of_not_blank hupper, wordsFrom_cons_of_not_blank hc, ← ih,
        List.map_append]
      rfl
    | true =>
      have hupper : isBlank c.toUpper = true := (isBlank_toUpper c).trans hc
      have hrest : words (s.map Char.toUpper) = (words s).map (·.map Char.toUpper) := ih []
      rw [wordsFrom_cons_of_blank hupper, wordsFrom_cons_of_blank hc, hend, hrest,
        List.map_append]

/-- The words of a text, in Basic Latin capitals. -/
def capitalWords (s : List Char) : List (List Char) := (words s).map (·.map Char.toUpper)

theorem capitalWords_eq (s : List Char) : capitalWords s = words (s.map Char.toUpper) :=
  (wordsFrom_map_toUpper [] s).symm

end Text

open Text

/-! ## 3.  Respelling -/

/-- A change of a text that keeps its words, up to letter case. -/
inductive Respelling : List Char → List Char → Prop
  /-- The letter case of Basic Latin letters. -/
  | letterCase {s t : List Char} (h : s.map Char.toUpper = t.map Char.toUpper) : Respelling s t
  /-- White space in the place of white space. -/
  | between (s t : List Char) {gap other : List Char} (hgap : Blank gap) (hne : gap ≠ [])
      (hother : Blank other) (hne' : other ≠ []) :
      Respelling (s ++ (gap ++ t)) (s ++ (other ++ t))
  /-- White space at the start. -/
  | before {gap : List Char} (h : Blank gap) (s : List Char) : Respelling s (gap ++ s)
  /-- White space at the end. -/
  | after (s : List Char) {gap : List Char} (h : Blank gap) : Respelling s (s ++ gap)

/-- A text can be made from another by changes of this kind and their inverses. -/
def Respelled (s t : String) : Prop := Relation.EqvGen Respelling s.toList t.toList

/-- **What one change keeps.** -/
theorem Respelling.capitalWords_eq {s t : List Char} (h : Respelling s t) :
    capitalWords s = capitalWords t := by
  cases h with
  | letterCase h => rw [Text.capitalWords_eq, Text.capitalWords_eq, h]
  | between s t hgap hne hother hne' =>
    rw [capitalWords, capitalWords, words_append_blank_append s hgap hne,
      words_append_blank_append s hother hne']
  | before h => rw [capitalWords, capitalWords, words_blank_append h]
  | after _ h => rw [capitalWords, capitalWords, words_append_blank _ h]

/-- **What any number of changes keeps.** -/
theorem capitalWords_eq_of_eqvGen {s t : List Char} (h : Relation.EqvGen Respelling s t) :
    capitalWords s = capitalWords t := by
  induction h with
  | rel _ _ h => exact h.capitalWords_eq
  | refl _ => rfl
  | symm _ _ _ ih => exact ih.symm
  | trans _ _ _ _ _ ih ih' => exact ih.trans ih'

/-- A text behind a blank can be respelled there. -/
theorem eqvGen_append_left (front : List Char) {c : Char} (hc : isBlank c = true)
    {s t : List Char} (h : Relation.EqvGen Respelling s t) :
    Relation.EqvGen Respelling (front ++ ([c] ++ s)) (front ++ ([c] ++ t)) := by
  have hblank : Blank [c] := List.forall_mem_singleton.mpr hc
  induction h with
  | rel s t h =>
    refine .rel _ _ ?_
    cases h with
    | letterCase h => exact .letterCase (by rw [List.map_append, List.map_append, h]; simp)
    | between s t hgap hne hother hne' =>
      have hbetween := Respelling.between (front ++ ([c] ++ s)) t hgap hne hother hne'
      simpa only [List.append_assoc] using hbetween
    | @before gap h =>
      have hmore : Blank ([c] ++ gap) := List.forall_mem_append.mpr ⟨hblank, h⟩
      have hbetween := Respelling.between front s hblank (List.cons_ne_nil _ _) hmore
        (List.cons_ne_nil _ _)
      simpa only [List.append_assoc] using hbetween
    | after _ h =>
      have hafter := Respelling.after (front ++ ([c] ++ s)) h
      simpa only [List.append_assoc] using hafter
  | refl s => exact .refl _
  | symm _ _ _ ih => exact .symm _ _ ih
  | trans _ _ _ _ _ ih ih' => exact .trans _ _ _ ih ih'

open Operator (joinWords) in
/-- Every text can be respelled as its words with single spaces between them.  The induction is the
one of the reading, so the word read so far stands in front of the text. -/
theorem eqvGen_joinWords (current s : List Char) :
    Relation.EqvGen Respelling (current ++ s) (joinWords (wordsFrom current s)) := by
  induction s generalizing current with
  | nil =>
    rw [List.append_nil]
    cases current <;> exact .refl _
  | cons c s ih =>
    cases hc : isBlank c with
    | false =>
      rw [wordsFrom_cons_of_not_blank hc, List.append_cons]
      exact ih (current ++ [c])
    | true =>
      have hblank : Blank [c] := List.forall_mem_singleton.mpr hc
      have hspace : Blank [' '] := List.forall_mem_singleton.mpr (by decide)
      have hrest : Relation.EqvGen Respelling s (joinWords (words s)) := ih []
      rw [wordsFrom_cons_of_blank hc]
      cases current with
      | nil => exact .trans _ _ _ (.symm _ _ (.rel _ _ (.before hblank s))) hrest
      | cons d current =>
        have hgap := Respelling.between (d :: current) s hblank (List.cons_ne_nil _ _) hspace
          (List.cons_ne_nil _ _)
        have hlater := eqvGen_append_left (d :: current) (c := ' ') (by decide) hrest
        refine .trans _ _ _ (.rel _ _ hgap) (.trans _ _ _ hlater ?_)
        -- If no word follows, the space that was kept is one at the end.
        cases words s with
        | nil => exact .symm _ _ (.rel _ _ (.after (d :: current) hspace))
        | cons word rest => exact .refl _

namespace Operator

theorem joinWords_map_toUpper (ws : List (List Char)) :
    joinWords (ws.map (·.map Char.toUpper)) = (joinWords ws).map Char.toUpper := by
  induction ws with
  | nil => rfl
  | cons word rest ih =>
    cases rest with
    | nil => rfl
    | cons next rest =>
      calc joinWords ((word :: next :: rest).map (·.map Char.toUpper))
          = word.map Char.toUpper ++ ' ' :: joinWords ((next :: rest).map (·.map Char.toUpper)) :=
            rfl
        _ = word.map Char.toUpper ++ ' ' :: (joinWords (next :: rest)).map Char.toUpper := by
            rw [ih]
        _ = (word ++ ' ' :: joinWords (next :: rest)).map Char.toUpper := by
            rw [List.map_append, List.map_cons]
            rfl

end Operator

/-- **Two texts can be respelled as each other exactly if they have the same words**, up to the
case of Basic Latin letters. -/
theorem respelled_iff {s t : String} :
    Respelled s t ↔ capitalWords s.toList = capitalWords t.toList := by
  constructor
  · exact capitalWords_eq_of_eqvGen
  · intro h
    have hcase : Respelling (Operator.joinWords (words s.toList))
        (Operator.joinWords (words t.toList)) := by
      refine .letterCase ?_
      rw [← Operator.joinWords_map_toUpper, ← Operator.joinWords_map_toUpper]
      exact congrArg Operator.joinWords h
    exact .trans _ _ _ (eqvGen_joinWords [] s.toList)
      (.trans _ _ _ (.rel _ _ hcase) (.symm _ _ (eqvGen_joinWords [] t.toList)))

/-- **The normal spelling depends on the words only**, up to letter case. -/
theorem Operator.normalSpelling_eq (s : String) :
    normalSpelling s =
      String.ofList ((joinWords (capitalWords s.toList)).flatMap upperChar) := by
  rw [normalSpelling, upper, String.toList_ofList, capitalWords, joinWords_map_toUpper,
    List.flatMap_map]
  congr 2
  exact funext fun c => (upperChar_toUpper c).symm

theorem Respelled.normalSpelling_eq {s t : String} (h : Respelled s t) :
    Operator.normalSpelling s = Operator.normalSpelling t := by
  rw [Operator.normalSpelling_eq, Operator.normalSpelling_eq, respelled_iff.mp h]

/-- The spelling that is written for what a value spells. -/
def Operator.spelling (given : Value) : Except Fault String := (Operator.read given).map text

/-- **Respelled texts are read alike**: as one operator, or neither as any. -/
theorem Respelled.spelling_eq {s t : String} (h : Respelled s t) :
    (∃ spelling, Operator.spelling (.text s) = .ok spelling ∧
        Operator.spelling (.text t) = .ok spelling) ∨
      Operator.spelling (.text s) = .error (.unsupportedOperator (.text s)) ∧
        Operator.spelling (.text t) = .error (.unsupportedOperator (.text t)) := by
  rw [Operator.spelling, Operator.spelling, Operator.read, Operator.read, Value.plain_text,
    Value.plain_text, h.normalSpelling_eq]
  cases Operator.ofSpelling? (Operator.normalSpelling t) with
  | none => exact Or.inr ⟨rfl, rfl⟩
  | some o => exact Or.inl ⟨o.text, rfl, rfl⟩

/-- **What is written is read as itself.** -/
theorem Operator.spelling_of_spelling {given : Value} {written : String}
    (h : Operator.spelling given = .ok written) :
    Operator.spelling (.text written) = .ok written := by
  rw [spelling] at h
  cases hread : Operator.read given with
  | error fault =>
    rw [hread] at h
    exact absurd h (by simp [Except.map])
  | ok o =>
    rw [hread] at h
    obtain rfl : o.text = written := Except.ok.inj h
    rw [spelling, Operator.read_text]
    rfl

/-! ## 4.  Reading twice -/

namespace Condition

/-- The inputs that a condition is built from, with a connective or without one. -/
def inputs (field operator parameter : String) (connective : Option Connective) : Entries :=
  [(.text "field", .text field), (.text "operator", .text operator),
      (.text "parameter", .text parameter)] ++
    (connective.map fun joined => (Key.text "connective", Value.text joined.text)).toList

/-- Each input is found under its name. -/
theorem input?_inputs (field operator parameter : String) (connective : Option Connective) :
    Validation.input? "field" (inputs field operator parameter connective) =
        some (.text field) ∧
      Validation.input? "operator" (inputs field operator parameter connective) =
        some (.text operator) ∧
      Validation.input? "parameter" (inputs field operator parameter connective) =
        some (.text parameter) ∧
      Validation.input? "connective" (inputs field operator parameter connective) =
        connective.map fun joined => .text joined.text := by
  refine ⟨?_, ?_, ?_, ?_⟩
  · simp [Validation.input?, inputs]
  · simp [Validation.input?, inputs]
  · simp [Validation.input?, inputs]
  · cases connective <;> simp [Validation.input?, inputs]

theorem readField_text {α : Type} (name : String) (read : Value → Except Fault α) {s : String}
    {a : α} (h : read (.text s) = .ok a) : readField name read (.text s) = .ok a := by
  change (read (.text s)).mapError _ = _
  rw [h]
  rfl

/-- **The constructor takes what was accepted before as it is.** -/
theorem ofInputs_inputs {field : String} (hfield : isIdentifier field = true)
    (operator : Operator) (parameter : String) (connective : Option Connective) :
    ofInputs (inputs field operator.text parameter connective) =
      .ok ⟨field, operator, parameter, connective.getD .and⟩ := by
  have hname : readField "field" (identifier fieldRole) (.text field) = .ok field :=
    readField_text "field" _ (identifier_eq_ok_iff.mpr ⟨rfl, hfield⟩)
  have hoperator : readField "operator" Operator.read (.text operator.text) = .ok operator :=
    readField_text "operator" _ (Operator.read_text operator)
  obtain ⟨hfirst, hsecond, hthird, hfourth⟩ :=
    input?_inputs field operator.text parameter connective
  rw [ofInputs, Validation.required, hfirst, Validation.optional, hsecond, Validation.required,
    hthird, Validation.optional, hfourth]
  simp only [hname, hoperator]
  cases connective with
  | none => rfl
  | some joined => cases joined <;> rfl

end Condition

namespace Query

/-- Adds a condition step by step: the arguments are checked, the value is bound, and the condition
is built from its inputs, which reads its operator once more.  A refusal leaves what was done
before. -/
def addStepwise (query : Query) (field operator value : Value) (connective : Connective) :
    Except Fault Unit × Query :=
  match identifier fieldRole field with
  | .error fault => (.error fault, query)
  | .ok name =>
    match Operator.read operator with
    | .error fault => (.error fault, query)
    | .ok operator =>
      let parameter := query.allocator.fresh
      let bound := { query with
        parameters := query.parameters.put (.text parameter) value
        allocator := query.allocator.advance }
      match Condition.ofInputs
          (Condition.inputs name operator.text parameter (some connective)) with
      | .error fault => (.error fault, bound)
      | .ok condition => (.ok (), { bound with conditions := bound.conditions ++ [condition] })

/-- What a change that leaves nothing behind when it is refused makes of a query. -/
def settled (query : Query) : Except Fault Query → Except Fault Unit × Query
  | .ok changed => (.ok (), changed)
  | .error fault => (.error fault, query)

/-- **The second reading changes nothing.** -/
theorem addStepwise_eq (query : Query) (field operator value : Value) (connective : Connective) :
    query.addStepwise field operator value connective =
      query.settled (query.addCondition field operator value connective) := by
  rw [addStepwise, addCondition]
  cases hfield : identifier fieldRole field with
  | error fault => rfl
  | ok name =>
    cases Operator.read operator with
    | error fault => rfl
    | ok operator =>
      simp only [Condition.ofInputs_inputs (isIdentifier_of_identifier hfield)]
      rfl

end Query

/-- Adds a condition to a traversal step by step.  Here the value is bound before the operator is
read for the first time. -/
def Traversal.addStepwise (source : Query) (traversal : Traversal) (part : PathPart)
    (field operator value : Value) : Except Fault Unit × Query × Traversal :=
  match identifier fieldRole field with
  | .error fault => (.error fault, source, traversal)
  | .ok name =>
    let parameter := source.allocator.fresh
    let bound := traversal.bind parameter value
    match Operator.read operator with
    | .error fault => (.error fault, source.draw, bound)
    | .ok operator =>
      match Condition.ofInputs (Condition.inputs name operator.text parameter none) with
      | .error fault => (.error fault, source.draw, bound)
      | .ok condition =>
        (.ok (), source.draw,
          { bound with conditions := bound.conditions ++ [(condition, part)] })

theorem Traversal.addStepwise_eq (source : Query) (traversal : Traversal) (part : PathPart)
    (field operator value : Value) :
    traversal.addStepwise source part field operator value =
      traversal.addCondition source part field operator value := by
  rw [addStepwise, addCondition]
  cases hfield : identifier fieldRole field with
  | error fault => rfl
  | ok name =>
    cases Operator.read operator with
    | error fault => rfl
    | ok operator =>
      simp only [Condition.ofInputs_inputs (isIdentifier_of_identifier hfield)]
      rfl

/-- Performs a call, where conditions are added step by step. -/
def QueryCall.performStepwise : QueryCall → Query → Except Fault Unit × Query
  | .«where» field first second, query =>
    query.addStepwise field (splitOperands first second).1 (splitOperands first second).2 .and
  | .orWhere field first second, query =>
    query.addStepwise field (splitOperands first second).1 (splitOperands first second).2 .or
  | .whereIn field collection, query =>
    match Query.readCollection collection with
    | .error fault => (.error fault, query)
    | .ok members => query.addStepwise field (.text Operator.oneOf.text) (.list members) .and
  | call, query => query.settled (call.perform query)

theorem QueryCall.performStepwise_eq (call : QueryCall) (query : Query) :
    call.performStepwise query = query.settled (call.perform query) := by
  cases call with
  | «where» field first second =>
    rw [performStepwise, Query.addStepwise_eq]
    rfl
  | orWhere field first second =>
    rw [performStepwise, Query.addStepwise_eq]
    rfl
  | whereIn field collection =>
    rw [performStepwise, perform, Query.whereIn]
    cases Query.readCollection collection with
    | error fault => rfl
    | ok members =>
      change query.addStepwise field _ _ .and = _
      rw [Query.addStepwise_eq]
      rfl
  | label labels => rfl
  | orderBy field direction => rfl
  | limit count => rfl

/-- The query after a history in which conditions are added step by step. -/
theorem Query.foldl_performStepwise (query : Query) (calls : List QueryCall) :
    calls.foldl (fun query call => (call.performStepwise query).2) query =
      query.afterCalls calls := by
  induction calls generalizing query with
  | nil => rfl
  | cons call calls ih =>
    have hstep : (call.performStepwise query).2 = call.after query := by
      rw [QueryCall.performStepwise_eq, QueryCall.after]
      cases call.perform query <;> rfl
    rw [List.foldl_cons, hstep, ih]
    rfl

/-- Performs a call on a traversal, where conditions are added step by step. -/
def TraversalCall.performStepwise (source : Query) (traversal : Traversal) :
    TraversalCall → Except Fault Unit × Query × Traversal
  | .«where» part field first second =>
    traversal.addStepwise source part field (splitOperands first second).1
      (splitOperands first second).2
  | call => call.perform source traversal

theorem TraversalCall.performStepwise_eq (call : TraversalCall) (source : Query)
    (traversal : Traversal) :
    call.performStepwise source traversal = call.perform source traversal := by
  cases call with
  | «where» part field first second =>
    rw [performStepwise, Traversal.addStepwise_eq]
    rfl
  | label labels => rfl
  | limit count => rfl

/-- **The spelling of an operator does not matter, and the one that is kept is stable.**

* Two texts that can be respelled as each other give the same spelling, or both are refused.
* Every spelling that is given back gives itself.
* A query that reads an operator twice, the second time after the value was bound, is changed and
  refused as one that reads it once; so is a traversal. -/
theorem operator_spelling_stable (s t : String) (given : Value) (query : Query)
    (traversal : Traversal) :
    (Respelled s t →
      (∃ spelling, Operator.spelling (.text s) = .ok spelling ∧
          Operator.spelling (.text t) = .ok spelling) ∨
        Operator.spelling (.text s) = .error (.unsupportedOperator (.text s)) ∧
          Operator.spelling (.text t) = .error (.unsupportedOperator (.text t))) ∧
      (∀ spelling, Operator.spelling given = .ok spelling →
        Operator.spelling (.text spelling) = .ok spelling) ∧
      (∀ call : QueryCall, call.performStepwise query = query.settled (call.perform query)) ∧
      (∀ calls : List QueryCall,
        calls.foldl (fun query call => (call.performStepwise query).2) query =
          query.afterCalls calls) ∧
      ∀ call : TraversalCall,
        call.performStepwise query traversal = call.perform query traversal :=
  ⟨Respelled.spelling_eq, fun _ => Operator.spelling_of_spelling,
    fun call => call.performStepwise_eq query, query.foldl_performStepwise,
    fun call => call.performStepwise_eq query traversal⟩

theorem operator_spelling_stable_startsWith :
    Respelled "starts with" " STARTS\t\u2003With\n" ∧
      Operator.spelling (.text " STARTS\t\u2003With\n") = .ok "STARTS WITH" ∧
      Operator.spelling (.text "STARTS WITH") = .ok "STARTS WITH" ∧
      Respelled "is like" "Is  LIKE " ∧
      Operator.spelling (.text "Is  LIKE ") =
        .error (.unsupportedOperator (.text "Is  LIKE ")) := by
  have hrespelled : Respelled "starts with" " STARTS\t\u2003With\n" :=
    respelled_iff.mpr (by decide)
  have hunknown : Respelled "is like" "Is  LIKE " := respelled_iff.mpr (by decide)
  have hfirst : Operator.spelling (.text "starts with") = .ok "STARTS WITH" := rfl
  have hrefused : Operator.spelling (.text "is like") =
      .error (.unsupportedOperator (.text "is like")) := rfl
  obtain ⟨halike, hagain, -⟩ := operator_spelling_stable "starts with" " STARTS\t\u2003With\n"
    (.text "starts with") {} ⟨.outgoing, "KNOWS", [], [], [], none⟩
  obtain ⟨hneither, -⟩ := operator_spelling_stable "is like" "Is  LIKE " (.text "is like") {}
    ⟨.outgoing, "KNOWS", [], [], [], none⟩
  refine ⟨hrespelled, ?_, hagain _ hfirst, hunknown, ?_⟩
  · rcases halike hrespelled with ⟨spelling, hs, ht⟩ | ⟨hs, -⟩
    · obtain rfl : "STARTS WITH" = spelling := Except.ok.inj (hfirst.symm.trans hs)
      exact ht
    · exact absurd (hfirst.symm.trans hs) (by simp)
  · rcases hneither hunknown with ⟨spelling, hs, -⟩ | ⟨-, ht⟩
    · exact absurd (hrefused.symm.trans hs) (by simp)
    · exact ht

end GraphMapper
