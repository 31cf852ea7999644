import GraphMapper.Condition
import GraphMapper.Proofs.Names
import GraphMapper.Query.Statements
import Mathlib.Data.List.TakeWhile

/-!
# Placeholders in a text

A text is sent to the store together with its parameters, and the store looks for placeholders in
it: a dollar sign, and after it the longest stretch of name characters.  `placeholders` is that
reading.

A text is written from pieces, and to know its placeholders one has to know where they stand.  A
*slot* is a placeholder together with its *lead*, the text right in front of it that says what
the placeholder is for: `n.age > ` for a condition, `n.age = ` for an assignment.  `Spells` says
that a text consists of given slots in a given order and of nothing else with a dollar sign in it.

* `Spells.placeholders_eq`: the placeholders of a text are those of its slots.
* `Spells.append`: texts can be put together, if the second does not go on with the name that the
  first ends with.
* `spells_whereClauseFor`, `spells_assignments`: the slots of a filter and of the assignments of
  an update.
-/

namespace GraphMapper

/-! ## Reading placeholders -/

/-- The placeholders of a text, in order. -/
def placeholdersFrom : List Char → List String
  | [] => []
  | c :: rest =>
    if c = '$' then String.ofList (rest.takeWhile isNameChar) :: placeholdersFrom rest
    else placeholdersFrom rest

@[inherit_doc placeholdersFrom] def placeholders (text : String) : List String :=
  placeholdersFrom text.toList

theorem placeholdersFrom_append {s : List Char} (h : '$' ∉ s) (t : List Char) :
    placeholdersFrom (s ++ t) = placeholdersFrom t := by
  induction s with
  | nil => rfl
  | cons c s ih =>
    rw [List.mem_cons, not_or] at h
    rw [List.cons_append, placeholdersFrom, if_neg (Ne.symm h.1), ih h.2]

/-- A text that does not go on with a name. -/
def Closed (text : String) : Prop := ∀ c ∈ text.toList.head?, isNameChar c = false

theorem Closed.append {s t : String} (hs : Closed s) (ht : Closed t) : Closed (s ++ t) := by
  intro c hc
  rw [String.toList_append] at hc
  cases h : s.toList with
  | nil =>
    rw [h, List.nil_append] at hc
    exact ht c hc
  | cons d rest =>
    rw [h] at hc
    refine hs c ?_
    rw [h]
    exact hc

theorem closed_empty : Closed "" := fun _ h => absurd h (by simp)

/-- A text that starts with a space or another mark goes on with no name. -/
theorem closed_of_toList_eq {text : String} {c : Char} {rest : List Char}
    (h : text.toList = c :: rest) (hc : isNameChar c = false) : Closed text := by
  intro d hd
  rw [h, List.head?_cons, Option.mem_some_iff] at hd
  rw [← hd]
  exact hc

/-- What a text starts with decides whether it is closed. -/
theorem closed_append_left {s t : String} (hs : Closed s) (hne : s.toList ≠ []) :
    Closed (s ++ t) := by
  intro c hc
  refine hs c ?_
  rwa [String.toList_append, List.head?_append_of_ne_nil _ hne] at hc

/-- A text that is closed adds nothing to a name in front of it. -/
theorem takeWhile_append_closed (s : List Char) {t : String} (ht : Closed t) :
    (s ++ t.toList).takeWhile isNameChar = s.takeWhile isNameChar := by
  induction s with
  | nil =>
    cases h : t.toList with
    | nil => rfl
    | cons c rest =>
      have hc : isNameChar c = false := ht c (by rw [h]; rfl)
      rw [List.nil_append, List.takeWhile_cons, hc, if_neg Bool.false_ne_true, List.takeWhile_nil]
  | cons c s ih => rw [List.cons_append, List.takeWhile_cons, List.takeWhile_cons, ih]

/-- A name ends where a text does not go on with it. -/
theorem takeWhile_append_of_closed {name : List Char} {rest : String}
    (hname : ∀ c ∈ name, isNameChar c = true) (hrest : Closed rest) :
    (name ++ rest.toList).takeWhile isNameChar = name := by
  rw [takeWhile_append_closed name hrest, List.takeWhile_eq_self_iff.mpr hname]

/-! ## Texts that are made of slots -/

/-- A placeholder with the text right in front of it. -/
abbrev Slot := String × String

/-- A text consists of slots, with stretches without a dollar sign around them. -/
inductive Spells : String → List Slot → Prop
  | plain {text : String} (h : DollarFree text) : Spells text []
  | slot {gap lead name rest : String} {slots : List Slot} (hgap : DollarFree gap)
      (hlead : DollarFree lead) (hname : ∀ c ∈ name.toList, isNameChar c = true)
      (hrest : Closed rest) (h : Spells rest slots) :
      Spells (gap ++ (lead ++ "$" ++ name) ++ rest) ((lead, name) :: slots)

namespace Spells

/-- **The placeholders of a text are those of its slots.** -/
theorem placeholders_eq {text : String} {slots : List Slot} (h : Spells text slots) :
    placeholders text = slots.map (·.2) := by
  induction h with
  | plain h =>
    rw [placeholders, ← List.append_nil (String.toList _), placeholdersFrom_append h]
    rfl
  | @slot gap lead name rest slots hgap hlead hname hrest h ih =>
    have hnameFree : '$' ∉ name.toList := fun hc => absurd (hname _ hc) (by decide)
    have htext : (gap ++ (lead ++ "$" ++ name) ++ rest).toList =
        (gap.toList ++ lead.toList) ++ ('$' :: (name.toList ++ rest.toList)) := by
      simp
    have hbefore : '$' ∉ gap.toList ++ lead.toList := by
      rw [List.mem_append, not_or]
      exact ⟨hgap, hlead⟩
    rw [placeholders, htext, placeholdersFrom_append hbefore, placeholdersFrom, if_pos rfl,
      takeWhile_append_of_closed hname hrest, placeholdersFrom_append hnameFree,
      String.ofList_toList, List.map_cons, ← ih]
    rfl

/-- A text without a dollar sign can be put in front. -/
theorem prepend {s t : String} {slots : List Slot} (hs : DollarFree s) (h : Spells t slots) :
    Spells (s ++ t) slots := by
  cases h with
  | plain ht => exact plain (hs.append ht)
  | @slot gap lead name rest slots hgap hlead hname hrest h =>
    have htext : s ++ (gap ++ (lead ++ "$" ++ name) ++ rest) =
        s ++ gap ++ (lead ++ "$" ++ name) ++ rest := by
      simp only [String.append_assoc]
    rw [htext]
    exact slot (hs.append hgap) hlead hname hrest h

/-- **Texts can be put together.** -/
theorem append {s t : String} {slots others : List Slot} (hs : Spells s slots)
    (ht : Spells t others) (hclosed : Closed t) : Spells (s ++ t) (slots ++ others) := by
  induction hs with
  | plain h => exact prepend h ht
  | @slot gap lead name rest slots hgap hlead hname hrest h ih =>
    rw [String.append_assoc]
    exact slot hgap hlead hname (hrest.append hclosed) ih

/-- A text without a dollar sign can be put behind. -/
theorem append_plain {s t : String} {slots : List Slot} (hs : Spells s slots)
    (ht : DollarFree t) (hclosed : Closed t) : Spells (s ++ t) slots := by
  rw [← List.append_nil slots]
  exact hs.append (plain ht) hclosed

/-- A slot on its own. -/
theorem single {lead name : String} (hlead : DollarFree lead)
    (hname : ∀ c ∈ name.toList, isNameChar c = true) :
    Spells (lead ++ "$" ++ name) [(lead, name)] := by
  have h : Spells ("" ++ (lead ++ "$" ++ name) ++ "") [(lead, name)] :=
    slot (by decide) hlead hname closed_empty (plain (by decide))
  rwa [String.empty_append, String.append_empty] at h

end Spells

/-! ## Conditions -/

/-- What stands in front of the placeholder of a condition. -/
def conditionLead (var field : String) (operator : Operator) : String :=
  var ++ "." ++ field ++ " " ++ operator.text ++ " "

/-- The slot of a condition on a pattern variable. -/
def Condition.slot (entry : Condition × String) : Slot :=
  (conditionLead entry.2 entry.1.field entry.1.operator, entry.1.parameter)

/-- What the text of a condition needs: a variable without a dollar sign, an accepted field and a
placeholder made of name characters. -/
structure Condition.Legible (entry : Condition × String) : Prop where
  var : DollarFree entry.2
  field : isIdentifier entry.1.field = true
  parameter : ∀ c ∈ entry.1.parameter.toList, isNameChar c = true

theorem dollarFree_operatorText (o : Operator) : DollarFree o.text := by
  cases o <;> decide

theorem Condition.Legible.dollarFree_lead {entry : Condition × String}
    (h : Condition.Legible entry) :
    DollarFree (conditionLead entry.2 entry.1.field entry.1.operator) :=
  ((((h.var.append (by decide)).append (dollarFree_of_isIdentifier h.field)).append
    (by decide)).append (dollarFree_operatorText _)).append (by decide)

/-- A condition is written as its lead and its placeholder. -/
theorem Condition.text_eq (entry : Condition × String) :
    entry.1.text entry.2 =
      conditionLead entry.2 entry.1.field entry.1.operator ++ "$" ++ entry.1.parameter := by
  rw [Condition.text, conditionLead]
  simp only [String.append_assoc]
  rfl

theorem spells_condition {entry : Condition × String} (h : Condition.Legible entry) :
    Spells (entry.1.text entry.2) [Condition.slot entry] := by
  rw [Condition.text_eq]
  exact Spells.single h.dollarFree_lead h.parameter

theorem closed_chainRest (conditions : List (Condition × String)) :
    Closed (chainRest conditions) := by
  cases conditions with
  | nil => exact closed_empty
  | cons entry rest =>
    rw [chainRest, String.append_assoc, String.append_assoc, String.append_assoc]
    exact closed_append_left (closed_of_toList_eq rfl (by decide)) (by decide)

theorem spells_chainRest {conditions : List (Condition × String)}
    (h : ∀ entry ∈ conditions, Condition.Legible entry) :
    Spells (chainRest conditions) (conditions.map Condition.slot) := by
  induction conditions with
  | nil => exact Spells.plain (by decide)
  | cons entry rest ih =>
    obtain ⟨hentry, hrest⟩ := List.forall_mem_cons.mp h
    have hjoin : DollarFree (" " ++ entry.1.connective.text ++ " ") := by
      cases entry.1.connective <;> decide
    rw [chainRest]
    exact ((spells_condition hentry).prepend hjoin).append (ih hrest) (closed_chainRest rest)

/-- A filter goes on with no name. -/
theorem closed_whereClauseFor (conditions : List (Condition × String)) :
    Closed (whereClauseFor conditions) := by
  rw [whereClauseFor]
  cases conditions with
  | nil => exact closed_empty
  | cons entry rest =>
    exact closed_append_left (closed_of_toList_eq rfl (by decide)) (by decide)

/-- **The slots of a filter** are those of its conditions, in order. -/
theorem spells_whereClauseFor {conditions : List (Condition × String)}
    (h : ∀ entry ∈ conditions, Condition.Legible entry) :
    Spells (whereClauseFor conditions) (conditions.map Condition.slot) := by
  cases conditions with
  | nil => exact Spells.plain (by decide)
  | cons entry rest =>
    obtain ⟨hentry, hrest⟩ := List.forall_mem_cons.mp h
    rw [whereClauseFor, List.isEmpty_cons, if_neg Bool.false_ne_true, chain]
    refine Spells.prepend (by decide) ?_
    exact (spells_condition hentry).append (spells_chainRest hrest) (closed_chainRest rest)

/-! ## Assignments -/

/-- A list of texts starts with its first text and a comma, if there is another one. -/
theorem joinTexts_cons_cons (text next : String) (rest : List String) :
    joinTexts ", " (text :: next :: rest) = text ++ (", " ++ joinTexts ", " (next :: rest)) := by
  rw [joinTexts, String.intercalate_cons_cons, String.append_assoc]
  rfl

/-- Such a list does not go on with the name that its first text ends with. -/
theorem closed_comma (text : String) : Closed (", " ++ text) :=
  closed_append_left (closed_of_toList_eq rfl (by decide)) (by decide)

/-- **The slots of a list of entries**, each of which has one slot, are theirs in order. -/
theorem spells_joinTexts {write : String × String → String} {slot : String × String → Slot}
    {entries : List (String × String)} (h : ∀ entry ∈ entries, Spells (write entry) [slot entry]) :
    Spells (joinTexts ", " (entries.map write)) (entries.map slot) := by
  induction entries with
  | nil =>
    have hempty : DollarFree "" := by decide
    exact Spells.plain hempty
  | cons entry rest ih =>
    obtain ⟨hentry, hrest⟩ := List.forall_mem_cons.mp h
    have ih := ih hrest
    cases rest with
    | nil =>
      rw [List.map_cons, List.map_nil, joinTexts, String.intercalate_singleton]
      exact hentry
    | cons next rest =>
      rw [List.map_cons, List.map_cons, joinTexts_cons_cons]
      exact hentry.append (ih.prepend (by decide)) (closed_comma _)

/-- What stands in front of the placeholder of an assignment. -/
def assignmentLead (var key : String) : String := var ++ "." ++ key ++ " = "

/-- The slot of an assignment to a property of a pattern variable. -/
def assignmentSlot (var : String) (entry : String × String) : Slot :=
  (assignmentLead var entry.1, entry.2)

theorem dollarFree_assignmentLead {var : String} (hvar : DollarFree var) {key : String}
    (hkey : isIdentifier key = true) : DollarFree (assignmentLead var key) :=
  ((hvar.append (by decide)).append (dollarFree_of_isIdentifier hkey)).append (by decide)

/-- An assignment is written as its lead and its placeholder. -/
theorem assignment_eq (var : String) (entry : String × String) :
    assignment var entry = assignmentLead var entry.1 ++ "$" ++ entry.2 := by
  rw [assignment, assignmentLead]
  simp only [String.append_assoc]
  rfl

theorem spells_assignment {var : String} (hvar : DollarFree var) {entry : String × String}
    (hkey : isIdentifier entry.1 = true) (hname : ∀ c ∈ entry.2.toList, isNameChar c = true) :
    Spells (assignment var entry) [assignmentSlot var entry] := by
  rw [assignment_eq]
  exact Spells.single (dollarFree_assignmentLead hvar hkey) hname

/-- **The slots of the assignments of an update**, in order. -/
theorem spells_assignments {var : String} (hvar : DollarFree var)
    {entries : List (String × String)} (hkeys : ∀ e ∈ entries, isIdentifier e.1 = true)
    (hnames : ∀ e ∈ entries, ∀ c ∈ e.2.toList, isNameChar c = true) :
    Spells (joinTexts ", " (entries.map (assignment var)))
      (entries.map (assignmentSlot var)) :=
  spells_joinTexts fun entry hentry =>
    spells_assignment hvar (hkeys entry hentry) (hnames entry hentry)

/-- The assignments of an update, or nothing. -/
def assignmentsText (var : String) (entries : List (String × String)) : String :=
  if entries.isEmpty then "" else " SET " ++ joinTexts ", " (entries.map (assignment var))

theorem closed_assignmentsText (var : String) (entries : List (String × String)) :
    Closed (assignmentsText var entries) := by
  rw [assignmentsText]
  cases entries with
  | nil => exact closed_empty
  | cons entry rest => exact closed_append_left (closed_of_toList_eq rfl (by decide)) (by decide)

theorem spells_assignmentsText (var : String) (hvar : DollarFree var)
    (entries : List (String × String)) (hkeys : ∀ e ∈ entries, isIdentifier e.1 = true)
    (hnames : ∀ e ∈ entries, ∀ c ∈ e.2.toList, isNameChar c = true) :
    Spells (assignmentsText var entries) (entries.map (assignmentSlot var)) := by
  have hspells := spells_assignments hvar hkeys hnames
  rw [assignmentsText]
  cases entries with
  | nil =>
    have hempty : DollarFree "" := by decide
    exact Spells.plain hempty
  | cons entry rest => exact hspells.prepend (by decide)

end GraphMapper
