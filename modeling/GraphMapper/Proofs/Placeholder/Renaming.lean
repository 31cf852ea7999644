import GraphMapper.Proofs.Placeholder.Binding

/-!
# Renaming placeholders

Two statements may say the same and differ in the names of their placeholders, because one of them
was compiled after more names had been drawn.  That is said here with a function `f` on names: the
second statement is the first one *renamed*, in its text and in its parameters alike.

## 1.  Renaming in a text

`renamedText` reads placeholders the way `placeholders` does, and puts the new name where the old
one stands.  A text is renamed piece by piece (`renamedText_append`), as long as no piece goes on
with the name that the one before it ends with.

## 2.  Clauses

The clauses of a statement are renamed by renaming what they are written from
(`renamedText_whereClauseFor`, `renamedText_assignmentsText`).

## 3.  Renaming in parameters

Here `f` has to be injective: a value is written over another one exactly if their names are the
same, so names that are different have to stay different (`renamed_put`).

## 4.  Numbers

The renamings that occur change numbers only.  `renumber ρ` takes the name with the number `n` to
the one with the number `ρ n` and leaves every other name alone.

## 5.  Binding

`bindProperties_renamed` says that the binding loop, started with a renamed state, does what it
would have done, renamed.  That the next names of one allocator are renamed to the next names of
the other one is `Binding.Renamed.next`; it has to be known of all names ahead, because it is not
known how many the loop will draw.
-/

namespace GraphMapper

/-! ## 1.  Renaming in a text -/

/-- A text with the placeholders renamed.  What is left out while `inside` a placeholder are the
characters of its old name. -/
def renamedFrom (f : String → String) : Bool → List Char → List Char
  | _, [] => []
  | inside, c :: rest =>
    if c = '$' then
      '$' :: ((f (String.ofList (rest.takeWhile isNameChar))).toList ++ renamedFrom f true rest)
    else if inside && isNameChar c then renamedFrom f true rest
    else c :: renamedFrom f false rest

/-- A text with the placeholders renamed. -/
def renamedText (f : String → String) (text : String) : String :=
  String.ofList (renamedFrom f false text.toList)

section renamedText

variable {f g : String → String}

/-- A closed text does not belong to a placeholder that stands in front of it. -/
theorem renamedFrom_of_closed {t : String} (ht : Closed t) (inside : Bool) :
    renamedFrom f inside t.toList = renamedFrom f false t.toList := by
  cases h : t.toList with
  | nil => rfl
  | cons c rest =>
    have hc : isNameChar c = false := ht c (by rw [h]; rfl)
    rw [renamedFrom, renamedFrom, hc, Bool.and_false, Bool.and_false]

theorem renamedFrom_append (inside : Bool) (s : List Char) {t : String} (ht : Closed t) :
    renamedFrom f inside (s ++ t.toList) =
      renamedFrom f inside s ++ renamedFrom f false t.toList := by
  induction s generalizing inside with
  | nil => exact renamedFrom_of_closed ht inside
  | cons c s ih =>
    rw [List.cons_append, renamedFrom, renamedFrom, takeWhile_append_closed s ht]
    by_cases hdollar : c = '$'
    · rw [if_pos hdollar, if_pos hdollar, ih, List.cons_append, List.append_assoc]
    · rw [if_neg hdollar, if_neg hdollar]
      by_cases hinside : (inside && isNameChar c) = true
      · rw [if_pos hinside, if_pos hinside, ih]
      · rw [if_neg hinside, if_neg hinside, ih, List.cons_append]

theorem renamedFrom_append_left {s : List Char} (hs : '$' ∉ s) (t : List Char) :
    renamedFrom f false (s ++ t) = s ++ renamedFrom f false t := by
  induction s with
  | nil => rfl
  | cons c s ih =>
    rw [List.mem_cons, not_or] at hs
    rw [List.cons_append, renamedFrom, if_neg (Ne.symm hs.1), Bool.false_and,
      if_neg Bool.false_ne_true, ih hs.2, List.cons_append]

theorem renamedFrom_name {name : List Char} (hname : ∀ c ∈ name, isNameChar c = true) :
    renamedFrom f true name = [] := by
  induction name with
  | nil => rfl
  | cons c name ih =>
    obtain ⟨hc, hname⟩ := List.forall_mem_cons.mp hname
    have hdollar : c ≠ '$' := by
      rintro rfl
      exact absurd hc (by decide)
    rw [renamedFrom, if_neg hdollar, hc, Bool.true_and, if_pos rfl, ih hname]

/-- **A text is renamed piece by piece**, if the second piece does not go on with the name that the
first ends with. -/
theorem renamedText_append (s : String) {t : String} (ht : Closed t) :
    renamedText f (s ++ t) = renamedText f s ++ renamedText f t := by
  rw [renamedText, String.toList_append, renamedFrom_append false _ ht, String.ofList_append]
  rfl

/-- What has no dollar sign in front stays in front. -/
theorem renamedText_append_left {s : String} (hs : DollarFree s) (t : String) :
    renamedText f (s ++ t) = s ++ renamedText f t := by
  rw [renamedText, String.toList_append, renamedFrom_append_left hs, String.ofList_append,
    String.ofList_toList]
  rfl

/-- Nothing is renamed in a text without a dollar sign. -/
theorem renamedText_of_dollarFree {s : String} (hs : DollarFree s) : renamedText f s = s := by
  have h := renamedText_append_left (f := f) hs ""
  rwa [String.append_empty, show renamedText f "" = "" from rfl, String.append_empty] at h

/-- A piece that is plain and closed stays behind. -/
theorem renamedText_append_plain (s : String) {t : String} (ht : DollarFree t)
    (hclosed : Closed t) : renamedText f (s ++ t) = renamedText f s ++ t := by
  rw [renamedText_append s hclosed, renamedText_of_dollarFree ht]

/-- **A placeholder gets its new name.** -/
theorem renamedText_placeholder {lead name : String} (hlead : DollarFree lead)
    (hname : ∀ c ∈ name.toList, isNameChar c = true) :
    renamedText f (lead ++ "$" ++ name) = lead ++ "$" ++ f name := by
  have hplaceholder : renamedFrom f false ('$' :: name.toList) = '$' :: (f name).toList := by
    rw [renamedFrom, if_pos rfl, renamedFrom_name hname, List.append_nil,
      List.takeWhile_eq_self_iff.mpr hname, String.ofList_toList]
  rw [String.append_assoc, renamedText_append_left hlead, String.append_assoc, renamedText,
    String.toList_append]
  change lead ++ String.ofList (renamedFrom f false ('$' :: name.toList)) = _
  rw [hplaceholder, String.ofList_cons, String.ofList_toList]
  rfl

/-- Only the new names of the placeholders matter. -/
theorem renamedText_congr {text : String} (h : ∀ name ∈ placeholders text, f name = g name) :
    renamedText f text = renamedText g text := by
  suffices hfrom : ∀ (s : List Char) (inside : Bool),
      (∀ name ∈ placeholdersFrom s, f name = g name) →
        renamedFrom f inside s = renamedFrom g inside s by
    rw [renamedText, renamedText, hfrom _ _ h]
  intro s
  induction s with
  | nil => exact fun _ _ => rfl
  | cons c s ih =>
    intro inside hnames
    rw [placeholdersFrom] at hnames
    rw [renamedFrom, renamedFrom]
    by_cases hdollar : c = '$'
    · rw [if_pos hdollar] at hnames
      obtain ⟨hname, hnames⟩ := List.forall_mem_cons.mp hnames
      rw [if_pos hdollar, if_pos hdollar, hname, ih true hnames]
    · rw [if_neg hdollar] at hnames
      rw [if_neg hdollar, if_neg hdollar, ih true hnames, ih false hnames]

end renamedText

/-! ## 2.  Clauses -/

/-- A condition with its placeholder renamed. -/
def Condition.renamed (f : String → String) (condition : Condition) : Condition :=
  { condition with parameter := f condition.parameter }

section clauses

variable {f : String → String}

theorem renamedText_condition {entry : Condition × String} (h : Condition.Legible entry) :
    renamedText f (entry.1.text entry.2) = (entry.1.renamed f).text entry.2 := by
  rw [Condition.text_eq, renamedText_placeholder h.dollarFree_lead h.parameter]
  exact (Condition.text_eq (entry.1.renamed f, entry.2)).symm

theorem renamedText_chainRest {conditions : List (Condition × String)}
    (h : ∀ entry ∈ conditions, Condition.Legible entry) :
    renamedText f (chainRest conditions) =
      chainRest (conditions.map (Prod.map (Condition.renamed f) id)) := by
  induction conditions with
  | nil => rfl
  | cons entry rest ih =>
    obtain ⟨hentry, hrest⟩ := List.forall_mem_cons.mp h
    have hjoin : DollarFree (" " ++ entry.1.connective.text ++ " ") := by
      cases entry.1.connective <;> decide
    rw [chainRest, renamedText_append _ (closed_chainRest rest), renamedText_append_left hjoin,
      renamedText_condition hentry, ih hrest]
    rfl

/-- **A filter is renamed by renaming its conditions.** -/
theorem renamedText_whereClauseFor {conditions : List (Condition × String)}
    (h : ∀ entry ∈ conditions, Condition.Legible entry) :
    renamedText f (whereClauseFor conditions) =
      whereClauseFor (conditions.map (Prod.map (Condition.renamed f) id)) := by
  cases conditions with
  | nil => rfl
  | cons entry rest =>
    obtain ⟨hentry, hrest⟩ := List.forall_mem_cons.mp h
    have hkeyword : DollarFree " WHERE " := by decide
    rw [whereClauseFor, List.isEmpty_cons, if_neg Bool.false_ne_true, chain,
      renamedText_append_left hkeyword, renamedText_append _ (closed_chainRest rest),
      renamedText_condition hentry, renamedText_chainRest hrest]
    rfl

theorem renamedText_assignments {var : String} (hvar : DollarFree var)
    {entries : List (String × String)} (hkeys : ∀ e ∈ entries, isIdentifier e.1 = true)
    (hnames : ∀ e ∈ entries, ∀ c ∈ e.2.toList, isNameChar c = true) :
    renamedText f (joinTexts ", " (entries.map (assignment var))) =
      joinTexts ", " ((entries.map (Prod.map id f)).map (assignment var)) := by
  induction entries with
  | nil => rfl
  | cons entry rest ih =>
    obtain ⟨hkey, hkeys⟩ := List.forall_mem_cons.mp hkeys
    obtain ⟨hname, hnames⟩ := List.forall_mem_cons.mp hnames
    have hentry : renamedText f (assignment var entry) = assignment var (Prod.map id f entry) := by
      rw [assignment_eq, renamedText_placeholder (dollarFree_assignmentLead hvar hkey) hname]
      exact (assignment_eq var (Prod.map id f entry)).symm
    have ih := ih hkeys hnames
    cases rest with
    | nil => exact hentry
    | cons next rest =>
      have hcomma : DollarFree ", " := by decide
      rw [List.map_cons, List.map_cons, joinTexts_cons_cons,
        renamedText_append _ (closed_comma _), hentry, renamedText_append_left hcomma]
      rw [List.map_cons] at ih
      rw [ih]
      exact (joinTexts_cons_cons ..).symm

/-- **The assignments of an update are renamed by renaming their placeholders.** -/
theorem renamedText_assignmentsText {var : String} (hvar : DollarFree var)
    {entries : List (String × String)} (hkeys : ∀ e ∈ entries, isIdentifier e.1 = true)
    (hnames : ∀ e ∈ entries, ∀ c ∈ e.2.toList, isNameChar c = true) :
    renamedText f (assignmentsText var entries) =
      assignmentsText var (entries.map (Prod.map id f)) := by
  have hrenamed := renamedText_assignments (f := f) hvar hkeys hnames
  rw [assignmentsText]
  cases entries with
  | nil => rfl
  | cons entry rest =>
    have hkeyword : DollarFree " SET " := by decide
    rw [List.isEmpty_cons, if_neg Bool.false_ne_true, renamedText_append_left hkeyword, hrenamed]
    rfl

end clauses

/-! ## 3.  Renaming in parameters -/

/-- A key with its name renamed. -/
def Key.renamed (f : String → String) : Key → Key
  | .text name => .text (f name)
  | key => key

/-- Parameters under renamed names. -/
def Entries.renamed (f : String → String) (entries : Entries) : Entries :=
  entries.map fun e => (e.1.renamed f, e.2)

/-- A statement with its placeholders renamed, in the text and in the parameters. -/
def Statement.renamed (f : String → String) (statement : Statement) : Statement :=
  ⟨renamedText f statement.text, statement.parameters.renamed f⟩

section parameters

variable {f g : String → String}

theorem Key.renamed_eq_text_iff (hf : Function.Injective f) {key : Key} {name : String} :
    key.renamed f = .text (f name) ↔ key = .text name := by
  cases key with
  | text other =>
    rw [renamed, Key.text.injEq, Key.text.injEq]
    exact hf.eq_iff
  | _ => simp [renamed]

/-- Keys of one entry stay keys of one entry, and others do not become so. -/
theorem Key.same_renamed (hf : Function.Injective f) (k l : Key) :
    (k.renamed f).same (l.renamed f) = k.same l := by
  rw [Bool.eq_iff_iff]
  cases k with
  | text name =>
    rw [Key.same_text_left_iff, ← Key.renamed_eq_text_iff hf, ← Key.same_text_left_iff]
    rfl
  | _ =>
    cases l with
    | text name =>
      rw [Key.same_text_right_iff, ← Key.renamed_eq_text_iff hf, ← Key.same_text_right_iff]
      rfl
    | _ => rfl

namespace Entries

/-- **Writing under a renamed name** is writing, renamed. -/
theorem renamed_put (hf : Function.Injective f) (entries : Entries) (key : Key) (value : Value) :
    (entries.put key value).renamed f = (entries.renamed f).put (key.renamed f) value := by
  induction entries with
  | nil => rfl
  | cons e rest ih =>
    obtain ⟨k, v⟩ := e
    change _ = put ((k.renamed f, v) :: renamed f rest) (key.renamed f) value
    rw [put_cons, put_cons, Key.same_renamed hf]
    by_cases hk : k.same key = true
    · rw [if_pos hk, if_pos hk]
      rfl
    · rw [if_neg hk, if_neg hk, ← ih]
      rfl

theorem renamed_congr {entries : Entries}
    (h : ∀ e ∈ entries, ∃ name, e.1 = .text name ∧ f name = g name) :
    entries.renamed f = entries.renamed g := by
  refine List.map_congr_left fun e he => ?_
  obtain ⟨name, hkey, hname⟩ := h e he
  rw [hkey, Key.renamed, Key.renamed, hname]

end Entries

end parameters

/-! ## 4.  Numbers -/

/-- The number of a name of an allocator. -/
def numberOf? (name : String) : Option ℕ :=
  let n := Nat.ofDigitChars 10 (name.toList.drop 1) 0
  if ({} : Allocator).nameAt n = name then some n else none

/-- A name with its number changed; a name without a number stays what it is. -/
def renumber (ρ : ℕ → ℕ) (name : String) : String :=
  (numberOf? name).elim name fun n => ({} : Allocator).nameAt (ρ n)

theorem numberOf?_nameAt (n : ℕ) : numberOf? (({} : Allocator).nameAt n) = some n := by
  have hlist : (({} : Allocator).nameAt n).toList = 'p' :: Nat.toDigits 10 n := by
    rw [Allocator.nameAt, String.toList_append, Nat.toList_repr]
    rfl
  have hdigits : Nat.ofDigitChars 10 ((({} : Allocator).nameAt n).toList.drop 1) 0 = n := by
    rw [hlist, List.drop_one, List.tail_cons, Nat.ofDigitChars_ten_toDigits]
  simp only [numberOf?, hdigits, if_true]

theorem eq_nameAt_of_numberOf? {name : String} {n : ℕ} (h : numberOf? name = some n) :
    name = ({} : Allocator).nameAt n := by
  rw [numberOf?] at h
  split at h
  · next hname => rw [← hname, Option.some.inj h]
  · exact absurd h (by simp)

variable {ρ : ℕ → ℕ}

/-- **The name with the number `n` becomes the one with the number `ρ n`.** -/
theorem renumber_nameAt (n : ℕ) :
    renumber ρ (({} : Allocator).nameAt n) = ({} : Allocator).nameAt (ρ n) := by
  rw [renumber, numberOf?_nameAt]
  rfl

/-- Different names get different names if different numbers get different numbers. -/
theorem renumber_injective (hρ : Function.Injective ρ) : Function.Injective (renumber ρ) := by
  -- a name without a number is not the new name of one with a number
  have hnone : ∀ (n : ℕ) (name : String), numberOf? name = none →
      ({} : Allocator).nameAt (ρ n) ≠ name := by
    rintro n name h rfl
    rw [numberOf?_nameAt] at h
    exact absurd h (by simp)
  intro name other h
  rw [renumber, renumber] at h
  cases hname : numberOf? name with
  | some n =>
    cases hother : numberOf? other with
    | some m =>
      rw [hname, hother] at h
      have hnumber : n = m := hρ (Allocator.nameAt_injective _ h)
      rw [eq_nameAt_of_numberOf? hname, eq_nameAt_of_numberOf? hother, hnumber]
    | none =>
      rw [hname, hother] at h
      exact absurd h (hnone n other hother)
  | none =>
    cases hother : numberOf? other with
    | some m =>
      rw [hname, hother] at h
      exact absurd h.symm (hnone m name hname)
    | none =>
      rw [hname, hother] at h
      exact h

/-- All allocators with the usual stem give the same names. -/
theorem Allocator.nameAt_eq {a : Allocator} (h : a.stem = "p") (n : ℕ) :
    a.nameAt n = ({} : Allocator).nameAt n := by
  rw [nameAt, h]
  rfl

/-- Names that were drawn are renamed alike if their numbers are. -/
theorem renumber_congr {a : Allocator} (hstem : a.stem = "p") {σ : ℕ → ℕ}
    (h : ∀ n ≤ a.allocated, σ n = ρ n) {name : String} (hname : a.Drawn name) :
    renumber σ name = renumber ρ name := by
  obtain ⟨n, hn, rfl⟩ := hname
  rw [Allocator.nameAt_eq hstem, renumber_nameAt, renumber_nameAt, h n hn]

/-! ## 5.  Binding -/

namespace Binding

/-- A state of binding is another one renamed: what is bound is, and what will be bound will be. -/
structure Renamed (ρ : ℕ → ℕ) (binding changed : Binding) : Prop where
  stem : binding.allocator.stem = "p"
  changedStem : changed.allocator.stem = "p"
  parameters : changed.parameters = binding.parameters.renamed (renumber ρ)
  next : ∀ j, ρ (binding.allocator.allocated + (j + 1)) = changed.allocator.allocated + (j + 1)

namespace Renamed

variable {binding changed : Binding}

theorem fresh (h : Renamed ρ binding changed) :
    changed.allocator.fresh = renumber ρ binding.allocator.fresh := by
  rw [Allocator.fresh, Allocator.fresh, Allocator.nameAt_eq h.stem,
    Allocator.nameAt_eq h.changedStem, renumber_nameAt, h.next 0]

theorem bind (hρ : Function.Injective ρ) (h : Renamed ρ binding changed) (value : Value) :
    Renamed ρ (binding.bind value) (changed.bind value) := by
  refine ⟨h.stem, h.changedStem, ?_, fun j => ?_⟩
  · change changed.parameters.put (.text changed.allocator.fresh) value = _
    rw [h.parameters, h.fresh]
    exact (Entries.renamed_put (renumber_injective hρ) binding.parameters
      (.text binding.allocator.fresh) value).symm
  · have hnext := h.next (j + 1)
    rw [Binding.bind, Binding.bind, Allocator.advance_allocated, Allocator.advance_allocated]
    rw [Nat.add_assoc, Nat.add_assoc, Nat.add_comm 1]
    exact hnext

end Renamed

end Binding

/-- **The binding loop does not look at the names it draws.**  It is refused the same property, or
it pairs the same names with the renamed placeholders, and the values are bound under these. -/
theorem bindProperties_renamed (hρ : Function.Injective ρ) {binding changed : Binding}
    (h : Binding.Renamed ρ binding changed) (properties : Entries) :
    (bindProperties changed properties).1 =
        (bindProperties binding properties).1.map (List.map (Prod.map id (renumber ρ))) ∧
      Binding.Renamed ρ (bindProperties binding properties).2
        (bindProperties changed properties).2 := by
  induction properties generalizing binding changed with
  | nil => exact ⟨rfl, h⟩
  | cons property rest ih =>
    obtain ⟨key, value⟩ := property
    rw [bindProperties, bindProperties]
    cases identifier propertyRole key.toValue with
    | error fault => exact ⟨rfl, h⟩
    | ok name =>
      obtain ⟨hresult, hfinal⟩ := ih (h.bind hρ value)
      refine ⟨?_, hfinal⟩
      change ((bindProperties (changed.bind value) rest).1.map
        ((name, changed.allocator.fresh) :: ·)) = _
      rw [hresult, h.fresh]
      change _ = ((bindProperties (binding.bind value) rest).1.map
        ((name, binding.allocator.fresh) :: ·)).map _
      cases (bindProperties (binding.bind value) rest).1 with
      | error fault => rfl
      | ok pairs => rfl

end GraphMapper
