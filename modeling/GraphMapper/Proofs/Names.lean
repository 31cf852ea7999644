import GraphMapper.Node.Basic
import Mathlib.Data.List.Basic
import Mathlib.Data.List.Induction

/-!
# Names in a statement

Two kinds of names enter the text of a statement.  *Accepted names* --- labels, properties,
relationship types --- were given from outside and passed `isIdentifier`.  *Placeholder names*
come from an allocator.  What the theorems on statements need to know of either is here.

* An accepted name has no dollar sign in it (`dollarFree_of_isIdentifier`), so it cannot be
  taken for a placeholder.
* A list of values that is accepted is a list of accepted names (`eq_map_text_of_identifiers`), and
  names that were accepted once are accepted again (`labelFragment_map_text`).  Labels that cannot
  be written have one among them that is not accepted (`exists_labelFragment_eq_error_iff`).
* What passes several checks in a row passes each of them (`exists_of_bind_eq_ok`).
* An allocator never gives the same name twice (`nameAt_injective`), and its names are made of
  name characters.
-/

namespace GraphMapper

/-- If checks in a row succeed, so does the first, and then the others with its result. -/
theorem exists_of_bind_eq_ok {ε α β : Type} {first : Except ε α} {next : α → Except ε β} {b : β}
    (h : (first >>= next) = .ok b) : ∃ a, first = .ok a ∧ next a = .ok b := by
  cases first with
  | error fault => exact absurd h (by simp [Bind.bind, Except.bind])
  | ok a => exact ⟨a, rfl, h⟩

/-- If checks in a row fail, the first has failed, or the others have with its result. -/
theorem eq_error_of_bind {ε α β : Type} {first : Except ε α} {next : α → Except ε β} {fault : ε}
    (h : (first >>= next) = .error fault) :
    first = .error fault ∨ ∃ a, first = .ok a ∧ next a = .error fault := by
  cases first with
  | error found => exact Or.inl (congrArg Except.error (Except.error.inj h))
  | ok a => exact Or.inr ⟨a, rfl, h⟩

/-- A result that was changed by a function is a fault only if it was one before. -/
theorem eq_error_of_map {ε α β : Type} {result : Except ε α} {f : α → β} {fault : ε}
    (h : result.map f = .error fault) : result = .error fault := by
  cases result with
  | error found => rw [Except.error.inj h]
  | ok reply => exact absurd h (by simp [Except.map])

/-- A text without a dollar sign, and so without a placeholder. -/
def DollarFree (text : String) : Prop := '$' ∉ text.toList

instance (text : String) : Decidable (DollarFree text) :=
  inferInstanceAs (Decidable (¬ _))

theorem DollarFree.append {s t : String} (hs : DollarFree s) (ht : DollarFree t) :
    DollarFree (s ++ t) := by
  rw [DollarFree, String.toList_append, List.mem_append, not_or]
  exact ⟨hs, ht⟩

/-! ## Accepted names -/

theorem isNameChar_of_isNameStart {c : Char} (h : isNameStart c = true) :
    isNameChar c = true := by
  rw [isNameStart, Bool.or_eq_true] at h
  rw [isNameChar, Char.isAlphanum]
  rcases h with h | h <;> simp [h]

/-- The characters of a plain name are name characters. -/
theorem isNameChar_of_mem_of_isName {s : List Char} (h : isName s = true) {c : Char}
    (hc : c ∈ s) : isNameChar c = true := by
  cases s with
  | nil => exact absurd hc List.not_mem_nil
  | cons d rest =>
    rw [isName, Bool.and_eq_true, List.all_eq_true] at h
    rcases List.mem_cons.mp hc with rfl | hc
    · exact isNameChar_of_isNameStart h.1
    · exact h.2 c hc

/-- A plain name does not end with a line feed. -/
theorem dropFinalLineFeed_of_isName {s : List Char} (h : isName s = true) :
    dropFinalLineFeed s = s := by
  have hlast : s.getLast? ≠ some '\n' := fun hlast =>
    absurd (isNameChar_of_mem_of_isName h (List.mem_of_getLast? hlast)) (by decide)
  rw [dropFinalLineFeed, if_neg hlast]

/-- A plain name is accepted. -/
theorem isIdentifier_of_isName {s : String} (h : isName s.toList = true) :
    isIdentifier s = true := by
  rw [isIdentifier, dropFinalLineFeed_of_isName h]
  exact h

/-- A character of an accepted name is a name character, or the line feed at the end. -/
theorem isNameChar_or_eq_of_isIdentifier {s : String} (h : isIdentifier s = true) {c : Char}
    (hc : c ∈ s.toList) : isNameChar c = true ∨ c = '\n' := by
  rw [isIdentifier, dropFinalLineFeed] at h
  by_cases hlast : s.toList.getLast? = some '\n'
  · rw [if_pos hlast] at h
    have hne : s.toList ≠ [] := fun hnil => by rw [hnil] at hlast; exact absurd hlast (by simp)
    rw [← List.dropLast_append_getLast hne, List.mem_append, List.mem_singleton] at hc
    rcases hc with hc | hc
    · exact Or.inl (isNameChar_of_mem_of_isName h hc)
    · rw [List.getLast?_eq_some_getLast hne] at hlast
      exact Or.inr (hc.trans (Option.some.inj hlast))
  · rw [if_neg hlast] at h
    exact Or.inl (isNameChar_of_mem_of_isName h hc)

/-- **An accepted name has no dollar sign.** -/
theorem dollarFree_of_isIdentifier {s : String} (h : isIdentifier s = true) :
    DollarFree s := by
  intro hc
  rcases isNameChar_or_eq_of_isIdentifier h hc with h | h
  · exact absurd h (by decide)
  · exact absurd h (by decide)

theorem identifier_eq_ok_iff {role : String} {v : Value} {name : String} :
    identifier role v = .ok name ↔ v = .text name ∧ isIdentifier name = true := by
  cases v with
  | text s =>
    rw [identifier_text]
    by_cases hs : isIdentifier s = true
    · rw [if_pos hs, Except.ok.injEq, Value.text.injEq]
      constructor
      · rintro rfl
        exact ⟨rfl, hs⟩
      · exact fun h => h.1
    · rw [if_neg hs]
      constructor
      · exact fun h => absurd h (by simp)
      · rintro ⟨hv, hname⟩
        rw [Value.text.injEq] at hv
        rw [hv] at hs
        exact absurd hname hs
  | _ => simp [identifier]

theorem isIdentifier_of_identifier {role : String} {v : Value} {name : String}
    (h : identifier role v = .ok name) : isIdentifier name = true :=
  (identifier_eq_ok_iff.mp h).2

theorem identifier_eq_error {role : String} {v : Value} {fault : Fault}
    (h : identifier role v = .error fault) : fault = .invalidIdentifier role v := by
  cases v with
  | text s =>
    rw [identifier_text] at h
    by_cases hs : isIdentifier s = true
    · rw [if_pos hs] at h
      exact absurd h (by simp)
    · rw [if_neg hs] at h
      exact (Except.error.inj h).symm
  | _ => exact (Except.error.inj h).symm

/-- Values are refused for the first that is no accepted name. -/
theorem identifiers_eq_error {role : String} {values : List Value} {fault : Fault}
    (h : identifiers role values = .error fault) :
    ∃ given, fault = .invalidIdentifier role given := by
  induction values with
  | nil => exact absurd h (by simp [identifiers])
  | cons v rest ih =>
    rw [identifiers] at h
    rcases eq_error_of_bind h with hfirst | ⟨name, -, h⟩
    · exact ⟨v, identifier_eq_error hfirst⟩
    · rcases eq_error_of_bind h with hrest | ⟨names, -, hdone⟩
      · exact ih hrest
      · exact absurd hdone (by simp [pure, Except.pure])

/-- Accepted names are accepted as a list. -/
theorem identifiers_map_text {role : String} {names : List String}
    (h : ∀ name ∈ names, isIdentifier name = true) :
    identifiers role (names.map .text) = .ok names := by
  induction names with
  | nil => rfl
  | cons name rest ih =>
    have hname : identifier role (.text name) = .ok name :=
      identifier_eq_ok_iff.mpr ⟨rfl, h name List.mem_cons_self⟩
    rw [List.map_cons, identifiers, hname, ih fun n hn => h n (List.mem_cons_of_mem _ hn)]
    rfl

/-- What is accepted as a list is a list of accepted names. -/
theorem eq_map_text_of_identifiers {role : String} {values : List Value} {names : List String}
    (h : identifiers role values = .ok names) :
    values = names.map .text ∧ ∀ name ∈ names, isIdentifier name = true := by
  induction values generalizing names with
  | nil =>
    rw [identifiers, Except.ok.injEq] at h
    rw [← h]
    exact ⟨rfl, fun _ hn => absurd hn List.not_mem_nil⟩
  | cons v rest ih =>
    rw [identifiers] at h
    obtain ⟨name, hv, h⟩ := exists_of_bind_eq_ok h
    obtain ⟨others, hrest, hnames⟩ := exists_of_bind_eq_ok h
    obtain ⟨rfl, hname⟩ := identifier_eq_ok_iff.mp hv
    obtain ⟨rfl, hothers⟩ := ih hrest
    obtain rfl : name :: others = names := Except.ok.inj hnames
    exact ⟨rfl, List.forall_mem_cons.mpr ⟨hname, hothers⟩⟩

/-- The labels of a pattern can be written if all of them are accepted names. -/
theorem labelFragment_map_text {labels : List String}
    (h : ∀ name ∈ labels, isIdentifier name = true) :
    labelFragment (labels.map .text) = .ok (Fault.labelsText labels) := by
  rw [labelFragment, identifiers_map_text h]
  rfl

/-- Labels that can be written are accepted names, written as they are. -/
theorem labelFragment_eq_ok {labels : List String} {text : String}
    (h : labelFragment (labels.map .text) = .ok text) :
    text = Fault.labelsText labels ∧ ∀ name ∈ labels, isIdentifier name = true := by
  rw [labelFragment] at h
  obtain ⟨names, hnames, htext⟩ := exists_of_bind_eq_ok h
  obtain ⟨hlabels, haccepted⟩ := eq_map_text_of_identifiers hnames
  have hinjective : Function.Injective Value.text := fun s t hst => Value.text.inj hst
  obtain rfl : labels = names := List.map_injective_iff.mpr hinjective hlabels
  exact ⟨(Except.ok.inj htext).symm, haccepted⟩

theorem labelFragment_eq_error {labels : List Value} {fault : Fault}
    (h : labelFragment labels = .error fault) :
    ∃ given, fault = .invalidIdentifier labelRole given := by
  rw [labelFragment] at h
  rcases eq_error_of_bind h with hlabels | ⟨names, -, hdone⟩
  · exact identifiers_eq_error hlabels
  · exact absurd hdone (by simp [pure, Except.pure])

/-- **Labels cannot be written because of one of them.** -/
theorem exists_labelFragment_eq_error_iff {labels : List String} :
    (∃ fault, labelFragment (labels.map .text) = .error fault) ↔
      ∃ l ∈ labels, isIdentifier l = false := by
  constructor
  · rintro ⟨fault, hfault⟩
    by_contra hnone
    have haccepted : ∀ l ∈ labels, isIdentifier l = true := by
      intro l hl
      by_contra hrefused
      exact hnone ⟨l, hl, Bool.eq_false_iff.mpr hrefused⟩
    rw [labelFragment_map_text haccepted] at hfault
    exact absurd hfault (by simp)
  · rintro ⟨l, hl, hrefused⟩
    cases hlabels : labelFragment (labels.map .text) with
    | error fault => exact ⟨fault, rfl⟩
    | ok text =>
      have haccepted := (labelFragment_eq_ok hlabels).2 l hl
      exact absurd (hrefused.symm.trans haccepted) (by simp)

/-- Keeping first places is removing later duplicates. -/
theorem distinct_eq_eraseDups (labels : List String) : distinct labels = labels.eraseDups := by
  induction labels using List.reverseRecOn with
  | nil => rfl
  | append_singleton labels label ih =>
    have hstep : distinct (labels ++ [label]) = addDistinct (distinct labels) label :=
      List.foldl_append ..
    rw [hstep, ih, List.eraseDups_append, addDistinct]
    by_cases h : label ∈ labels
    · rw [if_pos (by rw [List.contains_iff_mem, List.mem_eraseDups]; exact h)]
      simp [List.removeAll, h]
    · rw [if_neg (by rw [List.contains_iff_mem, List.mem_eraseDups]; exact h)]
      simp [List.removeAll, h, List.eraseDups_cons]

theorem mem_distinct {labels : List String} {name : String} :
    name ∈ distinct labels ↔ name ∈ labels := by
  rw [distinct_eq_eraseDups, List.mem_eraseDups]

/-- Labels without repetitions stay as they are. -/
theorem distinct_of_nodup {labels : List String} (h : labels.Nodup) : distinct labels = labels := by
  induction labels using List.reverseRecOn with
  | nil => rfl
  | append_singleton labels label ih =>
    obtain ⟨hlabels, -, hdisjoint⟩ := List.nodup_append.mp h
    have hnew : label ∉ labels := fun hmem =>
      hdisjoint label hmem label List.mem_cons_self rfl
    have hstep : distinct (labels ++ [label]) = addDistinct (distinct labels) label :=
      List.foldl_append ..
    rw [hstep, ih hlabels, addDistinct,
      if_neg (by rw [List.contains_iff_mem]; exact hnew)]

theorem mem_addDistinct {labels : List String} {label name : String} :
    name ∈ addDistinct labels label ↔ name ∈ labels ∨ name = label := by
  rw [addDistinct]
  by_cases h : labels.contains label = true
  · rw [if_pos h]
    constructor
    · exact Or.inl
    · rintro (hname | rfl)
      · exact hname
      · exact List.contains_iff_mem.mp h
  · rw [if_neg h, List.mem_append, List.mem_singleton]

theorem nodup_addDistinct {labels : List String} (h : labels.Nodup) (label : String) :
    (addDistinct labels label).Nodup := by
  rw [addDistinct]
  by_cases hmem : labels.contains label = true
  · rw [if_pos hmem]
    exact h
  · rw [if_neg hmem]
    have hnew : label ∉ labels := fun hin => hmem (List.contains_iff_mem.mpr hin)
    exact List.nodup_append.mpr ⟨h, List.pairwise_singleton _ _, fun a ha b hb heq =>
      hnew (by rw [← List.mem_singleton.mp hb, ← heq]; exact ha)⟩

theorem nodup_distinct (labels : List String) : (distinct labels).Nodup := by
  induction labels using List.reverseRecOn with
  | nil => exact List.nodup_nil
  | append_singleton labels label ih =>
    have hstep : distinct (labels ++ [label]) = addDistinct (distinct labels) label :=
      List.foldl_append ..
    rw [hstep]
    exact nodup_addDistinct ih label

/-! ## Sorted labels -/

theorem mem_insertLabel {labels : List String} {label name : String} :
    name ∈ insertLabel label labels ↔ name = label ∨ name ∈ labels := by
  induction labels with
  | nil => simp [insertLabel]
  | cons other rest ih =>
    rw [insertLabel]
    by_cases heq : label = other
    · rw [if_pos heq, heq, List.mem_cons]
      exact ⟨Or.inr, fun h => h.elim Or.inl id⟩
    · rw [if_neg heq]
      by_cases hlt : label < other
      · rw [if_pos hlt, List.mem_cons]
      · rw [if_neg hlt, List.mem_cons, ih, List.mem_cons]
        exact or_left_comm

/-- Sorting labels keeps all of them. -/
theorem mem_sortLabels {labels : List String} {name : String} :
    name ∈ sortLabels labels ↔ name ∈ labels := by
  rw [sortLabels]
  induction labels with
  | nil => rfl
  | cons label rest ih => rw [List.foldr_cons, mem_insertLabel, ih, List.mem_cons]

/-- A label goes to its place in ascending order. -/
theorem pairwise_insertLabel (label : String) {labels : List String}
    (h : labels.Pairwise (· < ·)) : (insertLabel label labels).Pairwise (· < ·) := by
  induction labels with
  | nil => exact List.pairwise_singleton _ _
  | cons other rest ih =>
    obtain ⟨hhead, htail⟩ := List.pairwise_cons.mp h
    rw [insertLabel]
    by_cases heq : label = other
    · rw [if_pos heq]
      exact h
    · rw [if_neg heq]
      by_cases hlt : label < other
      · rw [if_pos hlt]
        refine List.pairwise_cons.mpr ⟨fun name hname => ?_, h⟩
        rcases List.mem_cons.mp hname with rfl | hname
        · exact hlt
        · exact String.lt_trans hlt (hhead name hname)
      · rw [if_neg hlt]
        have hgt : other < label := Decidable.byContradiction fun hnot =>
          heq (String.le_antisymm (String.not_lt.mp hnot) (String.not_lt.mp hlt))
        refine List.pairwise_cons.mpr ⟨fun name hname => ?_, ih htail⟩
        rcases mem_insertLabel.mp hname with rfl | hname
        · exact hgt
        · exact hhead name hname

/-- Sorted labels are in strictly ascending order. -/
theorem pairwise_sortLabels (labels : List String) : (sortLabels labels).Pairwise (· < ·) := by
  rw [sortLabels]
  induction labels with
  | nil => exact List.Pairwise.nil
  | cons label rest ih => exact pairwise_insertLabel label ih

theorem nodup_sortLabels (labels : List String) : (sortLabels labels).Nodup := by
  refine (pairwise_sortLabels labels).imp ?_
  rintro a b h rfl
  exact String.lt_irrefl _ h

/-! ## Characters of labels and numbers -/

theorem toList_labelsText (labels : List String) :
    (Fault.labelsText labels).toList = labels.flatMap fun label => ':' :: label.toList := by
  rw [Fault.labelsText]
  induction labels with
  | nil => rfl
  | cons label rest ih =>
    rw [List.map_cons, String.join_cons, String.toList_append, String.toList_append, ih]
    rfl

theorem dollarFree_labelsText {labels : List String}
    (h : ∀ name ∈ labels, isIdentifier name = true) :
    DollarFree (Fault.labelsText labels) := by
  rw [DollarFree, toList_labelsText, List.mem_flatMap]
  rintro ⟨label, hlabel, hc⟩
  rcases List.mem_cons.mp hc with hc | hc
  · exact absurd hc (by decide)
  · exact dollarFree_of_isIdentifier (h label hlabel) hc

theorem isNameChar_of_isDigit {c : Char} (h : c.isDigit = true) : isNameChar c = true := by
  simp [isNameChar, Char.isAlphanum, h]

theorem isNameChar_of_mem_repr {n : ℕ} {c : Char} (h : c ∈ (Nat.repr n).toList) :
    isNameChar c = true := by
  rw [Nat.toList_repr] at h
  exact isNameChar_of_isDigit (Nat.isDigit_of_mem_toDigits (by decide) (by decide) h)

theorem dollarFree_repr (n : ℕ) : DollarFree (Nat.repr n) :=
  fun h => absurd (isNameChar_of_mem_repr h) (by decide)

theorem repr_injective : Function.Injective Nat.repr := by
  intro m n h
  have hdigits : Nat.toDigits 10 m = Nat.toDigits 10 n := by
    rw [← Nat.toList_repr, ← Nat.toList_repr, h]
  rw [← Nat.ofDigitChars_ten_toDigits (n := m), hdigits, Nat.ofDigitChars_ten_toDigits]

/-! ## Names of an allocator -/

namespace Allocator

variable (a : Allocator)

@[simp] theorem nameAt_advance (n : ℕ) : a.advance.nameAt n = a.nameAt n := rfl

/-- **An allocator never gives the same name twice.** -/
theorem nameAt_injective : Function.Injective a.nameAt := by
  intro m n h
  rw [nameAt, nameAt, String.append_right_inj] at h
  exact repr_injective h

theorem fresh_eq : a.fresh = a.nameAt (a.allocated + 1) := rfl

/-- A name that an allocator has handed out. -/
def Drawn (name : String) : Prop := ∃ n, n ≤ a.allocated ∧ name = a.nameAt n

variable {a}

/-- The next name was not handed out before. -/
theorem not_drawn_fresh : ¬ a.Drawn a.fresh := by
  rintro ⟨n, hn, hname⟩
  rw [fresh_eq] at hname
  have := a.nameAt_injective hname
  omega

theorem drawn_fresh_advance : a.advance.Drawn a.fresh :=
  ⟨a.allocated + 1, Nat.le_refl _, rfl⟩

theorem Drawn.ne_fresh {name : String} (h : a.Drawn name) : name ≠ a.fresh := by
  rintro rfl
  exact not_drawn_fresh h

end Allocator

end GraphMapper
