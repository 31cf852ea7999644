import GraphMapper.Value.Entries
import Mathlib.Data.List.Basic

/-!
# Looking up in ordered maps

What writing, removing and merging do to the value that is found under a key.  Order is left out
on purpose: a parameter or a property is found by its key alone, and every statement below is
about `get?`.

A key is found by `Key.same`, which is coarser than equality, since numbers and truth values
share their entries.  It is an equivalence, and that is all that the laws of `get?` need.

* `get?_put`: the value under a key after a write.
* `get?_erase`: a removed key is gone, if it did not occur twice, and the others stay.
* `get?_merge`: the new entries win over the old ones, if no key occurs twice among the new ones.
* `merge_nil`: such entries, written to an empty map, are that map.
-/

namespace GraphMapper

namespace Key

/-- Two keys address the same entry if they are equal, or if they are the same whole number. -/
theorem same_iff {k l : Key} :
    k.same l = true ↔ k = l ∨ (∃ n, k.asInt? = some n ∧ l.asInt? = some n) := by
  rw [Key.same]
  cases hk : k.asInt? with
  | none =>
    cases hl : l.asInt? with
    | none => simp
    | some n =>
      have hne : k ≠ l := fun h => by rw [h, hl] at hk; exact absurd hk (by simp)
      simp [hne]
  | some m =>
    cases hl : l.asInt? with
    | none =>
      have hne : k ≠ l := fun h => by rw [h, hl] at hk; exact absurd hk (by simp)
      simp [hne]
    | some n =>
      simp only [beq_iff_eq, Option.some.injEq]
      constructor
      · rintro rfl
        exact Or.inr ⟨m, rfl, rfl⟩
      · rintro (rfl | ⟨i, rfl, rfl⟩)
        · rw [hk] at hl
          exact Option.some.inj hl
        · rfl

@[simp] theorem same_self (k : Key) : k.same k = true :=
  same_iff.mpr (Or.inl rfl)

theorem same_symm {k l : Key} (h : k.same l = true) : l.same k = true := by
  rcases same_iff.mp h with rfl | ⟨n, hk, hl⟩
  · exact same_self k
  · exact same_iff.mpr (Or.inr ⟨n, hl, hk⟩)

theorem same_trans {k l m : Key} (hkl : k.same l = true) (hlm : l.same m = true) :
    k.same m = true := by
  rcases same_iff.mp hkl with rfl | ⟨i, hk, hl⟩
  · exact hlm
  · rcases same_iff.mp hlm with rfl | ⟨j, hl', hm⟩
    · exact hkl
    · rw [hl] at hl'
      rw [← Option.some.inj hl'] at hm
      exact same_iff.mpr (Or.inr ⟨i, hk, hm⟩)

/-- Keys that address the same entry address the same entries. -/
theorem same_congr_left {k l : Key} (h : k.same l = true) (m : Key) : k.same m = l.same m := by
  rw [Bool.eq_iff_iff]
  exact ⟨same_trans (same_symm h), same_trans h⟩

/-- A text addresses its own entry only. -/
theorem same_text_left_iff {s : String} {k : Key} :
    (Key.text s).same k = true ↔ k = .text s := by
  rw [same_iff]
  constructor
  · rintro (h | ⟨n, hn, -⟩)
    · exact h.symm
    · exact absurd hn (by simp [asInt?])
  · exact fun h => Or.inl h.symm

theorem same_text_right_iff {s : String} {k : Key} :
    k.same (.text s) = true ↔ k = .text s :=
  ⟨fun h => same_text_left_iff.mp (same_symm h), fun h => by rw [h]; exact same_self _⟩

end Key

namespace Entries

/-- **Reading after a write.** -/
theorem get?_put (entries : Entries) (key other : Key) (value : Value) :
    (entries.put key value).get? other =
      if key.same other then some value else entries.get? other := by
  induction entries with
  | nil => rfl
  | cons e rest ih =>
    obtain ⟨k, v⟩ := e
    rw [put_cons]
    by_cases hk : k.same key = true
    · rw [if_pos hk, get?_cons, get?_cons, Key.same_congr_left hk]
      by_cases ho : key.same other = true
      · rw [if_pos ho, if_pos ho]
      · rw [if_neg ho, if_neg ho, if_neg ho]
    · rw [if_neg hk, get?_cons, get?_cons, ih]
      by_cases ho : key.same other = true
      · have hko : ¬ k.same other = true := fun h => hk (Key.same_trans h (Key.same_symm ho))
        rw [if_neg hko, if_pos ho, if_pos ho]
      · rw [if_neg ho, if_neg ho]

@[simp] theorem get?_put_self (entries : Entries) (key : Key) (value : Value) :
    (entries.put key value).get? key = some value := by
  rw [get?_put, if_pos (Key.same_self key)]

theorem get?_put_text (entries : Entries) (name other : String) (value : Value) :
    (entries.put (.text name) value).get? (.text other) =
      if name = other then some value else entries.get? (.text other) := by
  rw [get?_put, Key.same_text]
  by_cases h : name = other
  · rw [if_pos h, if_pos (beq_iff_eq.mpr h)]
  · rw [if_neg h, if_neg (by rw [beq_iff_eq]; exact h)]

/-- A key is present exactly when an entry has it. -/
theorem has_iff {entries : Entries} {key : Key} :
    entries.has key = true ↔ ∃ e ∈ entries, e.1.same key = true := by
  rw [has]
  induction entries with
  | nil => simp
  | cons e rest ih =>
    obtain ⟨k, v⟩ := e
    rw [get?_cons]
    by_cases hk : k.same key = true
    · simp [hk]
    · rw [if_neg hk, ih]
      simp [hk]

/-- A name is present exactly when it is among the names that are the keys. -/
theorem has_text_iff {entries : Entries} {names : List String}
    (h : entries.keys = names.map Key.text) {name : String} :
    entries.has (.text name) = true ↔ name ∈ names := by
  have hinjective : Function.Injective Key.text := fun s t hst => Key.text.inj hst
  rw [has_iff, ← List.mem_map_of_injective hinjective, ← h, keys, List.mem_map]
  exact exists_congr fun e => and_congr_right fun _ => Key.same_text_right_iff

/-- The keys that are present after a write are those before it and the one written. -/
theorem has_put (entries : Entries) (key other : Key) (value : Value) :
    (entries.put key value).has other = (key.same other || entries.has other) := by
  rw [has, has, get?_put]
  cases key.same other <;> rfl

/-- The keys that are present after a merge are those before it and the new ones. -/
theorem has_merge (entries new : Entries) (key : Key) :
    (entries.merge new).has key = (entries.has key || new.has key) := by
  induction new generalizing entries with
  | nil => exact (Bool.or_false _).symm
  | cons e rest ih =>
    have hstep : entries.merge (e :: rest) = (entries.put e.1 e.2).merge rest := rfl
    have hcons : has (e :: rest) key = (e.1.same key || has rest key) := by
      unfold has
      rw [get?_cons]
      cases e.1.same key <;> rfl
    rw [hstep, ih, has_put, hcons, Bool.or_assoc, Bool.or_left_comm]

theorem get?_eq_none_iff {entries : Entries} {key : Key} :
    entries.get? key = none ↔ ∀ e ∈ entries, e.1.same key = false := by
  rw [← Option.not_isSome_iff_eq_none]
  change ¬ entries.has key = true ↔ _
  rw [has_iff]
  simp

/-- Writing to a key that is absent appends an entry. -/
theorem put_of_get?_eq_none {entries : Entries} {key : Key} (h : entries.get? key = none)
    (value : Value) : entries.put key value = entries ++ [(key, value)] := by
  induction entries with
  | nil => rfl
  | cons e rest ih =>
    obtain ⟨k, v⟩ := e
    rw [get?_cons] at h
    by_cases hk : k.same key = true
    · rw [if_pos hk] at h
      exact absurd h (by simp)
    · rw [if_neg hk] at h
      rw [put_cons, if_neg hk, ih h, List.cons_append]

/-- A key that is absent from the first entries is looked for in the others. -/
theorem get?_append_of_eq_none {entries : Entries} {key : Key} (h : entries.get? key = none)
    (rest : Entries) : get? (entries ++ rest) key = rest.get? key := by
  induction entries with
  | nil => rfl
  | cons e entries ih =>
    obtain ⟨k, v⟩ := e
    by_cases hk : k.same key = true
    · rw [get?_cons, if_pos hk] at h
      exact absurd h (by simp)
    · rw [get?_cons, if_neg hk] at h
      rw [List.cons_append, get?_cons, if_neg hk, ih h]

/-- What the first entries have under a key is found. -/
theorem get?_append_of_eq_some {entries : Entries} {key : Key} {value : Value}
    (h : entries.get? key = some value) (rest : Entries) :
    get? (entries ++ rest) key = some value := by
  induction entries with
  | nil => exact absurd h (by simp)
  | cons e entries ih =>
    obtain ⟨k, v⟩ := e
    rw [List.cons_append, get?_cons]
    by_cases hk : k.same key = true
    · rw [get?_cons, if_pos hk] at h
      rw [if_pos hk, h]
    · rw [get?_cons, if_neg hk] at h
      rw [if_neg hk, ih h]

/-- A key that is absent from the first entries is removed from the others. -/
theorem erase_append_of_eq_none {entries : Entries} {key : Key} (h : entries.get? key = none)
    (rest : Entries) : erase (entries ++ rest) key = entries ++ rest.erase key := by
  induction entries with
  | nil => rfl
  | cons e entries ih =>
    obtain ⟨k, v⟩ := e
    by_cases hk : k.same key = true
    · rw [get?_cons, if_pos hk] at h
      exact absurd h (by simp)
    · rw [get?_cons, if_neg hk] at h
      rw [List.cons_append, List.cons_append, erase_cons, if_neg hk, ih h]

/-- Taking out a key that is not there changes nothing. -/
theorem erase_of_get?_eq_none {entries : Entries} {key : Key} (h : entries.get? key = none) :
    entries.erase key = entries := by
  have happend := erase_append_of_eq_none h []
  rwa [erase_nil, List.append_nil] at happend

/-! ## Maps in which no key occurs twice -/

/-- No two entries have the same key. -/
def Distinct (entries : Entries) : Prop :=
  entries.Pairwise fun e f => e.1.same f.1 = false

theorem distinct_nil : Distinct [] := List.Pairwise.nil

/-- The keys after a write are the keys before it and the key written. -/
theorem mem_put {entries : Entries} {key : Key} {value : Value} {e : Key × Value}
    (h : e ∈ entries.put key value) : e.1 = key ∨ ∃ f ∈ entries, f.1 = e.1 := by
  induction entries with
  | nil =>
    rw [put_nil, List.mem_singleton] at h
    exact Or.inl (by rw [h])
  | cons f rest ih =>
    obtain ⟨k, v⟩ := f
    rw [put_cons] at h
    by_cases hk : k.same key = true
    · rw [if_pos hk, List.mem_cons] at h
      rcases h with rfl | h
      · exact Or.inr ⟨(k, v), List.mem_cons_self, rfl⟩
      · exact Or.inr ⟨e, List.mem_cons_of_mem _ h, rfl⟩
    · rw [if_neg hk, List.mem_cons] at h
      rcases h with rfl | h
      · exact Or.inr ⟨(k, v), List.mem_cons_self, rfl⟩
      · rcases ih h with h | ⟨f, hf, he⟩
        · exact Or.inl h
        · exact Or.inr ⟨f, List.mem_cons_of_mem _ hf, he⟩

/-- The values after a write are the values before it and the value written. -/
theorem value_of_mem_put {entries : Entries} {key : Key} {value : Value} {e : Key × Value}
    (h : e ∈ entries.put key value) : e.2 = value ∨ e ∈ entries := by
  induction entries with
  | nil =>
    rw [put_nil, List.mem_singleton] at h
    exact Or.inl (by rw [h])
  | cons f rest ih =>
    obtain ⟨k, v⟩ := f
    rw [put_cons] at h
    by_cases hk : k.same key = true
    · rw [if_pos hk, List.mem_cons] at h
      rcases h with rfl | h
      · exact Or.inl rfl
      · exact Or.inr (List.mem_cons_of_mem _ h)
    · rw [if_neg hk, List.mem_cons] at h
      rcases h with rfl | h
      · exact Or.inr List.mem_cons_self
      · exact (ih h).imp_right (List.mem_cons_of_mem _)

/-- A write keeps the keys distinct. -/
theorem Distinct.put {entries : Entries} (h : entries.Distinct) (key : Key) (value : Value) :
    (entries.put key value).Distinct := by
  induction entries with
  | nil => exact List.pairwise_singleton _ _
  | cons e rest ih =>
    obtain ⟨k, v⟩ := e
    obtain ⟨hhead, htail⟩ := List.pairwise_cons.mp h
    rw [put_cons]
    by_cases hk : k.same key = true
    · rw [if_pos hk]
      exact List.pairwise_cons.mpr ⟨hhead, htail⟩
    · rw [if_neg hk]
      refine List.pairwise_cons.mpr ⟨fun f hf => ?_, ih htail⟩
      rcases mem_put hf with hkey | ⟨g, hg, hgf⟩
      · rw [hkey]
        exact Bool.not_eq_true _ ▸ hk
      · rw [← hgf]
        exact hhead g hg

/-- A merge keeps the keys distinct. -/
theorem Distinct.merge {entries : Entries} (h : entries.Distinct) (new : Entries) :
    (entries.merge new).Distinct := by
  induction new generalizing entries with
  | nil => exact h
  | cons e rest ih => exact ih (h.put e.1 e.2)

/-- The keys after a merge are the keys before it and the new ones. -/
theorem mem_merge {entries new : Entries} {e : Key × Value} (h : e ∈ entries.merge new) :
    (∃ f ∈ entries, f.1 = e.1) ∨ ∃ f ∈ new, f.1 = e.1 := by
  induction new generalizing entries with
  | nil => exact Or.inl ⟨e, h, rfl⟩
  | cons g rest ih =>
    have hstep : e ∈ (entries.put g.1 g.2).merge rest := h
    rcases ih hstep with ⟨f, hf, hkey⟩ | ⟨f, hf, hkey⟩
    · rcases mem_put hf with hg | ⟨f', hf', hsame⟩
      · exact Or.inr ⟨g, List.mem_cons_self, hg.symm.trans hkey⟩
      · exact Or.inl ⟨f', hf', hsame.trans hkey⟩
    · exact Or.inr ⟨f, List.mem_cons_of_mem _ hf, hkey⟩

/-- Removing a key leaves the other entries in their order. -/
theorem erase_sublist (entries : Entries) (key : Key) : (entries.erase key).Sublist entries := by
  induction entries with
  | nil => exact List.Sublist.refl _
  | cons e rest ih =>
    obtain ⟨k, v⟩ := e
    rw [erase_cons]
    by_cases hk : k.same key = true
    · rw [if_pos hk]
      exact List.sublist_cons_self _ _
    · rw [if_neg hk]
      exact ih.cons_cons _

/-- Removing a key leaves the entries that have another one. -/
theorem mem_erase_of_ne {entries : Entries} {e : Key × Value} (he : e ∈ entries) {key : Key}
    (hkey : e.1.same key = false) : e ∈ entries.erase key := by
  induction entries with
  | nil => exact absurd he List.not_mem_nil
  | cons f rest ih =>
    obtain ⟨k, v⟩ := f
    rw [erase_cons]
    rcases List.mem_cons.mp he with rfl | he
    · rw [if_neg (Bool.not_eq_true _ ▸ hkey)]
      exact List.mem_cons_self
    · by_cases hk : k.same key = true
      · rw [if_pos hk]
        exact he
      · rw [if_neg hk]
        exact List.mem_cons_of_mem _ (ih he)

theorem Distinct.erase {entries : Entries} (h : entries.Distinct) (key : Key) :
    (entries.erase key).Distinct :=
  h.sublist (erase_sublist entries key)

/-- A key that the first entry has is not among the others. -/
theorem Distinct.get?_tail {key other : Key} {value : Value} {rest : Entries}
    (h : Distinct ((key, value) :: rest)) (hkey : key.same other = true) :
    get? rest other = none := by
  obtain ⟨hhead, -⟩ := List.pairwise_cons.mp h
  rw [get?_eq_none_iff]
  intro e he
  rw [← Bool.not_eq_true]
  intro hsame
  have := Key.same_trans hkey (Key.same_symm hsame)
  rw [hhead e he] at this
  exact absurd this Bool.false_ne_true

/-- **Reading after a removal.** -/
theorem get?_erase {entries : Entries} (h : entries.Distinct) (key other : Key) :
    (entries.erase key).get? other = if key.same other then none else entries.get? other := by
  induction entries with
  | nil => rw [erase_nil, get?_nil, ite_self]
  | cons e rest ih =>
    obtain ⟨k, v⟩ := e
    rw [erase_cons]
    by_cases hk : k.same key = true
    · rw [if_pos hk, get?_cons, Key.same_congr_left hk]
      by_cases ho : key.same other = true
      · rw [if_pos ho]
        exact h.get?_tail (Key.same_trans hk ho)
      · rw [if_neg ho, if_neg ho]
    · rw [if_neg hk, get?_cons, get?_cons, ih (List.pairwise_cons.mp h).2]
      by_cases ho : k.same other = true
      · have hko : ¬ key.same other = true := fun hsame =>
          hk (Key.same_trans ho (Key.same_symm hsame))
        rw [if_pos ho, if_neg hko, if_pos ho]
      · rw [if_neg ho, if_neg ho]

/-- A key that was removed is absent. -/
theorem has_erase_self {entries : Entries} (h : entries.Distinct) (key : Key) :
    (entries.erase key).has key = false := by
  rw [has, get?_erase h, if_pos (Key.same_self key)]
  rfl

/-- What is present after a key was removed was there before. -/
theorem has_of_has_erase {entries : Entries} {key other : Key}
    (h : (entries.erase key).has other = true) : entries.has other = true := by
  obtain ⟨e, he, hsame⟩ := has_iff.mp h
  exact has_iff.mpr ⟨e, (erase_sublist entries key).subset he, hsame⟩

/-- **Reading after a merge.**  The new entries win. -/
theorem get?_merge {new : Entries} (hnew : new.Distinct) (entries : Entries) (key : Key) :
    (entries.merge new).get? key = (new.get? key).or (entries.get? key) := by
  induction new generalizing entries with
  | nil => rfl
  | cons e rest ih =>
    obtain ⟨k, v⟩ := e
    have hstep : entries.merge ((k, v) :: rest) = (entries.put k v).merge rest := rfl
    rw [hstep, ih (List.pairwise_cons.mp hnew).2, get?_put, get?_cons]
    by_cases hk : k.same key = true
    · rw [if_pos hk, if_pos hk, hnew.get?_tail hk]
      rfl
    · rw [if_neg hk, if_neg hk]

/-- Entries whose keys are new are appended. -/
theorem merge_of_distinct {entries new : Entries} (h : Distinct (entries ++ new)) :
    entries.merge new = entries ++ new := by
  induction new generalizing entries with
  | nil => rw [List.append_nil]; rfl
  | cons e rest ih =>
    obtain ⟨k, v⟩ := e
    have hnone : entries.get? k = none := by
      rw [get?_eq_none_iff]
      intro f hf
      exact (List.pairwise_append.mp h).2.2 f hf (k, v) List.mem_cons_self
    have hstep : entries.merge ((k, v) :: rest) = (entries.put k v).merge rest := rfl
    have hassoc : entries ++ (k, v) :: rest = entries ++ [(k, v)] ++ rest := by
      rw [List.append_assoc, List.singleton_append]
    rw [hstep, put_of_get?_eq_none hnone, ih (hassoc ▸ h), hassoc]

theorem merge_nil {new : Entries} (h : new.Distinct) : merge [] new = new := merge_of_distinct h

end Entries

end GraphMapper
