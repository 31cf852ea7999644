import GraphMapper.Proofs.Entries
import GraphMapper.Proofs.Names
import GraphMapper.Proofs.Placeholder.Spelling

/-!
# Values under fresh names

Everything that binds values takes names from an allocator and writes the values under them.
Two facts about that carry all statements on placeholders: a value that is written under a fresh
name is found there, and what was written under an earlier name is not touched.

## Allocators move forward

Whatever happens to an allocator, it keeps its stem and never counts down.  `Allocator.Le` is
that; a name drawn from an allocator is drawn from every later one.

## Many values at once

`Binding.bindAll` binds a list of values, and `bindProperties_eq_ok` says that the loop over the
properties of a statement does just that when it succeeds: it pairs the names of the properties
with the next names of the allocator.  When a property is refused half-way, the allocator has
moved on all the same, which is all that `le_bindProperties` claims of it.  What a property is
refused for is its key alone (`exists_bindProperties_eq_error_iff`).
-/

namespace GraphMapper

namespace Allocator

/-! ## Allocators move forward -/

/-- The second allocator is a later state of the first. -/
def Le (a b : Allocator) : Prop := a.stem = b.stem ∧ a.allocated ≤ b.allocated

theorem Le.refl (a : Allocator) : a.Le a := ⟨rfl, Nat.le_refl _⟩

theorem Le.trans {a b c : Allocator} (hab : a.Le b) (hbc : b.Le c) : a.Le c :=
  ⟨hab.1.trans hbc.1, Nat.le_trans hab.2 hbc.2⟩

theorem le_advance (a : Allocator) : a.Le a.advance := ⟨rfl, Nat.le_succ _⟩

theorem Le.nameAt_eq {a b : Allocator} (h : a.Le b) (n : ℕ) : b.nameAt n = a.nameAt n := by
  rw [nameAt, nameAt, h.1]

theorem Drawn.mono {a b : Allocator} (h : a.Le b) {name : String} (hname : a.Drawn name) :
    b.Drawn name := by
  obtain ⟨n, hn, rfl⟩ := hname
  exact ⟨n, Nat.le_trans hn h.2, (h.nameAt_eq n).symm⟩

/-- The next names, as many as are asked for. -/
def names (a : Allocator) : ℕ → List String
  | 0 => []
  | n + 1 => a.fresh :: a.advance.names n

theorem names_succ (a : Allocator) (n : ℕ) : a.names (n + 1) = a.fresh :: a.advance.names n := rfl

@[simp] theorem length_names (a : Allocator) (n : ℕ) : (a.names n).length = n := by
  induction n generalizing a with
  | zero => rfl
  | succ n ih => rw [names_succ, List.length_cons, ih]

/-- A next name was not drawn before. -/
theorem not_drawn_of_mem_names {a : Allocator} {n : ℕ} {name : String}
    (h : name ∈ a.names n) : ¬ a.Drawn name := by
  induction n generalizing a with
  | zero => exact absurd h List.not_mem_nil
  | succ n ih =>
    rw [names_succ, List.mem_cons] at h
    rcases h with rfl | h
    · exact not_drawn_fresh
    · exact fun hdrawn => ih h (hdrawn.mono a.le_advance)

/-- The next names are different from each other. -/
theorem nodup_names (a : Allocator) (n : ℕ) : (a.names n).Nodup := by
  induction n generalizing a with
  | zero => exact List.nodup_nil
  | succ n ih =>
    rw [names_succ, List.nodup_cons]
    exact ⟨fun h => not_drawn_of_mem_names h drawn_fresh_advance, ih a.advance⟩

/-- The stem of a new allocator is made of name characters. -/
theorem isNameChar_of_mem_stem : ∀ c ∈ ({} : Allocator).stem.toList, isNameChar c = true :=
  List.all_eq_true.mp (by decide)

/-- A name of an allocator is made of name characters if its stem is. -/
theorem isNameChar_of_mem_nameAt {a : Allocator}
    (hstem : ∀ c ∈ a.stem.toList, isNameChar c = true) (n : ℕ) :
    ∀ c ∈ (a.nameAt n).toList, isNameChar c = true := by
  intro c hc
  rw [nameAt, String.toList_append, List.mem_append] at hc
  rcases hc with hc | hc
  · exact hstem c hc
  · exact isNameChar_of_mem_repr hc

theorem Drawn.isNameChar {a : Allocator} (hstem : ∀ c ∈ a.stem.toList, isNameChar c = true)
    {name : String} (h : a.Drawn name) : ∀ c ∈ name.toList, isNameChar c = true := by
  obtain ⟨n, -, rfl⟩ := h
  exact isNameChar_of_mem_nameAt hstem n

theorem nameAt_ne_empty (a : Allocator) (n : ℕ) : a.nameAt n ≠ "" := by
  intro hempty
  rw [nameAt, String.append_eq_empty_iff] at hempty
  exact Nat.repr_ne_empty hempty.2

theorem Drawn.ne_empty {a : Allocator} {name : String} (h : a.Drawn name) : name ≠ "" := by
  obtain ⟨n, -, rfl⟩ := h
  exact a.nameAt_ne_empty n

theorem exists_nameAt_of_mem_names {a : Allocator} {n : ℕ} {name : String}
    (h : name ∈ a.names n) : ∃ i, name = a.nameAt i := by
  induction n generalizing a with
  | zero => exact absurd h List.not_mem_nil
  | succ n ih =>
    rw [names_succ, List.mem_cons] at h
    rcases h with rfl | h
    · exact ⟨_, rfl⟩
    · obtain ⟨i, hi⟩ := ih h
      exact ⟨i, hi.trans (nameAt_advance a i)⟩

theorem isNameChar_of_mem_names {a : Allocator}
    (hstem : ∀ c ∈ a.stem.toList, isNameChar c = true) {n : ℕ} {name : String}
    (h : name ∈ a.names n) : ∀ c ∈ name.toList, isNameChar c = true := by
  obtain ⟨i, rfl⟩ := exists_nameAt_of_mem_names h
  exact isNameChar_of_mem_nameAt hstem i

theorem ne_empty_of_mem_names {a : Allocator} {n : ℕ} {name : String} (h : name ∈ a.names n) :
    name ≠ "" := by
  obtain ⟨i, rfl⟩ := exists_nameAt_of_mem_names h
  exact a.nameAt_ne_empty i

end Allocator

/-! ## Many values at once -/

namespace Binding

/-- Binds values to the next names, in order. -/
def bindAll (binding : Binding) (values : List Value) : Binding := values.foldl bind binding

@[simp] theorem bindAll_cons (binding : Binding) (value : Value) (values : List Value) :
    binding.bindAll (value :: values) = (binding.bind value).bindAll values := rfl

/-- What is bound under a name that is not drawn stays bound. -/
theorem get?_bindAll_of_notMem (binding : Binding) (values : List Value) {name : String}
    (h : name ∉ binding.allocator.names values.length) :
    (binding.bindAll values).parameters.get? (.text name) =
      binding.parameters.get? (.text name) := by
  induction values generalizing binding with
  | nil => rfl
  | cons value values ih =>
    rw [List.length_cons, Allocator.names_succ, List.mem_cons, not_or] at h
    rw [bindAll_cons, ih (binding.bind value) h.2, bind, Entries.get?_put_text,
      if_neg (Ne.symm h.1)]

/-- **What was bound before stays bound.** -/
theorem get?_bindAll_of_drawn (binding : Binding) (values : List Value) {name : String}
    (h : binding.allocator.Drawn name) :
    (binding.bindAll values).parameters.get? (.text name) =
      binding.parameters.get? (.text name) :=
  get?_bindAll_of_notMem binding values fun hmem => Allocator.not_drawn_of_mem_names hmem h

/-- **Every value is found under its own name.** -/
theorem map_get?_bindAll (binding : Binding) (values : List Value) :
    (binding.allocator.names values.length).map
        (fun name => (binding.bindAll values).parameters.get? (.text name)) =
      values.map some := by
  induction values generalizing binding with
  | nil => rfl
  | cons value values ih =>
    rw [List.length_cons, Allocator.names_succ, List.map_cons, List.map_cons, bindAll_cons]
    have hfirst : ((binding.bind value).bindAll values).parameters.get?
        (.text binding.allocator.fresh) = some value := by
      rw [get?_bindAll_of_drawn _ _ Allocator.drawn_fresh_advance]
      exact Entries.get?_put_self ..
    rw [hfirst, ← ih (binding.bind value)]
    rfl

end Binding

/-- **The binding loop, when it succeeds.**  All keys are accepted names, each is paired with the
next name of the allocator, and the values are bound to these names in order. -/
theorem bindProperties_eq_ok {binding : Binding} {properties : Entries}
    {pairs : List (String × String)} (h : (bindProperties binding properties).1 = .ok pairs) :
    ∃ keys : List String, keys.length = properties.length ∧
      properties.map (·.1) = keys.map .text ∧ (∀ key ∈ keys, isIdentifier key = true) ∧
      pairs = keys.zip (binding.allocator.names properties.length) ∧
      (bindProperties binding properties).2 = binding.bindAll (properties.map (·.2)) := by
  induction properties generalizing binding pairs with
  | nil =>
    obtain rfl : [] = pairs := Except.ok.inj h
    exact ⟨[], rfl, rfl, fun _ h => absurd h List.not_mem_nil, rfl, rfl⟩
  | cons property rest ih =>
    obtain ⟨key, value⟩ := property
    rw [bindProperties] at h ⊢
    cases hkey : identifier propertyRole key.toValue with
    | error fault =>
      rw [hkey] at h
      exact absurd h (by simp)
    | ok name =>
      rw [hkey] at h
      cases hrest : (bindProperties (binding.bind value) rest).1 with
      | error fault =>
        have h' : ((bindProperties (binding.bind value) rest).1).map
            ((name, binding.allocator.fresh) :: ·) = .ok pairs := h
        rw [hrest] at h'
        exact absurd h' (by simp [Except.map])
      | ok others =>
        have h' : ((bindProperties (binding.bind value) rest).1).map
            ((name, binding.allocator.fresh) :: ·) = .ok pairs := h
        rw [hrest] at h'
        have hpairs : (name, binding.allocator.fresh) :: others = pairs := Except.ok.inj h'
        obtain ⟨keys, hlength, hmap, hall, hothers, hfinal⟩ := ih hrest
        obtain ⟨hvalue, hname⟩ := identifier_eq_ok_iff.mp hkey
        have htext : key = .text name := by
          cases key with
          | text s =>
            have hs : Value.text s = Value.text name := hvalue
            rw [Value.text.inj hs]
          | _ => exact absurd hvalue (by simp [Key.toValue])
        refine ⟨name :: keys, ?_, ?_, ?_, ?_, hfinal⟩
        · rw [List.length_cons, List.length_cons, hlength]
        · rw [List.map_cons, List.map_cons, hmap, htext]
        · exact List.forall_mem_cons.mpr ⟨hname, hall⟩
        · rw [← hpairs, hothers, List.length_cons, Allocator.names_succ, List.zip_cons_cons]
          rfl

/-- The binding loop succeeds on accepted names. -/
theorem exists_bindProperties_eq_ok (binding : Binding) {properties : Entries}
    (h : ∀ e ∈ properties, ∃ name, e.1 = .text name ∧ isIdentifier name = true) :
    ∃ pairs, (bindProperties binding properties).1 = .ok pairs := by
  induction properties generalizing binding with
  | nil => exact ⟨[], rfl⟩
  | cons property rest ih =>
    obtain ⟨⟨name, hkey, hname⟩, hrest⟩ := List.forall_mem_cons.mp h
    obtain ⟨key, value⟩ := property
    obtain ⟨pairs, hpairs⟩ := ih (binding.bind value) hrest
    have haccepted : identifier propertyRole key.toValue = .ok name :=
      identifier_eq_ok_iff.mpr ⟨congrArg Key.toValue hkey, hname⟩
    have hstep : (bindProperties binding ((key, value) :: rest)).1 =
        (bindProperties (binding.bind value) rest).1.map
          ((name, binding.allocator.fresh) :: ·) := by
      rw [bindProperties, haccepted]
    rw [hstep, hpairs]
    exact ⟨_, rfl⟩

/-- A key that is no name, or a name that is not accepted. -/
def Key.Refused (key : Key) : Prop := ∀ name, key = .text name → isIdentifier name = false

theorem Key.not_refused_iff {key : Key} :
    ¬ key.Refused ↔ ∃ name, key = .text name ∧ isIdentifier name = true := by
  rw [Refused]
  push Not
  simp only [ne_eq, Bool.not_eq_false]

/-- A refused property is refused for its name. -/
theorem bindProperties_eq_error {binding : Binding} {properties : Entries} {fault : Fault}
    (h : (bindProperties binding properties).1 = .error fault) :
    ∃ given, fault = .invalidIdentifier propertyRole given := by
  induction properties generalizing binding with
  | nil => exact absurd h (by simp [bindProperties])
  | cons property rest ih =>
    rw [bindProperties] at h
    cases hkey : identifier propertyRole property.1.toValue with
    | error refused =>
      rw [hkey] at h
      rw [← Except.error.inj h]
      exact ⟨_, identifier_eq_error hkey⟩
    | ok name =>
      rw [hkey] at h
      exact ih (eq_error_of_map h)

/-- Which name it is does not depend on what was bound before. -/
theorem bindProperties_eq_error_congr {properties : Entries} {binding other : Binding}
    {fault : Fault} (h : (bindProperties binding properties).1 = .error fault) :
    (bindProperties other properties).1 = .error fault := by
  induction properties generalizing binding other with
  | nil => exact absurd h (by simp [bindProperties])
  | cons property rest ih =>
    rw [bindProperties] at h ⊢
    cases hkey : identifier propertyRole property.1.toValue with
    | error refused =>
      rw [hkey] at h
      exact h
    | ok name =>
      rw [hkey] at h
      have hrest : (bindProperties (other.bind property.2) rest).1 = .error fault :=
        ih (eq_error_of_map h)
      change (bindProperties (other.bind property.2) rest).1.map _ = _
      rw [hrest]
      rfl

/-- **Properties cannot be bound because of one of their keys.** -/
theorem exists_bindProperties_eq_error_iff (binding : Binding) {properties : Entries} :
    (∃ fault, (bindProperties binding properties).1 = .error fault) ↔
      ∃ e ∈ properties, e.1.Refused := by
  constructor
  · rintro ⟨fault, hfault⟩
    by_contra hnone
    have haccepted : ∀ e ∈ properties, ∃ name, e.1 = .text name ∧ isIdentifier name = true :=
      fun e he => Key.not_refused_iff.mp fun hrefused => hnone ⟨e, he, hrefused⟩
    obtain ⟨pairs, hpairs⟩ := exists_bindProperties_eq_ok binding haccepted
    rw [hpairs] at hfault
    exact absurd hfault (by simp)
  · rintro ⟨e, he, hrefused⟩
    cases hbound : (bindProperties binding properties).1 with
    | error fault => exact ⟨fault, rfl⟩
    | ok pairs =>
      obtain ⟨keys, -, hkeys, haccepted, -, -⟩ := bindProperties_eq_ok hbound
      have hkey : e.1 ∈ keys.map Key.text := by
        rw [← hkeys]
        exact List.mem_map_of_mem he
      obtain ⟨name, hname, htext⟩ := List.mem_map.mp hkey
      exact absurd ((hrefused name htext.symm).symm.trans (haccepted name hname)) (by simp)

/-- **The assignments of an update, when they can be written.**  Each accepted name is assigned
the next name of the allocator. -/
theorem setClause_eq_ok {var text : String} {binding : Binding} {properties : Entries}
    (h : (setClause var binding properties).1 = .ok text) :
    ∃ keys : List String, keys.length = properties.length ∧
      properties.map (·.1) = keys.map .text ∧ (∀ key ∈ keys, isIdentifier key = true) ∧
      text = assignmentsText var (keys.zip (binding.allocator.names properties.length)) ∧
      (setClause var binding properties).2 = binding.bindAll (properties.map (·.2)) := by
  have hmap : (bindProperties binding properties).1.map (assignmentsText var) = .ok text := h
  cases hpairs : (bindProperties binding properties).1 with
  | error fault =>
    rw [hpairs] at hmap
    exact absurd hmap (by simp [Except.map])
  | ok pairs =>
    rw [hpairs] at hmap
    obtain ⟨keys, hlength, hkeys, haccepted, rfl, hfinal⟩ := bindProperties_eq_ok hpairs
    exact ⟨keys, hlength, hkeys, haccepted, (Except.ok.inj hmap).symm, hfinal⟩

/-- The binding loop never takes the allocator back, not even when a property is refused. -/
theorem le_bindProperties (binding : Binding) (properties : Entries) :
    binding.allocator.Le (bindProperties binding properties).2.allocator := by
  induction properties generalizing binding with
  | nil => exact Allocator.Le.refl _
  | cons property rest ih =>
    rw [bindProperties]
    cases identifier propertyRole property.1.toValue with
    | error fault => exact Allocator.Le.refl _
    | ok name => exact binding.allocator.le_advance.trans (ih (binding.bind property.2))

/-- No name of an allocator with the usual stem starts with another letter. -/
theorem Allocator.nameAt_ne {a : Allocator} (hstem : a.stem = "p") {name : String}
    (hname : name.toList.head? ≠ some 'p') (n : ℕ) : a.nameAt n ≠ name := by
  rintro rfl
  refine hname ?_
  rw [nameAt, hstem, String.toList_append]
  rfl

/-- The binding loop leaves alone what no name of the allocator stands for, even if it stops
half-way. -/
theorem get?_bindProperties_of_ne (binding : Binding) (properties : Entries) {name : String}
    (h : ∀ n, binding.allocator.nameAt n ≠ name) :
    (bindProperties binding properties).2.parameters.get? (.text name) =
      binding.parameters.get? (.text name) := by
  induction properties generalizing binding with
  | nil => rfl
  | cons property rest ih =>
    rw [bindProperties]
    cases identifier propertyRole property.1.toValue with
    | error fault => rfl
    | ok accepted =>
      have hrest := ih (binding.bind property.2) h
      have hfresh : binding.allocator.fresh ≠ name := h (binding.allocator.allocated + 1)
      rw [Binding.bind, Entries.get?_put_text, if_neg hfresh] at hrest
      exact hrest

end GraphMapper
