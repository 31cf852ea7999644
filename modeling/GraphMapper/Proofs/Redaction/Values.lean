import GraphMapper.Clause
import GraphMapper.Proofs.Entries

/-!
# Data with the values left out

That a value is bound and never written is a statement about two runs: take any run, put other
values in the place of those that it binds, and nothing that can be read off the statements may
change.  Such a statement needs a way to say that two things differ in their bound values only.
Here that is *redaction*: a redacted thing keeps everything but the values to be bound, and two
things differ in those only if they are the same once they are redacted.

What has to be shown of an operation is then an equation about one run: the redacted result is
determined by the redacted arguments.

## 1.  Maps

The keys of a map are written into statements and its values are bound, so redaction works on the
values and looks at the keys.  `Entries.revalue` replaces each value by a function of it and of its
key; it commutes with everything that is done to a map, as long as keys that address one entry are
treated alike (`Entries.Uniform`).  `Entries.redacted` is the simplest case.  `Value.revalue` does
the same to a value that is a map.

## 2.  Binding

`bindProperties_redacted` says that the binding loop pairs the same names with the same
placeholders whatever the values are.  `propertiesMap_congr` and `setClause_congr` say the same of
the two clauses that are written with it, for any two lists of properties with the same keys.

## 3.  Results

A redacted statement shows its text and its keys.  Of all faults of compiling only the one about a
collection holds a value that would have been bound.  A `Observation` is what is seen of one call by
someone who does not see the values.
-/

namespace GraphMapper

namespace Entries

/-! ## 1.  Maps -/

/-- A map in which each value is replaced by a function of its key and of itself. -/
def revalue (f : Key → Value → Value) (entries : Entries) : Entries :=
  entries.map fun e => (e.1, f e.1 e.2)

/-- Keys that address one entry are treated alike. -/
def Uniform (f : Key → Value → Value) : Prop := ∀ k l : Key, k.same l = true → f k = f l

/-- A text is told from every other key by all keys of one entry alike. -/
theorem eq_text_iff_of_same {k l : Key} (h : k.same l = true) (s : String) :
    k = .text s ↔ l = .text s := by
  rw [← Key.same_text_right_iff, ← Key.same_text_right_iff, Key.same_congr_left h]

theorem uniform_const (f : Value → Value) : Uniform fun _ => f := fun _ _ _ => rfl

/-- Singling out the entry under one text treats keys of one entry alike. -/
theorem uniform_text (s : String) (f : Value → Value) {g : Key → Value → Value}
    (hg : Uniform g) : Uniform fun k v => if k = .text s then f v else g k v := by
  intro k l h
  funext v
  simp only [eq_text_iff_of_same h s, hg k l h]

@[simp] theorem keys_revalue (f : Key → Value → Value) (entries : Entries) :
    (entries.revalue f).keys = entries.keys := by
  rw [keys, keys, revalue, List.map_map]
  rfl

@[simp] theorem isEmpty_revalue (f : Key → Value → Value) (entries : Entries) :
    (entries.revalue f).isEmpty = entries.isEmpty := List.isEmpty_map

section revalue

variable {f : Key → Value → Value} (hf : Uniform f)

include hf

theorem get?_revalue (entries : Entries) (key : Key) :
    (entries.revalue f).get? key = (entries.get? key).map (f key) := by
  induction entries with
  | nil => rfl
  | cons e rest ih =>
    obtain ⟨k, v⟩ := e
    change get? ((k, f k v) :: revalue f rest) key = _
    rw [get?_cons, get?_cons, ih]
    by_cases hk : k.same key = true
    · rw [if_pos hk, if_pos hk, hf k key hk]
      rfl
    · rw [if_neg hk, if_neg hk]

theorem revalue_put (entries : Entries) (key : Key) (value : Value) :
    (entries.put key value).revalue f = (entries.revalue f).put key (f key value) := by
  induction entries with
  | nil => rfl
  | cons e rest ih =>
    obtain ⟨k, v⟩ := e
    change _ = put ((k, f k v) :: revalue f rest) key (f key value)
    rw [put_cons, put_cons]
    by_cases hk : k.same key = true
    · rw [if_pos hk, if_pos hk, ← hf k key hk]
      rfl
    · rw [if_neg hk, if_neg hk, ← ih]
      rfl

theorem revalue_merge (entries new : Entries) :
    (entries.merge new).revalue f = (entries.revalue f).merge (new.revalue f) := by
  induction new generalizing entries with
  | nil => rfl
  | cons e rest ih =>
    change ((entries.put e.1 e.2).merge rest).revalue f =
      ((entries.revalue f).put e.1 (f e.1 e.2)).merge (revalue f rest)
    rw [ih, revalue_put hf]

end revalue

theorem revalue_erase (f : Key → Value → Value) (entries : Entries) (key : Key) :
    (entries.erase key).revalue f = (entries.revalue f).erase key := by
  induction entries with
  | nil => rfl
  | cons e rest ih =>
    obtain ⟨k, v⟩ := e
    change _ = erase ((k, f k v) :: revalue f rest) key
    rw [erase_cons, erase_cons]
    by_cases hk : k.same key = true
    · rw [if_pos hk, if_pos hk]
    · rw [if_neg hk, if_neg hk, ← ih]
      rfl

theorem revalue_revalue (f g : Key → Value → Value) (entries : Entries) :
    (entries.revalue f).revalue g = entries.revalue fun k v => g k (f k v) := by
  rw [revalue, revalue, revalue, List.map_map]
  rfl

/-- A map with its keys, in their order, and nothing else. -/
def redacted (entries : Entries) : Entries := entries.revalue fun _ _ => .null

@[simp] theorem redacted_cons (k : Key) (v : Value) (rest : Entries) :
    redacted ((k, v) :: rest) = (k, .null) :: redacted rest := rfl

@[simp] theorem keys_redacted (entries : Entries) : entries.redacted.keys = entries.keys :=
  keys_revalue _ entries

@[simp] theorem isEmpty_redacted (entries : Entries) :
    entries.redacted.isEmpty = entries.isEmpty := isEmpty_revalue _ entries

/-- Whatever was done to the values before, redaction takes them out. -/
@[simp] theorem redacted_revalue (f : Key → Value → Value) (entries : Entries) :
    (entries.revalue f).redacted = entries.redacted := revalue_revalue f _ entries

@[simp] theorem redacted_redacted (entries : Entries) :
    entries.redacted.redacted = entries.redacted := redacted_revalue _ entries

theorem redacted_put (entries : Entries) (key : Key) (value : Value) :
    (entries.put key value).redacted = entries.redacted.put key .null :=
  revalue_put (uniform_const _) entries key value

theorem redacted_erase (entries : Entries) (key : Key) :
    (entries.erase key).redacted = entries.redacted.erase key := revalue_erase _ entries key

theorem redacted_merge (entries new : Entries) :
    (entries.merge new).redacted = entries.redacted.merge new.redacted :=
  revalue_merge (uniform_const _) entries new

@[simp] theorem has_redacted (entries : Entries) (key : Key) :
    entries.redacted.has key = entries.has key := by
  rw [has, has, redacted, get?_revalue (uniform_const _), Option.isSome_map]

end Entries

/-- A map in which each value is replaced by a function of its key and of itself, and likewise a
view of a map; what is no map stays what it is.  The text of a view shows values, so it is left
out. -/
def Value.revalue (f : Key → Value → Value) (v : Value) : Value :=
  match v.dictionary?, v.bare with
  | some entries, _ => .map (Entries.revalue f entries)
  | none, .map entries => .object .view "" "" (Entries.revalue f entries)
  | none, _ => v

theorem Value.bare_revalue (f : Key → Value → Value) {v : Value} {entries : Entries}
    (h : v.bare = .map entries) : (v.revalue f).bare = .map (entries.revalue f) := by
  rw [revalue, h]
  cases hmap : v.dictionary? with
  | none => rfl
  | some found =>
    obtain rfl : entries = found := Value.map.inj (h.symm.trans (v.bare_eq_of_dictionary? hmap))
    rfl

theorem Value.revalue_of_not_map (f : Key → Value → Value) {v : Value}
    (h : ∀ entries, v.bare ≠ .map entries) : v.revalue f = v := by
  unfold revalue
  split
  · next entries hmap => exact absurd (v.bare_eq_of_dictionary? hmap) (h entries)
  · next entries _ hentries => exact absurd hentries (h entries)
  · rfl

/-- A map and a view of one are still told apart. -/
theorem Value.dictionary?_revalue (f : Key → Value → Value) (v : Value) :
    (v.revalue f).dictionary? = v.dictionary?.map (Entries.revalue f) := by
  unfold revalue
  split
  · next entries hmap => rw [hmap]; rfl
  · next hmap _ => rw [hmap]; rfl
  · next hmap _ => rw [hmap]; rfl

/-- A map without its values; what is no map stays what it is. -/
def Value.redactedMap (v : Value) : Value := v.revalue fun _ _ => .null

/-- Whether there is a value at all: null, or some text in the place of any other value. -/
def Value.presence : Value → Value
  | .null => .null
  | _ => .text ""

@[simp] theorem Value.isNull_presence (v : Value) : v.presence.isNull = v.isNull := by
  cases v <;> rfl

@[simp] theorem Value.presence_presence (v : Value) : v.presence.presence = v.presence := by
  cases v <;> rfl

/-! ## 2.  Binding -/

/-- A state of binding without the values that are bound. -/
def Binding.redacted (binding : Binding) : Binding :=
  ⟨binding.allocator, binding.parameters.redacted⟩

theorem Binding.redacted_bind (binding : Binding) (value : Value) :
    (binding.bind value).redacted = binding.redacted.bind .null := by
  rw [redacted, bind, Entries.redacted_put]
  rfl

/-- **The binding loop does not look at the values.**  It pairs the same names with the same
placeholders, or is refused the same name, and it binds under the same keys. -/
theorem bindProperties_redacted (binding : Binding) (properties : Entries) :
    bindProperties binding.redacted properties.redacted =
      ((bindProperties binding properties).1, (bindProperties binding properties).2.redacted) := by
  induction properties generalizing binding with
  | nil => rfl
  | cons property rest ih =>
    obtain ⟨key, value⟩ := property
    rw [Entries.redacted_cons, bindProperties, bindProperties]
    cases identifier propertyRole key.toValue with
    | error fault => rfl
    | ok name =>
      change (_, _) = (_, _)
      rw [← binding.redacted_bind value, ih]
      rfl

theorem propertiesMap_redacted (binding : Binding) (properties : Entries)
    (identity : Option String) :
    propertiesMap binding.redacted properties.redacted identity =
      ((propertiesMap binding properties identity).1,
        (propertiesMap binding properties identity).2.redacted) := by
  rw [propertiesMap, bindProperties_redacted]
  rfl

theorem setClause_redacted (var : String) (binding : Binding) (properties : Entries) :
    setClause var binding.redacted properties.redacted =
      ((setClause var binding properties).1, (setClause var binding properties).2.redacted) := by
  rw [setClause, bindProperties_redacted]
  rfl

/-- Inline properties that differ in their values are written alike. -/
theorem propertiesMap_congr (first second : Binding) {properties others : Entries}
    (hbinding : first.redacted = second.redacted)
    (hproperties : properties.redacted = others.redacted) (identity : Option String) :
    (propertiesMap first properties identity).1 = (propertiesMap second others identity).1 ∧
      (propertiesMap first properties identity).2.redacted =
        (propertiesMap second others identity).2.redacted := by
  have h := propertiesMap_redacted first properties identity
  rw [hbinding, hproperties, propertiesMap_redacted] at h
  exact ⟨(congrArg Prod.fst h).symm, (congrArg Prod.snd h).symm⟩

/-- Assignments that differ in their values are written alike. -/
theorem setClause_congr (var : String) (first second : Binding) {properties others : Entries}
    (hbinding : first.redacted = second.redacted)
    (hproperties : properties.redacted = others.redacted) :
    (setClause var first properties).1 = (setClause var second others).1 ∧
      (setClause var first properties).2.redacted = (setClause var second others).2.redacted := by
  have h := setClause_redacted var first properties
  rw [hbinding, hproperties, setClause_redacted] at h
  exact ⟨(congrArg Prod.fst h).symm, (congrArg Prod.snd h).symm⟩

/-! ## 3.  Results -/

/-- A statement without the values that are bound: its text and its keys. -/
def Statement.redacted (statement : Statement) : Statement :=
  ⟨statement.text, statement.parameters.redacted⟩

/-- Statements that are written around pieces which are bound alike differ in their values only. -/
theorem Statement.redacted_of_bound {bound other : Except Fault String × Binding}
    (hresult : bound.1 = other.1) (hfinal : bound.2.redacted = other.2.redacted)
    (text : String → String) :
    (bound.1.map fun piece => Statement.mk (text piece) bound.2.parameters).map
        Statement.redacted =
      (other.1.map fun piece => Statement.mk (text piece) other.2.parameters).map
        Statement.redacted := by
  rw [hresult]
  cases other.1 with
  | error fault => rfl
  | ok piece =>
    exact congrArg (fun final : Binding =>
      (Except.ok ⟨text piece, final.parameters⟩ : Except Fault Statement)) hfinal

/-- A fault without a value that would have been bound. -/
def Fault.redacted : Fault → Fault
  | .notACollection _ => .notACollection .null
  | fault => fault

@[simp] theorem Fault.redacted_redacted (fault : Fault) :
    fault.redacted.redacted = fault.redacted := by
  cases fault <;> rfl

/-- A result without the values that are, or would have been, bound. -/
def redactedResult {α : Type} (redact : α → α) : Except Fault α → Except Fault α
  | .ok a => .ok (redact a)
  | .error fault => .error fault.redacted

/-- What is seen of a call by someone who does not see the values: that it was made on a thing
that is not there, that it was done, that it was refused and why, or what it compiled to, the text
and the keys of the parameters in their order. -/
inductive Observation where
  | absent
  | done
  | refused (fault : Fault)
  | compiled (text : String) (keys : List Key)

namespace Observation

/-- What is seen of a call that compiles nothing. -/
def ofResult {α : Type} : Except Fault α → Observation
  | .ok _ => .done
  | .error fault => .refused fault.redacted

/-- What is seen of a call that compiles a statement. -/
def ofStatement : Except Fault Statement → Observation
  | .ok statement => .compiled statement.text statement.parameters.keys
  | .error fault => .refused fault.redacted

theorem ofResult_redactedResult {α : Type} (redact : α → α) (result : Except Fault α) :
    ofResult (redactedResult redact result) = ofResult result := by
  cases result with
  | ok a => rfl
  | error fault => exact congrArg refused fault.redacted_redacted

theorem ofResult_map {α β : Type} (f : α → β) (result : Except Fault α) :
    ofResult (result.map f) = ofResult result := by
  cases result <;> rfl

theorem ofStatement_map_redacted (result : Except Fault Statement) :
    ofStatement (result.map Statement.redacted) = ofStatement result := by
  cases result with
  | ok statement => exact congrArg (compiled statement.text) statement.parameters.keys_redacted
  | error fault => rfl

end Observation

end GraphMapper
