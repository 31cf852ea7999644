import GraphMapper.Proofs.Placeholder.Properties

/-!
# How far binding gets

The loop behind inline maps and assignments checks a name, draws a placeholder, writes the value
and adds a piece of text, property after property.  When a name is refused it stops where it is,
and what it did before stays done.  So the state it leaves has to be known in both cases, and it is
the same kind of state: `Binding.Bound` says that certain values were bound, in order, under the
next names of the allocator, behind everything that was bound before.

* `bindProperties_append`: after properties with accepted keys the loop is where binding their
  values leads, and goes on with the rest from there.
* `bindProperties_of_refused`: at the first refused key it is where binding the values before it
  leads.
* `Binding.bound_bindAll`: where binding values leads, if no name that is still to be handed out is
  bound already.  That nothing is bound ahead is kept by binding (`Binding.NothingAhead.bindAll`).

`Binding.Exact` puts this together for a clause that is written from the keys and their
placeholders; the inline map and the assignments are two such clauses (`binding_exact`).
-/

namespace GraphMapper

/-- A key that passes the check of property names. -/
def Key.Accepted (key : Key) : Prop := ∃ name, identifier propertyRole key.toValue = .ok name

theorem Key.accepted_iff {key : Key} :
    key.Accepted ↔ ∃ name, key = .text name ∧ isIdentifier name = true := by
  refine exists_congr fun name => ?_
  rw [identifier_eq_ok_iff]
  refine and_congr_left fun _ => ?_
  cases key <;> simp [Key.toValue]

/-! ## 1.  Where the loop stops -/

/-- **The loop, part by part.**  Properties with accepted keys are bound, and the rest is treated
as if the loop had started there. -/
theorem bindProperties_append (binding : Binding) {front : Entries}
    (hfront : ∀ e ∈ front, e.1.Accepted) :
    ∃ pairs, ∀ rest, bindProperties binding (front ++ rest) =
      ((bindProperties (binding.bindAll (front.map (·.2))) rest).1.map (pairs ++ ·),
        (bindProperties (binding.bindAll (front.map (·.2))) rest).2) := by
  induction front generalizing binding with
  | nil =>
    refine ⟨[], fun rest => Prod.ext ?_ rfl⟩
    change (bindProperties binding rest).1 = (bindProperties binding rest).1.map _
    cases (bindProperties binding rest).1 <;> rfl
  | cons property front ih =>
    obtain ⟨key, value⟩ := property
    obtain ⟨⟨name, hname⟩, hothers⟩ := List.forall_mem_cons.mp hfront
    obtain ⟨pairs, hpairs⟩ := ih (binding.bind value) hothers
    refine ⟨(name, binding.allocator.fresh) :: pairs, fun rest => ?_⟩
    have hstep : bindProperties binding ((key, value) :: front ++ rest) =
        ((bindProperties (binding.bind value) (front ++ rest)).1.map
          ((name, binding.allocator.fresh) :: ·),
          (bindProperties (binding.bind value) (front ++ rest)).2) := by
      rw [List.cons_append, bindProperties, hname]
    rw [hstep, hpairs rest, List.map_cons, Binding.bindAll_cons]
    refine Prod.ext ?_ rfl
    cases (bindProperties ((binding.bind value).bindAll (front.map (·.2))) rest).1 <;> rfl

/-- **The loop stops at the first refused key**, with the values before it bound. -/
theorem bindProperties_of_refused (binding : Binding) {front : Entries}
    (hfront : ∀ e ∈ front, e.1.Accepted) {key : Key} (hkey : ¬ key.Accepted) (value : Value)
    (rest : Entries) :
    bindProperties binding (front ++ (key, value) :: rest) =
      (.error (.invalidIdentifier propertyRole key.toValue),
        binding.bindAll (front.map (·.2))) := by
  obtain ⟨pairs, hpairs⟩ := bindProperties_append binding hfront
  rw [hpairs, bindProperties]
  cases hrefused : identifier propertyRole key.toValue with
  | ok name => exact absurd ⟨name, hrefused⟩ hkey
  | error fault =>
    rw [identifier_eq_error hrefused]
    rfl

/-- The loop succeeds exactly if all keys are accepted. -/
theorem exists_bindProperties_eq_ok_iff (binding : Binding) {properties : Entries} :
    (∃ pairs, (bindProperties binding properties).1 = .ok pairs) ↔
      ∀ e ∈ properties, e.1.Accepted := by
  constructor
  · rintro ⟨pairs, hpairs⟩ e he
    by_contra hrefused
    have herror : ∃ e ∈ properties, e.1.Refused := by
      refine ⟨e, he, ?_⟩
      rwa [Key.accepted_iff, ← Key.not_refused_iff, not_not] at hrefused
    obtain ⟨fault, hfault⟩ := (exists_bindProperties_eq_error_iff binding).mpr herror
    rw [hpairs] at hfault
    exact absurd hfault (by simp)
  · exact fun h => exists_bindProperties_eq_ok binding fun e he => Key.accepted_iff.mp (h e he)

/-! ## 2.  What binding has done -/

namespace Binding

/-- The names that the next values are bound under, by number. -/
def nextNames (binding : Binding) (count : ℕ) : List String :=
  (List.range count).map fun position =>
    binding.allocator.stem ++ Nat.repr (binding.allocator.allocated + 1 + position)

/-- The names by number are the ones that are handed out one after the other. -/
theorem nextNames_eq (binding : Binding) (count : ℕ) :
    binding.nextNames count = binding.allocator.names count := by
  induction count generalizing binding with
  | zero => rfl
  | succ count ih =>
    have hlater := ih ⟨binding.allocator.advance, binding.parameters⟩
    rw [Allocator.names_succ, ← hlater, nextNames, List.range_succ_eq_map, List.map_cons,
      List.map_map]
    refine congrArg _ (List.map_congr_left fun position _ => ?_)
    -- A name is one further from the start if the start is one name earlier.
    have hnumber : binding.allocator.allocated + 1 + (position + 1) =
        binding.allocator.allocated + 1 + 1 + position := by omega
    exact congrArg (fun n => binding.allocator.stem ++ Nat.repr n) hnumber

/-- No name that is still to be handed out is bound. -/
def NothingAhead (binding : Binding) : Prop :=
  ∀ n, binding.allocator.allocated < n →
    binding.parameters.get? (.text (binding.allocator.nameAt n)) = none

theorem NothingAhead.bind {binding : Binding} (h : binding.NothingAhead) (value : Value) :
    (binding.bind value).NothingAhead := by
  intro n hn
  have hlater : binding.allocator.allocated + 1 < n := hn
  have hne : binding.allocator.fresh ≠ binding.allocator.nameAt n := fun hname =>
    absurd (binding.allocator.nameAt_injective hname) (Nat.ne_of_lt hlater)
  change (binding.parameters.put (.text binding.allocator.fresh) value).get?
    (.text (binding.allocator.nameAt n)) = none
  rw [Entries.get?_put_text, if_neg hne]
  exact h n (Nat.lt_of_succ_lt hlater)

/-- Binding binds nothing ahead of itself. -/
theorem NothingAhead.bindAll {binding : Binding} (h : binding.NothingAhead)
    (values : List Value) : (binding.bindAll values).NothingAhead := by
  induction values generalizing binding with
  | nil => exact h
  | cons value values ih => exact ih (h.bind value)

/-- What has been done when exactly the given values were bound. -/
structure Bound (binding : Binding) (values : List Value) (after : Binding) : Prop where
  /-- The allocator goes on with the same stem. -/
  stem : after.allocator.stem = binding.allocator.stem
  /-- One name was handed out for each value. -/
  allocated : after.allocator.allocated = binding.allocator.allocated + values.length
  /-- The values stand behind what was bound before, in order, each under its name. -/
  parameters : after.parameters =
    binding.parameters ++ Entries.named ((binding.nextNames values.length).zip values)
  /-- Under each of the names its value is found. -/
  found : (binding.nextNames values.length).map (fun name => after.parameters.get? (.text name)) =
    values.map some
  /-- What was bound before is found as before. -/
  kept : ∀ key value, binding.parameters.get? key = some value →
    after.parameters.get? key = some value

theorem allocator_bindAll (binding : Binding) (values : List Value) :
    (binding.bindAll values).allocator.stem = binding.allocator.stem ∧
      (binding.bindAll values).allocator.allocated =
        binding.allocator.allocated + values.length := by
  induction values generalizing binding with
  | nil => exact ⟨rfl, rfl⟩
  | cons value values ih =>
    obtain ⟨hstem, hallocated⟩ := ih (binding.bind value)
    refine ⟨hstem, hallocated.trans ?_⟩
    rw [List.length_cons, Nat.add_comm values.length, ← Nat.add_assoc]
    rfl

/-- **Binding values does exactly that**, if nothing is bound ahead. -/
theorem bound_bindAll {binding : Binding} (h : binding.NothingAhead) (values : List Value) :
    binding.Bound values (binding.bindAll values) := by
  have hnext : ∀ name ∈ binding.allocator.names values.length,
      binding.parameters.get? (.text name) = none := by
    intro name hname
    rw [← nextNames_eq] at hname
    obtain ⟨position, -, rfl⟩ := List.mem_map.mp hname
    exact h _ (by omega)
  have hparameters := parameters_bindAll binding values hnext
  obtain ⟨hstem, hallocated⟩ := allocator_bindAll binding values
  refine ⟨hstem, hallocated, ?_, ?_, ?_⟩
  · rw [hparameters, nextNames_eq]
  · rw [nextNames_eq]
    exact map_get?_bindAll binding values
  · intro key value hvalue
    rw [hparameters]
    exact Entries.get?_append_of_eq_some hvalue _

end Binding

/-! ## 3.  The two clauses -/

/-- Pieces between an opening and a closing text, with commas between them; nothing if there are
no pieces. -/
def enclosed (opening closing : String) : List String → String
  | [] => ""
  | pieces => opening ++ ", ".intercalate pieces ++ closing

/-- A clause is written from the keys of properties, each with the placeholder of its value, and
it is known what is bound whether the clause can be written or not. -/
structure Binding.Exact (binding : Binding) (properties : Entries)
    (clause : List (String × String) → String) (outcome : Except Fault String × Binding) :
    Prop where
  /-- The clause can be written exactly if every key passes the check. -/
  succeeds_iff : (∃ text, outcome.1 = .ok text) ↔ ∀ e ∈ properties, e.1.Accepted
  /-- Then it lists the keys in order, each with the name of its own value, and all values are
  bound. -/
  success : ∀ text, outcome.1 = .ok text → ∃ keys : List String,
    properties.keys = keys.map .text ∧
      text = clause (keys.zip (binding.nextNames keys.length)) ∧
      binding.Bound (properties.map (·.2)) outcome.2
  /-- Otherwise the first refused key is reported, and the values in front of it are bound. -/
  failure : ∀ position key value, properties[position]? = some (key, value) →
    (∀ e ∈ properties.take position, e.1.Accepted) → ¬ key.Accepted →
      outcome.1 = .error (.invalidIdentifier propertyRole key.toValue) ∧
        binding.Bound ((properties.take position).map (·.2)) outcome.2

/-- A clause that is written from what the loop returns is exact. -/
theorem Binding.exact_of_bindProperties {binding : Binding} (h : binding.NothingAhead)
    (properties : Entries) {write clause : List (String × String) → String}
    (hclause : ∀ pairs, write pairs = clause pairs) :
    binding.Exact properties clause
      ((bindProperties binding properties).1.map write, (bindProperties binding properties).2) := by
  refine ⟨?_, ?_, ?_⟩
  · rw [← exists_bindProperties_eq_ok_iff binding]
    cases (bindProperties binding properties).1 <;> simp [Except.map]
  · intro text htext
    cases hpairs : (bindProperties binding properties).1 with
    | error fault =>
      rw [hpairs] at htext
      exact absurd htext (by simp [Except.map])
    | ok pairs =>
      rw [hpairs] at htext
      obtain ⟨keys, hlength, hkeys, -, rfl, hfinal⟩ := bindProperties_eq_ok hpairs
      refine ⟨keys, hkeys, ?_, ?_⟩
      · rw [nextNames_eq, hlength, ← hclause]
        exact (Except.ok.inj htext).symm
      · rw [hfinal]
        exact bound_bindAll h _
  · intro position key value hproperty hfront hkey
    -- The refused property cuts the properties into those that are bound and those never reached.
    have hsplit : properties.take position ++ (key, value) :: properties.drop (position + 1) =
        properties := by
      obtain ⟨hlt, hget⟩ := List.getElem?_eq_some_iff.mp hproperty
      rw [← hget, ← List.drop_eq_getElem_cons hlt, List.take_append_drop]
    have hstopped := bindProperties_of_refused binding hfront hkey value
      (properties.drop (position + 1))
    rw [hsplit] at hstopped
    rw [hstopped]
    exact ⟨rfl, bound_bindAll h _⟩

/-- An inline map is its entries in braces. -/
theorem inlineMap_append_eq_enclosed (pairs : List (String × String)) (identity : Option String) :
    inlineMap (pairs ++ (identity.map fun parameter => (identityKey, parameter)).toList) =
      enclosed " \x7b" "\x7d" (pairs.map (fun pair => pair.1 ++ ": $" ++ pair.2) ++
        (identity.map ("id: $" ++ ·)).toList) := by
  have hown : ((identity.map fun parameter => (identityKey, parameter)).toList).map inlineEntry =
      (identity.map ("id: $" ++ ·)).toList := by
    cases identity <;> rfl
  have hentries : (pairs.map fun pair => pair.1 ++ ": $" ++ pair.2) = pairs.map inlineEntry := rfl
  rw [hentries, ← hown, ← List.map_append]
  cases pairs ++ (identity.map fun parameter => (identityKey, parameter)).toList <;> rfl

/-- Assignments are written one after the other behind their keyword. -/
theorem assignmentsText_eq_enclosed (var : String) (pairs : List (String × String)) :
    assignmentsText var pairs =
      enclosed " SET " "" (pairs.map fun pair => var ++ "." ++ pair.1 ++ " = $" ++ pair.2) := by
  cases pairs with
  | nil => rfl
  | cons pair pairs => exact (String.append_empty).symm

/-- **Binding is exact, whether it succeeds or stops half-way.**  Nothing is assumed but that no
name that is still to be handed out is bound. -/
theorem binding_exact (binding : Binding) (hahead : binding.NothingAhead) (properties : Entries)
    (identity : Option String) (var : String) :
    binding.Exact properties
        (fun pairs => enclosed " \x7b" "\x7d" (pairs.map (fun pair => pair.1 ++ ": $" ++ pair.2) ++
          (identity.map ("id: $" ++ ·)).toList))
        (propertiesMap binding properties identity) ∧
      binding.Exact properties
        (fun pairs => enclosed " SET " ""
          (pairs.map fun pair => var ++ "." ++ pair.1 ++ " = $" ++ pair.2))
        (setClause var binding properties) :=
  ⟨Binding.exact_of_bindProperties hahead properties fun pairs =>
      inlineMap_append_eq_enclosed pairs identity,
    Binding.exact_of_bindProperties hahead properties (assignmentsText_eq_enclosed var)⟩

/-- A binding with two names handed out and the identity bound under its own. -/
def begunBinding : Binding :=
  Binding.bindAll ⟨{}, [(.text identityKey, .text "x")]⟩ [.text "Ada", .int 36]

/-- Properties of which the second is none. -/
def spoiledProperties : Entries :=
  [(.text "since", .int 1843), (.text "bad key", .bool true), (.text "city", .text "London")]

theorem binding_exact_spoiled :
    begunBinding.NothingAhead ∧
      (propertiesMap begunBinding spoiledProperties (some identityKey)).1 =
        .error (.invalidIdentifier propertyRole (.text "bad key")) ∧
      (propertiesMap begunBinding spoiledProperties (some identityKey)).2.parameters =
        Entries.named [("id", .text "x"), ("p1", .text "Ada"), ("p2", .int 36),
          ("p3", .int 1843)] ∧
      (setClause "n" begunBinding spoiledProperties).2.allocator.allocated = 3 ∧
      (propertiesMap begunBinding (spoiledProperties.take 1) (some identityKey)).1 =
        .ok " \x7bsince: $p3, id: $id\x7d" := by
  have hstart : Binding.NothingAhead ⟨{}, [(.text identityKey, .text "x")]⟩ := by
    intro n _
    have hne : identityKey ≠ ({} : Allocator).nameAt n :=
      (Allocator.nameAt_ne rfl (by decide) n).symm
    rw [Entries.get?_cons, Key.same_text, if_neg (by rwa [beq_iff_eq])]
    rfl
  have hahead : begunBinding.NothingAhead := hstart.bindAll _
  have haccepted : ∀ e ∈ spoiledProperties.take 1, e.1.Accepted :=
    List.forall_mem_singleton.mpr ⟨"since", rfl⟩
  have hrefused : ¬ (Key.text "bad key").Accepted := by
    rintro ⟨name, hname⟩
    obtain ⟨hvalue, hidentifier⟩ := identifier_eq_ok_iff.mp hname
    obtain rfl : "bad key" = name := Value.text.inj hvalue
    exact absurd hidentifier (by decide)
  obtain ⟨hmap, hset⟩ :=
    binding_exact begunBinding hahead spoiledProperties (some identityKey) "n"
  obtain ⟨herror, hbound⟩ := hmap.failure 1 _ _ rfl haccepted hrefused
  obtain ⟨-, hassigned⟩ := hset.failure 1 _ _ rfl haccepted hrefused
  obtain ⟨hfirst, -⟩ :=
    binding_exact begunBinding hahead (spoiledProperties.take 1) (some identityKey) "n"
  obtain ⟨text, htext⟩ := hfirst.succeeds_iff.mpr haccepted
  obtain ⟨keys, hkeys, rfl, -⟩ := hfirst.success text htext
  obtain rfl : ["since"] = keys :=
    List.map_injective_iff.mpr (fun s t hst => Key.text.inj hst) hkeys
  exact ⟨hahead, herror, hbound.parameters, hassigned.allocated, htext⟩

end GraphMapper
