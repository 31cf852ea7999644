import GraphMapper.Node.Construct
import GraphMapper.Proofs.Entries
import GraphMapper.Proofs.Names

/-!
# Nodes that were just made

What holds of a node when the validating constructor lets it through, whatever the inputs were.
The one thing that is asked of the inputs is that the attributes are a map, in which no key
occurs twice.

## Where the identity is overlooked

An identity among the attributes is taken out before they are checked, and only where it is
recognised: under the text that is its key, in a map that is no view.  The check accepts more than
that.  So `Node.Overlooks` says of inputs that the identity stands where nobody looks for it, and
`Node.has_identityEntry_of_ofInputs` says that it is an attribute of the node just then.  Attributes
that are a map with texts for keys leave nothing to overlook (`Node.not_overlooks_of_plain`).

* `Validation.ReadsAs`: a map whose keys were read as texts.
* `Node.Made`: what holds of a node that was just made.
-/

namespace GraphMapper

/-- A field of the inputs is looked up like any key. -/
theorem Validation.input?_eq_get? (name : String) (inputs : Entries) :
    Validation.input? name inputs = inputs.get? (.text name) := by
  rw [Validation.input?]
  induction inputs with
  | nil => rfl
  | cons e rest ih =>
    obtain ⟨k, v⟩ := e
    rw [List.find?_cons, Entries.get?_cons]
    by_cases hk : k = .text name
    · rw [hk, if_pos (Key.same_self _), beq_self_eq_true]
      rfl
    · have hsame : ¬ k.same (.text name) = true := fun h => hk (Key.same_text_right_iff.mp h)
      have hbeq : (k == Key.text name) = false := beq_eq_false_iff_ne.mpr hk
      rw [if_neg hsame, ← ih]
      simp only [hbeq]

/-- What was accepted by a check that has found no problems is what the check returned. -/
theorem Validation.optional_eq_some {α : Type} {name : String} {default result : α}
    {check : Value → Except (List Issue) α} {inputs : Entries}
    (h : (Validation.optional name default check inputs).value? = some result) :
    (inputs.get? (.text name) = none ∧ result = default) ∨
      ∃ v, inputs.get? (.text name) = some v ∧ check v = .ok result := by
  rw [Validation.optional, Validation.input?_eq_get?] at h
  cases hv : inputs.get? (.text name) with
  | none =>
    rw [hv] at h
    exact Or.inl ⟨rfl, (Option.some.inj h).symm⟩
  | some v =>
    rw [hv] at h
    have hchecked : (Validation.Checked.of (check v)).value? = some result := h
    cases hcheck : check v with
    | error issues =>
      rw [hcheck] at hchecked
      exact absurd hchecked (by simp [Validation.Checked.of])
    | ok a =>
      rw [hcheck] at hchecked
      exact Or.inr ⟨v, rfl, hcheck.trans (congrArg Except.ok (Option.some.inj hchecked))⟩

/-- A map with its keys read as texts.  Where two keys are read as one text, there is one entry. -/
structure Validation.ReadsAs (given read : Entries) : Prop where
  named : ∀ e ∈ read, ∃ name, e.1 = .text name
  distinct : given.Distinct → read.Distinct
  has_text_iff : ∀ s, read.has (.text s) = true ↔ ∃ e ∈ given, Validation.text e.1.toValue = .ok s

namespace Validation

/-- What is read without a problem is what was given, each key as its text. -/
theorem mem_of_textKeys {name : String} {given read : Entries}
    (h : textKeys name given = (read, [])) {f : Key × Value} :
    f ∈ read ↔ ∃ e ∈ given, ∃ s, text e.1.toValue = .ok s ∧ f = (.text s, e.2) := by
  induction given generalizing read with
  | nil =>
    obtain rfl : [] = read := congrArg Prod.fst h
    simp
  | cons e rest ih =>
    rw [textKeys] at h
    cases hkey : text e.1.toValue with
    | error problem =>
      rw [hkey] at h
      exact absurd (congrArg Prod.snd h) (by simp)
    | ok s =>
      rw [hkey] at h
      have hissues : (textKeys name rest).2 = [] := congrArg Prod.snd h
      obtain rfl : (.text s, e.2) :: (textKeys name rest).1 = read := congrArg Prod.fst h
      rw [List.mem_cons, ih (Prod.ext rfl hissues), List.exists_mem_cons_iff]
      refine or_congr ⟨fun hf => ⟨s, hkey, hf⟩, ?_⟩ Iff.rfl
      rintro ⟨other, hother, hf⟩
      rwa [← Except.ok.inj (hkey.symm.trans hother)] at hf

theorem has_text_iff_of_textKeys {name : String} {given read : Entries}
    (h : textKeys name given = (read, [])) (s : String) :
    read.has (.text s) = true ↔ ∃ e ∈ given, text e.1.toValue = .ok s := by
  rw [Entries.has_iff]
  constructor
  · rintro ⟨f, hf, hsame⟩
    obtain ⟨e, he, other, hother, rfl⟩ := (mem_of_textKeys h).mp hf
    rw [Key.same_text, beq_iff_eq] at hsame
    exact ⟨e, he, hsame ▸ hother⟩
  · rintro ⟨e, he, hkey⟩
    exact ⟨(.text s, e.2), (mem_of_textKeys h).mpr ⟨e, he, s, hkey, rfl⟩, Key.same_self _⟩

/-- Keys that are texts are read as they are. -/
theorem textKeys_of_named (name : String) {entries : Entries}
    (h : ∀ e ∈ entries, ∃ key, e.1 = .text key) : textKeys name entries = (entries, []) := by
  induction entries with
  | nil => rfl
  | cons e rest ih =>
    obtain ⟨k, v⟩ := e
    obtain ⟨key, rfl⟩ := h _ List.mem_cons_self
    rw [textKeys, ih fun f hf => h f (List.mem_cons_of_mem _ hf)]
    rfl

theorem all_isText_iff {entries : Entries} :
    (entries.all fun e => isText e.1) = true ↔ ∀ e ∈ entries, ∃ key, e.1 = .text key := by
  rw [List.all_eq_true]
  refine forall₂_congr fun e _ => ?_
  cases e.1 <;> simp [isText]

/-- A map with texts as keys is read as it is. -/
theorem textMap_of_named (name : String) {input : Value} {entries : Entries}
    (hbare : input.bare = .map entries) (h : ∀ e ∈ entries, ∃ key, e.1 = .text key) :
    textMap name input = .ok entries := by
  rw [textMap, hbare]
  simp only [textKeys_of_named name h, if_pos (all_isText_iff.mpr h)]

/-- **What is accepted for a map with texts as keys** is a map, and its keys are read. -/
theorem readsAs_of_textMap {name : String} {input : Value} {entries : Entries}
    (h : textMap name input = .ok entries) :
    ∃ given, input.bare = .map given ∧ ReadsAs given entries := by
  unfold textMap at h
  split at h
  · rename_i given hbare
    refine ⟨given, hbare, ?_⟩
    split at h
    · rename_i read hkeys
      obtain rfl := Except.ok.inj h
      by_cases hall : (given.all fun e => isText e.1) = true
      · rw [if_pos hall]
        have hnamed := all_isText_iff.mp hall
        obtain rfl : given = read :=
          congrArg Prod.fst ((textKeys_of_named name hnamed).symm.trans hkeys)
        exact ⟨hnamed, id, has_text_iff_of_textKeys hkeys⟩
      · rw [if_neg hall]
        refine ⟨fun e he => ?_, fun _ => Entries.distinct_nil.merge read, fun s => ?_⟩
        · rcases Entries.mem_merge he with ⟨f, hf, -⟩ | ⟨f, hf, hkey⟩
          · exact absurd hf List.not_mem_nil
          · obtain ⟨_, -, s, -, rfl⟩ := (mem_of_textKeys hkeys).mp hf
            exact ⟨s, hkey.symm⟩
        · rw [Entries.ofPairs, Entries.has_merge, ← has_text_iff_of_textKeys hkeys]
          rfl
    · exact absurd h (by simp)
  · exact absurd h (by simp)

end Validation

namespace Node

/-- Inputs whose attributes, if they are given, are a map in which no key occurs twice. -/
def ProperInputs (given : Entries) : Prop :=
  ∀ v attributes, given.get? (.text "attributes") = some v → v.bare = .map attributes →
    Entries.Distinct attributes

theorem properInputs_of_eq_some {given attributes : Entries} {v : Value}
    (hv : given.get? (.text "attributes") = some v) (hbare : v.bare = .map attributes)
    (h : attributes.Distinct) : ProperInputs given := by
  intro w others hw hothers
  obtain rfl := Option.some.inj (hv.symm.trans hw)
  rwa [← Value.map.inj (hbare.symm.trans hothers)]

/-- What holds of a node that was just made. -/
structure Made (node : Node) : Prop where
  nodup : node.labels.Nodup
  distinct : node.attributes.Distinct
  named : ∀ e ∈ node.attributes, ∃ name, e.1 = .text name
  identity : node.identity = .null ∨ ∃ s, node.identity = .text s
  stored : node.storedIdentity = .null
  fromStore : node.fromStore = false
  persisted : node.persisted = true → node.isAnonymous = false

/-- Among the attributes that are given there is a key that is read as that of the identity. -/
def NamesIdentity (inputs : Entries) : Prop :=
  ∃ v attributes, inputs.get? (.text "attributes") = some v ∧ v.bare = .map attributes ∧
    ∃ e ∈ attributes, Validation.text e.1.toValue = .ok identityKey

/-- There is such a key where the constructor does not look for it: in a view of a map, or in a map
under a key that is another one than the text. -/
def Overlooks (given : Entries) : Prop :=
  ∃ v attributes, given.get? (.text "attributes") = some v ∧ v.bare = .map attributes ∧
    ∃ e ∈ attributes, Validation.text e.1.toValue = .ok identityKey ∧
      (e.1 = identityEntry → v.dictionary? = none)

/-- An identity is a text, or there is none. -/
theorem identityOf_eq (v : Value) : identityOf v = .null ∨ ∃ s, identityOf v = .text s := by
  cases v with
  | null => exact Or.inl rfl
  | _ => exact Or.inr ⟨_, rfl⟩

/-- Inputs whose attributes hold the identity: it is taken out, and it becomes the identity unless
there is one. -/
theorem extractIdentity_of_mem {inputs attributes : Entries} {identity : Value}
    (hattributes : (inputs.get? (.text "attributes")).bind Value.dictionary? = some attributes)
    (hidentity : attributes.get? identityEntry = some identity) :
    extractIdentity inputs =
      let rest := inputs.put (.text "attributes") (.map (attributes.erase identityEntry))
      if (inputs.get? (.text "identity")).all Value.isNull then rest.put (.text "identity") identity
      else rest := by
  rw [extractIdentity, hattributes]
  simp only [hidentity]
  cases inputs.get? (.text "identity") with
  | none => rfl
  | some given => cases given <;> rfl

/-- Inputs whose attributes do not hold the identity stay as they are. -/
theorem extractIdentity_of_notMem {inputs : Entries}
    (h : ∀ attributes, (inputs.get? (.text "attributes")).bind Value.dictionary? = some attributes →
      Entries.get? attributes identityEntry = none) : extractIdentity inputs = inputs := by
  unfold extractIdentity
  split
  · next attributes hattributes => rw [h attributes hattributes]
  · rfl

/-- **The attributes when the identity has been taken out**: if there is a map that has it, what is
left of that map, and otherwise what was given. -/
theorem get?_attributes_extractIdentity (given : Entries) :
    (∃ attributes : Entries,
      (given.get? (.text "attributes")).bind Value.dictionary? = some attributes ∧
      attributes.has identityEntry = true ∧
      (extractIdentity given).get? (.text "attributes") =
        some (.map (attributes.erase identityEntry))) ∨
    (∀ attributes : Entries,
      (given.get? (.text "attributes")).bind Value.dictionary? = some attributes →
        attributes.has identityEntry = false) ∧ extractIdentity given = given := by
  cases hbefore : (given.get? (.text "attributes")).bind Value.dictionary? with
  | none =>
    exact Or.inr ⟨fun _ h => absurd h (by simp), extractIdentity_of_notMem (by simp [hbefore])⟩
  | some attributes =>
    cases hidentity : Entries.get? attributes identityEntry with
    | none =>
      refine Or.inr ⟨fun other hother => ?_, extractIdentity_of_notMem fun other hother => ?_⟩
      · rw [← Option.some.inj hother, Entries.has, hidentity]
        rfl
      · rw [hbefore] at hother
        rw [← Option.some.inj hother, hidentity]
    | some identity =>
      refine Or.inl ⟨attributes, rfl, by rw [Entries.has, hidentity]; rfl, ?_⟩
      rw [extractIdentity_of_mem hbefore hidentity]
      dsimp only
      split
      · rw [Entries.get?_put_text, if_neg (by decide), Entries.get?_put_self]
      · rw [Entries.get?_put_self]

/-- Taking the identity out leaves maps in which no key occurs twice. -/
theorem ProperInputs.extractIdentity {given : Entries} (hgiven : ProperInputs given) :
    ProperInputs (extractIdentity given) := by
  intro v attributes hv hbare
  rcases get?_attributes_extractIdentity given with ⟨before, hbefore, -, hfound⟩ | ⟨-, hsame⟩
  · obtain ⟨v₀, hv₀, hmap⟩ := Option.bind_eq_some_iff.mp hbefore
    obtain rfl := Option.some.inj (hfound.symm.trans hv)
    rw [← Value.map.inj hbare]
    exact (hgiven v₀ before hv₀ (Value.bare_eq_of_dictionary? v₀ hmap)).erase _
  · rw [hsame] at hv
    exact hgiven v attributes hv hbare

/-- **What is named and not taken out is what is overlooked.** -/
theorem namesIdentity_extractIdentity_iff {given : Entries} (hgiven : ProperInputs given) :
    NamesIdentity (extractIdentity given) ↔ Overlooks given := by
  rcases get?_attributes_extractIdentity given with ⟨before, hbefore, -, hfound⟩ | ⟨habsent, hsame⟩
  · obtain ⟨v, hv, hmap⟩ := Option.bind_eq_some_iff.mp hbefore
    have hbare := Value.bare_eq_of_dictionary? v hmap
    have hdistinct := hgiven v before hv hbare
    constructor
    · rintro ⟨w, attributes, hw, hattributes, e, he, hkey⟩
      obtain rfl := Option.some.inj (hfound.symm.trans hw)
      obtain rfl := Value.map.inj hattributes
      refine ⟨v, before, hv, hbare, e, (Entries.erase_sublist _ _).subset he, hkey, fun hid => ?_⟩
      -- In what is left of the map there is no such key.
      have hnone := Entries.get?_erase hdistinct identityEntry identityEntry
      rw [if_pos (Key.same_self _), Entries.get?_eq_none_iff] at hnone
      exact absurd ((hnone e he).symm.trans (Key.same_text_right_iff.mpr hid)) Bool.false_ne_true
    · rintro ⟨w, attributes, hw, hattributes, e, he, hkey, hview⟩
      obtain rfl := Option.some.inj (hv.symm.trans hw)
      obtain rfl := Value.map.inj (hbare.symm.trans hattributes)
      have hother : e.1.same identityEntry = false := by
        rw [← Bool.not_eq_true, identityEntry, Key.same_text_right_iff]
        exact fun hid => absurd (hmap.symm.trans (hview hid)) (by simp)
      exact ⟨_, _, hfound, rfl, e, Entries.mem_erase_of_ne he hother, hkey⟩
  · rw [hsame]
    refine exists_congr fun v => exists_congr fun attributes => and_congr_right fun hv =>
      and_congr_right fun hbare => exists_congr fun e => and_congr_right fun he =>
        (and_iff_left_of_imp fun _ hid => ?_).symm
    cases hmap : v.dictionary? with
    | none => rfl
    | some found =>
      have hfound : found = attributes :=
        Value.map.inj ((Value.bare_eq_of_dictionary? v hmap).symm.trans hbare)
      have hhas : Entries.has found identityEntry = true :=
        Entries.has_iff.mpr ⟨e, hfound ▸ he, Key.same_text_right_iff.mpr hid⟩
      rw [habsent found (by rw [hv]; exact hmap)] at hhas
      exact absurd hhas Bool.false_ne_true

/-- Labels that are accepted are without repetitions. -/
theorem nodup_of_readLabels {input : Value} {labels : List String}
    (h : readLabels input = .ok labels) : labels.Nodup := by
  rw [readLabels] at h
  obtain ⟨texts, -, h⟩ := exists_of_bind_eq_ok h
  split at h
  · rename_i names hnames
    rw [← Except.ok.inj h]
    exact nodup_distinct names
  · exact absurd h (by simp)

/-- **What the constructor lets through as it is, is well made**, and its attributes have been
read. -/
theorem made_of_validated {inputs : Entries} {node : Node} (hinputs : ProperInputs inputs)
    (h : validated inputs = .ok node) :
    node.Made ∧ (node.has identityEntry = true ↔ NamesIdentity inputs) := by
  unfold validated at h
  dsimp only at h
  split at h
  · rename_i labels attributes persisted hlabels hattributes hpersisted hissues
    split at h
    · exact absurd h (by simp)
    · rename_i hvalid
      obtain rfl := Except.ok.inj h
      have hlabels' : labels.Nodup := by
        rcases Validation.optional_eq_some hlabels with ⟨-, rfl⟩ | ⟨v, -, hread⟩
        · exact List.nodup_nil
        · exact nodup_of_readLabels hread
      have hattributes' : Entries.Distinct attributes ∧
          (∀ e ∈ attributes, ∃ name, e.1 = .text name) ∧
          (Entries.has attributes identityEntry = true ↔ NamesIdentity inputs) := by
        rcases Validation.optional_eq_some hattributes with ⟨hnone, rfl⟩ | ⟨v, hv, hread⟩
        · refine ⟨Entries.distinct_nil, fun _ he => absurd he List.not_mem_nil, ?_⟩
          refine iff_of_false Bool.false_ne_true ?_
          rintro ⟨v, -, hv, -⟩
          exact absurd (hnone.symm.trans hv) (by simp)
        · obtain ⟨given, hbare, hreads⟩ := Validation.readsAs_of_textMap hread
          refine ⟨hreads.distinct (hinputs v given hv hbare), hreads.named, ?_⟩
          refine (hreads.has_text_iff identityKey).trans ⟨?_, ?_⟩
          · exact fun hnamed => ⟨v, given, hv, hbare, hnamed⟩
          · rintro ⟨w, others, hw, hothers, hnamed⟩
            obtain rfl := Option.some.inj (hv.symm.trans hw)
            rwa [← Value.map.inj (hbare.symm.trans hothers)] at hnamed
      refine ⟨⟨hlabels', hattributes'.1, hattributes'.2.1, identityOf_eq _, rfl, rfl,
        fun hpersisted => ?_⟩, hattributes'.2.2⟩
      have htrue : persisted = true := hpersisted
      rw [htrue, Bool.true_and, Bool.not_eq_true] at hvalid
      exact hvalid
  · exact absurd h (by simp)

/-- **What the constructor lets through is well made.** -/
theorem made_of_ofInputs {given : Entries} {node : Node} (hgiven : ProperInputs given)
    (h : ofInputs given = .ok node) : node.Made :=
  (made_of_validated hgiven.extractIdentity h).1

/-- **The identity is an attribute of a node that was just made exactly if it was overlooked.** -/
theorem has_identityEntry_of_ofInputs {given : Entries} {node : Node}
    (hgiven : ProperInputs given) (h : ofInputs given = .ok node) :
    node.has identityEntry = true ↔ Overlooks given :=
  (made_of_validated hgiven.extractIdentity h).2.trans (namesIdentity_extractIdentity_iff hgiven)

/-- In a map with texts for keys the identity is not overlooked. -/
theorem not_overlooks_of_plain {given attributes : Entries} {v : Value}
    (hv : given.get? (.text "attributes") = some v) (hmap : v.dictionary? = some attributes)
    (hnamed : ∀ e ∈ attributes, ∃ name, e.1 = .text name) : ¬ Overlooks given := by
  rintro ⟨w, others, hw, hothers, e, he, hkey, hview⟩
  obtain rfl := Option.some.inj (hv.symm.trans hw)
  obtain rfl := Value.map.inj ((Value.bare_eq_of_dictionary? v hmap).symm.trans hothers)
  obtain ⟨name, hname⟩ := hnamed e he
  rw [hname] at hkey hview
  obtain rfl : name = identityKey := Except.ok.inj hkey
  exact absurd (hmap.symm.trans (hview rfl)) (by simp)

/-- A node of a value is made of named inputs: with the identity taken out, or, in a view, as they
are. -/
theorem ofValue_eq_ok {input : Value} {node : Node} (h : ofValue input = .ok node) :
    ∃ given, input.bare = .map given ∧
      (input.dictionary? = some given ∧ ofInputs given = .ok node ∨
        input.dictionary? = none ∧ validated given = .ok node) := by
  unfold ofValue at h
  split at h
  · rename_i given hmap
    exact ⟨given, input.bare_eq_of_dictionary? hmap, Or.inl ⟨hmap, h⟩⟩
  · rename_i given hmap hbare
    exact ⟨given, hbare, Or.inr ⟨hmap, h⟩⟩
  · exact absurd h (by simp)

end Node

end GraphMapper
