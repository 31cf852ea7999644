import GraphMapper.Script.Functions
import Mathlib.Data.Nat.Notation

/-!
# Deeds that only put things down

Making a thing must not change the things that it is made of.  A deed of a script may do anything to
the memory, so this has to be said of the deeds that make things: they put new items down behind
those that are there, and leave everything else as it is.  `OnlyAdds` is this property.

It is kept by doing one deed after another (`OnlyAdds.bind`), and so it is shown for a deed by going
through what the deed is put together from:

* settling a value puts down its containers and nothing else (`onlyAdds_settle`);
* so do resolving an operand and all arguments of a call (`onlyAdds_resolve`, `onlyAdds_fit`);
* a node is made by putting it and its containers down (`onlyAdds_makeNode`).

`OnlyAdds.getElem?` says what it is for: whatever stood at a place stands there afterwards.
-/

namespace GraphMapper.Script

/-! ## 1.  Additions -/

/-- A world with more items behind those in its memory. -/
def withItems (world : World Memory) (items : List Item) : World Memory :=
  { world with own := { world.own with items := world.own.items ++ items } }

@[simp] theorem withItems_nil (world : World Memory) : withItems world [] = world := by
  rw [withItems, List.append_nil]

@[simp] theorem withItems_withItems (world : World Memory) (items more : List Item) :
    withItems (withItems world items) more = withItems world (items ++ more) := by
  simp only [withItems, List.append_assoc]

/-- A deed that at most puts new items down, whether it succeeds or not. -/
def OnlyAdds {α : Type} (deed : Deed α) : Prop :=
  ∀ world, ∃ items, (deed world).2 = withItems world items

variable {α β : Type}

/-- **What stood at a place stands there afterwards.** -/
theorem OnlyAdds.getElem? {deed : Deed α} (h : OnlyAdds deed) {world : World Memory} {place : ℕ}
    {item : Item} (hitem : world.own.items[place]? = some item) :
    (deed world).2.own.items[place]? = some item := by
  obtain ⟨items, hafter⟩ := h world
  obtain ⟨hplace, -⟩ := List.getElem?_eq_some_iff.mp hitem
  rw [hafter]
  change (world.own.items ++ items)[place]? = _
  rw [List.getElem?_append_left hplace, hitem]

/-- A deed that leaves the world alone adds nothing. -/
theorem onlyAdds_of_eq {deed : Deed α} (h : ∀ world, (deed world).2 = world) : OnlyAdds deed :=
  fun world => ⟨[], (h world).trans (withItems_nil world).symm⟩

theorem onlyAdds_pure (a : α) : OnlyAdds (pure a : Deed α) := onlyAdds_of_eq fun _ => rfl

theorem onlyAdds_fail (fault : Fault) : OnlyAdds (Act.fail fault : Deed α) :=
  onlyAdds_of_eq fun _ => rfl

theorem onlyAdds_ofExcept (result : Except Fault α) : OnlyAdds (Act.ofExcept result : Deed α) :=
  onlyAdds_of_eq fun _ => rfl

theorem onlyAdds_read (f : World Memory → α) : OnlyAdds (Act.read f) := onlyAdds_of_eq fun _ => rfl

/-- **One deed after another** only adds if both do. -/
theorem OnlyAdds.bind {first : Deed α} {next : α → Deed β} (hfirst : OnlyAdds first)
    (hnext : ∀ a, OnlyAdds (next a)) : OnlyAdds (first >>= next) := by
  intro world
  obtain ⟨items, hitems⟩ := hfirst world
  change ∃ items, (Act.bind first next world).2 = _
  rw [Act.bind]
  split
  · next a after heq =>
    rw [heq] at hitems
    obtain rfl : after = withItems world items := hitems
    obtain ⟨more, hmore⟩ := hnext a (withItems world items)
    exact ⟨items ++ more, hmore.trans (withItems_withItems world items more)⟩
  · next fault after heq =>
    rw [heq] at hitems
    exact ⟨items, hitems⟩

theorem onlyAdds_putDown (item : Item) : OnlyAdds (putDown item) := fun _ => ⟨[item], rfl⟩

theorem onlyAdds_look (value : Value) : OnlyAdds (look value) :=
  (onlyAdds_read _).bind fun _ => onlyAdds_pure _

/-- Making a thing puts it down. -/
theorem onlyAdds_make (item : Item) : OnlyAdds (make item) :=
  (onlyAdds_putDown item).bind fun _ => onlyAdds_look _

/-! ## 2.  Settling -/

mutual

/-- **Settling a value puts its containers down**, and nothing else. -/
theorem onlyAdds_settle : ∀ value : Value, OnlyAdds (settle value)
  | .list items => by
    rw [settle]
    exact (onlyAdds_settleAll items).bind fun _ =>
      (onlyAdds_putDown _).bind fun _ => onlyAdds_pure _
  | .tuple items => by
    rw [settle]
    exact (onlyAdds_settleAll items).bind fun _ =>
      (onlyAdds_putDown _).bind fun _ => onlyAdds_pure _
  | .map entries => by
    rw [settle]
    exact (onlyAdds_settleEntries entries).bind fun _ =>
      (onlyAdds_putDown _).bind fun _ => onlyAdds_pure _
  | .node labels properties => by
    rw [settle]
    exact (onlyAdds_settleEntries properties).bind fun _ =>
      (onlyAdds_putDown _).bind fun _ => onlyAdds_pure _
  | .object kind literal plain parts => by
    rw [settle]
    exact (onlyAdds_putDown _).bind fun _ => onlyAdds_pure _
  | .null | .bool _ | .int _ | .float _ | .text _ | .bytes _ | .shared _ _ => by
    rw [settle]
    · exact onlyAdds_pure _
    all_goals simp

/-- So does settling several values. -/
theorem onlyAdds_settleAll : ∀ values : List Value, OnlyAdds (settleAll values)
  | [] => by
    rw [settleAll]
    exact onlyAdds_pure _
  | value :: rest => by
    rw [settleAll]
    exact (onlyAdds_settle value).bind fun _ =>
      (onlyAdds_settleAll rest).bind fun _ => onlyAdds_pure _

/-- So does settling the values of a map. -/
theorem onlyAdds_settleEntries : ∀ entries : List (Key × Value), OnlyAdds (settleEntries entries)
  | [] => by
    rw [settleEntries]
    exact onlyAdds_pure _
  | (key, value) :: rest => by
    rw [settleEntries]
    exact (onlyAdds_settle value).bind fun _ =>
      (onlyAdds_settleEntries rest).bind fun _ => onlyAdds_pure _

end

/-- **A node is made by putting it down** with its containers. -/
theorem onlyAdds_makeNode (node : Node) : OnlyAdds (makeNode node) :=
  (onlyAdds_settle _).bind fun _ => (onlyAdds_settle _).bind fun _ =>
    (onlyAdds_settle _).bind fun _ => onlyAdds_make _

/-! ## 3.  Arguments -/

theorem onlyAdds_itemOf? (value : Value) : OnlyAdds (itemOf? value) := by
  refine onlyAdds_of_eq fun world => ?_
  rw [itemOf?.eq_def]
  split <;> rfl

theorem onlyAdds_itemsOf (value : Value) : OnlyAdds (itemsOf value) := by
  refine (onlyAdds_itemOf? value).bind fun found => ?_
  split <;> exact onlyAdds_pure _

theorem onlyAdds_followPath (reference : Reference) (path : List (Option ℕ)) (value : Value) :
    OnlyAdds (followPath reference path value) := by
  induction path generalizing value with
  | nil => exact onlyAdds_look value
  | cons step rest ih =>
    rw [followPath]
    refine (onlyAdds_itemsOf value).bind fun items => ?_
    split
    · exact ih _
    · exact onlyAdds_fail _

theorem onlyAdds_resolveReference (reference : Reference) : OnlyAdds reference.resolve := by
  rw [Reference.resolve]
  refine (onlyAdds_read _).bind fun found => ?_
  split
  · exact onlyAdds_followPath _ _ _
  · exact onlyAdds_fail _

mutual

/-- **Resolving an operand puts its containers down**, and nothing else. -/
theorem onlyAdds_resolve : ∀ operand : Operand, OnlyAdds operand.resolve
  | .value value => by
    rw [Operand.resolve]
    exact onlyAdds_settle value
  | .list items | .tuple items => by
    rw [Operand.resolve]
    exact (onlyAdds_resolveAll items).bind fun _ => onlyAdds_settle _
  | .map entries => by
    rw [Operand.resolve]
    exact (onlyAdds_resolveEntries entries).bind fun _ => onlyAdds_settle _
  | .node labels properties => by
    rw [Operand.resolve]
    exact (onlyAdds_resolveEntries properties).bind fun _ => onlyAdds_settle _
  | .reference reference => by
    rw [Operand.resolve]
    exact onlyAdds_resolveReference reference
  | .missing => by
    rw [Operand.resolve]
    exact onlyAdds_pure _

theorem onlyAdds_resolveAll : ∀ operands : List Operand, OnlyAdds (resolveAll operands)
  | [] => by
    rw [resolveAll]
    exact onlyAdds_pure _
  | operand :: rest => by
    rw [resolveAll]
    exact (onlyAdds_resolve operand).bind fun _ =>
      (onlyAdds_resolveAll rest).bind fun _ => onlyAdds_pure _

theorem onlyAdds_resolveEntries :
    ∀ entries : List (Key × Operand), OnlyAdds (resolveEntries entries)
  | [] => by
    rw [resolveEntries]
    exact onlyAdds_pure _
  | (key, operand) :: rest => by
    rw [resolveEntries]
    exact (onlyAdds_resolve operand).bind fun _ =>
      (onlyAdds_resolveEntries rest).bind fun _ => onlyAdds_pure _

end

theorem onlyAdds_given (operand : Operand) : OnlyAdds operand.given := by
  rw [Operand.given.eq_def]
  split
  · exact onlyAdds_pure _
  · exact (onlyAdds_resolve _).bind fun _ => onlyAdds_pure _

theorem onlyAdds_positionalArguments (operands : List Operand) :
    OnlyAdds (positionalArguments operands) := by
  induction operands with
  | nil => exact onlyAdds_pure _
  | cons operand rest ih =>
    rw [positionalArguments]
    exact (onlyAdds_given operand).bind fun _ => ih.bind fun _ => onlyAdds_pure _

theorem onlyAdds_namedArguments (operands : List (String × Operand)) :
    OnlyAdds (namedArguments operands) := by
  induction operands with
  | nil => exact onlyAdds_pure _
  | cons operand rest ih =>
    obtain ⟨name, operand⟩ := operand
    rw [namedArguments]
    exact (onlyAdds_given operand).bind fun _ => ih.bind fun _ => onlyAdds_pure _

/-- **Taking the arguments of a call only puts down what the call writes down.** -/
theorem onlyAdds_fit (arguments : Arguments) (signature : Signature) :
    OnlyAdds (arguments.fit signature) :=
  (onlyAdds_positionalArguments _).bind fun _ =>
    (onlyAdds_namedArguments _).bind fun _ => onlyAdds_ofExcept _

/-! ## 4.  Making nodes -/

/-- **Hydrating leaves everything as it is.**  Whatever it is called with, and whether it succeeds
or not, it puts down at most new items. -/
theorem onlyAdds_hydrate (arguments : Arguments) : OnlyAdds (evaluate .hydrate arguments) := by
  rw [evaluate]
  refine (onlyAdds_fit _ _).bind fun inputs => ?_
  refine OnlyAdds.bind (OnlyAdds.bind (onlyAdds_ofExcept _) fun node => ?_) fun value => ?_
  · exact onlyAdds_makeNode node
  · exact (onlyAdds_settle value).bind fun _ => onlyAdds_pure _

end GraphMapper.Script
