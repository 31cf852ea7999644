import GraphMapper.Script.Things

/-!
# Containers

What a script does to lists and maps themselves: writing an entry or several, appending an item,
asking for the length.  The change happens at the container's place, so everything that holds the
container sees it.

A position in a list may be counted from the end, and a truth value counts as zero or one.
-/

namespace GraphMapper.Script

/-- The position in a list that an index means; a negative one counts from the end. -/
def positionOf (index : Int) (length : Nat) : Option Nat :=
  let position := if index < 0 then index + length else index
  if 0 ≤ position ∧ position < length then some position.toNat else none

/-- The index that a value can serve as. -/
def indexOf? : Value → Option Int
  | .int n => some n
  | .bool b => some (if b then 1 else 0)
  | _ => none

/-- Writes an entry of a container. -/
def setEntry (target key new : Value) : Deed Unit := do
  match ← itemOf? target with
  | some (place, .value (.map entries)) =>
    match key.toKey? with
    | some key => replace place (.value (.map (Entries.put entries key new)))
    | none => Act.fail .wrongKind
  | some (place, .value (.list items)) =>
    match indexOf? key with
    | none => Act.fail .wrongKind
    | some index =>
      match positionOf index items.length with
      | some position => replace place (.value (.list (items.set position new)))
      | none => Act.fail .indexOutOfRange
  | _ => Act.fail .wrongKind

/-- The key and the value that a pair is; there are `index` pairs before it. -/
def pairOf (index : Nat) (pair : Value) : Except Fault (Value × Value) :=
  match pair.members? with
  | some [key, value] => .ok (key, value)
  | some members =>
    .error (.raised ⟨.invalidValue, "dictionary update sequence element #" ++ toString index ++
      " has length " ++ toString members.length ++ "; 2 is required"⟩)
  | none => .error .wrongKind

/-- Writes pairs to a map one after the other, as far as they are pairs. -/
def setPairs (target : Value) (index : Nat) : List Value → Deed Unit
  | [] => return
  | pair :: rest => do
    let (key, new) ← Act.ofExcept (pairOf index pair)
    setEntry target key new
    setPairs target (index + 1) rest

/-- Writes to a map what another map has, or the pairs that are the members of a value. -/
def setEntries (target source : Value) : Deed Unit := do
  match source.bare, source.members? with
  | .map entries, _ => setPairs target 0 (entries.map fun e => .tuple [e.1.toValue, e.2])
  | _, some pairs => setPairs target 0 pairs
  | _, none => Act.fail .wrongKind

/-- Appends an item to a list. -/
def appendItem (target new : Value) : Deed Unit := do
  match ← itemOf? target with
  | some (place, .value (.list items)) => replace place (.value (.list (items ++ [new])))
  | _ => Act.fail .noAttribute

/-- The length of a value, if it has one. -/
def lengthOf? (value : Value) : Option Nat :=
  match value.bare with
  | .list items => some items.length
  | .tuple items => some items.length
  | .map entries => some entries.length
  | .text s => some s.length
  | .bytes b => some b.length
  | .object .records _ _ parts => some parts.length
  | _ => none

/-- The length of a value. -/
def lengthOf (value : Value) : Deed Nat :=
  match lengthOf? value with
  | some length => return length
  | none => Act.fail .wrongKind

end GraphMapper.Script
