import GraphMapper.Value.Basic

/-!
# Ordered maps

Attributes, properties, parameters and records are lists of entries.  Writing to a key that is
present changes its value and leaves its place; a key that is absent goes to the end.  Removing
a key and writing it again therefore moves it, which a reader of the statement sees.
-/

namespace GraphMapper

/-- An ordered map from keys to values. -/
abbrev Entries := List (Key × Value)

namespace Entries

/-- The value under a key. -/
def get? : Entries → Key → Option Value
  | [], _ => none
  | (k, v) :: rest, key => if k.same key then some v else get? rest key

/-- Whether a key is present. -/
def has (entries : Entries) (key : Key) : Bool := (entries.get? key).isSome

/-- Writes a value under a key. -/
def put : Entries → Key → Value → Entries
  | [], key, value => [(key, value)]
  | (k, v) :: rest, key, value =>
    if k.same key then (k, value) :: rest else (k, v) :: put rest key value

/-- Removes a key. -/
def erase : Entries → Key → Entries
  | [], _ => []
  | (k, v) :: rest, key => if k.same key then rest else (k, v) :: erase rest key

/-- Writes all entries of `new`, in their order. -/
def merge (entries new : Entries) : Entries := new.foldl (fun acc e => put acc e.1 e.2) entries

/-- A map from a list in which keys may repeat: the last value of a key counts, at the place
of its first. -/
def ofPairs (pairs : List (Key × Value)) : Entries := merge [] pairs

/-- The keys, in order. -/
def keys (entries : Entries) : List Key := entries.map (·.1)

@[simp] theorem get?_nil (key : Key) : get? [] key = none := rfl

@[simp] theorem get?_cons (k : Key) (v : Value) (rest : Entries) (key : Key) :
    get? ((k, v) :: rest) key = if k.same key then some v else get? rest key := rfl

@[simp] theorem put_nil (key : Key) (value : Value) : put [] key value = [(key, value)] := rfl

@[simp] theorem put_cons (k : Key) (v : Value) (rest : Entries) (key : Key) (value : Value) :
    put ((k, v) :: rest) key value =
      if k.same key then (k, value) :: rest else (k, v) :: put rest key value := rfl

@[simp] theorem erase_nil (key : Key) : erase [] key = [] := rfl

@[simp] theorem erase_cons (k : Key) (v : Value) (rest : Entries) (key : Key) :
    erase ((k, v) :: rest) key = if k.same key then rest else (k, v) :: erase rest key := rfl

end Entries

end GraphMapper
