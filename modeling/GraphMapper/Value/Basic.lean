import GraphMapper.Number.Binary64

/-!
# Values

The mapper has no schema: an attribute, a condition's operand or a column of a result may be
anything a graph store can hold.  `Value` is that universe.  It is a closed type, so every
rule about "any value" is a rule by cases.

## Keys

Maps keep their entries in the order in which the keys were first inserted, because that order
decides how properties are numbered in a statement.  A key is a scalar or a string of bytes.  Two
numeric keys that are equal as numbers are one key, and a truth value counts as the number zero or
one; the key that was inserted first stays as it was written.

## Maps and views

A map can also be seen through a *view*: something that has the entries of a map, lists them and
looks them up, and is not the map.  A store's client may hand out its nodes as views of their
properties, and a map that must not be changed is passed on as one.  Nearly everything asks for the
entries alone, so `Value.bare` takes a view for the map that is seen through it.  Where only the map
itself will do, `Value.dictionary?` is asked instead.

## Nodes and other objects

`Value.node` is a node as a store returns it: a set of labels and an ordered map of properties,
which it lists.  It is asked for these two and counts as no map.  Where a client's node is a map of
its properties besides, and a map is wanted of it, it is given as the view of them.

`Value.object` is any other thing that can stand where a value is expected, a query as an attribute
for instance.  Such an object is opaque: its two texts were computed by whoever made it, and its
parts are what can be read of it.

## Values that are held in common

Two attributes can hold one and the same list, and a change through the one is then seen through
the other.  `Value.shared` is a value that has a *place*, together with what stood there when the
value was last looked at.  Only its holder can look again; everywhere else a shared value counts
as what was seen, and `Value.bare` is that.
-/

namespace GraphMapper

/-- What can be the key of a map. -/
inductive Key where
  | null
  | bool (b : Bool)
  | int (n : Int)
  | float (x : Binary64)
  | text (s : String)
  | bytes (b : List UInt8)
  deriving DecidableEq

/-- The kinds of objects that can stand where a value is expected.  Two of them carry labels
without being nodes: the one has no properties to list, and what the other has in their place
cannot be listed.  The parts of a view are the entries that are seen through it. -/
inductive ObjectKind where
  | node
  | condition
  | statement
  | settings
  | records
  | query
  | traversal
  | relationship
  | engine
  | gateway
  | transactionGateway
  | allocator
  | driver
  | session
  | labelsOnly
  | unlistable
  | view
  deriving DecidableEq

/-- A value of an attribute, of a parameter or of a column. -/
inductive Value where
  | null
  | bool (b : Bool)
  | int (n : Int)
  | float (x : Binary64)
  | text (s : String)
  | bytes (b : List UInt8)
  | list (items : List Value)
  | tuple (items : List Value)
  | map (entries : List (Key × Value))
  | node (labels : List String) (properties : List (Key × Value))
  | object (kind : ObjectKind) (literal plain : String) (parts : List (Key × Value))
  | shared (place : Nat) (seen : Value)
  deriving Inhabited

/-- The number that a key counts as, if it is a whole one. -/
def Key.asInt? : Key → Option Int
  | .bool b => some (if b then 1 else 0)
  | .int n => some n
  | .float x => x.toInt?
  | _ => none

/-- Whether two keys address the same entry. -/
def Key.same (k l : Key) : Bool :=
  match k.asInt?, l.asInt? with
  | some m, some n => m == n
  | none, none => k == l
  | _, _ => false

@[simp] theorem Key.same_text (s t : String) : Key.same (.text s) (.text t) = (s == t) := by
  by_cases h : s = t
  · subst h; simp [Key.same, Key.asInt?]
  · have hkey : Key.text s ≠ Key.text t := by simpa using h
    simp only [Key.same, Key.asInt?]
    rw [beq_eq_false_iff_ne.2 hkey, beq_eq_false_iff_ne.2 h]

/-- The value that a key is. -/
def Key.toValue : Key → Value
  | .null => .null
  | .bool b => .bool b
  | .int n => .int n
  | .float x => .float x
  | .text s => .text s
  | .bytes b => .bytes b

/-- The key that a value can serve as. -/
def Value.toKey? : Value → Option Key
  | .null => some .null
  | .bool b => some (.bool b)
  | .int n => some (.int n)
  | .float x => some (.float x)
  | .text s => some (.text s)
  | .bytes b => some (.bytes b)
  | _ => none

namespace Value

/-- A value without its place; a view is the map that is seen through it. -/
def bare : Value → Value
  | .shared _ seen => seen.bare
  | .object .view _ _ entries => .map entries
  | v => v

/-- The entries of a map that is the map itself and no view of it. -/
def dictionary? : Value → Option (List (Key × Value))
  | .map entries => some entries
  | .shared _ seen => seen.dictionary?
  | _ => none

/-- A map that is no view has its entries. -/
theorem bare_eq_of_dictionary? {entries : List (Key × Value)} :
    ∀ v : Value, v.dictionary? = some entries → v.bare = .map entries
  | .shared _ seen, h => bare_eq_of_dictionary? seen h
  | .map _, h => congrArg Value.map (Option.some.inj h)

/-- A value is a map, wherever it stands, or it is none. -/
theorem bare_eq_map_or (v : Value) :
    (∃ entries, v.bare = .map entries) ∨ ∀ entries, v.bare ≠ .map entries := by
  by_cases h : ∃ entries, v.bare = .map entries
  · exact Or.inl h
  · exact Or.inr fun entries hentries => h ⟨entries, hentries⟩

/-- Whether a value counts as true where a condition is expected: everything does but null,
false, zero and what is empty. -/
def isTruthy : Value → Bool
  | .null => false
  | .bool b => b
  | .int n => n != 0
  | .float (.finite _ mantissa _) => mantissa != 0
  | .float _ => true
  | .text s => !s.isEmpty
  | .bytes b => !b.isEmpty
  | .list items => !items.isEmpty
  | .tuple items => !items.isEmpty
  | .map entries => !entries.isEmpty
  | .node _ _ => true
  | .object .records _ _ parts | .object .view _ _ parts => !parts.isEmpty
  | .object _ _ _ _ => true
  | .shared _ seen => seen.isTruthy

/-- A value counts as what it is without its place. -/
theorem isTruthy_bare : ∀ v : Value, v.bare.isTruthy = v.isTruthy
  | .shared _ seen => isTruthy_bare seen
  | .object kind .. => by cases kind <;> rfl
  | .null | .bool _ | .int _ | .float _ | .text _ | .bytes _ | .list _ | .tuple _ | .map _
  | .node .. => rfl

/-- Whether a value is null. -/
def isNull : Value → Bool
  | .null => true
  | _ => false

/-- The parts that an object of a kind shows to whoever goes through it, if it can be gone
through: those that it was validated from. -/
def listedParts? (kind : ObjectKind) (parts : List (Key × Value)) : Option (List (Key × Value)) :=
  match kind with
  | .node => some (parts.take 4)
  | .condition | .statement | .settings => some parts
  | _ => none

/-- The members of a value that can be gone through one by one: the items of a list, the
characters of a text, the keys of a map, the bytes of a string of bytes, the records of a result,
the parts of a validated object with their names. -/
def members? : Value → Option (List Value)
  | .list items => some items
  | .tuple items => some items
  | .text s => some (s.toList.map fun c => .text (String.ofList [c]))
  | .bytes b => some (b.map fun x => .int x.toNat)
  | .map entries | .object .view _ _ entries => some (entries.map fun e => e.1.toValue)
  | .object .records _ _ parts => some (parts.map (·.2))
  | .object kind _ _ parts =>
    (listedParts? kind parts).map (·.map fun e => .tuple [e.1.toValue, e.2])
  | .shared _ seen => seen.members?
  | _ => none

/-- The entries of a value that lists its entries: a map, or a node with its properties. -/
def entries? : Value → Option (List (Key × Value))
  | .map entries | .object .view _ _ entries => some entries
  | .node _ properties => some properties
  | .shared _ seen => seen.entries?
  | _ => none

end Value

end GraphMapper
