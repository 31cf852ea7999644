import GraphMapper.Script.Sight

/-!
# Arguments

An operand of a script is a value, a reference to a thing by its name, or explicitly missing.
Values and references can be mixed: a list in a script may have things among its members.  Every
container that a script writes down is a new one.

## Signatures

An operation has named parameters, some of which have to be given.  Its arguments are given in
order, or by name, or some in order and the others by name; none may be given twice and none may
be left over.  Some operations take any number of arguments in order, and some take further named
arguments as entries of a map.  A call that does not fit the signature fails before anything is
done.

A missing operand is null, but a condition whose second operand is missing has only one.
-/

namespace GraphMapper.Script

/-- A reference to a thing: a name, and the way from there through lists to one of their members.
A step that is no position leads nowhere. -/
structure Reference where
  written : String
  name : String
  path : List (Option Nat) := []

/-- An operand as a script writes it. -/
inductive Operand where
  | value (value : Value)
  | list (items : List Operand)
  | tuple (items : List Operand)
  | map (entries : List (Key × Operand))
  | node (labels : List String) (properties : List (Key × Operand))
  | reference (reference : Reference)
  | missing

/-! ## References -/

/-- The items of a list or a tuple; anything else has none. -/
def itemsOf (value : Value) : Deed (List Value) := do
  let held ← match ← itemOf? value with
    | some (_, .value held) => pure held
    | _ => pure value
  return match held with
    | .list items => items
    | .tuple items => items
    | _ => []

/-- The member at the end of a way through lists. -/
def followPath (reference : Reference) : List (Option Nat) → Value → Deed Value
  | [], value => look value
  | step :: rest, value => do
    let items ← itemsOf value
    match step.bind fun index => items[index]? with
    | some item => followPath reference rest item
    | none => Act.fail (.unbound reference.written)

/-- The thing that a reference means. -/
def Reference.resolve (reference : Reference) : Deed Value := do
  match ← named? reference.name with
  | some value => followPath reference reference.path value
  | none => Act.fail (.unbound reference.written)

/-! ## Operands -/

mutual

/-- The value of an operand.  Its containers are put down at places of their own. -/
def Operand.resolve : Operand → Deed Value
  | .value v => settle v
  | .list items => do settle (.list (← resolveAll items))
  | .tuple items => do settle (.tuple (← resolveAll items))
  | .map entries => do settle (.map (Entries.ofPairs (← resolveEntries entries)))
  | .node labels properties => do
    settle (.node labels (Entries.ofPairs (← resolveEntries properties)))
  | .reference reference => reference.resolve
  | .missing => return .null

/-- The values of operands, in order. -/
def resolveAll : List Operand → Deed (List Value)
  | [] => return []
  | operand :: rest => do
    let first ← operand.resolve
    let others ← resolveAll rest
    return first :: others

/-- The values of operands under keys, in order. -/
def resolveEntries : List (Key × Operand) → Deed (List (Key × Value))
  | [] => return []
  | (key, operand) :: rest => do
    let first ← operand.resolve
    let others ← resolveEntries rest
    return (key, first) :: others

end

/-- An argument: a value, or none if it is explicitly missing. -/
abbrev Given : Type := Option Value

/-- The argument that an operand is. -/
def Operand.given : Operand → Deed Given
  | .missing => return none
  | operand => do return some (← operand.resolve)

/-- The arguments of an operation as a script writes them. -/
structure Arguments where
  positional : List Operand := []
  named : List (String × Operand) := []

/-! ## Signatures -/

/-- What arguments an operation takes, and whether its result has to be awaited.  The thing that
an operation is called on may itself be an argument with a name, which cannot be given again. -/
structure Signature where
  own : Option String := none
  required : List String := []
  optional : List String := []
  takesAny : Bool := false
  takesMore : Bool := false
  isAwaited : Bool := false

/-- Arguments that fit a signature: those of the parameters, those that are taken in order
beyond them, and those that are taken by name beyond them. -/
structure Inputs where
  given : List (String × Given) := []
  further : List Value := []
  more : Entries := []

/-- Adds an argument by name; it takes the place of an earlier one of that name. -/
def putArgument : List (String × Given) → String × Given → List (String × Given)
  | [], e => [e]
  | other :: rest, e => if other.1 = e.1 then e :: rest else other :: putArgument rest e

/-- Arguments by name, where the last argument of a name counts. -/
def lastOfEach (named : List (String × Given)) : List (String × Given) :=
  named.foldl putArgument []

/-- Gives arguments to the parameters of a signature, if they fit. -/
def Signature.fit (signature : Signature) (positional : List Given)
    (named : List (String × Given)) : Except Fault Inputs := do
  let parameters := signature.required ++ signature.optional
  if positional.length > parameters.length && !signature.takesAny then throw .wrongKind
  let taken := parameters.take positional.length
  if named.any fun e => taken.contains e.1 || signature.own == some e.1 then throw .wrongKind
  let (own, others) := named.partition fun e => parameters.contains e.1
  if !others.isEmpty && !signature.takesMore then throw .wrongKind
  let given := taken.zip positional ++ own
  if signature.required.any fun name => !given.any fun e => e.1 == name then throw .wrongKind
  return {
    given := given
    further := (positional.drop parameters.length).map fun g => g.getD .null
    more := Entries.ofPairs (others.map fun e => (.text e.1, e.2.getD .null)) }

/-- The arguments in order, as a script gives them. -/
def positionalArguments : List Operand → Deed (List Given)
  | [] => return []
  | operand :: rest => do
    let first ← operand.given
    let others ← positionalArguments rest
    return first :: others

/-- The arguments by name, as a script gives them. -/
def namedArguments : List (String × Operand) → Deed (List (String × Given))
  | [] => return []
  | (name, operand) :: rest => do
    let first ← operand.given
    let others ← namedArguments rest
    return (name, first) :: others

/-- Resolves arguments and gives them to the parameters of a signature. -/
def Arguments.fit (arguments : Arguments) (signature : Signature) : Deed Inputs := do
  let positional ← positionalArguments arguments.positional
  let named ← namedArguments arguments.named
  Act.ofExcept (signature.fit positional (lastOfEach named))

namespace Inputs

/-- The argument of a parameter, if one is given. -/
def given? (inputs : Inputs) (parameter : String) : Option Given :=
  (inputs.given.find? fun e => e.1 == parameter).map (·.2)

/-- The value of a parameter; null if none is given. -/
def value (inputs : Inputs) (parameter : String) : Value :=
  (inputs.given? parameter).join.getD .null

/-- The value of a parameter, if one is given that is not missing. -/
def value? (inputs : Inputs) (parameter : String) : Option Value :=
  (inputs.given? parameter).join

/-- The value of a parameter with a default. -/
def valueOr (inputs : Inputs) (parameter : String) (default : Value) : Value :=
  match inputs.given? parameter with
  | some given => given.getD .null
  | none => default

/-- Whether a parameter that is on or off is on. -/
def flag (inputs : Inputs) (parameter : String) : Bool := (inputs.value parameter).isTruthy

/-- Looks at arguments again. -/
def look (inputs : Inputs) : Deed Inputs := do
  let see ← sight
  return {
    given := inputs.given.map fun e => (e.1, e.2.map see)
    further := inputs.further.map see
    more := inputs.more.map fun e => (e.1, see e.2) }

end Inputs

end GraphMapper.Script
