import GraphMapper.Expression.Parser

/-!
# Literals

An expression is a literal if it is made of constants, signed numbers, sums of a real and an
imaginary number, tuples, sets, maps and the empty set.  What a literal says is of no use here;
what matters is whether it says anything.

Members of sets and keys of maps must not be able to change, so they can be neither sets nor maps
themselves, nor tuples with such members.
-/

namespace GraphMapper.Expression

/-- Why an expression that reads is no literal, or has no value. -/
inductive LiteralFault where
  | unread (flaw : Flaw)
  | zeroCharacter
  | missingKey
  | changeable (kind : String)
  | tooLarge
  | noLiteral

/-- What can be said of the value of a literal: a real number may be too large to be combined with
an imaginary one, and a value may be changeable. -/
inductive Worth where
  | whole (size : Nat)
  | fractional
  | imaginary
  | fixed
  | changeable (kind : String)

/-- Whole numbers from this one on have no approximation as floating-point numbers. -/
def tooLargeFrom : Nat := Nat.pow 2 1024 - Nat.pow 2 970

/-- The worth of a number. -/
def Numeral.worth : Numeral → Worth
  | .whole value => .whole value
  | .fractional => .fractional
  | .imaginary => .imaginary

/-- The number that a tree is, perhaps with a sign. -/
def signedNumber? : Tree → Option Worth
  | .constant (.number value) => some value.worth
  | .node (.signed _) [.constant (.number value)] => some value.worth
  | _ => none

/-- The worth of a sum of a real and an imaginary number. -/
def sumWorth (left right : Tree) : Except LiteralFault Worth :=
  match signedNumber? left, right with
  | some (.whole size), .constant (.number .imaginary) =>
    if size < tooLargeFrom then .ok .imaginary else .error .tooLarge
  | some .fractional, .constant (.number .imaginary) => .ok .imaginary
  | _, _ => .error .noLiteral

/-- Refuses a value that can change. -/
def Worth.fix : Worth → Except LiteralFault Unit
  | .changeable kind => .error (.changeable kind)
  | _ => .ok ()

mutual

/-- The worth of a literal. -/
def worth : Tree → Except LiteralFault Worth
  | .constant (.number value) => .ok value.worth
  | .constant _ => .ok .fixed
  | .node .tuple parts => tupleWorth .fixed parts
  | .node .set parts => (setWorth parts).map fun _ => .changeable "set"
  | .node .map parts => (mapWorth parts).map fun _ => .changeable "dict"
  | .node .call [.name "set"] => .ok (.changeable "set")
  | .node (.sum _) [left, right] => sumWorth left right
  | .node (.signed _) [.constant (.number value)] => .ok value.worth
  | _ => .error .noLiteral

/-- The worth of a tuple, given that of its first members: it can change if one of them can. -/
def tupleWorth (before : Worth) : List Tree → Except LiteralFault Worth
  | [] => .ok before
  | tree :: rest =>
    match worth tree, before with
    | .error fault, _ => .error fault
    | .ok _, .changeable kind => tupleWorth (.changeable kind) rest
    | .ok (.changeable kind), _ => tupleWorth (.changeable kind) rest
    | .ok _, _ => tupleWorth .fixed rest

/-- Checks the members of a set. -/
def setWorth : List Tree → Except LiteralFault Unit
  | [] => .ok ()
  | tree :: rest =>
    match worth tree with
    | .error fault => .error fault
    | .ok value => value.fix.bind fun _ => setWorth rest

/-- Checks the keys and the values of a map. -/
def mapWorth : List Tree → Except LiteralFault Unit
  | [] => .ok ()
  | tree :: rest => (pairWorth tree).bind fun _ => mapWorth rest

/-- Checks a key and its value. -/
def pairWorth : Tree → Except LiteralFault Unit
  | .node .pair [key, value] =>
    match worth key, worth value with
    | .error fault, _ => .error fault
    | .ok _, .error fault => .error fault
    | .ok found, .ok _ => found.fix
  | .node .unpacking _ => .error .missingKey
  | _ => .error .noLiteral

end

/-- Whether the value of a literal can change; a fault if a text is no literal. -/
def readLiteral (text : List Char) : Except LiteralFault Worth :=
  if text.contains '\x00' then .error .zeroCharacter
  else
    match read (text.dropWhile fun c => c == ' ' || c == '\t') with
    | .error flaw => .error (.unread flaw)
    | .ok tree => worth tree

end GraphMapper.Expression
