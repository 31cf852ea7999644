import GraphMapper.Expression.Token

/-!
# Trees of expressions

What the grammar makes of tokens.  Only as much is kept as literals need and as slips are
described with: `Tree.description` names what stands where something else was expected.
-/

namespace GraphMapper.Expression

/-- A value that is written down. -/
inductive Constant where
  | none
  | true
  | false
  | ellipsis
  | number (value : Numeral)
  | text
  deriving DecidableEq

/-- The kinds of composed expressions. -/
inductive Shape where
  | tuple
  | set
  | map
  | pair
  | unpacking
  | keyword
  | starred
  | member
  | call
  | arguments
  | sum (minus : Bool)
  | signed (minus : Bool)
  | operation
  | membership
  | comparison
  | conditional
  | anonymous
  | named
  | yielded
  | awaited
  | template
  | generator
  | setComprehension
  | mapComprehension
  deriving DecidableEq

/-- A tree: a constant, a name, a word or mark, a composed expression, several trees, or the place
of one that is missing. -/
inductive Tree where
  | constant (value : Constant)
  | name (text : String)
  | word (text : String)
  | node (shape : Shape) (parts : List Tree)
  | several (items : List Tree)
  | missing

/-- What a composed expression is called. -/
def Shape.description : Shape → String
  | .tuple => "tuple"
  | .set => "set display"
  | .map => "dict literal"
  | .pair | .unpacking | .keyword | .arguments => "expression"
  | .starred => "starred"
  | .member => "attribute"
  | .call => "function call"
  | .sum _ | .signed _ | .operation => "expression"
  | .membership | .comparison => "comparison"
  | .conditional => "conditional expression"
  | .anonymous => "lambda"
  | .named => "named expression"
  | .yielded => "yield expression"
  | .awaited => "await expression"
  | .template => "f-string expression"
  | .generator => "generator expression"
  | .setComprehension => "set comprehension"
  | .mapComprehension => "dict comprehension"

/-- What a tree is called. -/
def Tree.description : Tree → String
  | .constant .none => "None"
  | .constant .true => "True"
  | .constant .false => "False"
  | .constant .ellipsis => "ellipsis"
  | .constant _ => "literal"
  | .name _ => "name"
  | .node shape _ => shape.description
  | _ => "expression"

/-- The trees in a sequence, or a tree alone. -/
def Tree.items : Tree → List Tree
  | .several items => items
  | .missing => []
  | tree => [tree]

/-- Whether a tree is a name. -/
def Tree.name? : Tree → Option String
  | .name text => some text
  | _ => none

mutual

/-- The first part of a target of an iteration that nothing can be assigned to. -/
def Tree.invalidTarget? : Tree → Option Tree
  | .name _ => none
  | .node .tuple parts => firstInvalidTarget? parts
  | .node .starred parts => firstInvalidTarget? parts
  | .node .member _ => none
  | .node .membership parts => headInvalidTarget? parts
  | .node .comparison _ => none
  | tree => some tree

/-- The first such part among several targets. -/
def firstInvalidTarget? : List Tree → Option Tree
  | [] => none
  | tree :: rest => tree.invalidTarget?.or (firstInvalidTarget? rest)

/-- Such a part of the first of several targets. -/
def headInvalidTarget? : List Tree → Option Tree
  | [] => none
  | tree :: _ => tree.invalidTarget?

end

end GraphMapper.Expression
