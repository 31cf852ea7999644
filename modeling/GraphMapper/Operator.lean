import GraphMapper.Fault
import GraphMapper.Text.Blank
import GraphMapper.Text.Upper

/-!
# Comparison operators

Like names, operators are written into the text of a statement, so only the known ones are
accepted.  What is accepted is a *spelling*: letter case does not matter and neither does the
amount of white space between and around the words.  Each operator has one spelling that is
written.

`Operator.ofSpelling?` reads a normal spelling, `normalSpelling` makes one of any text, and
`Operator.read` puts the two together.  Every operator's own text is a normal spelling of it,
so reading what was written changes nothing.
-/

namespace GraphMapper

/-- The comparison operators of a condition. -/
inductive Operator where
  | equal
  | notEqual
  | less
  | lessOrEqual
  | greater
  | greaterOrEqual
  | matchesPattern
  | oneOf
  | contains
  | startsWith
  | endsWith
  deriving DecidableEq

namespace Operator

/-- An operator as it is written into a statement. -/
def text : Operator → String
  | .equal => "="
  | .notEqual => "<>"
  | .less => "<"
  | .lessOrEqual => "<="
  | .greater => ">"
  | .greaterOrEqual => ">="
  | .matchesPattern => "=~"
  | .oneOf => "IN"
  | .contains => "CONTAINS"
  | .startsWith => "STARTS WITH"
  | .endsWith => "ENDS WITH"

/-- The operator of a normal spelling.  Inequality has a second one. -/
def ofSpelling? (spelling : String) : Option Operator :=
  if spelling = "=" then some .equal
  else if spelling = "<>" then some .notEqual
  else if spelling = "!=" then some .notEqual
  else if spelling = "<" then some .less
  else if spelling = "<=" then some .lessOrEqual
  else if spelling = ">" then some .greater
  else if spelling = ">=" then some .greaterOrEqual
  else if spelling = "=~" then some .matchesPattern
  else if spelling = "IN" then some .oneOf
  else if spelling = "CONTAINS" then some .contains
  else if spelling = "STARTS WITH" then some .startsWith
  else if spelling = "ENDS WITH" then some .endsWith
  else none

@[simp] theorem ofSpelling?_text (o : Operator) : ofSpelling? o.text = some o := by
  cases o <;> decide

/-- Words with one space between them. -/
def joinWords : List (List Char) → List Char
  | [] => []
  | [word] => word
  | word :: rest => word ++ ' ' :: joinWords rest

/-- The normal form of a spelling: its words in capitals, single spaces between them. -/
def normalSpelling (s : String) : String :=
  Text.upper (String.ofList (joinWords (Text.words s.toList)))

/-- The operator that a value spells. -/
def read (given : Value) : Except Fault Operator :=
  match ofSpelling? (normalSpelling given.plain) with
  | some o => .ok o
  | none => .error (.unsupportedOperator given)

end Operator

end GraphMapper
