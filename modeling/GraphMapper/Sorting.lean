import GraphMapper.Identifier
import GraphMapper.Text.Upper

/-!
# Ordering and limits

The two settings of a query that are not conditions: the property its results are ordered by,
ascending or descending, and how many of them are wanted.  The direction is accepted in any
letter case; unlike an operator it must not have white space around it.  A limit is a natural
number, and truth values are not numbers here.
-/

namespace GraphMapper

/-- The direction of an ordering. -/
inductive SortDirection where
  | ascending
  | descending
  deriving DecidableEq

/-- A direction as it is written into a statement. -/
def SortDirection.text : SortDirection → String
  | .ascending => "ASC"
  | .descending => "DESC"

/-- The direction that a value names. -/
def SortDirection.read (given : Value) : Except Fault SortDirection :=
  let word := Text.upper given.plain
  if word = "ASC" then .ok .ascending
  else if word = "DESC" then .ok .descending
  else .error (.invalidSortDirection given)

/-- The property that results are ordered by, and the direction. -/
structure Sorting where
  field : String
  direction : SortDirection
  deriving DecidableEq

/-- The limit that a value is. -/
def readLimit : Value → Except Fault Nat
  | .int n => if 0 ≤ n then .ok n.toNat else .error (.invalidLimit (.int n))
  | v => .error (.invalidLimit v)

end GraphMapper
