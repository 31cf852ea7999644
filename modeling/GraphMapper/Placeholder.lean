/-!
# Placeholders

Values never enter the text of a statement.  The text holds a placeholder, and the statement's
parameters say which value the placeholder stands for.  All placeholders of one statement come
from one allocator, which counts: a name that was handed out is never handed out again, so two
conditions on the same field cannot be confused.
-/

namespace GraphMapper

/-- A source of fresh placeholder names: a stem and how many names were handed out. -/
structure Allocator where
  stem : String := "p"
  allocated : Nat := 0
  deriving DecidableEq

namespace Allocator

/-- The `n`-th name of an allocator. -/
def nameAt (allocator : Allocator) (n : Nat) : String := allocator.stem ++ Nat.repr n

/-- The next name. -/
def fresh (allocator : Allocator) : String := allocator.nameAt (allocator.allocated + 1)

/-- The allocator after its next name was handed out. -/
def advance (allocator : Allocator) : Allocator :=
  { allocator with allocated := allocator.allocated + 1 }

@[simp] theorem advance_allocated (a : Allocator) : a.advance.allocated = a.allocated + 1 := rfl

end Allocator

end GraphMapper
