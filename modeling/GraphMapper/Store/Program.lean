import GraphMapper.Statement
import GraphMapper.Store.Records

/-!
# Programs over a store

An operation that talks to a store is a tree.  At a node it sends one statement, or asks for a
fresh identity, or leaves a warning in the log, and what comes back chooses the branch; at a leaf
it has its result.  Nothing in a program says *how* a statement is executed, so the same
operation runs over a session of its own, inside a transaction, or against any store that a
theorem imagines: a statement about every store is an induction on the tree.

Every branch of `send` sees either all records of the statement or the fault that ended it.
-/

namespace GraphMapper

/-- A finite conversation with a store that ends in a result. -/
inductive Program (α : Type) where
  | done (result : α)
  | send (statement : Statement) (next : Except Fault RecordSet → Program α)
  | draw (next : String → Program α)
  | warn (message : String) (next : Program α)

namespace Program

variable {α β : Type}

/-- Runs one program and then the one that its result chooses. -/
def bind : Program α → (α → Program β) → Program β
  | .done result, f => f result
  | .send statement next, f => .send statement fun answer => (next answer).bind f
  | .draw next, f => .draw fun identity => (next identity).bind f
  | .warn message next, f => .warn message (next.bind f)

instance : Monad Program where
  pure := .done
  bind := bind

/-- Changes the result of a program. -/
def map (f : α → β) (program : Program α) : Program β := program.bind fun a => .done (f a)

/-- Sends a statement, if it could be compiled, and reads its result. -/
def query (statement : Except Fault Statement) (read : RecordSet → Except Fault α) :
    Program (Except Fault α) :=
  match statement with
  | .error fault => .done (.error fault)
  | .ok statement => .send statement fun answer => .done (answer.bind read)

end Program

end GraphMapper
