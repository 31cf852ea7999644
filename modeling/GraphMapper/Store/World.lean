import GraphMapper.Store.Scripted

/-!
# The surroundings of an operation

An operation of the mapper changes four things outside itself: the store it talks to, the
engines that hold the drivers, the log, and the supply of identities.  `World` holds them,
together with whatever else the caller keeps: a callback that runs inside a transaction may
change the caller's own state, and that state has to come through the transaction.

`Act` is an operation in a world.  It ends with a result or with a fault, and either way with a
world: a fault takes nothing back.  `Act.within` is the bracket that sessions and transactions
are made of.
-/

namespace GraphMapper

/-- The parts of the mapper that write to the log. -/
inductive LogSource where
  | engine
  | gateway
  | maintenance
  deriving DecidableEq

/-- The weight of a log entry. -/
inductive LogLevel where
  | debug
  | info
  | warning
  | error
  deriving DecidableEq

/-- A line of the log. -/
structure LogEntry where
  source : LogSource
  level : LogLevel
  message : String
  deriving DecidableEq

/-- The store, the engines, the log, the number of identities drawn, and what else the caller
keeps. -/
structure World (σ : Type) where
  store : ScriptedStore := {}
  engines : List Engine := []
  log : List LogEntry := []
  identities : Nat := 0
  own : σ

/-- An operation in a world. -/
def Act (σ α : Type) : Type := World σ → Except Fault α × World σ

namespace Act

variable {σ α β : Type}

/-- Does nothing. -/
def pure (a : α) : Act σ α := fun world => (.ok a, world)

/-- One operation, and after its success the next. -/
def bind (act : Act σ α) (next : α → Act σ β) : Act σ β := fun world =>
  match act world with
  | (.ok a, after) => next a after
  | (.error fault, after) => (.error fault, after)

instance : Monad (Act σ) where
  pure := Act.pure
  bind := Act.bind

/-- Fails. -/
def fail (fault : Fault) : Act σ α := fun world => (.error fault, world)

/-- The result of a computation that needs no world. -/
def ofExcept (result : Except Fault α) : Act σ α := fun world => (result, world)

/-- What a function reads in the world. -/
def read (f : World σ → α) : Act σ α := fun world => (.ok (f world), world)

/-- Changes the world. -/
def change (f : World σ → World σ) : Act σ Unit := fun world => (.ok (), f world)

/-- Writes a line to the log. -/
def write (source : LogSource) (level : LogLevel) (message : String) : Act σ Unit :=
  change fun world => { world with log := world.log ++ [⟨source, level, message⟩] }

/-- Meets the store at a point of the conversation. -/
def meet (event : Event) : Act σ Unit := fun world =>
  let (result, store) := world.store.meet event
  (result, { world with store := store })

/-- Has the store answer a statement. -/
def answer (event : Event) : Act σ RecordSet := fun world =>
  let (result, store) := world.store.answer event
  (result, { world with store := store })

/-- Runs an operation and returns its fault as a result. -/
def attempt (act : Act σ α) : Act σ (Except Fault α) := fun world =>
  let (result, after) := act world
  (.ok result, after)

/-- Changes the fault of an operation. -/
def mapFault (f : Fault → Fault) (act : Act σ α) : Act σ α := fun world =>
  let (result, after) := act world
  (result.mapError f, after)

/-- The fault of a result. -/
def faultOf : Except Fault α → Option Fault
  | .ok _ => none
  | .error fault => some fault

/-- Runs a body and leaves what it ran in, whatever came of it.  Leaving is told the fault that
passes through.  If leaving fails, that fault takes the place of the body's outcome. -/
def within (body : Act σ α) (leave : Option Fault → Act σ Unit) : Act σ α := fun world =>
  let (result, after) := body world
  match leave (faultOf result) after with
  | (.ok (), left) => (result, left)
  | (.error fault, left) => (.error fault, left)

end Act

/-! ## Identities -/

/-- A number in hexadecimal with a given number of places. -/
def paddedHex (places n : Nat) : List Char :=
  let digits := Nat.toDigits 16 n
  List.replicate (places - digits.length) '0' ++ digits

/-- The `n`-th identity: a number of 32 places, written in groups. -/
def identityText (n : Nat) : String :=
  let digits := paddedHex 32 n
  let group (start length : Nat) : String := String.ofList ((digits.drop start).take length)
  joinTexts "-" [group 0 8, group 8 4, group 12 4, group 16 4, group 20 12]

/-- Draws a fresh identity. -/
def Act.drawIdentity {σ : Type} : Act σ String := fun world =>
  (.ok (identityText (world.identities + 1)),
    { world with identities := world.identities + 1 })

end GraphMapper
