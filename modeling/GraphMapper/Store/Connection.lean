import GraphMapper.Store.World

/-!
# The life of a connection

The calls on an engine.  Connecting creates a driver, verifies it, and only then counts the
engine as connected; connecting again does nothing.  Any ordinary fault on the way is reported
as a failed connection and leaves the engine without a driver.  A cancellation is not reported
as anything else: it passes through and leaves the engine as it is at that moment, which may be
with a driver that was never verified.

Closing works on any driver, verified or not.  If closing fails the engine keeps what it has.

Each call returns the engine as it is afterwards beside the outcome, because both happen
whatever the outcome is.
-/

namespace GraphMapper

namespace Engine

variable {σ α : Type}

/-- An operation on an engine: its outcome, and the engine afterwards. -/
abbrev Call (σ α : Type) : Type := Engine → Act σ (Except Fault α × Engine)

/-- The fault of using an engine that is not connected. -/
def notConnected (engine : Engine) : Fault := .notConnected engine.server.uri.plain

/-- The engine without a driver. -/
def dropped (engine : Engine) : Engine := { engine with driver := none, connected := false }

/-- Writes a line of the engine to the log. -/
def write (level : LogLevel) (message : String) : Act σ Unit :=
  .write .engine level message

/-- Creates a driver and returns its number. -/
def createDriver (server : ServerAddress) : Act σ Nat := do
  Act.meet (.driverRequested server)
  Act.change fun world =>
    { world with store := { world.store with drivers := world.store.drivers + 1 } }
  Act.read fun world => world.store.drivers

/-- Creates and verifies a driver.  The engine that comes back holds every driver that was
created. -/
def openDriver : Call σ Unit := fun engine => do
  match ← (createDriver engine.server).attempt with
  | .error fault => return (.error fault, engine)
  | .ok driver =>
    let holding := { engine with driver := some driver }
    match ← (Act.meet (.verified driver)).attempt with
    | .error fault => return (.error fault, holding)
    | .ok () =>
      write .info ("Connected to " ++ engine.server.uri.plain)
      return (.ok (), { holding with connected := true })

/-- Connects an engine, unless it is connected. -/
def connect : Call σ Unit := fun engine => do
  if engine.usableDriver.isSome then return (.ok (), engine)
  write .info ("Connecting to " ++ engine.server.uri.plain ++ " (default database '" ++
    engine.defaultDatabase.plain ++ "')")
  match ← openDriver engine with
  | (.ok (), opened) => return (.ok (), opened)
  | (.error fault, left) =>
    if fault.isOrdinary then
      write .error ("Connection to " ++ engine.server.uri.plain ++ " failed: " ++ fault.message)
      return (.error (.connectionFailed engine.server.uri.plain fault), left.dropped)
    else return (.error fault, left)

/-- Closes the driver of an engine, if it holds one. -/
def close : Call σ Unit := fun engine => do
  match engine.driver with
  | none => return (.ok (), engine)
  | some driver =>
    if engine.connected then write .info ("Closing connection to " ++ engine.server.uri.plain)
    else
      write .warning ("Driver for " ++ engine.server.uri.plain ++
        " was not fully connected; closing it anyway")
    match ← (Act.meet (.driverClosed driver)).attempt with
    | .error fault => return (.error fault, engine)
    | .ok () =>
      write .info ("Connection to " ++ engine.server.uri.plain ++ " closed")
      return (.ok (), engine.dropped)

/-- The driver of a connected engine. -/
def requireDriver (engine : Engine) : Except Fault Nat :=
  match engine.usableDriver with
  | some driver => .ok driver
  | none => .error engine.notConnected

/-- Opens a session on a database, the default one unless another is requested. -/
def openSession (engine : Engine) (requested : Value) : Act σ Unit := do
  let _ ← Act.ofExcept engine.requireDriver
  Act.meet (.sessionOpened (engine.databaseFor requested))

end Engine

/-! ## Engines of a world -/

namespace Act

variable {σ α : Type}

/-- The engine with a number. -/
def engine (index : Nat) : Act σ Engine := fun world =>
  match world.engines[index]? with
  | some engine => (.ok engine, world)
  | none => (.error .noAttribute, world)

/-- Performs a call on the engine with a number. -/
def onEngine (index : Nat) (call : Engine.Call σ α) : Act σ α := do
  let engine ← Act.engine index
  let (result, after) ← call engine
  Act.change fun world => { world with engines := world.engines.set index after }
  Act.ofExcept result

/-- Runs a body with an engine connected, and closes it afterwards. -/
def connected (index : Nat) (body : Act σ α) : Act σ α := do
  Act.onEngine index Engine.connect
  Act.within body fun _ => Act.onEngine index Engine.close

end Act

end GraphMapper
