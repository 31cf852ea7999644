import GraphMapper.Value.Entries

/-!
# Engines

An engine knows one server and keeps at most one driver for it.  Drivers are known by their
numbers.  An engine that holds a driver is not yet connected: a driver is created first and
verified afterwards, and only a verified one may be used.

Driver options that are not given take the mapper's defaults, which stand in front.
-/

namespace GraphMapper

/-- How to reach a server.  Nothing is checked here: the driver is the first to look. -/
structure ServerAddress where
  uri : Value
  login : Value
  options : Value

/-- A server, the database that sessions use unless they name another, and the driver. -/
structure Engine where
  server : ServerAddress
  defaultDatabase : Value
  driver : Option Nat := none
  connected : Bool := false

namespace Engine

/-- The options of a driver unless others are given. -/
def defaultOptions : Entries :=
  [(.text "max_connection_lifetime", .int 3600), (.text "keep_alive", .bool true),
    (.text "user_agent", .text "Neo4jFluent/0.1.0")]

/-- The database of an engine unless another is given. -/
def standardDatabase : String := "neo4j"

/-- An engine that is not connected. -/
def new (uri login database : Value) (options : Entries) : Engine :=
  { server := ⟨uri, login, .map (Entries.merge defaultOptions options)⟩
    defaultDatabase := database }

/-- The driver of an engine, if it may be used. -/
def usableDriver (engine : Engine) : Option Nat :=
  if engine.connected then engine.driver else none

/-- The database of a session: the requested one unless it is null or empty. -/
def databaseFor (engine : Engine) (requested : Value) : Value :=
  if requested.isTruthy then requested else engine.defaultDatabase

end Engine

end GraphMapper
