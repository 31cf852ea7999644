import GraphMapper.Console.App

/-!
# The command line

The outer layer of the maintenance commands.  It collects what a command depends on --- the
words of the command line, the variables of the environment, the file of variables and the
standard input --- runs the command, and prints what came of it.

No network is attached: the command talks to a store that answers every statement with no
records.
-/

namespace GraphMapper.CommandLine

/-- The variables of the environment that are settings. -/
def variableNames : List String :=
  ["NEO4J_URI", "NEO4J_USERNAME", "NEO4J_PASSWORD", "NEO4J_DATABASE", "NEO4J_LOG_QUERIES",
    "NEO4J_AUTO_UUID", "NEO4J_LOG_LEVEL"]

/-- The variables that are set. -/
def readEnvironment : IO Entries := do
  let found ← variableNames.mapM fun name => do
    return (← IO.getEnv name).map fun value => (Key.text name, Value.text value)
  return found.filterMap id

/-- The file of variables, if there is one. -/
def readVariables : IO (Option String) :=
  tryCatch (some <$> IO.FS.readFile ".env") fun _ => return none

/-- Everything that is left on a stream. -/
partial def readAll (stream : IO.FS.Stream) (before : String) : IO String := do
  let line ← stream.getLine
  if line.isEmpty then return before else readAll stream (before ++ line)

/-- Whether the words ask for a command that asks back. -/
def asksBack (words : List String) : Bool :=
  match Command.ofWords? words with
  | some (.clear _ false) => true
  | _ => false

/-- Runs a command and returns its exit code. -/
def run (words : List String) : IO UInt32 := do
  let sources : SettingSources :=
    { environment := ← readEnvironment, file := ← readVariables }
  let input ← if asksBack words then readAll (← IO.getStdin) "" else pure ""
  let world : World Unit := { own := () }
  let (outcome, after) := App.run words input sources world
  for entry in visibleEntries outcome.verbosity after.log do
    IO.eprintln (entry.level.text ++ " " ++ entry.message)
  for text in outcome.printed do
    IO.print text
  if let some fault := outcome.escaped? then
    IO.eprintln fault.message
  return outcome.exitCode.toUInt32

end GraphMapper.CommandLine

/-- Runs the command that the words ask for. -/
def main (words : List String) : IO UInt32 := GraphMapper.CommandLine.run words
