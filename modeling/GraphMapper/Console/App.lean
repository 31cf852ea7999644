import GraphMapper.Console.Logging
import GraphMapper.Console.Options
import GraphMapper.Console.Page
import GraphMapper.Console.Prompt
import GraphMapper.Maintenance
import GraphMapper.Settings.Basic
import GraphMapper.Store.Gateway

/-!
# The maintenance commands

`stats` shows what is in a database and `clear` empties it.  Both read the settings, connect,
do their job through a gateway and close the connection again.

A fault of the mapper or of the connection is reported in one line, and the command ends with
the exit code one.  Every other fault escapes: it is a defect or a failure that nobody expected
here, and hiding it in a line would not help.

Clearing asks first, unless it is forced, and refuses a label that is no name before it asks
anything.
-/

namespace GraphMapper

/-- How a command ends: with an exit code, or with a fault that escapes. -/
inductive Ending where
  | exit (code : Nat)
  | escaped (fault : Fault)

/-- What came of a command. -/
structure Outcome where
  printed : List String := []
  verbosity : Verbosity := .warning
  ending : Ending

namespace Outcome

/-- The exit code of a command; a fault that escapes counts as one. -/
def exitCode (outcome : Outcome) : Nat :=
  match outcome.ending with
  | .exit code => code
  | .escaped _ => 1

/-- The fault that escaped. -/
def escaped? (outcome : Outcome) : Option Fault :=
  match outcome.ending with
  | .exit _ => none
  | .escaped fault => some fault

end Outcome

namespace App

variable {σ α : Type}

/-- The exit code of a usage error. -/
def usageCode : Nat := 2

/-- The exit code of a failed command. -/
def failureCode : Nat := 1

/-- The engine that settings describe. -/
def engineOf (settings : Settings) (options : Entries) : Engine :=
  .new (.text settings.uri) (.tuple [.text settings.username, .text settings.password])
    (.text settings.database) options

/-- A gateway that settings describe, over an engine. -/
def gatewayOf (settings : Settings) (engine : Nat) : Gateway :=
  .sessions engine (.text settings.database) ⟨settings.autoIdentity, settings.logQueries⟩

/-- Adds an engine to a world and returns its number. -/
def addEngine (engine : Engine) : Act σ Nat := fun world =>
  (.ok world.engines.length, { world with engines := world.engines ++ [engine] })

/-- Connects, does a job through a gateway, and closes the connection. -/
def withGateway (settings : Settings) (job : Program (Except Fault α)) : Act σ α := do
  let engine ← addEngine (engineOf settings [])
  Act.connected engine (job.performOrFail (gatewayOf settings engine))

/-- Whether a command reports a fault in a line. -/
def isReported (fault : Fault) : Bool := fault.isMapperError || fault.isConnectionError

/-- Prints in turn and ends with a code, or with the fault of what cannot be printed. -/
def print : List (Except Fault String) → Nat → List String × Ending
  | [], code => ([], .exit code)
  | .ok text :: rest, code =>
    let (printed, ending) := print rest code
    (text :: printed, ending)
  | .error fault :: _, _ => ([], .escaped fault)

/-- Reports a fault of a job in a line, or lets it escape. -/
def reportFault (what : String) (fault : Fault) : List String × Ending :=
  if isReported fault then
    print [Page.line ("[red]" ++ what ++ ":[/red] " ++ fault.message)] failureCode
  else ([], .escaped fault)

/-- The frame with the totals. -/
def totalsFrame (settings : Settings) (statistics : Maintenance.Statistics) :
    Except Fault String :=
  Page.frame "Neo4j Statistics"
    ("[cyan]Nodes:[/cyan] " ++ statistics.nodes.plain ++
      "\n[cyan]Relationships:[/cyan] " ++ statistics.relationships.plain ++
      "\n[cyan]Labels:[/cyan] " ++ toString statistics.labels.length ++
      "\n[cyan]Relationship Types:[/cyan] " ++ toString statistics.relationshipTypes.length ++
      "\n\n[cyan]Server:[/cyan] " ++ settings.uri ++ " (database '" ++ settings.database ++ "')")

/-- The rows of a table of counts. -/
def countRows (counts : Entries) : List (String × String) :=
  counts.map fun e => (e.1.plain, e.2.plain)

/-- What the statistics command prints. -/
def statsPages (settings : Settings) (detailed : Bool) (statistics : Maintenance.Statistics) :
    List (Except Fault String) :=
  totalsFrame settings statistics ::
    if detailed then
      [Page.table "Nodes by Label" "Label" (countRows statistics.labelCounts),
        Page.table "Relationships by Type" "Type" (countRows statistics.typeCounts)]
    else []

/-- Shows what is in a database. -/
def stats (settings : Settings) (detailed : Bool) (world : World σ) :
    (List String × Ending) × World σ :=
  match withGateway settings (Maintenance.collectStatistics detailed) world with
  | (.ok statistics, after) => (print (statsPages settings detailed statistics) 0, after)
  | (.error fault, after) => (reportFault "Failed to get statistics" fault, after)

/-- What the clearing command asks. -/
def clearQuestion (settings : Settings) (label : Option String) : String :=
  let nodes := match label with
    | some name =>
      if name.isEmpty then "ALL nodes and relationships" else "all :" ++ name ++ " nodes"
    | none => "ALL nodes and relationships"
  "Delete " ++ nodes ++ " from " ++ settings.uri ++ "?"

/-- The value that a label option stands for. -/
def labelValue (label : Option String) : Value := (label.map .text).getD .null

/-- Clears a database without asking. -/
def clearNow (settings : Settings) (label : Option String) (world : World σ) :
    (List String × Ending) × World σ :=
  match withGateway settings (Maintenance.clearNodes (labelValue label)) world with
  | (.ok count, after) =>
    (print [Page.line ("[green]Deleted " ++ toString count ++ " nodes[/green]")] 0, after)
  | (.error fault, after) => (reportFault "Failed to clear data" fault, after)

/-- Checks the label of the clearing command, if there is one. -/
def checkLabel (label : Option String) : Except Fault Unit :=
  match label with
  | none => .ok ()
  | some name => (identifier labelRole (.text name)).map fun _ => ()

/-- Clears a database, after asking unless that is forced. -/
def clear (settings : Settings) (label : Option String) (force : Bool) (input : List String)
    (world : World σ) : (List String × Ending) × World σ :=
  match checkLabel label with
  | .error fault => (print [Page.line ("[red]" ++ fault.message ++ "[/red]")] failureCode, world)
  | .ok () =>
    if force then clearNow settings label world
    else
      match Prompt.confirm (clearQuestion settings label) input with
      | (asked, none) => ((asked, .exit failureCode), world)
      | (asked, some false) =>
        let (printed, ending) := print [Page.line "[yellow]Operation cancelled[/yellow]"] 0
        ((asked ++ printed, ending), world)
      | (asked, some true) =>
        let ((printed, ending), after) := clearNow settings label world
        ((asked ++ printed, ending), after)

/-- Runs a command with settings. -/
def perform (command : Command) (settings : Settings) (input : String) (world : World σ) :
    (List String × Ending) × World σ :=
  match command with
  | .stats detailed => stats settings detailed world
  | .clear label force => clear settings label force (Prompt.inputLines input) world

/-- Runs the command that a list of words asks for. -/
def run (words : List String) (input : String) (sources : SettingSources) (world : World σ) :
    Outcome × World σ :=
  match Command.ofWords? words with
  | none => ({ ending := .exit usageCode }, world)
  | some command =>
    match Settings.read sources with
    | .error fault => ({ ending := .escaped fault }, world)
    | .ok settings =>
      match Verbosity.read settings.logLevel with
      | .error fault => ({ ending := .escaped fault }, world)
      | .ok verbosity =>
        let ((printed, ending), after) := perform command settings input world
        (⟨printed, verbosity, ending⟩, after)

end App

end GraphMapper
