import GraphMapper.Settings.Dotenv
import GraphMapper.Settings.Lookup

/-!
# Settings

The settings of a mapper: where the server is and how to log in, the default database, and how
to treat statements and new nodes.  Each has a default.

A setting is looked up in four places, and the first that has it counts: the inputs that are
given directly, the environment, a file of variables, the default.  Letter case of the names
does not matter anywhere, and in the environment and in the file the names begin with a stem of
their own, unless other rules are asked for.  Names that no setting has are ignored, but the value
of a setting must fit.
-/

namespace GraphMapper

/-- The settings of a mapper. -/
structure Settings where
  uri : String := "bolt://localhost:7687"
  username : String := "neo4j"
  password : String := "password"
  database : String := "neo4j"
  logQueries : Bool := false
  autoIdentity : Bool := true
  logLevel : String := "INFO"

/-- Where settings are looked up. -/
structure SettingSources where
  given : Entries := []
  environment : Entries := []
  file : Option String := none

namespace Settings

/-- Whether a key spells a name. -/
def spells (rules : Lookup) (name : String) : Key → Bool
  | .text s => rules.nameOf s == name
  | _ => false

/-- The input for a setting that was given directly: the first one under a spelling of its
name. -/
def given? (rules : Lookup) (inputs : Entries) (name : String) : Option Value :=
  (inputs.find? fun e => spells rules name e.1).map (·.2)

/-- The input for a setting. -/
def input? (rules : Lookup) (sources : SettingSources) (name : String) : Option Value :=
  let file := if rules.readsFile then sources.file else none
  let mentions := (file.map (Dotenv.read sources.environment)).getD []
  (given? rules sources.given name).or
    ((rules.find? sources.environment name).or (rules.find? mentions name))

/-- The inputs of all settings that are found. -/
def inputs (rules : Lookup) (sources : SettingSources) : Entries :=
  ["uri", "username", "password", "database", "log_queries", "auto_uuid",
    "log_level"].filterMap fun name => (input? rules sources name).map fun v => (.text name, v)

/-- A text setting. -/
def textField (name default : String) (inputs : Entries) : Validation.Checked String :=
  Validation.optional name default (Validation.scalar name Validation.text) inputs

/-- A setting that is on or off. -/
def boolField (name : String) (default : Bool) (inputs : Entries) : Validation.Checked Bool :=
  Validation.optional name default (Validation.scalar name Validation.bool) inputs

/-- The settings that inputs make, or a report of every value that does not fit. -/
def ofInputs (found : Entries) : Except Fault Settings :=
  let standard : Settings := {}
  let uri := textField "uri" standard.uri found
  let username := textField "username" standard.username found
  let password := textField "password" standard.password found
  let database := textField "database" standard.database found
  let logQueries := boolField "log_queries" standard.logQueries found
  let autoIdentity := boolField "auto_uuid" standard.autoIdentity found
  let logLevel := textField "log_level" standard.logLevel found
  match uri.value?, username.value?, password.value?, database.value?, logQueries.value?,
    autoIdentity.value?, logLevel.value? with
  | some uri, some username, some password, some database, some logQueries,
    some autoIdentity, some logLevel =>
    .ok ⟨uri, username, password, database, logQueries, autoIdentity, logLevel⟩
  | _, _, _, _, _, _, _ =>
    .error (.invalid ⟨.settings, uri.issues ++ username.issues ++ password.issues ++
      database.issues ++ logQueries.issues ++ autoIdentity.issues ++ logLevel.issues⟩)

/-- Reads the settings by the rules that are asked for. -/
def read (sources : SettingSources) : Except Fault Settings := do
  ofInputs (inputs (← Lookup.ofInputs sources.given) sources)

end Settings

end GraphMapper
