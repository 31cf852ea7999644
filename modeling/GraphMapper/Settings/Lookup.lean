import GraphMapper.Fault
import GraphMapper.Text.Lower
import GraphMapper.Value.Entries

/-!
# How settings are looked up

Variables are found by names: a stem and the name of the setting, letter case apart.  Whoever asks
for settings can have it otherwise, by further inputs whose names begin with an underscore:

* `_case_sensitive` makes letter case matter;
* `_env_prefix` is another stem;
* `_env_file` says which files are read, a path or several, or null for none;
* `_env_ignore_empty` leaves empty variables out;
* `_env_parse_none_str` is a text that stands for null.

Null changes nothing, but for the files.  There is only one file of variables, so all that matters
about paths is whether one of them leads to it.
-/

namespace GraphMapper

/-- How settings are looked up. -/
structure Lookup where
  caseMatters : Bool := false
  stem : String := "NEO4J_"
  readsFile : Bool := true
  skipsEmpty : Bool := false
  nullWord : Option String := none

namespace Lookup

/-- A name as it is compared with others. -/
def nameOf (rules : Lookup) (name : String) : String :=
  if rules.caseMatters then name else String.ofList (Text.lower name.toList)

/-- The value of a variable, if it counts. -/
def readVariable (rules : Lookup) (value : Value) : Option Value :=
  match value with
  | .text "" => if rules.skipsEmpty then none else some value
  | _ => some value

/-- Variables under the names that they are compared by; of names that become the same the last
counts. -/
def named (rules : Lookup) (mentions : Entries) : Entries :=
  Entries.ofPairs <| mentions.filterMap fun e =>
    (rules.readVariable e.2).map fun value =>
      (match e.1 with
      | .text name => .text (rules.nameOf name)
      | key => key, value)

/-- What is found for a setting among variables.  A variable that is only mentioned is none. -/
def find? (rules : Lookup) (mentions : Entries) (name : String) : Option Value :=
  match Entries.get? (rules.named mentions) (.text (rules.nameOf (rules.stem ++ name))) with
  | some .null => none
  | some (.text s) => some (if rules.nullWord == some s then .null else .text s)
  | found => found

/-! ## Reading the rules -/

/-- The name of the file of variables. -/
def fileName : String := ".env"

/-- Whether a path leads to the file of variables. -/
def leadsToFile (path : String) : Bool :=
  !path.startsWith "/" &&
    (path.splitOn "/").filter (fun piece => piece != "" && piece != ".") == [fileName]

/-- Whether one of several paths leads to the file of variables. -/
def anyLeadsToFile : List Value → Except Fault Bool
  | [] => .ok false
  | .text path :: rest => (anyLeadsToFile rest).map fun found => leadsToFile path || found
  | _ :: _ => .error .wrongKind

/-- Whether paths lead to the file of variables. -/
def readPaths (paths : Value) : Except Fault Bool :=
  match paths with
  | .null => .ok false
  | .text path => .ok (leadsToFile path)
  | _ =>
    match paths.members? with
    | some members => anyLeadsToFile members
    | none => .error .wrongKind

/-- The stem that a value is. -/
def readStem : Value → Except Fault String
  | .text stem => .ok stem
  | _ => .error .wrongKind

/-- The input under a name, unless it is null. -/
def input? (inputs : Entries) (name : String) : Option Value :=
  (Entries.get? inputs (.text name)).bind fun value => if value.isNull then none else some value

/-- Whether an input that is on or off is on. -/
def isOn (inputs : Entries) (name : String) : Bool :=
  ((input? inputs name).map Value.isTruthy).getD false

/-- The rules that inputs ask for. -/
def ofInputs (inputs : Entries) : Except Fault Lookup := do
  let standard : Lookup := {}
  let readsFile ← match Entries.get? inputs (.text "_env_file") with
    | some paths => readPaths paths
    | none => pure standard.readsFile
  let stem ← match input? inputs "_env_prefix" with
    | some stem => readStem stem
    | none => pure standard.stem
  return {
    caseMatters := isOn inputs "_case_sensitive"
    stem, readsFile
    skipsEmpty := isOn inputs "_env_ignore_empty"
    nullWord := match input? inputs "_env_parse_none_str" with
      | some (.text word) => some word
      | _ => none }

end Lookup

end GraphMapper
