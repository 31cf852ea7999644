import GraphMapper.Script.Making

/-!
# Functions

The operations of a script that belong to no thing: checks of single inputs, pieces of
statements, and the making of things.

Most functions return a value.  Pieces of a statement also return what they have bound, and they
do so when they fail, because binding stops half-way.
-/

namespace GraphMapper.Script

/-- The result of a step: the thing that the step addressed, a value, the outcomes of several
calls, a piece of a statement with what it has bound, or the two sides of a condition. -/
inductive Result where
  | itself
  | value (value : Value)
  | several (outcomes : List (Except Fault Value))
  | bound (piece : Except Fault String) (binding : Binding)
  | operands (operator value : Value)

/-- The value that a result is kept as. -/
def Result.kept : Result → Value
  | .value v => v
  | .operands first second => .tuple [first, second]
  | .bound (.ok piece) _ => .text piece
  | _ => .null

/-! ## Signatures -/

/-- What a function takes. -/
def Function.signature : Function → Signature
  | .checkName => { required := ["name"], optional := ["kind"] }
  | .readOperator => { required := ["operator"] }
  | .readSortDirection => { required := ["direction"] }
  | .readLimit => { required := ["count"] }
  | .labelFragment => { required := ["labels"] }
  | .relationshipPattern => { required := ["direction", "relationshipType"] }
  | .splitOperands => { required := ["firstOperand", "value"] }
  | .whereClause => { required := ["conditions", "variable"] }
  | .whereClauseFor => { required := ["conditions"] }
  | .propertiesMap =>
    { required := ["properties"], optional := ["start", "parameters", "identityParameter"] }
  | .setClause => { required := ["properties"], optional := ["start", "parameters"] }
  | .condition | .statement | .node | .settings => { takesMore := true }
  | .allocator => { optional := ["stem"] }
  | .nodeOf => { required := ["input"] }
  | .hydrate => { required := ["stored"] }
  | .records => { optional := ["records"] }
  | .query => { required := ["gateway"], optional := ["labels"] }
  | .traversal => { required := ["source", "direction", "relationshipType"] }
  | .relationship => { required := ["sourceNode", "relationshipType"] }
  | .engine => { required := ["uri", "auth"], optional := ["database", "options"] }
  | .engineWithOptions =>
    { required := ["uri", "auth"], optional := ["database"], takesMore := true }
  | .engineOfSettings => engineOfSettingsSignature
  | .gateway =>
    { required := ["engine"], optional := ["database", "autoIdentity", "logQueries"] }
  | .gatewayOfSettings => { required := ["settings"] }
  | .collectStatistics => { required := ["gateway"], optional := ["detailed"] }
  | .clearNodes => { required := ["gateway"], optional := ["label"] }

/-- The members of a value, or the fault of one that has none. -/
def membersOf (value : Value) : Except Fault (List Value) :=
  match value.members? with
  | some members => .ok members
  | none => .error .wrongKind

/-- The entries of an optional map: null and what is empty count as no entries. -/
def optionalMap (value : Value) : Except Fault Entries :=
  match value.bare with
  | .map entries => .ok entries
  | v => if v.isTruthy then .error .wrongKind else .ok []

/-! ## Pieces of statements -/

/-- The condition that a map of named inputs describes. -/
def conditionOf (value : Value) : Except Fault Condition :=
  let isNamed (e : Key × Value) : Bool :=
    match e.1 with
    | .text _ => true
    | _ => false
  match value.bare with
  | .map inputs => if inputs.all isNamed then Condition.ofInputs inputs else .error .wrongKind
  | _ => .error .wrongKind

/-- The condition and the pattern variable that a pair describes. -/
def conditionOn (value : Value) : Except Fault (Condition × String) := do
  match ← membersOf value with
  | [inputs, var] => return (← conditionOf inputs, var.plain)
  | _ => throw .wrongKind

/-- A filter with one pattern variable. -/
def whereClauseOf (inputs : Inputs) : Except Fault String := do
  let conditions ← (← membersOf (inputs.value "conditions")).mapM conditionOf
  return whereClause conditions (inputs.value "variable").plain

/-- A filter with a pattern variable for each condition. -/
def whereClauseForOf (inputs : Inputs) : Except Fault String := do
  let conditions ← (← membersOf (inputs.value "conditions")).mapM conditionOn
  return whereClauseFor conditions

/-- Where binding starts: how many names were handed out, and what is bound already. -/
def bindingOf (inputs : Inputs) : Except Fault Binding := do
  let start ← match inputs.valueOr "start" (.int 0) with
    | .int n => pure n.toNat
    | _ => throw .wrongKind
  return ⟨{ allocated := start }, ← optionalMap (inputs.value "parameters")⟩

/-- Binds properties that can be listed. -/
def bindOf (inputs : Inputs) (bind : Binding → Entries → Except Fault String × Binding) :
    Except Fault Result := do
  let start ← bindingOf inputs
  match (inputs.value "properties").entries? with
  | some entries =>
    let (piece, final) := bind start entries
    return .bound piece final
  | none => return .bound (.error .noAttribute) start

/-- An inline map of properties. -/
def propertiesMapOf (inputs : Inputs) : Except Fault Result :=
  let identity := inputs.value "identityParameter"
  let parameter := if identity.isNull then none else some identity.plain
  bindOf inputs fun start entries => propertiesMap start entries parameter

/-- The assignments of an update. -/
def setClauseOf (inputs : Inputs) : Except Fault Result :=
  bindOf inputs (setClause Query.variableName)

/-! ## Making things -/

/-- Makes a traversal.  Only a query can be its source. -/
def traversalOf (inputs : Inputs) : Deed Value := do
  let traversal ←
    makeTraversal (inputs.value "source") (inputs.value "direction")
      (inputs.value "relationshipType")
  let _ ← queryPlace (inputs.value "source")
  return traversal

/-- Makes an engine. -/
def engineOf (inputs : Inputs) : Deed Value := do
  let options ← Act.ofExcept (optionalMap (inputs.value "options"))
  makeEngine (inputs.value "uri") (inputs.value "auth")
    (inputs.valueOr "database" (.text Engine.standardDatabase)) options

/-- Makes an engine with options by name, and notes it in the log. -/
def createEngine (inputs : Inputs) : Deed Value := do
  let uri := inputs.value "uri"
  let database := inputs.valueOr "database" (.text Engine.standardDatabase)
  Act.write .engine .debug
    ("Creating GraphEngine for " ++ uri.plain ++ " (database '" ++ database.plain ++ "')")
  makeEngine uri (inputs.value "auth") database inputs.more

/-- Makes the settings that sources describe. -/
def makeSettings (sources : SettingSources) : Deed Value := do
  make (.settings (settingFields (← Act.ofExcept (Settings.read sources))))

/-- Makes a result of records. -/
def recordsOf (inputs : Inputs) : Deed Value := do
  let records := inputs.value "records"
  let members ← if records.isTruthy then Act.ofExcept (membersOf records) else pure []
  makeRecords members

/-- Makes a node of a value: a node is one already. -/
def nodeOf (input : Value) : Deed Value := do
  match ← itemOf? input with
  | some (_, .node _) => return input
  | _ => makeNode (← Act.ofExcept (Node.ofValue input))

/-! ## Maintenance -/

/-- Counts what is in a database. -/
def statisticsOf (inputs : Inputs) : Deed Value := do
  let program := Maintenance.collectStatistics (inputs.flag "detailed")
  let statistics ← performOn (inputs.value "gateway") program
  return .map statistics.toEntries

/-! ## Calling -/

/-- A name in a role. -/
def checkedName (inputs : Inputs) : Except Fault String :=
  identifier (inputs.valueOr "kind" (.text "identifier")).plain (inputs.value "name")

/-- The relationship of a pattern. -/
def patternOf (inputs : Inputs) : Except Fault String :=
  (PathDirection.ofValue (inputs.value "direction")).pattern
    (inputs.value "relationshipType").plain

/-- What a function returns that returns a text. -/
def textFunction? (function : Function) (inputs : Inputs) : Option (Except Fault String) :=
  match function with
  | .checkName => some (checkedName inputs)
  | .readOperator => some ((Operator.read (inputs.value "operator")).map Operator.text)
  | .readSortDirection =>
    some ((SortDirection.read (inputs.value "direction")).map SortDirection.text)
  | .labelFragment => some do labelFragment (← membersOf (inputs.value "labels"))
  | .relationshipPattern => some (patternOf inputs)
  | .whereClause => some (whereClauseOf inputs)
  | .whereClauseFor => some (whereClauseForOf inputs)
  | _ => none

/-- What a function returns that makes something or talks to a store. -/
def makingFunction (function : Function) (inputs : Inputs) : Deed Value := do
  match function with
  | .readLimit => return .int (← Act.ofExcept (readLimit (inputs.value "count")))
  | .condition => make (.condition (← Act.ofExcept (Condition.ofInputs inputs.more)))
  | .statement => makeStatement (Statement.ofInputs inputs.more)
  | .allocator => make (.allocator (inputs.valueOr "stem" (.text "p")) 0)
  | .node => makeNode (← Act.ofExcept (Node.ofInputs inputs.more))
  | .nodeOf => nodeOf (inputs.value "input")
  | .hydrate => makeNode (← Act.ofExcept (Node.ofStored (inputs.value "stored")))
  | .records => recordsOf inputs
  | .query => do
    let labels ← Act.ofExcept (membersOf (inputs.valueOr "labels" (.tuple [])))
    makeQuery (inputs.value "gateway") labels
  | .traversal => traversalOf inputs
  | .relationship => makeRelationship (inputs.value "sourceNode") (inputs.value "relationshipType")
  | .engine => engineOf inputs
  | .engineWithOptions => createEngine inputs
  | .engineOfSettings => engineOfSettings (inputs.value "settings") inputs.more
  | .gateway =>
    makeGateway (inputs.value "engine") (inputs.value "database")
      (inputs.valueOr "autoIdentity" (.bool true)) (inputs.valueOr "logQueries" (.bool false))
  | .gatewayOfSettings => gatewayOfSettings (inputs.value "settings")
  | .settings => makeSettings { given := inputs.more }
  | .collectStatistics => statisticsOf inputs
  | .clearNodes =>
    return .int (← performOn (inputs.value "gateway")
      (Maintenance.clearNodes (inputs.value "label")))
  | _ => Act.fail .noAttribute

/-- Calls a function. -/
def evaluate (function : Function) (arguments : Arguments) : Deed Result := do
  let inputs ← arguments.fit function.signature
  match function with
  | .splitOperands =>
    let (operator, value) := splitOperands (inputs.value "firstOperand") (inputs.value? "value")
    return .operands operator value
  | .propertiesMap => Act.ofExcept (propertiesMapOf inputs)
  | .setClause => Act.ofExcept (setClauseOf inputs)
  | _ =>
    match textFunction? function inputs with
    | some result => return .value (.text (← Act.ofExcept result))
    | none => return .value (← settle (← makingFunction function inputs))

end GraphMapper.Script
