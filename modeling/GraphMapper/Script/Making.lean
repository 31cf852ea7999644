import GraphMapper.Script.Fields

/-!
# Engines and gateways of settings

Whatever shows the fields of settings serves as settings: engines and gateways only ever read
fields, and a field that was added to a thing is as good as one of its own.
-/

namespace GraphMapper.Script

/-- What the making of an engine of settings takes. -/
def engineOfSettingsSignature : Signature :=
  { own := some "cls", required := ["settings"], takesMore := true }

/-- Makes the engine that settings describe. -/
def engineOfSettings (settings : Value) (options : Entries) : Deed Value := do
  let uri ← readField settings (.of .uri)
  let login ← readField settings (.of .login)
  makeEngine uri login (← readField settings (.of .database)) options

/-- Makes a gateway over what is taken for an engine. -/
def makeGateway (engine database autoIdentity logQueries : Value) : Deed Value :=
  make (.gateway { connection := some (engine, database), autoIdentity, logQueries })

/-- Makes the gateway that settings describe, over an engine of its own. -/
def gatewayOfSettings (settings : Value) : Deed Value := do
  let engine ← engineOfSettings settings []
  let database ← readField settings (.of .database)
  let autoIdentity ← readField settings (.of .identitySetting)
  makeGateway engine database autoIdentity (← readField settings (.of .logQueries))

end GraphMapper.Script
