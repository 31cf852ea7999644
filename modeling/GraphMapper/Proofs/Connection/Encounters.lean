import GraphMapper.Proofs.Transaction.Callback

/-!
# What an engine meets

An engine is asked for four things: to connect, to close, for a session and for its driver.  What
comes of a call depends on the engine and on what the driver does when it is asked, and a driver may
do anything.  This module says once what that can be; what holds of every run of an engine is then a
matter of a few steps.

## 1.  Encounters

The trace of a store lists what a driver was asked.  It does not say how the driver took it.  An
`Encounter` is an event with the failure that followed it, if one did.  `encounters` reads the
failures of a trace back from the script of the store.

## 2.  Steps

`EngineCall.Step` lists all that a call can come to: how it ends, the engine that it leaves, the
number of drivers there are then, and what was met on the way.  A driver is created before it is
verified, so there are two ways to fail to connect, and the second one leaves one driver more.

## 3.  Performing a call

Each part of a call is opened once, in each of the ways it can go.  `EngineCall.exists_step` puts
them together: every call on an engine of a world takes one of the steps.

## 4.  Runs

A `Turn` is a call together with what the driver is about to do, so that a list of turns is any
sequence of calls with any behaviour of the drivers.  `Turn.invariant` is the induction on the list:
what every step preserves holds after every run.
-/

namespace GraphMapper

variable {σ α : Type}

/-! ## 1.  Encounters -/

/-- An event and the failure that followed it, if there was one. -/
structure Encounter where
  event : Event
  failure : Option Failure

/-- The failure that is due at an event, and the rest of the script. -/
def due (event : Event) (script : List (Point × Failure)) :
    Option Failure × List (Point × Failure) :=
  match event.point? with
  | some point => takeFailure point script
  | none => (none, script)

/-- What comes of events in a row under a script. -/
def encounters : List (Point × Failure) → List Event → List Encounter
  | _, [] => []
  | script, event :: rest =>
    ⟨event, (due event script).1⟩ :: encounters (due event script).2 rest

/-- How an event ends, given the failure that follows it. -/
def outcomeOf : Option Failure → Except Fault Unit
  | some failure => .error (.raised failure)
  | none => .ok ()

theorem encounters_pair {script : List (Point × Failure)} {first second : Event}
    {failure after : Option Failure} (hfirst : (due first script).1 = failure)
    (hsecond : (due second (due first script).2).1 = after) :
    encounters script [first, second] = [⟨first, failure⟩, ⟨second, after⟩] := by
  rw [encounters, encounters, encounters, hfirst, hsecond]

/-- A failure that is taken was in the script, at that point. -/
theorem mem_of_takeFailure {point : Point} {script : List (Point × Failure)} {failure : Failure}
    (h : (takeFailure point script).1 = some failure) : (point, failure) ∈ script := by
  induction script with
  | nil => simp [takeFailure] at h
  | cons entry rest ih =>
    obtain ⟨other, first⟩ := entry
    unfold takeFailure at h
    by_cases hpoint : other = point
    · rw [if_pos hpoint] at h
      have hfirst : first = failure := Option.some.inj h
      simp [hpoint, hfirst]
    · rw [if_neg hpoint] at h
      exact List.mem_cons_of_mem _ (ih h)

/-- What is left of a script was in it. -/
theorem mem_of_mem_takeFailure {point : Point} {script : List (Point × Failure)}
    {entry : Point × Failure} (h : entry ∈ (takeFailure point script).2) : entry ∈ script := by
  induction script with
  | nil => simp [takeFailure] at h
  | cons first rest ih =>
    unfold takeFailure at h
    by_cases hpoint : first.1 = point
    · rw [if_pos hpoint] at h
      exact List.mem_cons_of_mem _ h
    · rw [if_neg hpoint] at h
      rcases List.mem_cons.mp h with hfirst | hrest
      · simp [hfirst]
      · exact List.mem_cons_of_mem _ (ih hrest)

/-- A failure that was met is one of the script, at the point that the event is. -/
theorem mem_of_mem_encounters {script : List (Point × Failure)} {events : List Event}
    {event : Event} {failure : Failure} (h : ⟨event, some failure⟩ ∈ encounters script events) :
    ∃ point, event.point? = some point ∧ (point, failure) ∈ script := by
  induction events generalizing script with
  | nil => simp [encounters] at h
  | cons first rest ih =>
    unfold encounters due at h
    cases hfirst : first.point? with
    | none =>
      simp only [hfirst, List.mem_cons, Encounter.mk.injEq, reduceCtorEq, and_false,
        false_or] at h
      exact ih h
    | some point =>
      simp only [hfirst, List.mem_cons, Encounter.mk.injEq] at h
      rcases h with ⟨rfl, hdue⟩ | hrest
      · exact ⟨point, hfirst, mem_of_takeFailure hdue.symm⟩
      · obtain ⟨other, hother, hmem⟩ := ih hrest
        exact ⟨other, hother, mem_of_mem_takeFailure hmem⟩

/-! ## 2.  Steps -/

/-- What can be asked of an engine. -/
inductive EngineCall where
  | connect
  | close
  | openSession (requested : Value)
  | readDriver

/-- Performs a call on the engine with a number.  Reading the driver returns its number, the other
calls return nothing. -/
def EngineCall.perform (index : ℕ) : EngineCall → Act σ (Option ℕ)
  | .connect => do
    Act.onEngine index Engine.connect
    return none
  | .close => do
    Act.onEngine index Engine.close
    return none
  | .openSession requested => do
    let engine ← Act.engine index
    engine.openSession requested
    return none
  | .readDriver => do
    let engine ← Act.engine index
    let driver ← Act.ofExcept engine.requireDriver
    return some driver

/-- What a call comes to: how it ends, the engine and the number of drivers as they are then, and
what happened in the driver. -/
structure CallEnd where
  outcome : Except Fault (Option ℕ)
  engine : Engine
  drivers : ℕ
  met : List Encounter

namespace Engine

/-- The engine once a driver was created for it. -/
def holding (engine : Engine) (driver : ℕ) : Engine := { engine with driver := some driver }

/-- The engine once its driver was verified. -/
def opened (engine : Engine) (driver : ℕ) : Engine :=
  { engine with driver := some driver, connected := true }

/-- What connecting raises when a driver cannot be had. -/
def connectFault (engine : Engine) (failure : Failure) : Fault :=
  if failure.kind.isOrdinary then .connectionFailed engine.server.uri.plain (.raised failure)
  else .raised failure

/-- What connecting leaves of an engine when a driver cannot be had. -/
def afterFailure (engine : Engine) (failure : Failure) : Engine :=
  if failure.kind.isOrdinary then engine.dropped else engine

end Engine

/-- All that a call on an engine can come to. -/
inductive EngineCall.Step (engine : Engine) (drivers : ℕ) : EngineCall → CallEnd → Prop
  | connected (h : engine.usableDriver.isSome = true) :
      Step engine drivers .connect ⟨.ok none, engine, drivers, []⟩
  | uncreated (h : engine.usableDriver = none) (failure : Failure) :
      Step engine drivers .connect ⟨.error (engine.connectFault failure),
        engine.afterFailure failure, drivers,
        [⟨.driverRequested engine.server, some failure⟩]⟩
  | unverified (h : engine.usableDriver = none) (failure : Failure) :
      Step engine drivers .connect ⟨.error (engine.connectFault failure),
        (engine.holding (drivers + 1)).afterFailure failure, drivers + 1,
        [⟨.driverRequested engine.server, none⟩, ⟨.verified (drivers + 1), some failure⟩]⟩
  | verified (h : engine.usableDriver = none) :
      Step engine drivers .connect ⟨.ok none, engine.opened (drivers + 1), drivers + 1,
        [⟨.driverRequested engine.server, none⟩, ⟨.verified (drivers + 1), none⟩]⟩
  | nothingToClose (h : engine.driver = none) :
      Step engine drivers .close ⟨.ok none, engine, drivers, []⟩
  | unclosed {driver : ℕ} (h : engine.driver = some driver) (failure : Failure) :
      Step engine drivers .close ⟨.error (.raised failure), engine, drivers,
        [⟨.driverClosed driver, some failure⟩]⟩
  | closed {driver : ℕ} (h : engine.driver = some driver) :
      Step engine drivers .close ⟨.ok none, engine.dropped, drivers,
        [⟨.driverClosed driver, none⟩]⟩
  | noSession (h : engine.usableDriver = none) (requested : Value) :
      Step engine drivers (.openSession requested)
        ⟨.error engine.notConnected, engine, drivers, []⟩
  | session (h : engine.usableDriver.isSome = true) (requested : Value)
      (failure : Option Failure) :
      Step engine drivers (.openSession requested)
        ⟨(outcomeOf failure).map fun _ => none, engine, drivers,
          [⟨.sessionOpened (engine.databaseFor requested), failure⟩]⟩
  | noDriver (h : engine.usableDriver = none) :
      Step engine drivers .readDriver ⟨.error engine.notConnected, engine, drivers, []⟩
  | driver {driver : ℕ} (h : engine.usableDriver = some driver) :
      Step engine drivers .readDriver ⟨.ok (some driver), engine, drivers, []⟩

/-! ## 3.  Performing a call -/

/-- The world after an event. -/
def World.met (event : Event) (world : World σ) : World σ :=
  { world with store := { world.store with
      events := world.events ++ [event], failures := (due event world.store.failures).2 } }

/-- The world after a line of the log. -/
def World.logged (entry : LogEntry) (world : World σ) : World σ :=
  { world with log := world.log ++ [entry] }

theorem Act.meet_eq (event : Event) (world : World σ) :
    Act.meet event world = (outcomeOf (due event world.store.failures).1, world.met event) := by
  unfold Act.meet ScriptedStore.meet World.met outcomeOf due
  cases event.point? with
  | none => rfl
  | some point =>
    dsimp only [ScriptedStore.note]
    cases h : takeFailure point world.store.failures with
    | mk failure rest => cases failure <;> rfl

theorem Act.attempt_eq {act : Act σ α} {world after : World σ} {result : Except Fault α}
    (h : act world = (result, after)) : act.attempt world = (.ok result, after) := by
  unfold Act.attempt
  rw [h]

namespace Engine

/-- The world in which a driver was created. -/
def created (server : ServerAddress) (world : World σ) : World σ :=
  let asked := world.met (.driverRequested server)
  { asked with store := { asked.store with drivers := world.store.drivers + 1 } }

theorem createDriver_eq (server : ServerAddress) (world : World σ) :
    createDriver server world =
      match (due (.driverRequested server) world.store.failures).1 with
      | some failure => (.error (.raised failure), world.met (.driverRequested server))
      | none => (.ok (world.store.drivers + 1), created server world) := by
  have hmeet := Act.meet_eq (.driverRequested server) world
  unfold createDriver
  cases hdue : (due (.driverRequested server) world.store.failures).1 with
  | some failure =>
    rw [hdue] at hmeet
    exact Act.bind_error hmeet
  | none =>
    rw [hdue] at hmeet
    exact Act.bind_ok hmeet

/-- A driver is asked for and refused. -/
theorem openDriver_refused {engine : Engine} (world : World σ) {failure : Failure}
    (h : (due (.driverRequested engine.server) world.store.failures).1 = some failure) :
    openDriver engine world =
      (.ok (.error (.raised failure), engine), world.met (.driverRequested engine.server)) := by
  have hcreate := createDriver_eq engine.server world
  rw [h] at hcreate
  unfold openDriver
  exact Act.bind_ok (Act.attempt_eq hcreate)

/-- A driver is created, and it cannot be verified. -/
theorem openDriver_unverified {engine : Engine} (world : World σ) {failure : Failure}
    (hcreated : (due (.driverRequested engine.server) world.store.failures).1 = none)
    (hverified : (due (.verified (world.store.drivers + 1))
      (created engine.server world).store.failures).1 = some failure) :
    openDriver engine world =
      (.ok (.error (.raised failure), engine.holding (world.store.drivers + 1)),
        (created engine.server world).met (.verified (world.store.drivers + 1))) := by
  have hcreate := createDriver_eq engine.server world
  rw [hcreated] at hcreate
  have hverify := Act.meet_eq (.verified (world.store.drivers + 1)) (created engine.server world)
  rw [hverified] at hverify
  unfold openDriver
  exact (Act.bind_ok (Act.attempt_eq hcreate)).trans (Act.bind_ok (Act.attempt_eq hverify))

/-- A driver is created and verified. -/
theorem openDriver_verified {engine : Engine} (world : World σ)
    (hcreated : (due (.driverRequested engine.server) world.store.failures).1 = none)
    (hverified : (due (.verified (world.store.drivers + 1))
      (created engine.server world).store.failures).1 = none) :
    openDriver engine world =
      (.ok (.ok (), engine.opened (world.store.drivers + 1)),
        ((created engine.server world).met (.verified (world.store.drivers + 1))).logged
          ⟨.engine, .info, "Connected to " ++ engine.server.uri.plain⟩) := by
  have hcreate := createDriver_eq engine.server world
  rw [hcreated] at hcreate
  have hverify := Act.meet_eq (.verified (world.store.drivers + 1)) (created engine.server world)
  rw [hverified] at hverify
  unfold openDriver
  exact (Act.bind_ok (Act.attempt_eq hcreate)).trans (Act.bind_ok (Act.attempt_eq hverify))

/-- The world when a driver is asked for. -/
def connecting (engine : Engine) (world : World σ) : World σ :=
  world.logged ⟨.engine, .info, "Connecting to " ++ engine.server.uri.plain ++
    " (default database '" ++ engine.defaultDatabase.plain ++ "')"⟩

theorem connect_of_opened {engine opened : Engine} {world after : World σ}
    (h : engine.usableDriver = none)
    (hopen : openDriver engine (engine.connecting world) = (.ok (.ok (), opened), after)) :
    connect engine world = (.ok (.ok (), opened), after) := by
  have hunusable : ¬ engine.usableDriver.isSome = true := by simp [h]
  unfold connect
  rw [if_neg hunusable]
  exact (Act.bind_ok rfl).trans (Act.bind_ok hopen)

theorem connect_of_failed {engine left : Engine} {world after : World σ} {failure : Failure}
    (h : engine.usableDriver = none)
    (hopen : openDriver engine (engine.connecting world) =
      (.ok (.error (.raised failure), left), after)) :
    ∃ lines, connect engine world =
      (.ok (.error (engine.connectFault failure), left.afterFailure failure),
        { after with log := lines }) := by
  have hunusable : ¬ engine.usableDriver.isSome = true := by simp [h]
  unfold connect connectFault afterFailure
  rw [if_neg hunusable]
  cases hkind : failure.kind.isOrdinary with
  | true =>
    refine ⟨after.log ++ [⟨.engine, .error, "Connection to " ++ engine.server.uri.plain ++
      " failed: " ++ (Fault.raised failure).message⟩],
      (Act.bind_ok rfl).trans ((Act.bind_ok hopen).trans ?_)⟩
    have hordinary : (Fault.raised failure).isOrdinary = true := hkind
    dsimp only
    rw [if_pos hordinary]
    rfl
  | false =>
    refine ⟨after.log, (Act.bind_ok rfl).trans ((Act.bind_ok hopen).trans ?_)⟩
    have hextraordinary : ¬ (Fault.raised failure).isOrdinary = true := by
      simp [Fault.isOrdinary, hkind]
    dsimp only
    rw [if_neg hextraordinary]
    rfl

theorem connect_of_connected {engine : Engine} (world : World σ)
    (h : engine.usableDriver.isSome = true) :
    connect engine world = (.ok (.ok (), engine), world) := by
  unfold connect
  rw [if_pos h]
  rfl

theorem close_of_none {engine : Engine} (world : World σ) (h : engine.driver = none) :
    close engine world = (.ok (.ok (), engine), world) := by
  unfold close
  rw [h]
  rfl

/-- Closing a driver is one event.  Only a success changes the engine. -/
theorem close_of_some {engine : Engine} (world : World σ) {driver : ℕ}
    (h : engine.driver = some driver) :
    ∃ lines, close engine world =
      (.ok (outcomeOf (due (.driverClosed driver) world.store.failures).1,
        if (due (.driverClosed driver) world.store.failures).1.isNone then engine.dropped
        else engine),
        { world.met (.driverClosed driver) with log := lines }) := by
  have hmeet (line : LogEntry) : Act.meet (.driverClosed driver) (world.logged line) =
      (outcomeOf (due (.driverClosed driver) world.store.failures).1,
        (world.logged line).met (.driverClosed driver)) :=
    Act.meet_eq (.driverClosed driver) (world.logged line)
  unfold close
  rw [h]
  dsimp only
  cases hdue : (due (.driverClosed driver) world.store.failures).1 with
  | some failure =>
    rw [hdue] at hmeet
    by_cases hconnected : engine.connected = true
    · rw [if_pos hconnected]
      exact ⟨_, (Act.bind_ok rfl).trans (Act.bind_ok (Act.attempt_eq (hmeet _)))⟩
    · rw [if_neg hconnected]
      exact ⟨_, (Act.bind_ok rfl).trans (Act.bind_ok (Act.attempt_eq (hmeet _)))⟩
  | none =>
    rw [hdue] at hmeet
    by_cases hconnected : engine.connected = true
    · rw [if_pos hconnected]
      exact ⟨_, (Act.bind_ok rfl).trans (Act.bind_ok (Act.attempt_eq (hmeet _)))⟩
    · rw [if_neg hconnected]
      exact ⟨_, (Act.bind_ok rfl).trans (Act.bind_ok (Act.attempt_eq (hmeet _)))⟩

theorem openSession_of_connected {engine : Engine} {driver : ℕ} (world : World σ)
    (requested : Value) (h : engine.usableDriver = some driver) :
    engine.openSession requested world =
      (outcomeOf (due (.sessionOpened (engine.databaseFor requested)) world.store.failures).1,
        world.met (.sessionOpened (engine.databaseFor requested))) := by
  have hrequire : Act.ofExcept engine.requireDriver world = (.ok driver, world) := by
    rw [Act.ofExcept, requireDriver, h]
  unfold openSession
  exact (Act.bind_ok hrequire).trans (Act.meet_eq _ _)

theorem openSession_of_unconnected {engine : Engine} (world : World σ) (requested : Value)
    (h : engine.usableDriver = none) :
    engine.openSession requested world = (.error engine.notConnected, world) := by
  have hrequire : Act.ofExcept engine.requireDriver world =
      (.error engine.notConnected, world) := by
    rw [Act.ofExcept, requireDriver, h]
  unfold openSession
  exact Act.bind_error hrequire

end Engine

/-- A call on an engine of a world, performed: the world keeps the engine that the call left. -/
theorem Act.onEngine_eq {index : ℕ} {call : Engine.Call σ α} {engine left : Engine}
    {world after : World σ} {result : Except Fault α} (hengine : world.engines[index]? = some engine)
    (hcall : call engine world = (.ok (result, left), after)) :
    Act.onEngine index call world =
      (result, { after with engines := after.engines.set index left }) := by
  have hread : Act.engine index world = (.ok engine, world) := by rw [Act.engine, hengine]
  unfold Act.onEngine
  exact (Act.bind_ok hread).trans (Act.bind_ok hcall)

/-- A call on an engine comes to a step. -/
structure EngineCall.Takes (index : ℕ) (world : World σ) (call : EngineCall) (step : CallEnd) :
    Prop where
  outcome : (call.perform index world).1 = step.outcome
  engine : (call.perform index world).2.engines[index]? = some step.engine
  drivers : (call.perform index world).2.store.drivers = step.drivers
  events : (call.perform index world).2.events = world.events ++ step.met.map Encounter.event
  met : encounters world.store.failures (step.met.map Encounter.event) = step.met

namespace EngineCall

variable {index : ℕ} {world : World σ} {engine : Engine}

/-- What a call returns, and the world that it leaves, say which step it was. -/
theorem takes_of_eq {call : EngineCall} {outcome : Except Fault (Option ℕ)} {left : Engine}
    {drivers : ℕ} {after : World σ} {met : List Encounter}
    (hcall : call.perform index world = (outcome, after))
    (hleft : after.engines[index]? = some left) (hdrivers : after.store.drivers = drivers)
    (hevents : after.events = world.events ++ met.map Encounter.event)
    (hmet : encounters world.store.failures (met.map Encounter.event) = met) :
    call.Takes index world ⟨outcome, left, drivers, met⟩ where
  outcome := by rw [hcall]
  engine := by rw [hcall]; exact hleft
  drivers := by rw [hcall]; exact hdrivers
  events := by rw [hcall]; exact hevents
  met := hmet

/-- A call that changes nothing and meets nothing. -/
theorem takes_of_unchanged {call : EngineCall} {outcome : Except Fault (Option ℕ)}
    (hengine : world.engines[index]? = some engine)
    (hcall : call.perform index world = (outcome, world)) :
    call.Takes index world ⟨outcome, engine, world.store.drivers, []⟩ :=
  takes_of_eq hcall hengine rfl (List.append_nil _).symm rfl

/-- A call that the engine makes: what it leaves is put back. -/
theorem takes_of_onEngine {call : EngineCall} {body : Engine.Call σ Unit}
    {left : Engine} {after : World σ} {result : Except Fault Unit} {met : List Encounter}
    (hperform : call.perform index = (do Act.onEngine index body; return none))
    (hengine : world.engines[index]? = some engine)
    (hbody : body engine world = (.ok (result, left), after))
    (hengines : after.engines = world.engines)
    (hevents : after.events = world.events ++ met.map Encounter.event)
    (hmet : encounters world.store.failures (met.map Encounter.event) = met) :
    call.Takes index world ⟨result.map fun _ => none, left, after.store.drivers, met⟩ := by
  have hput := Act.onEngine_eq hengine hbody
  have hindex : index < after.engines.length := by
    rw [hengines]
    exact (List.getElem?_eq_some_iff.mp hengine).1
  have hleft : (after.engines.set index left)[index]? = some left := by
    simp [hindex]
  have hcall : call.perform index world =
      (result.map fun _ => none, { after with engines := after.engines.set index left }) := by
    rw [hperform]
    cases result with
    | error fault => exact Act.bind_error hput
    | ok _ => exact Act.bind_ok hput
  exact takes_of_eq hcall hleft rfl hevents hmet

theorem exists_step_connect (hengine : world.engines[index]? = some engine) :
    ∃ step, Step engine world.store.drivers .connect step ∧
      EngineCall.connect.Takes index world step := by
  cases husable : engine.usableDriver with
  | some driver =>
    have hconnected : engine.usableDriver.isSome = true := by simp [husable]
    exact ⟨_, .connected hconnected, takes_of_onEngine rfl hengine
      (Engine.connect_of_connected world hconnected) rfl (List.append_nil _).symm rfl⟩
  | none =>
    cases hcreated : (due (.driverRequested engine.server) world.store.failures).1 with
    | some failure =>
      have hopen := Engine.openDriver_refused (engine.connecting world) hcreated
      obtain ⟨lines, hconnect⟩ := Engine.connect_of_failed husable hopen
      exact ⟨_, .uncreated husable failure, takes_of_onEngine rfl hengine hconnect rfl rfl
        (by simp [encounters, hcreated])⟩
    | none =>
      cases hverified : (due (.verified (world.store.drivers + 1))
          (Engine.created engine.server world).store.failures).1 with
      | some failure =>
        have hopen := Engine.openDriver_unverified (engine.connecting world)
          hcreated hverified
        obtain ⟨lines, hconnect⟩ := Engine.connect_of_failed husable hopen
        exact ⟨_, .unverified husable failure, takes_of_onEngine rfl hengine hconnect rfl
          (List.append_assoc ..) (encounters_pair hcreated hverified)⟩
      | none =>
        have hopen := Engine.openDriver_verified (engine.connecting world)
          hcreated hverified
        have hconnect := Engine.connect_of_opened husable hopen
        exact ⟨_, .verified husable, takes_of_onEngine rfl hengine hconnect rfl
          (List.append_assoc ..) (encounters_pair hcreated hverified)⟩

theorem exists_step_close (hengine : world.engines[index]? = some engine) :
    ∃ step, Step engine world.store.drivers .close step ∧
      EngineCall.close.Takes index world step := by
  cases hdriver : engine.driver with
  | none =>
    exact ⟨_, .nothingToClose hdriver, takes_of_onEngine rfl hengine
      (Engine.close_of_none world hdriver) rfl (List.append_nil _).symm rfl⟩
  | some driver =>
    obtain ⟨lines, hclose⟩ := Engine.close_of_some world hdriver
    cases hdue : (due (.driverClosed driver) world.store.failures).1 with
    | some failure =>
      rw [hdue] at hclose
      exact ⟨_, .unclosed hdriver failure, takes_of_onEngine rfl hengine hclose rfl rfl
        (by simp [encounters, hdue])⟩
    | none =>
      rw [hdue] at hclose
      exact ⟨_, .closed hdriver, takes_of_onEngine rfl hengine hclose rfl rfl
        (by simp [encounters, hdue])⟩

theorem exists_step_openSession (hengine : world.engines[index]? = some engine)
    (requested : Value) :
    ∃ step, Step engine world.store.drivers (.openSession requested) step ∧
      (EngineCall.openSession requested).Takes index world step := by
  have hread : Act.engine index world = (.ok engine, world) := by rw [Act.engine, hengine]
  cases husable : engine.usableDriver with
  | none =>
    have hcall : (EngineCall.openSession requested).perform index world =
        (.error engine.notConnected, world) :=
      (Act.bind_ok hread).trans
        (Act.bind_error (Engine.openSession_of_unconnected world requested husable))
    exact ⟨_, .noSession husable requested, takes_of_unchanged hengine hcall⟩
  | some driver =>
    have hconnected : engine.usableDriver.isSome = true := by simp [husable]
    have hopen := Engine.openSession_of_connected world requested husable
    obtain ⟨failure, hdue⟩ : ∃ failure,
        (due (.sessionOpened (engine.databaseFor requested)) world.store.failures).1 = failure :=
      ⟨_, rfl⟩
    rw [hdue] at hopen
    have hcall : (EngineCall.openSession requested).perform index world =
        ((outcomeOf failure).map fun _ => none,
          world.met (.sessionOpened (engine.databaseFor requested))) := by
      cases failure with
      | none => exact (Act.bind_ok hread).trans (Act.bind_ok hopen)
      | some _ => exact (Act.bind_ok hread).trans (Act.bind_error hopen)
    exact ⟨_, .session hconnected requested failure,
      takes_of_eq hcall hengine rfl rfl (by simp [encounters, hdue])⟩

theorem exists_step_readDriver (hengine : world.engines[index]? = some engine) :
    ∃ step, Step engine world.store.drivers .readDriver step ∧
      EngineCall.readDriver.Takes index world step := by
  have hread : Act.engine index world = (.ok engine, world) := by rw [Act.engine, hengine]
  cases husable : engine.usableDriver with
  | none =>
    have hrequire : Act.ofExcept engine.requireDriver world =
        (.error engine.notConnected, world) := by
      rw [Act.ofExcept, Engine.requireDriver, husable]
    have hcall : EngineCall.readDriver.perform index world =
        (.error engine.notConnected, world) :=
      (Act.bind_ok hread).trans (Act.bind_error hrequire)
    exact ⟨_, .noDriver husable, takes_of_unchanged hengine hcall⟩
  | some driver =>
    have hrequire : Act.ofExcept engine.requireDriver world = (.ok driver, world) := by
      rw [Act.ofExcept, Engine.requireDriver, husable]
    have hcall : EngineCall.readDriver.perform index world = (.ok (some driver), world) :=
      (Act.bind_ok hread).trans (Act.bind_ok hrequire)
    exact ⟨_, .driver husable, takes_of_unchanged hengine hcall⟩

/-- **Every call on an engine is a step**, whatever the driver does. -/
theorem exists_step (hengine : world.engines[index]? = some engine) (call : EngineCall) :
    ∃ step, Step engine world.store.drivers call step ∧ call.Takes index world step := by
  cases call with
  | connect => exact exists_step_connect hengine
  | close => exact exists_step_close hengine
  | openSession requested => exact exists_step_openSession hengine requested
  | readDriver => exact exists_step_readDriver hengine

end EngineCall

/-! ## 4.  Runs -/

/-- A call, and what the driver is about to do. -/
structure Turn where
  call : EngineCall
  script : List (Point × Failure) := []

/-- The world with another script. -/
def World.scripted (script : List (Point × Failure)) (world : World σ) : World σ :=
  { world with store := { world.store with failures := script } }

namespace Turn

variable (index : ℕ)

/-- Performs the call under its script. -/
def perform (turn : Turn) : Act σ (Option ℕ) := fun world =>
  turn.call.perform index (world.scripted turn.script)

/-- What is met in a turn: the events that it adds to the trace, as its script has them end. -/
def met (turn : Turn) (world : World σ) : List Encounter :=
  encounters turn.script ((turn.perform index world).2.events.drop world.events.length)

/-- The world after turns. -/
def after : List Turn → World σ → World σ
  | [], world => world
  | turn :: rest, world => after rest (turn.perform index world).2

/-- What is met in turns. -/
def history : List Turn → World σ → List Encounter
  | [], _ => []
  | turn :: rest, world => turn.met index world ++ history rest (turn.perform index world).2

theorem after_append (turns more : List Turn) (world : World σ) :
    after index (turns ++ more) world = after index more (after index turns world) := by
  induction turns generalizing world with
  | nil => rfl
  | cons turn rest ih => exact ih _

variable {index} {world : World σ} {engine : Engine}

/-- **Every turn takes a step**, and meets what the step says. -/
theorem exists_step (hengine : world.engines[index]? = some engine) (turn : Turn) :
    ∃ step, turn.call.Step engine world.store.drivers step ∧
      turn.call.Takes index (world.scripted turn.script) step ∧
      turn.met index world = step.met := by
  have hscripted : (world.scripted turn.script).engines[index]? = some engine := hengine
  obtain ⟨step, hstep, htakes⟩ := EngineCall.exists_step hscripted turn.call
  have hadded : (turn.perform index world).2.events.drop world.events.length =
      step.met.map Encounter.event := by
    have hevents : (turn.perform index world).2.events =
        world.events ++ step.met.map Encounter.event := htakes.events
    rw [hevents, List.drop_left]
  have hmet : turn.met index world = step.met := by
    rw [met, hadded]
    exact htakes.met
  exact ⟨step, hstep, htakes, hmet⟩

/-- A failure that is met in a turn is one of its script. -/
theorem mem_script_of_mem_met {turn : Turn} {event : Event} {failure : Failure}
    (h : ⟨event, some failure⟩ ∈ turn.met index world) :
    ∃ point, event.point? = some point ∧ (point, failure) ∈ turn.script :=
  mem_of_mem_encounters h

/-- **What every step preserves holds after every run.**  The property is one of the engine, of the
number of drivers and of what was met so far. -/
theorem invariant (P : Engine → ℕ → List Encounter → Prop) {turns : List Turn}
    (hsteps : ∀ turn ∈ turns, ∀ engine drivers earlier step, P engine drivers earlier →
      turn.call.Step engine drivers step →
      (∀ event failure, ⟨event, some failure⟩ ∈ step.met →
        ∃ point, event.point? = some point ∧ (point, failure) ∈ turn.script) →
      P step.engine step.drivers (earlier ++ step.met))
    {earlier : List Encounter} (hengine : world.engines[index]? = some engine)
    (hstart : P engine world.store.drivers earlier) :
    ∃ reached, (after index turns world).engines[index]? = some reached ∧
      P reached (after index turns world).store.drivers
        (earlier ++ history index turns world) := by
  induction turns generalizing world engine earlier with
  | nil => exact ⟨engine, hengine, by rwa [history, List.append_nil]⟩
  | cons turn rest ih =>
    obtain ⟨step, hstep, htakes, hmet⟩ := exists_step hengine turn
    have hscript : ∀ event failure, ⟨event, some failure⟩ ∈ step.met →
        ∃ point, event.point? = some point ∧ (point, failure) ∈ turn.script := by
      intro event failure hmem
      exact mem_script_of_mem_met (hmet ▸ hmem)
    have hnext := hsteps turn List.mem_cons_self engine _ earlier step hstart hstep hscript
    have hdrivers : (turn.perform index world).2.store.drivers = step.drivers := htakes.drivers
    rw [← hdrivers] at hnext
    have hrest := ih (fun later hlater => hsteps later (List.mem_cons_of_mem _ hlater))
      htakes.engine hnext
    rw [history, hmet, ← List.append_assoc]
    exact hrest

end Turn

end GraphMapper
