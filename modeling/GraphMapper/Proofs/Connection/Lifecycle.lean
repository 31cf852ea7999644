import GraphMapper.Proofs.Connection.Encounters

/-!
# The life of an engine

An engine keeps its driver and its word that it is connected in two fields, and sets them at
different moments, between calls that can all fail.  What a caller may rely on is that between calls
the two agree, and that they agree with what the driver has been through.

## 1.  What is kept

`Engine.Sound` is the invariant.  The engine is connected exactly if it holds a driver, and that
driver was verified and was not closed.  No driver was closed twice: a driver is closed only while
it is held, and numbers are never used again (`fresh`).

The invariant needs that what goes wrong while connecting is ordinary.  A cancellation passes through
and may leave a driver behind that was never verified.

## 2.  What the next call does

`Engine.Answers` says what a call on a sound engine can come to, each of the four calls in turn.

## 3.  Every run

`engine_lifecycle` puts the two together for a new engine: after any sequence of calls, with any
behaviour of its drivers, the engine is sound, and its answer to whatever comes next is the one that
its state calls for.
-/

namespace GraphMapper

variable {σ : Type}

/-! ## 1.  What is kept -/

/-- The encounter is a successful closing of the driver. -/
def Encounter.closes (driver : ℕ) : Encounter → Bool
  | ⟨.driverClosed closed, none⟩ => closed == driver
  | _ => false

/-- How often a driver was closed successfully. -/
def closings (driver : ℕ) (history : List Encounter) : ℕ := history.countP (Encounter.closes driver)

theorem closings_append (driver : ℕ) (history met : List Encounter) :
    closings driver (history ++ met) = closings driver history + closings driver met :=
  List.countP_append ..

namespace Engine

/-- **The invariant of an engine** with a server, given the number of drivers and what was met. -/
structure Sound (server : ServerAddress) (engine : Engine) (drivers : ℕ)
    (history : List Encounter) : Prop where
  server : engine.server = server
  connected : engine.connected = engine.driver.isSome
  known : ∀ driver, engine.driver = some driver → driver ≤ drivers
  verified : ∀ driver, engine.driver = some driver → ⟨.verified driver, none⟩ ∈ history
  unclosed : ∀ driver, engine.driver = some driver → closings driver history = 0
  fresh : ∀ driver, drivers < driver → closings driver history = 0
  once : ∀ driver, closings driver history ≤ 1

/-- What goes wrong while connecting is ordinary. -/
def OrdinaryFailures (met : List Encounter) : Prop :=
  ∀ event failure, ⟨event, some failure⟩ ∈ met →
    event.point? = some .creation ∨ event.point? = some .verification →
    failure.kind.isOrdinary = true

theorem connectFault_of_ordinary {engine : Engine} {failure : Failure}
    (h : failure.kind.isOrdinary = true) :
    engine.connectFault failure = .connectionFailed engine.server.uri.plain (.raised failure) :=
  if_pos h

theorem afterFailure_of_ordinary {engine : Engine} {failure : Failure}
    (h : failure.kind.isOrdinary = true) : engine.afterFailure failure = engine.dropped :=
  if_pos h

namespace Sound

variable {server : ServerAddress} {engine : Engine} {drivers : ℕ} {history : List Encounter}

theorem new (uri login database : Value) (options : Entries) (drivers : ℕ) :
    Sound (Engine.new uri login database options).server (Engine.new uri login database options)
      drivers [] where
  server := rfl
  connected := rfl
  known := by simp [Engine.new]
  verified := by simp [Engine.new]
  unclosed := by simp [Engine.new]
  fresh := by simp [closings]
  once := by simp [closings]

theorem usableDriver_eq (h : engine.Sound server drivers history) :
    engine.usableDriver = engine.driver := by
  have hconnected := h.connected
  unfold usableDriver
  cases hdriver : engine.driver <;> simp_all

/-- As long as nothing is closed, it is enough that a driver which is held now was held before, or
is a new one that was verified. -/
theorem of_no_closing (h : engine.Sound server drivers history) {left : Engine} {more : ℕ}
    {met : List Encounter} (hserver : left.server = engine.server)
    (hconnected : left.connected = left.driver.isSome) (hmore : drivers ≤ more)
    (hmet : ∀ driver, closings driver met = 0)
    (hheld : ∀ driver, left.driver = some driver → engine.driver = some driver ∨
      drivers < driver ∧ driver ≤ more ∧ ⟨.verified driver, none⟩ ∈ met) :
    left.Sound server more (history ++ met) := by
  have hclosings : ∀ driver, closings driver (history ++ met) = closings driver history := by
    intro driver
    rw [closings_append, hmet, Nat.add_zero]
  refine ⟨hserver.trans h.server, hconnected, ?known, ?verified, ?unclosed, ?fresh, ?once⟩
  case known =>
    intro driver hdriver
    rcases hheld driver hdriver with hbefore | ⟨-, hnew, -⟩
    · exact Nat.le_trans (h.known driver hbefore) hmore
    · exact hnew
  case verified =>
    intro driver hdriver
    rcases hheld driver hdriver with hbefore | ⟨-, -, hverified⟩
    · exact List.mem_append_left _ (h.verified driver hbefore)
    · exact List.mem_append_right _ hverified
  case unclosed =>
    intro driver hdriver
    rw [hclosings]
    rcases hheld driver hdriver with hbefore | ⟨hnew, -, -⟩
    · exact h.unclosed driver hbefore
    · exact h.fresh driver hnew
  case fresh =>
    intro driver hdriver
    rw [hclosings]
    exact h.fresh driver (Nat.lt_of_le_of_lt hmore hdriver)
  case once =>
    intro driver
    rw [hclosings]
    exact h.once driver

/-- A call that leaves the engine as it was, and closes nothing. -/
theorem of_unchanged (h : engine.Sound server drivers history) {met : List Encounter}
    (hmet : ∀ driver, closings driver met = 0) : engine.Sound server drivers (history ++ met) :=
  h.of_no_closing rfl h.connected (Nat.le_refl _) hmet fun _ hdriver => Or.inl hdriver

/-- A failure to connect leaves no driver, whether or not one was created. -/
theorem of_dropped (h : engine.Sound server drivers history) {left : Engine} {more : ℕ}
    {met : List Encounter} (hserver : left.server = engine.server) (hmore : drivers ≤ more)
    (hmet : ∀ driver, closings driver met = 0) :
    left.dropped.Sound server more (history ++ met) :=
  h.of_no_closing hserver rfl hmore hmet fun _ hdriver => absurd hdriver (by simp [dropped])

/-- The driver that is held is closed. -/
theorem of_closed (h : engine.Sound server drivers history) {driver : ℕ}
    (hdriver : engine.driver = some driver) :
    engine.dropped.Sound server drivers (history ++ [⟨.driverClosed driver, none⟩]) := by
  have hone : ∀ other, closings other [⟨.driverClosed driver, none⟩] =
      if driver = other then 1 else 0 := by
    intro other
    simp [closings, Encounter.closes, List.countP_singleton]
  refine ⟨h.server, rfl, by simp [dropped], by simp [dropped], by simp [dropped], ?fresh, ?once⟩
  case fresh =>
    intro other hother
    have hne : driver ≠ other := Nat.ne_of_lt (Nat.lt_of_le_of_lt (h.known driver hdriver) hother)
    rw [closings_append, h.fresh other hother, hone, if_neg hne]
  case once =>
    intro other
    rw [closings_append, hone]
    by_cases hsame : driver = other
    · have hnone : closings other history = 0 := h.unclosed other (hsame ▸ hdriver)
      have hlast : (if driver = other then 1 else 0) = 1 := if_pos hsame
      omega
    · have honce := h.once other
      have hlast : (if driver = other then 1 else 0) = 0 := if_neg hsame
      omega

/-- **A step keeps the invariant.** -/
theorem step (h : engine.Sound server drivers history) {call : EngineCall} {ending : CallEnd}
    (hstep : call.Step engine drivers ending) (hordinary : OrdinaryFailures ending.met) :
    ending.engine.Sound server ending.drivers (history ++ ending.met) := by
  cases hstep with
  | connected _ | nothingToClose _ | noSession _ _ | noDriver _ | driver _ =>
    exact h.of_unchanged fun _ => rfl
  | unclosed _ _ | session _ _ _ => exact h.of_unchanged fun _ => rfl
  | uncreated _ failure =>
    have hfailure : failure.kind.isOrdinary = true :=
      hordinary _ failure List.mem_cons_self (Or.inl rfl)
    rw [afterFailure_of_ordinary hfailure]
    exact h.of_dropped rfl (Nat.le_refl _) fun _ => rfl
  | unverified _ failure =>
    have hfailure : failure.kind.isOrdinary = true :=
      hordinary _ failure (List.mem_cons_of_mem _ List.mem_cons_self) (Or.inr rfl)
    rw [afterFailure_of_ordinary hfailure]
    exact h.of_dropped rfl drivers.le_succ fun _ => rfl
  | verified _ =>
    refine h.of_no_closing rfl rfl drivers.le_succ (fun _ => rfl) fun driver hdriver => ?_
    have hnew : drivers + 1 = driver := Option.some.inj hdriver
    subst hnew
    exact Or.inr ⟨drivers.lt_succ_self, (Nat.le_refl _), by simp⟩
  | closed hdriver => exact h.of_closed hdriver

end Sound

/-! ## 2.  What the next call does -/

/-- The call fails with a connection error, since the engine is not connected. -/
def Refuses (engine : Engine) (ending : CallEnd) : Prop :=
  ending.outcome = .error engine.notConnected ∧ engine.notConnected.isConnectionError = true

/-- What a call on an engine must come to, given the number of drivers.

A failure to connect is reported as a `connectionFailed` with what the driver raised, and the engine
holds no driver.  A failure to close is passed on as it is, and leaves the engine as it was.  Only a
connected engine has a driver to show or to open a session with. -/
def Answers (engine : Engine) (drivers : ℕ) (ending : CallEnd) : EngineCall → Prop
  | .connect =>
    (engine.connected = true → ending = ⟨.ok none, engine, drivers, []⟩) ∧
    ∀ fault, ending.outcome = .error fault →
      (∃ event failure, ⟨event, some failure⟩ ∈ ending.met ∧
        fault = .connectionFailed engine.server.uri.plain (.raised failure) ∧
        fault.cause? = some (.raised failure)) ∧
      fault.isConnectionError = true ∧ ending.engine.connected = false ∧
      ending.engine.driver = none
  | .close =>
    ∀ fault, ending.outcome = .error fault →
      ending.engine = engine ∧ ending.drivers = drivers ∧
      ∃ driver failure, ending.met = [⟨.driverClosed driver, some failure⟩] ∧
        fault = .raised failure
  | .openSession requested =>
    (engine.Refuses ending ↔ engine.connected = false) ∧
    (engine.connected = false → ending.met = []) ∧
    (engine.connected = true → ∃ failure,
      ending.met = [⟨.sessionOpened (engine.databaseFor requested), failure⟩] ∧
      ending.outcome = (outcomeOf failure).map fun _ => none) ∧
    ending.engine = engine ∧ ending.drivers = drivers
  | .readDriver =>
    (engine.Refuses ending ↔ engine.connected = false) ∧
    (engine.connected = true → ending.outcome = .ok engine.driver) ∧
    ending.met = [] ∧ ending.engine = engine ∧ ending.drivers = drivers

/-- What a driver raises is not that the engine is not connected. -/
theorem map_outcomeOf_ne_notConnected (engine : Engine) (failure : Option Failure) :
    ((outcomeOf failure).map fun _ => (none : Option ℕ)) ≠ .error engine.notConnected := by
  cases failure with
  | none => simp [outcomeOf, Except.map]
  | some failure => simp [outcomeOf, Except.map, notConnected]

namespace Sound

variable {server : ServerAddress} {engine : Engine} {drivers : ℕ} {history : List Encounter}

theorem connected_of_usable (h : engine.Sound server drivers history)
    (husable : engine.usableDriver.isSome = true) : engine.connected = true := by
  rw [h.connected, ← h.usableDriver_eq, husable]

theorem not_connected_of_unusable (h : engine.Sound server drivers history)
    (hunusable : engine.usableDriver = none) : engine.connected = false := by
  rw [h.connected, ← h.usableDriver_eq, hunusable]
  rfl

/-- A failed connection, wherever it failed. -/
theorem answers_failed_connect (h : engine.Sound server drivers history) {ending : CallEnd}
    {event : Event} {failure : Failure} {left : Engine}
    (hunusable : engine.usableDriver = none) (hmet : ⟨event, some failure⟩ ∈ ending.met)
    (hordinary : failure.kind.isOrdinary = true)
    (houtcome : ending.outcome = .error (engine.connectFault failure))
    (hleft : ending.engine = left.afterFailure failure) :
    engine.Answers drivers ending .connect := by
  have hunconnected := h.not_connected_of_unusable hunusable
  rw [connectFault_of_ordinary hordinary] at houtcome
  rw [afterFailure_of_ordinary hordinary] at hleft
  refine ⟨fun hconnected => absurd hconnected (by simp [hunconnected]), ?_⟩
  intro fault hfault
  have hsame : fault = .connectionFailed engine.server.uri.plain (.raised failure) :=
    (Except.error.inj (houtcome.symm.trans hfault)).symm
  subst hsame
  exact ⟨⟨event, failure, hmet, rfl, rfl⟩, rfl, by simp [hleft, dropped], by simp [hleft, dropped]⟩

/-- **A sound engine answers as it must**, whatever its driver does. -/
theorem answers (h : engine.Sound server drivers history) {call : EngineCall} {ending : CallEnd}
    (hstep : call.Step engine drivers ending) (hordinary : OrdinaryFailures ending.met) :
    engine.Answers drivers ending call := by
  cases hstep with
  | connected husable =>
    exact ⟨fun _ => rfl, fun fault hfault => absurd hfault (by simp)⟩
  | uncreated hunusable failure =>
    have hfailure : failure.kind.isOrdinary = true :=
      hordinary _ failure List.mem_cons_self (Or.inl rfl)
    exact h.answers_failed_connect hunusable List.mem_cons_self hfailure rfl rfl
  | unverified hunusable failure =>
    have hfailure : failure.kind.isOrdinary = true :=
      hordinary _ failure (List.mem_cons_of_mem _ List.mem_cons_self) (Or.inr rfl)
    exact h.answers_failed_connect hunusable (List.mem_cons_of_mem _ List.mem_cons_self) hfailure
      rfl rfl
  | verified hunusable =>
    have hunconnected := h.not_connected_of_unusable hunusable
    exact ⟨fun hconnected => absurd hconnected (by simp [hunconnected]),
      fun fault hfault => absurd hfault (by simp)⟩
  | nothingToClose _ | closed _ =>
    exact fun fault hfault => absurd hfault (by simp)
  | unclosed _ failure =>
    intro fault hfault
    exact ⟨rfl, rfl, _, failure, rfl, (Except.error.inj hfault).symm⟩
  | noSession hunusable requested =>
    have hunconnected := h.not_connected_of_unusable hunusable
    exact ⟨⟨fun _ => hunconnected, fun _ => ⟨rfl, rfl⟩⟩, fun _ => rfl,
      fun hconnected => absurd hconnected (by simp [hunconnected]), rfl, rfl⟩
  | session husable requested failure =>
    have hconnected := h.connected_of_usable husable
    have hother := map_outcomeOf_ne_notConnected engine failure
    exact ⟨⟨fun hrefused => absurd hrefused.1 hother, fun hnot => absurd hnot (by simp [hconnected])⟩,
      fun hnot => absurd hnot (by simp [hconnected]), fun _ => ⟨failure, rfl, rfl⟩, rfl, rfl⟩
  | noDriver hunusable =>
    have hunconnected := h.not_connected_of_unusable hunusable
    exact ⟨⟨fun _ => hunconnected, fun _ => ⟨rfl, rfl⟩⟩,
      fun hconnected => absurd hconnected (by simp [hunconnected]), rfl, rfl, rfl⟩
  | driver husable =>
    have hconnected : engine.connected = true := h.connected_of_usable (by simp [husable])
    have hheld : engine.driver = some _ := h.usableDriver_eq.symm.trans husable
    exact ⟨⟨fun hrefused => absurd hrefused.1 (by simp),
        fun hnot => absurd hnot (by simp [hconnected])⟩,
      fun _ => by rw [hheld], rfl, rfl, rfl⟩

end Sound

end Engine

/-! ## 3.  Every run -/

/-- What the drivers do in a turn while they are created and verified is ordinary: they may raise
anything but a cancellation. -/
def Turn.Ordinary (turn : Turn) : Prop :=
  ∀ point failure, (point, failure) ∈ turn.script →
    point = .creation ∨ point = .verification → failure.kind.isOrdinary = true

theorem Turn.Ordinary.failures {turn : Turn} (hturn : turn.Ordinary) {met : List Encounter}
    (hscript : ∀ event failure, ⟨event, some failure⟩ ∈ met →
      ∃ point, event.point? = some point ∧ (point, failure) ∈ turn.script) :
    Engine.OrdinaryFailures met := by
  intro event failure hmem hpoint
  obtain ⟨point, hevent, hfailure⟩ := hscript event failure hmem
  rw [hevent, Option.some.injEq, Option.some.injEq] at hpoint
  exact hturn point failure hfailure hpoint

/-- **The life of an engine.**  After any calls on a new engine, however its drivers behaved, the
engine is sound: it is connected exactly if it holds a driver, that driver was verified and was not
closed, and no driver was closed twice.  Whatever it is asked next, it answers as it must. -/
theorem engine_lifecycle (index : ℕ) (uri login database : Value) (options : Entries)
    (start : World σ) (hengine : start.engines[index]? = some (.new uri login database options))
    (turns : List Turn) (hturns : ∀ turn ∈ turns, turn.Ordinary) :
    ∃ engine, (Turn.after index turns start).engines[index]? = some engine ∧
      engine.Sound (Engine.new uri login database options).server
        (Turn.after index turns start).store.drivers (Turn.history index turns start) ∧
      ∀ next : Turn, next.Ordinary → ∃ ending,
        next.call.Takes index ((Turn.after index turns start).scripted next.script) ending ∧
        engine.Answers (Turn.after index turns start).store.drivers ending next.call := by
  have hnew := Engine.Sound.new uri login database options start.store.drivers
  obtain ⟨engine, hreached, hsound⟩ := Turn.invariant
    (Engine.Sound (Engine.new uri login database options).server)
    (fun turn hturn _ _ _ _ hsound hstep hscript => hsound.step hstep
      ((hturns turn hturn).failures hscript)) hengine hnew
  rw [List.nil_append] at hsound
  refine ⟨engine, hreached, hsound, ?_⟩
  intro next hnext
  obtain ⟨ending, hstep, htakes, hmet⟩ := Turn.exists_step hreached next
  have hscript : ∀ event failure, ⟨event, some failure⟩ ∈ ending.met →
      ∃ point, event.point? = some point ∧ (point, failure) ∈ next.script := by
    intro event failure hmem
    exact Turn.mem_script_of_mem_met (hmet ▸ hmem)
  exact ⟨ending, htakes, hsound.answers hstep (hnext.failures hscript)⟩

/-- A driver that cannot be reached, one that is verified and cannot be closed at first, and then
nothing to close: one driver was closed, once, and the engine is not connected. -/
theorem engine_lifecycle_troubled :
    let start : World Unit :=
      { engines := [.new (.text "bolt://localhost:7687") .null (.text "neo4j") []], own := () }
    let unreachable : Failure := ⟨.serviceUnavailable, "no route"⟩
    let turns : List Turn := [⟨.connect, [(.verification, unreachable)]⟩, ⟨.connect, []⟩,
      ⟨.close, [(.closing, unreachable)]⟩, ⟨.openSession .null, []⟩, ⟨.close, []⟩, ⟨.close, []⟩]
    (∀ turn ∈ turns, turn.Ordinary) ∧
    closings 1 (Turn.history 0 turns start) = 0 ∧
    closings 2 (Turn.history 0 turns start) = 1 ∧
    ∃ engine, (Turn.after 0 turns start).engines[0]? = some engine ∧ engine.connected = false ∧
      engine.driver = none ∧
      ∃ ending, EngineCall.readDriver.Takes 0 ((Turn.after 0 turns start).scripted []) ending ∧
        ending.outcome = .error engine.notConnected := by
  intro start unreachable turns
  have hturns : ∀ turn ∈ turns, turn.Ordinary := by
    simp [turns, unreachable, Turn.Ordinary, FailureKind.isOrdinary]
  have hheld : (Turn.after 0 turns start).engines[0]?.map Engine.driver = some none := by
    decide +kernel
  obtain ⟨engine, hreached, hsound, hanswers⟩ :=
    engine_lifecycle 0 (.text "bolt://localhost:7687") .null (.text "neo4j") [] start rfl turns
      hturns
  have hdriver : engine.driver = none := by
    rw [hreached] at hheld
    exact Option.some.inj hheld
  have hunconnected : engine.connected = false := by
    rw [hsound.connected, hdriver]
    rfl
  obtain ⟨ending, htakes, hanswer⟩ := hanswers ⟨.readDriver, []⟩ (by simp [Turn.Ordinary])
  exact ⟨hturns, by decide +kernel, by decide +kernel, engine, hreached, hunconnected, hdriver,
    ending, htakes, (hanswer.1.mpr hunconnected).1⟩

end GraphMapper
