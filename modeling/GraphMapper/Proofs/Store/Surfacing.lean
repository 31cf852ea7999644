import GraphMapper.Console.App
import GraphMapper.Proofs.Connection.Encounters
import GraphMapper.Proofs.Transaction.Failures
import Mathlib.Data.Multiset.AddSub

/-!
# What becomes of a failure of the driver

A driver can fail wherever it is asked for something: when it is created or verified, when a session
is opened or left, with any statement and while any record is read, and when it is closed.  Each
operation on the way either lets a failure pass, or wraps it, or has a failure of its own that takes
its place.  This module says what arrives in the end.

The script of a store holds the failures that are still to come.  A failure leaves the script when it
is raised and not otherwise, so what was raised between two worlds is what is missing in the second
(`World.raised`).  Nothing has to be written down on the way.

## 1.  Weathering

`World.Weathers` says what happened between two worlds if no driver was created or closed: some
failures were raised, the engines are the same, and the failure that is due when the driver is closed
is the same as well.  The last one is needed because closing comes after everything else.

## 2.  Surfacing

`Act.Surfaces` says that an operation does not lose a failure: if any was raised, and all that were
raised are failures of the store, it ends with one of them, as a given function makes it.  Only the
last one arrives if there are several, as leaving a session after a failure can fail again.

## 3.  Programs

A program hears what became of a statement and may go on after a failure.  `Program.Propagates` says
that it does not: it ends with the fault that it heard.  For such programs
`Program.Propagates.surfaces` is the induction on the tree.

## 4.  Connections

Connecting and closing are not done by a gateway, and only connecting wraps what the driver raises.
`App.exists_surfaced` puts the parts together.
-/

namespace GraphMapper

variable {σ α β : Type}

/-! ## 1.  Weathering -/

/-- The failure that an answer ends with, if it does. -/
def Answer.failure? : Answer → Option Failure
  | .records _ => none
  | .refusal failure => some failure
  | .interruption _ failure => some failure

/-- The failures that a store is still to raise. -/
def ScriptedStore.pending (store : ScriptedStore) : Multiset Failure :=
  ↑(store.failures.map Prod.snd) + ↑(store.answers.filterMap Answer.failure?)

/-- What the driver raised between two worlds. -/
def World.raised (before after : World σ) : Multiset Failure :=
  before.store.pending - after.store.pending

/-- All failures are those of a store, as a gateway reports them. -/
def AllOfStore (failures : Multiset Failure) : Prop :=
  ∀ failure ∈ failures, failure.kind.isStoreFailure = true

theorem allOfStore_singleton {failure : Failure} :
    AllOfStore {failure} ↔ failure.kind.isStoreFailure = true := by
  unfold AllOfStore
  simp only [Multiset.mem_singleton, forall_eq]

theorem allOfStore_add {first second : Multiset Failure} :
    AllOfStore (first + second) ↔ AllOfStore first ∧ AllOfStore second := by
  unfold AllOfStore
  simp only [Multiset.mem_add]
  constructor
  · exact fun h => ⟨fun f hf => h f (Or.inl hf), fun f hf => h f (Or.inr hf)⟩
  · rintro ⟨hfirst, hsecond⟩ f (hf | hf)
    · exact hfirst f hf
    · exact hsecond f hf

/-- The failure that is due at a point of a conversation. -/
def World.dueAt (point : Point) (world : World σ) : Option Failure :=
  (takeFailure point world.store.failures).1

/-- What is left of a script, and what was taken. -/
theorem map_snd_takeFailure (point : Point) (script : List (Point × Failure)) :
    ((script.map Prod.snd : List Failure) : Multiset Failure) =
      ((takeFailure point script).1.toList : List Failure) +
        ((takeFailure point script).2.map Prod.snd : List Failure) := by
  induction script with
  | nil => rfl
  | cons entry rest ih =>
    obtain ⟨other, failure⟩ := entry
    unfold takeFailure
    by_cases hpoint : other = point
    · rw [if_pos hpoint]
      rfl
    · rw [if_neg hpoint]
      dsimp only
      rw [List.map_cons, List.map_cons, ← Multiset.cons_coe, ih, ← Multiset.cons_coe,
        Multiset.add_cons]

/-- Taking a failure at one point changes nothing about another. -/
theorem takeFailure_takeFailure_fst {first second : Point} (h : first ≠ second)
    (script : List (Point × Failure)) :
    (takeFailure second (takeFailure first script).2).1 = (takeFailure second script).1 := by
  induction script with
  | nil => rfl
  | cons entry rest ih =>
    obtain ⟨other, failure⟩ := entry
    by_cases hfirst : other = first
    · have hother : ¬ first = second := h
      rw [takeFailure, if_pos hfirst, takeFailure, hfirst, if_neg hother]
    · rw [takeFailure, if_neg hfirst]
      dsimp only
      rw [takeFailure, takeFailure]
      by_cases hsecond : other = second
      · rw [if_pos hsecond, if_pos hsecond]
      · rw [if_neg hsecond, if_neg hsecond]
        exact ih

/-- What happened between two worlds while no driver was created or closed: what was raised left the
script, and the engines and the next failure of closing are as they were. -/
structure World.Weathers (before : World σ) (raised : Multiset Failure) (after : World σ) : Prop where
  pending : before.store.pending = raised + after.store.pending
  engines : after.engines = before.engines
  closing : after.dueAt .closing = before.dueAt .closing

namespace World

theorem Weathers.refl (world : World σ) : world.Weathers 0 world :=
  ⟨(Multiset.zero_add _).symm, rfl, rfl⟩

theorem Weathers.trans {first second third : World σ} {raised more : Multiset Failure}
    (h : first.Weathers raised second) (hmore : second.Weathers more third) :
    first.Weathers (raised + more) third where
  pending := by rw [h.pending, hmore.pending, Multiset.add_assoc]
  engines := hmore.engines.trans h.engines
  closing := hmore.closing.trans h.closing

theorem raised_eq {before after : World σ} {raised : Multiset Failure}
    (h : before.store.pending = raised + after.store.pending) : before.raised after = raised := by
  rw [World.raised, h, Multiset.add_sub_cancel_right]

theorem raised_self (world : World σ) : world.raised world = 0 :=
  raised_eq (Multiset.zero_add _).symm

theorem due_eq {event : Event} {point : Point} (h : event.point? = some point) (world : World σ) :
    (due event world.store.failures).1 = world.dueAt point := by
  rw [due, h]
  rfl

/-- What an event raises leaves the script. -/
theorem pending_met {event : Event} {point : Point} (h : event.point? = some point)
    (world : World σ) :
    world.store.pending =
      ((world.dueAt point).toList : List Failure) + (world.met event).store.pending := by
  unfold dueAt ScriptedStore.pending met due
  rw [h]
  dsimp only
  rw [map_snd_takeFailure point, Multiset.add_assoc]

theorem dueAt_met {event : Event} {point other : Point} (h : event.point? = some point)
    (hother : point ≠ other) (world : World σ) :
    (world.met event).dueAt other = world.dueAt other := by
  unfold dueAt met due
  rw [h]
  exact takeFailure_takeFailure_fst hother world.store.failures

theorem weathers_met {event : Event} {point : Point} (h : event.point? = some point)
    (hpoint : point ≠ .closing) (world : World σ) :
    world.Weathers ((world.dueAt point).toList : List Failure) (world.met event) :=
  ⟨pending_met h world, rfl, dueAt_met h hpoint world⟩

end World

/-! ## 2.  Surfacing -/

namespace Act

variable {arrives : Failure → Fault}

/-- An operation does not lose a failure of the store: if failures are raised on the way, and all of
them are failures of the store, it ends with one of them. -/
def Surfaces (arrives : Failure → Fault) (act : Act σ α) : Prop :=
  ∀ world : World σ, ∃ raised, world.Weathers raised (act world).2 ∧
    (raised ≠ 0 → AllOfStore raised → ∃ failure ∈ raised, (act world).1 = .error (arrives failure))

/-- What raises nothing loses nothing. -/
theorem surfaces_of_weathers {act : Act σ α} (h : ∀ world : World σ, world.Weathers 0 (act world).2) :
    act.Surfaces arrives :=
  fun world => ⟨0, h world, fun hraised => absurd rfl hraised⟩

theorem surfaces_ofExcept (result : Except Fault α) :
    (Act.ofExcept result : Act σ α).Surfaces arrives :=
  surfaces_of_weathers fun world => .refl world

theorem surfaces_write (source : LogSource) (level : LogLevel) (message : String) :
    (Act.write source level message : Act σ Unit).Surfaces arrives :=
  surfaces_of_weathers fun _ => ⟨(Multiset.zero_add _).symm, rfl, rfl⟩

theorem surfaces_drawIdentity : (Act.drawIdentity : Act σ String).Surfaces arrives :=
  surfaces_of_weathers fun _ => ⟨(Multiset.zero_add _).symm, rfl, rfl⟩

/-- A point of a conversation other than closing. -/
theorem surfaces_meet {event : Event} {point : Point} (h : event.point? = some point)
    (hpoint : point ≠ .closing) : (Act.meet event : Act σ Unit).Surfaces .raised := by
  intro world
  have hweathers := World.weathers_met h hpoint world
  rw [Act.meet_eq, World.due_eq h]
  refine ⟨_, hweathers, ?_⟩
  cases world.dueAt point with
  | none => exact fun hraised => absurd rfl hraised
  | some failure => exact fun _ _ => ⟨failure, List.mem_singleton.mpr rfl, rfl⟩

theorem surfaces_answer (event : Event) : (Act.answer event : Act σ RecordSet).Surfaces .raised := by
  intro world
  cases hanswers : world.store.answers with
  | nil =>
    have hanswer : Act.answer event world =
        (.ok {}, { world with store := world.store.note event }) := by
      unfold Act.answer ScriptedStore.answer
      dsimp only [ScriptedStore.note]
      rw [hanswers]
    rw [hanswer]
    exact ⟨0, ⟨(Multiset.zero_add _).symm, rfl, rfl⟩, fun hraised => absurd rfl hraised⟩
  | cons next rest =>
    have hanswer : Act.answer event world = (next.result,
        { world with store := { world.store.note event with answers := rest } }) := by
      unfold Act.answer ScriptedStore.answer
      dsimp only [ScriptedStore.note]
      rw [hanswers]
    rw [hanswer]
    refine ⟨(next.failure?.toList : List Failure), ⟨?_, rfl, rfl⟩, ?_⟩
    · have hleft : (next :: rest).filterMap Answer.failure? =
          next.failure?.toList ++ rest.filterMap Answer.failure? := by
        cases next <;> rfl
      unfold ScriptedStore.pending
      rw [hanswers, hleft, ← Multiset.coe_add, ← Multiset.add_assoc,
        Multiset.add_comm _ (next.failure?.toList : Multiset Failure), Multiset.add_assoc]
      rfl
    · intro hraised _
      cases next with
      | records rows => exact absurd rfl hraised
      | refusal failure | interruption rows failure =>
        exact ⟨failure, List.mem_singleton.mpr rfl, rfl⟩

theorem Surfaces.bind {act : Act σ α} {next : α → Act σ β} (h : act.Surfaces arrives)
    (hnext : ∀ a, (next a).Surfaces arrives) : (act >>= next).Surfaces arrives := by
  intro world
  obtain ⟨raised, hweathers, hends⟩ := h world
  cases hact : act world with
  | mk result after =>
    rw [hact] at hweathers hends
    cases result with
    | error fault =>
      rw [bind_error hact]
      refine ⟨raised, hweathers, fun hraised hstore => ?_⟩
      obtain ⟨failure, hfailure, hfault⟩ := hends hraised hstore
      exact ⟨failure, hfailure, by rw [Except.error.inj hfault]⟩
    | ok a =>
      rw [bind_ok hact]
      obtain ⟨more, hmore, hlater⟩ := hnext a after
      refine ⟨raised + more, hweathers.trans hmore, fun hraised hstore => ?_⟩
      obtain ⟨hfirst, hsecond⟩ := allOfStore_add.mp hstore
      -- The first part returned, so nothing was raised in it.
      have hnone : raised = 0 := by
        by_contra hsome
        obtain ⟨failure, -, hfault⟩ := hends hsome hfirst
        exact absurd hfault (by simp)
      rw [hnone, Multiset.zero_add] at hraised ⊢
      exact hlater hraised hsecond

/-- Leaving a bracket can fail as well, and then it is that failure which arrives. -/
theorem Surfaces.within {body : Act σ α} (h : body.Surfaces .raised) {event : Option Fault → Event}
    {point : Point} (hevent : ∀ passing, (event passing).point? = some point)
    (hpoint : point ≠ .closing) :
    (Act.within body fun passing => Act.meet (event passing)).Surfaces .raised := by
  intro world
  obtain ⟨raised, hweathers, hends⟩ := h world
  cases hbody : body world with
  | mk result after =>
    rw [hbody] at hweathers hends
    have hmore := World.weathers_met (hevent (faultOf result)) hpoint after
    have hmeet := Act.meet_eq (event (faultOf result)) after
    rw [World.due_eq (hevent (faultOf result))] at hmeet
    refine ⟨raised + ((after.dueAt point).toList : List Failure), ?_⟩
    cases hdue : after.dueAt point with
    | none =>
      rw [hdue] at hmeet hmore
      rw [within_ok hbody hmeet]
      refine ⟨hweathers.trans hmore, fun hraised hstore => ?_⟩
      have hsame : raised + (((none : Option Failure).toList : List Failure) : Multiset Failure) =
          raised := Multiset.add_zero raised
      rw [hsame] at hraised hstore ⊢
      exact hends hraised hstore
    | some failure =>
      rw [hdue] at hmeet hmore
      rw [within_error hbody hmeet]
      refine ⟨hweathers.trans hmore, fun _ _ => ⟨failure, ?_, rfl⟩⟩
      exact Multiset.mem_add.mpr (Or.inr (List.mem_singleton.mpr rfl))

theorem Surfaces.mapFault {act : Act σ α} (h : act.Surfaces arrives) {f : Fault → Fault}
    {becomes : Failure → Fault}
    (hf : ∀ failure : Failure, failure.kind.isStoreFailure = true →
      f (arrives failure) = becomes failure) : (act.mapFault f).Surfaces becomes := by
  intro world
  obtain ⟨raised, hweathers, hends⟩ := h world
  refine ⟨raised, hweathers, fun hraised hstore => ?_⟩
  obtain ⟨failure, hfailure, hfault⟩ := hends hraised hstore
  refine ⟨failure, hfailure, ?_⟩
  change (act world).1.mapError f = _
  rw [hfault, ← hf failure (hstore failure hfailure)]
  rfl

end Act

namespace Gateway

theorem surfaces_enterSession (engine : ℕ) (database : Value) :
    (enterSession engine database : Act σ Unit).Surfaces .raised := by
  intro world
  rcases enterSession_cases engine database world with ⟨fault, -, hrefused⟩ | ⟨requested, hasked⟩
  · rw [hrefused]
    exact ⟨0, .refl world, fun hraised => absurd rfl hraised⟩
  · rw [hasked]
    have hopening : (Event.sessionOpened requested).point? = some .opening := rfl
    exact Act.surfaces_meet hopening (by decide) world

theorem surfaces_submit (event : Value → Entries → Event) (text parameters : Value) :
    (submit event text parameters : Act σ RecordSet).Surfaces .raised := by
  unfold submit
  cases parameters.entries? with
  | none => exact Act.surfaces_of_weathers fun world => .refl world
  | some entries => exact Act.surfaces_answer (event text entries)

/-- A failure as a gateway reports it that was executing a statement. -/
def reported (failure : Failure) : Fault := .storeFailure .statement (.raised failure)

/-- **A gateway does not lose a failure**: it reports one that was raised while it ran a statement. -/
theorem surfaces_run (gateway : Gateway) (statement : Statement) :
    (gateway.run statement : Act σ RecordSet).Surfaces reported := by
  have hlog (text parameters : Value) :
      (logStatement gateway.options text parameters : Act σ Unit).Surfaces reported :=
    Act.surfaces_write _ _ _
  have hreport (failure : Failure) (h : failure.kind.isStoreFailure = true) :
      report .statement (.raised failure) = reported failure := report_of_isStoreFailure h
  refine (hlog _ _).bind fun _ => Act.Surfaces.mapFault ?_ hreport
  cases gateway with
  | sessions engine database options =>
    dsimp only
    rw [inSession_eq]
    have hleaving (passing : Option Fault) :
        (Event.sessionLeft passing).point? = some .leavingSession := rfl
    exact (surfaces_enterSession engine database).bind fun _ =>
      (surfaces_submit .ran _ _).within hleaving (by decide)
  | transaction options => exact surfaces_submit .transactionRan _ _

end Gateway

/-! ## 3.  Programs -/

namespace Program

/-- A program ends with a fault when it hears it. -/
def Propagates : Program (Except Fault α) → Prop
  | .done _ => True
  | .send _ next => (∀ fault, next (.error fault) = .done (.error fault)) ∧
      ∀ records, (next (.ok records)).Propagates
  | .draw next => ∀ identity, (next identity).Propagates
  | .warn _ next => next.Propagates

/-- A statement that is compiled, sent and read. -/
theorem propagates_query (statement : Except Fault Statement)
    (read : RecordSet → Except Fault α) : (query statement read).Propagates := by
  cases statement with
  | error fault => exact trivial
  | ok statement => exact ⟨fun fault => rfl, fun records => trivial⟩

/-- Programs in a row, each with what the one before returned. -/
theorem Propagates.bind {program : ExceptT Fault Program α} {next : α → ExceptT Fault Program β}
    (h : Program.Propagates program) (hnext : ∀ a, Program.Propagates (next a)) :
    Program.Propagates (program >>= next : ExceptT Fault Program β) := by
  change Propagates (Program.bind program (ExceptT.bindCont next))
  induction program with
  | done result =>
    cases result with
    | ok a => exact hnext a
    | error fault => exact trivial
  | send statement more ih =>
    obtain ⟨hfault, hrecords⟩ := h
    refine ⟨fun fault => ?_, fun records => ih _ (hrecords records)⟩
    change (more (.error fault)).bind (ExceptT.bindCont next) = _
    rw [hfault]
    rfl
  | draw more ih => exact fun identity => ih identity (h identity)
  | warn message more ih => exact ih h

/-- A program that propagates goes on after a statement only if it was answered. -/
theorem performOrFail_send {statement : Statement}
    {next : Except Fault RecordSet → Program (Except Fault α)}
    (h : ∀ fault, next (.error fault) = .done (.error fault)) (gateway : Gateway) :
    (performOrFail gateway (.send statement next) : Act σ α) =
      (gateway.run statement >>= fun records => performOrFail gateway (next (.ok records))) := by
  have hattempt : (performOrFail gateway (.send statement next) : Act σ α) =
      ((gateway.run statement).attempt >>= fun answer => performOrFail gateway (next answer)) :=
    Act.bind_assoc _ _ _
  rw [hattempt]
  funext world
  cases hrun : gateway.run statement world with
  | mk answer after =>
    rw [Act.bind_ok (Act.attempt_eq hrun)]
    cases answer with
    | ok records => rw [Act.bind_ok hrun]
    | error fault =>
      rw [Act.bind_error hrun, h fault]
      rfl

/-- **A program that propagates does not lose a failure.** -/
theorem Propagates.surfaces {program : Program (Except Fault α)} (h : program.Propagates)
    (gateway : Gateway) :
    (program.performOrFail gateway : Act σ α).Surfaces Gateway.reported := by
  induction program with
  | done result => exact Act.surfaces_ofExcept result
  | send statement next ih =>
    obtain ⟨hfault, hrecords⟩ := h
    rw [performOrFail_send hfault]
    exact (gateway.surfaces_run statement).bind fun records => ih _ (hrecords records)
  | draw next ih =>
    have hdraw : (performOrFail gateway (.draw next) : Act σ α) =
        (Act.drawIdentity >>= fun identity => performOrFail gateway (next identity)) :=
      Act.bind_assoc _ _ _
    rw [hdraw]
    exact Act.surfaces_drawIdentity.bind fun identity => ih identity (h identity)
  | warn message next ih =>
    have hwarn : (performOrFail gateway (.warn message next) : Act σ α) =
        (Act.write .maintenance .warning message >>= fun _ => performOrFail gateway next) :=
      Act.bind_assoc _ _ _
    rw [hwarn]
    exact (Act.surfaces_write _ _ _).bind fun _ => ih h

end Program

/-! ## 4.  Connections -/

namespace App

/-- The failure of closing that comes after a job: the driver could be created and verified. -/
def closingFailure? (world : World σ) : Option Failure :=
  if world.dueAt .creation = none ∧ world.dueAt .verification = none then world.dueAt .closing
  else none

/-- A failure of the store is ordinary. -/
theorem isOrdinary_of_isStoreFailure {kind : FailureKind} (h : kind.isStoreFailure = true) :
    kind.isOrdinary = true := by
  cases kind <;> first | rfl | exact absurd h (by decide)

/-- What becomes of the failures that are raised while a command does its job over a connection. -/
structure Surfaced (settings : Settings) (world : World σ) (raised : Multiset Failure)
    (outcome : Except Fault α × World σ) : Prop where
  pending : world.store.pending = raised + outcome.2.store.pending
  closing : ∀ failure, closingFailure? world = some failure →
    failure ∈ raised ∧ outcome.1 = .error (.raised failure)
  other : closingFailure? world = none → raised ≠ 0 → AllOfStore raised →
    ∃ failure ∈ raised, outcome.1 = .error (.connectionFailed settings.uri (.raised failure)) ∨
      outcome.1 = .error (Gateway.reported failure)

/-- A world with one more engine. -/
def withEngine (engine : Engine) (world : World σ) : World σ :=
  { world with engines := world.engines ++ [engine] }

/-- A job is done over a new connection. -/
theorem withGateway_eq (settings : Settings) (job : Program (Except Fault α)) (world : World σ) :
    withGateway settings job world =
      Act.connected world.engines.length
        (job.performOrFail (gatewayOf settings world.engines.length))
        (withEngine (engineOf settings []) world) :=
  Act.bind_ok rfl

theorem getElem?_withEngine (engine : Engine) (world : World σ) :
    (withEngine engine world).engines[world.engines.length]? = some engine :=
  List.getElem?_concat_length ..

/-- A connection that cannot be had is reported as such. -/
theorem surfaced_of_connect_error {settings : Settings} (job : Program (Except Fault α))
    {world after : World σ} {left : Engine} {failure : Failure}
    (hconnect : Engine.connect (engineOf settings []) (withEngine (engineOf settings []) world) =
      (.ok (.error ((engineOf settings []).connectFault failure), left), after))
    (hpending : world.store.pending = {failure} + after.store.pending)
    (hclosing : closingFailure? world = none) :
    Surfaced settings world {failure} (withGateway settings job world) := by
  rw [withGateway_eq, Act.connected,
    Act.bind_error (Act.onEngine_eq (getElem?_withEngine _ world) hconnect)]
  refine ⟨hpending, fun other hother => ?_, fun _ _ hstore => ?_⟩
  · rw [hclosing] at hother
    exact absurd hother (by simp)
  · have hordinary := isOrdinary_of_isStoreFailure (allOfStore_singleton.mp hstore)
    refine ⟨failure, Multiset.mem_singleton_self failure, Or.inl ?_⟩
    dsimp only
    rw [Engine.connectFault, if_pos hordinary]
    rfl

/-- The job is done, and then the driver is closed. -/
theorem exists_surfaced_of_connected {settings : Settings} {world ready : World σ} {engine : Engine}
    {index driver : ℕ} {body : Act σ α} (hbody : body.Surfaces Gateway.reported)
    (hengine : ready.engines[index]? = some engine) (hdriver : engine.driver = some driver)
    (hpending : world.store.pending = ready.store.pending)
    (hclosing : closingFailure? world = ready.dueAt .closing) :
    ∃ raised, Surfaced settings world raised
      (Act.within body (fun _ => Act.onEngine index Engine.close) ready) := by
  obtain ⟨raised, hweathers, hends⟩ := hbody ready
  cases hresult : body ready with
  | mk result after =>
    rw [hresult] at hweathers hends
    have hfound : after.engines[index]? = some engine := by rw [hweathers.engines, hengine]
    obtain ⟨lines, hclose⟩ := Engine.close_of_some after hdriver
    have hleave := Act.onEngine_eq hfound hclose
    have hpoint : (Event.driverClosed driver).point? = some .closing := rfl
    have hleft := World.pending_met hpoint after
    have hdue : (due (.driverClosed driver) after.store.failures).1 = closingFailure? world := by
      rw [World.due_eq hpoint, hweathers.closing, hclosing]
    rw [hdue] at hleave
    refine ⟨raised + ((after.dueAt .closing).toList : List Failure), ?_⟩
    have hafter : after.dueAt .closing = closingFailure? world := by
      rw [hweathers.closing, hclosing]
    rw [hafter] at hleft ⊢
    cases hfailure : closingFailure? world with
    | some failure =>
      rw [hfailure] at hleave hleft
      rw [Act.within_error hresult hleave]
      refine ⟨?_, fun other hother => ?_, fun hnone => absurd hnone (by simp [hfailure])⟩
      · rw [hpending, hweathers.pending, hleft, Multiset.add_assoc]
      · rw [hfailure] at hother
        obtain rfl := Option.some.inj hother
        exact ⟨Multiset.mem_add.mpr (Or.inr (List.mem_singleton.mpr rfl)), rfl⟩
    | none =>
      rw [hfailure] at hleave hleft
      rw [Act.within_ok hresult hleave]
      have hsame : raised + (((none : Option Failure).toList : List Failure) : Multiset Failure) =
          raised := Multiset.add_zero raised
      rw [hsame]
      refine ⟨?_, fun other hother => ?_, fun _ hraised hstore => ?_⟩
      · rw [hpending, hweathers.pending, hleft]
        exact congrArg (raised + ·) (Multiset.zero_add _)
      · rw [hfailure] at hother
        exact absurd hother (by simp)
      · obtain ⟨failure, hmem, hfault⟩ := hends hraised hstore
        exact ⟨failure, hmem, Or.inr hfault⟩

/-- A new engine has no driver that could be used. -/
theorem usableDriver_engineOf (settings : Settings) :
    (engineOf settings []).usableDriver = none := rfl

/-- The driver cannot be created. -/
theorem surfaced_of_uncreated (settings : Settings) (job : Program (Except Fault α))
    {world : World σ} {failure : Failure} (hcreated : world.dueAt .creation = some failure) :
    Surfaced settings world {failure} (withGateway settings job world) := by
  let engine := engineOf settings []
  have hrequest : (Event.driverRequested engine.server).point? = some .creation := rfl
  have hasked := World.pending_met hrequest world
  have hopen : Engine.openDriver engine (engine.connecting (withEngine engine world)) = _ :=
    Engine.openDriver_refused (engine.connecting (withEngine engine world)) hcreated
  obtain ⟨lines, hconnect⟩ := Engine.connect_of_failed (usableDriver_engineOf settings) hopen
  rw [hcreated] at hasked
  exact surfaced_of_connect_error job hconnect hasked (if_neg (by simp [hcreated]))

/-- Creating a driver raises nothing more. -/
theorem pending_created (server : ServerAddress) {world : World σ}
    (hcreated : world.dueAt .creation = none) :
    world.store.pending = (Engine.created server world).store.pending := by
  have hrequest : (Event.driverRequested server).point? = some .creation := rfl
  have hasked := World.pending_met hrequest world
  rw [hcreated] at hasked
  exact hasked.trans (Multiset.zero_add _)

theorem dueAt_created (server : ServerAddress) (world : World σ) {point : Point}
    (h : Point.creation ≠ point) :
    (Engine.created server world).dueAt point = world.dueAt point := by
  have hrequest : (Event.driverRequested server).point? = some .creation := rfl
  exact World.dueAt_met hrequest h world

/-- The driver is created, and it cannot be verified. -/
theorem surfaced_of_unverified (settings : Settings) (job : Program (Except Fault α))
    {world : World σ} {failure : Failure} (hcreated : world.dueAt .creation = none)
    (hverified : world.dueAt .verification = some failure) :
    Surfaced settings world {failure} (withGateway settings job world) := by
  let engine := engineOf settings []
  let asking := engine.connecting (withEngine engine world)
  have hverify : (Event.verified (world.store.drivers + 1)).point? = some .verification := rfl
  have hdue : (Engine.created engine.server asking).dueAt .verification = some failure :=
    (dueAt_created engine.server asking (by decide)).trans hverified
  have hopen : Engine.openDriver engine asking = _ :=
    Engine.openDriver_unverified asking hcreated hdue
  obtain ⟨lines, hconnect⟩ := Engine.connect_of_failed (usableDriver_engineOf settings) hopen
  have hchecked := World.pending_met hverify (Engine.created engine.server asking)
  rw [hdue] at hchecked
  have hpending : asking.store.pending = _ :=
    (pending_created engine.server hcreated).trans hchecked
  exact surfaced_of_connect_error job hconnect hpending (if_neg (by simp [hverified]))

/-- The driver is created and verified, and the job is done over it. -/
theorem exists_surfaced_of_verified (settings : Settings) {job : Program (Except Fault α)}
    (h : job.Propagates) {world : World σ} (hcreated : world.dueAt .creation = none)
    (hverified : world.dueAt .verification = none) :
    ∃ raised, Surfaced settings world raised (withGateway settings job world) := by
  let engine := engineOf settings []
  let asking := engine.connecting (withEngine engine world)
  have hverify : (Event.verified (world.store.drivers + 1)).point? = some .verification := rfl
  have hdue : (Engine.created engine.server asking).dueAt .verification = none :=
    (dueAt_created engine.server asking (by decide)).trans hverified
  have hopen : Engine.openDriver engine asking = _ :=
    Engine.openDriver_verified asking hcreated hdue
  have hengine := getElem?_withEngine engine world
  have hconnect := Act.onEngine_eq hengine
    (Engine.connect_of_opened (usableDriver_engineOf settings) hopen)
  have hdriver : (engine.opened (world.store.drivers + 1)).driver =
      some (world.store.drivers + 1) := rfl
  have hchecked := World.pending_met hverify (Engine.created engine.server asking)
  rw [hdue] at hchecked
  rw [withGateway_eq, Act.connected, Act.bind_ok hconnect]
  refine exists_surfaced_of_connected (h.surfaces _) ?_ hdriver ?_ ?_
  · exact List.getElem?_set_self (List.getElem?_eq_some_iff.mp hengine).1
  · have hpending : asking.store.pending = _ :=
      (pending_created engine.server hcreated).trans hchecked
    exact hpending.trans (Multiset.zero_add _)
  · have hclosing : closingFailure? world = world.dueAt .closing := if_pos ⟨hcreated, hverified⟩
    rw [hclosing]
    have hmet := World.dueAt_met hverify (by decide : Point.verification ≠ .closing)
      (Engine.created engine.server asking)
    exact (hmet.trans (dueAt_created engine.server asking (by decide))).symm

/-- **What arrives of the failures of the driver**, for every job that propagates and whatever the
driver does. -/
theorem exists_surfaced (settings : Settings) {job : Program (Except Fault α)} (h : job.Propagates)
    (world : World σ) :
    ∃ raised, Surfaced settings world raised (withGateway settings job world) := by
  cases hcreated : world.dueAt .creation with
  | some failure => exact ⟨_, surfaced_of_uncreated settings job hcreated⟩
  | none =>
    cases hverified : world.dueAt .verification with
    | some failure => exact ⟨_, surfaced_of_unverified settings job hcreated hverified⟩
    | none => exact exists_surfaced_of_verified settings h hcreated hverified

end App

end GraphMapper
