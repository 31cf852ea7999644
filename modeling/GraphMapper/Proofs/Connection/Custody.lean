import GraphMapper.Proofs.Connection.Encounters

/-!
# The custody of drivers

An engine owns the drivers that it has created: nobody else can close them.  So every driver should
be either the one that the engine holds or one that it has tried to close.  That is not so.  While an
engine connects, the driver is created first and verified afterwards, and if the verification fails
the engine forgets the driver without closing it.

## 1.  What becomes of a driver

`GivenUp` reads off what was met that a driver was forgotten: its verification failed, and that was an
ordinary failure, or it was a cancellation and the engine asked for another driver later.  A driver
is `Lost` if it was given up before anyone tried to close it.

## 2.  What is kept

`Engine.Custody` is the invariant: the driver that is held was not given up, and every other one was
either closed, or tried to, or given up.  A driver that is held without being connected is one whose
verification was cancelled (`doubtful`), which is why it can still be given up.

## 3.  Every run

`drivers_accounted` is the exact statement: between the calls of any task, whatever its engine and
gateway contexts, a created driver is held or was tried to be closed if and only if it was not lost.
-/

namespace GraphMapper

variable {σ : Type}

/-! ## 1.  What becomes of a driver -/

/-- Closing the driver was tried. -/
def CloseCalled (driver : ℕ) (history : List Encounter) : Prop :=
  ∃ failure, ⟨.driverClosed driver, failure⟩ ∈ history

/-- The encounter makes an engine that is not connected forget what it holds: a driver is asked for,
and what comes is a driver or an ordinary failure. -/
def Encounter.Replaces : Encounter → Prop
  | ⟨.driverRequested _, none⟩ => True
  | ⟨.driverRequested _, some failure⟩ => failure.kind.isOrdinary = true
  | _ => False

/-- The driver was forgotten while the engine connected. -/
inductive GivenUp (driver : ℕ) (history : List Encounter) : Prop
  | failed {failure : Failure} (h : ⟨.verified driver, some failure⟩ ∈ history)
      (hordinary : failure.kind.isOrdinary = true)
  | replaced {failure : Failure} {later : Encounter} (hlater : later.Replaces)
      (h : [⟨.verified driver, some failure⟩, later].Sublist history)

/-- The driver was forgotten, and nobody had tried to close it. -/
def Lost (driver : ℕ) (history : List Encounter) : Prop :=
  GivenUp driver history ∧ ¬ CloseCalled driver history

/-- Nothing was closed if no event was a closing. -/
theorem not_closeCalled {driver : ℕ} {history : List Encounter}
    (h : some Point.closing ∉ history.map (·.event.point?)) : ¬ CloseCalled driver history := by
  rintro ⟨failure, hmem⟩
  exact h (List.mem_map.mpr ⟨_, hmem, rfl⟩)

theorem CloseCalled.append {driver : ℕ} {history : List Encounter}
    (h : CloseCalled driver history) (met : List Encounter) :
    CloseCalled driver (history ++ met) := by
  obtain ⟨failure, hmem⟩ := h
  exact ⟨failure, List.mem_append_left _ hmem⟩

/-- Two elements in order of two lists in a row are both in the first, one in each, or both in the
second. -/
theorem pair_sublist_append {γ : Type} {first second : γ} {xs ys : List γ}
    (h : [first, second].Sublist (xs ++ ys)) :
    [first, second].Sublist xs ∨ first ∈ xs ∧ second ∈ ys ∨ [first, second].Sublist ys := by
  obtain ⟨front, back, hsplit, hfront, hback⟩ := List.sublist_append_iff.mp h
  match front, back, hsplit with
  | [], _, rfl => exact Or.inr (Or.inr hback)
  | [_], _, rfl =>
    have hfirst := List.singleton_sublist.mp hfront
    have hsecond := List.singleton_sublist.mp hback
    exact Or.inr (Or.inl ⟨hfirst, hsecond⟩)
  | [_, _], _, rfl => exact Or.inl hfront

namespace GivenUp

variable {driver : ℕ} {history met : List Encounter}

theorem append (h : GivenUp driver history) (met : List Encounter) :
    GivenUp driver (history ++ met) := by
  cases h with
  | failed h hordinary => exact .failed (List.mem_append_left _ h) hordinary
  | replaced hlater h => exact .replaced hlater (h.trans (List.sublist_append_left ..))

/-- A driver whose verification failed is given up at the latest when another one is asked for. -/
theorem of_replaced {failure : Failure} {later : Encounter}
    (h : ⟨.verified driver, some failure⟩ ∈ history) (hlater : later.Replaces) (hmet : later ∈ met) :
    GivenUp driver (history ++ met) :=
  .replaced hlater ((List.singleton_sublist.mpr h).append (List.singleton_sublist.mpr hmet))

/-- A driver is not given up by encounters in which none is asked for, unless its verification is
among them. -/
theorem of_append (h : GivenUp driver (history ++ met)) (hmet : ∀ later ∈ met, ¬ later.Replaces)
    (hverified : ∀ failure, ⟨.verified driver, some failure⟩ ∉ met) : GivenUp driver history := by
  cases h with
  | failed h hordinary =>
    rcases List.mem_append.mp h with hhistory | hnew
    · exact .failed hhistory hordinary
    · exact absurd hnew (hverified _)
  | @replaced failure later hlater h =>
    have hlast : later ∉ met := fun hmem => hmet later hmem hlater
    rcases pair_sublist_append h with hhistory | ⟨-, hnew⟩ | hnew
    · exact .replaced hlater hhistory
    · exact absurd hnew hlast
    · exact absurd (hnew.subset (by simp)) hlast

end GivenUp

/-! ## 2.  What is kept -/

namespace Engine

/-- **The invariant of custody**, for the drivers after the first `start` ones. -/
structure Custody (start : ℕ) (engine : Engine) (drivers : ℕ) (history : List Encounter) :
    Prop where
  consistent : engine.connected = true → engine.driver.isSome = true
  known : ∀ driver failure, ⟨.verified driver, failure⟩ ∈ history → driver ≤ drivers
  doubtful : ∀ driver, engine.driver = some driver → engine.connected = false →
    ∃ failure, ⟨.verified driver, some failure⟩ ∈ history
  held : ∀ driver, engine.driver = some driver → ¬ GivenUp driver history
  kept : ∀ driver, start < driver → driver ≤ drivers → engine.driver ≠ some driver →
    CloseCalled driver history ∨ GivenUp driver history

namespace Custody

variable {start : ℕ} {engine : Engine} {drivers : ℕ} {history met : List Encounter}

theorem new (uri login database : Value) (options : Entries) (start : ℕ) :
    Custody start (Engine.new uri login database options) start [] where
  consistent := by simp [Engine.new]
  known := by simp
  doubtful := by simp [Engine.new]
  held := by simp [Engine.new]
  kept := fun _ hafter hbefore => absurd hafter (Nat.not_lt.mpr hbefore)

theorem not_connected_of_unusable (h : engine.Custody start drivers history)
    (hunusable : engine.usableDriver = none) : engine.connected = false := by
  by_contra hconnected
  rw [Bool.not_eq_false] at hconnected
  have hsome := h.consistent hconnected
  rw [usableDriver, if_pos hconnected] at hunusable
  simp [hunusable] at hsome

/-- What became of a driver that is not held stays so, whatever is met. -/
theorem kept_append (h : engine.Custody start drivers history) (met : List Encounter) {driver : ℕ}
    (hafter : start < driver) (hbefore : driver ≤ drivers) (hheld : engine.driver ≠ some driver) :
    CloseCalled driver (history ++ met) ∨ GivenUp driver (history ++ met) := by
  rcases h.kept driver hafter hbefore hheld with hclosed | hgiven
  · exact Or.inl (hclosed.append met)
  · exact Or.inr (hgiven.append met)

/-- A driver that was created before is closed or given up after an unconnected engine has asked
for another one, whether it was held or not. -/
theorem kept_of_replaced (h : engine.Custody start drivers history)
    (hunusable : engine.usableDriver = none) {later : Encounter} (hlater : later.Replaces)
    (hmet : later ∈ met) {driver : ℕ} (hafter : start < driver) (hbefore : driver ≤ drivers) :
    CloseCalled driver (history ++ met) ∨ GivenUp driver (history ++ met) := by
  by_cases hheld : engine.driver = some driver
  · obtain ⟨failure, hfailure⟩ := h.doubtful driver hheld (h.not_connected_of_unusable hunusable)
    exact Or.inr (.of_replaced hfailure hlater hmet)
  · exact h.kept_append met hafter hbefore hheld

/-- A call that leaves the engine as it was, asks for no driver and verifies none. -/
theorem of_unchanged (h : engine.Custody start drivers history)
    (hmet : ∀ later ∈ met, ¬ later.Replaces)
    (hverified : ∀ driver failure, ⟨.verified driver, failure⟩ ∉ met) :
    engine.Custody start drivers (history ++ met) where
  consistent := h.consistent
  known := by
    intro driver failure hmem
    rcases List.mem_append.mp hmem with hhistory | hnew
    · exact h.known driver failure hhistory
    · exact absurd hnew (hverified driver failure)
  doubtful := by
    intro driver hheld hconnected
    obtain ⟨failure, hfailure⟩ := h.doubtful driver hheld hconnected
    exact ⟨failure, List.mem_append_left _ hfailure⟩
  held := by
    intro driver hheld hgiven
    exact h.held driver hheld (hgiven.of_append hmet fun failure => hverified driver (some failure))
  kept := fun _ hafter hbefore hheld => h.kept_append met hafter hbefore hheld

/-- An engine without a driver has nothing to answer for but the drivers that were created. -/
theorem of_dropped {left : Engine} {more : ℕ}
    (hknown : ∀ driver failure, ⟨.verified driver, failure⟩ ∈ history → driver ≤ more)
    (hkept : ∀ driver, start < driver → driver ≤ more →
      CloseCalled driver history ∨ GivenUp driver history) :
    left.dropped.Custody start more history where
  consistent := by simp [dropped]
  known := hknown
  doubtful := by simp [dropped]
  held := by simp [dropped]
  kept := fun driver hafter hbefore _ => hkept driver hafter hbefore

/-- The driver that is held is closed. -/
theorem of_closed (h : engine.Custody start drivers history) {driver : ℕ}
    (hdriver : engine.driver = some driver) :
    engine.dropped.Custody start drivers (history ++ [⟨.driverClosed driver, none⟩]) := by
  refine of_dropped ?known ?kept
  case known =>
    intro other failure hmem
    exact h.known other failure (by simpa using hmem)
  case kept =>
    intro other hafter hbefore
    by_cases hsame : other = driver
    · exact Or.inl ⟨none, by simp [hsame]⟩
    · have hother : engine.driver ≠ some other := by simp [hdriver, Ne.symm hsame]
      exact h.kept_append _ hafter hbefore hother

/-- No driver could be created. -/
theorem of_uncreated (h : engine.Custody start drivers history)
    (hunusable : engine.usableDriver = none) (failure : Failure) :
    (engine.afterFailure failure).Custody start drivers
      (history ++ [⟨.driverRequested engine.server, some failure⟩]) := by
  unfold afterFailure
  by_cases hordinary : failure.kind.isOrdinary = true
  · have hreplaces : Encounter.Replaces ⟨.driverRequested engine.server, some failure⟩ := hordinary
    rw [if_pos hordinary]
    refine of_dropped ?_ fun driver hafter hbefore =>
      h.kept_of_replaced hunusable hreplaces List.mem_cons_self hafter hbefore
    intro driver other hmem
    exact h.known driver other (by simpa using hmem)
  · rw [if_neg hordinary]
    refine h.of_unchanged ?_ (by simp)
    intro later hlater
    rw [List.mem_singleton.mp hlater]
    exact hordinary

/-- What was met is known of the drivers that there are, and of a new one when it is verified. -/
theorem known_of_created (h : engine.Custody start drivers history) {created : Option Failure}
    {failure : Option Failure} {driver : ℕ} {other : Option Failure}
    (hmem : ⟨.verified driver, other⟩ ∈ history ++ [⟨.driverRequested engine.server, created⟩,
      ⟨.verified (drivers + 1), failure⟩]) : driver ≤ drivers + 1 := by
  rcases List.mem_append.mp hmem with hhistory | hnew
  · exact Nat.le_succ_of_le (h.known driver other hhistory)
  · simp only [List.mem_cons, Encounter.mk.injEq, reduceCtorEq, false_and, Event.verified.injEq,
      List.not_mem_nil, or_false, false_or] at hnew
    exact Nat.le_of_eq hnew.1

/-- A driver was created, and it is held now. -/
theorem of_created (h : engine.Custody start drivers history)
    (hunusable : engine.usableDriver = none) {left : Engine} {failure : Option Failure}
    (hleft : left.driver = some (drivers + 1))
    (hconnected : left.connected = false → ∃ reason, failure = some reason)
    (hextraordinary : ∀ reason, failure = some reason → ¬ reason.kind.isOrdinary = true) :
    left.Custody start (drivers + 1) (history ++ [⟨.driverRequested engine.server, none⟩,
      ⟨.verified (drivers + 1), failure⟩]) := by
  have hunknown : ∀ other, ⟨.verified (drivers + 1), other⟩ ∉ history :=
    fun other hmem => Nat.not_succ_le_self drivers (h.known (drivers + 1) other hmem)
  refine ⟨fun _ => by simp [hleft], fun driver other hmem => h.known_of_created hmem, ?doubtful,
    ?held, ?kept⟩
  case doubtful =>
    intro driver hheld hunconnected
    obtain ⟨reason, hreason⟩ := hconnected hunconnected
    have hdriver : drivers + 1 = driver := Option.some.inj (hleft.symm.trans hheld)
    exact ⟨reason, by simp [← hdriver, hreason]⟩
  case held =>
    intro driver hheld hgiven
    have hdriver : drivers + 1 = driver := Option.some.inj (hleft.symm.trans hheld)
    subst hdriver
    cases hgiven with
    | @failed reason hmem hordinary =>
      rcases List.mem_append.mp hmem with hhistory | hnew
      · exact hunknown _ hhistory
      · have hreason : failure = some reason := by simpa [eq_comm] using hnew
        exact hextraordinary reason hreason hordinary
    | @replaced reason later hlater hsub =>
      rcases pair_sublist_append hsub with hhistory | ⟨hhistory, -⟩ | hnew
      · exact hunknown _ (hhistory.subset List.mem_cons_self)
      · exact hunknown _ hhistory
      · -- the verification comes last, so nothing replaces the driver afterwards
        have hpair := hnew.eq_of_length rfl
        simp at hpair
  case kept =>
    intro driver hafter hbefore hheld
    have hbefore : driver ≤ drivers := by
      have hne : driver ≠ drivers + 1 := fun hsame => hheld (hsame ▸ hleft)
      omega
    have hreplaces : Encounter.Replaces ⟨.driverRequested engine.server, none⟩ := trivial
    exact h.kept_of_replaced hunusable hreplaces List.mem_cons_self hafter hbefore

/-- A driver was created and could not be verified. -/
theorem of_unverified (h : engine.Custody start drivers history)
    (hunusable : engine.usableDriver = none) (failure : Failure) :
    ((engine.holding (drivers + 1)).afterFailure failure).Custody start (drivers + 1)
      (history ++ [⟨.driverRequested engine.server, none⟩,
        ⟨.verified (drivers + 1), some failure⟩]) := by
  unfold afterFailure
  by_cases hordinary : failure.kind.isOrdinary = true
  · rw [if_pos hordinary]
    refine of_dropped (fun driver other hmem => h.known_of_created hmem) ?_
    intro driver hafter hbefore
    by_cases hnew : driver = drivers + 1
    · subst hnew
      exact Or.inr (.failed (by simp) hordinary)
    · have hreplaces : Encounter.Replaces ⟨.driverRequested engine.server, none⟩ := trivial
      exact h.kept_of_replaced hunusable hreplaces List.mem_cons_self hafter (by omega)
  · rw [if_neg hordinary]
    refine h.of_created hunusable rfl (fun _ => ⟨failure, rfl⟩) ?_
    intro reason hreason
    rw [← Option.some.inj hreason]
    exact hordinary

/-- **A step keeps the custody.** -/
theorem step (h : engine.Custody start drivers history) {call : EngineCall} {ending : CallEnd}
    (hstep : call.Step engine drivers ending) :
    ending.engine.Custody start ending.drivers (history ++ ending.met) := by
  cases hstep with
  | connected _ | nothingToClose _ | noSession _ _ | noDriver _ | driver _ =>
    exact h.of_unchanged (by simp) (by simp)
  | unclosed _ _ | session _ _ _ =>
    exact h.of_unchanged (by simp [Encounter.Replaces]) (by simp)
  | uncreated hunusable failure => exact h.of_uncreated hunusable failure
  | unverified hunusable failure => exact h.of_unverified hunusable failure
  | verified hunusable =>
    exact h.of_created hunusable rfl (fun hconnected => absurd hconnected (by simp [opened]))
      (by simp)
  | closed hdriver => exact h.of_closed hdriver

/-- A driver is held or was tried to be closed, unless it was lost. -/
theorem accounted (h : engine.Custody start drivers history) {driver : ℕ} (hafter : start < driver)
    (hbefore : driver ≤ drivers) :
    engine.driver = some driver ∨ CloseCalled driver history ↔ ¬ Lost driver history := by
  constructor
  · rintro (hheld | hclosed) ⟨hgiven, hnever⟩
    · exact h.held driver hheld hgiven
    · exact hnever hclosed
  · intro hfound
    by_cases hheld : engine.driver = some driver
    · exact Or.inl hheld
    · rcases h.kept driver hafter hbefore hheld with hclosed | hgiven
      · exact Or.inr hclosed
      · exact Or.inr (by_contra fun hnever => hfound ⟨hgiven, hnever⟩)

end Custody

end Engine

/-! ## 3.  Every run -/

/-- Has the drivers behave as a script says from now on. -/
def Act.expect (script : List (Point × Failure)) : Act σ Unit := Act.change (World.scripted script)

/-- What a caller does with an engine: it ends or raises a fault, makes a call, or does something in
a context of the engine, or of a gateway over it, which connects on entry and closes on exit.  What
comes of a call or of a context is handed on, so that a fault is handled by whoever comes next or
raised again. -/
inductive EngineTask where
  | done (result : Except Fault Unit)
  | call (turn : Turn) (next : Except Fault (Option ℕ) → EngineTask)
  | within (entering leaving : List (Point × Failure)) (body : EngineTask)
      (next : Except Fault Unit → EngineTask)

namespace EngineTask

variable (index : ℕ)

/-- Runs a task on the engine with a number. -/
def perform : EngineTask → Act σ Unit
  | .done result => Act.ofExcept result
  | .call turn next => do
    let result ← (turn.perform index).attempt
    (next result).perform
  | .within entering leaving body next => do
    Act.expect entering
    let result ← (Act.connected index
      (Act.within body.perform fun _ => Act.expect leaving)).attempt
    (next result).perform

/-- How a context ends, given how its body and the closing did: a fault of the closing takes the
place of the body's outcome. -/
def outcomeAfter (outcome : Except Fault Unit) : Except Fault (Option ℕ) → Except Fault Unit
  | .ok _ => outcome
  | .error fault => .error fault

/-- The calls that a task makes in a world, in order. -/
def turns : EngineTask → World σ → List Turn
  | .done _, _ => []
  | .call turn next, world =>
    turn :: (next (turn.perform index world).1).turns (turn.perform index world).2
  | .within entering leaving body next, world =>
    let connected := Turn.perform index ⟨.connect, entering⟩ world
    ⟨.connect, entering⟩ ::
      match connected.1 with
      | .error fault => (next (.error fault)).turns connected.2
      | .ok _ =>
        let ended := body.perform index connected.2
        let closed := Turn.perform index ⟨.close, leaving⟩ ended.2
        body.turns connected.2 ++
          ⟨.close, leaving⟩ :: (next (outcomeAfter ended.1 closed.1)).turns closed.2

variable {index}

/-- A context that was entered: the body, and then the closing, whatever came of the body. -/
theorem connected_of_entered {entering leaving : List (Point × Failure)} {body : Act σ Unit}
    {world entered : World σ}
    (hconnect : Act.onEngine index Engine.connect (world.scripted entering) = (.ok (), entered)) :
    Act.connected index (Act.within body fun _ => Act.expect leaving) (world.scripted entering) =
      (outcomeAfter (body entered).1
          (Turn.perform index ⟨.close, leaving⟩ (body entered).2).1,
        (Turn.perform index ⟨.close, leaving⟩ (body entered).2).2) := by
  have hbody : Act.within body (fun _ => Act.expect leaving) entered =
      ((body entered).1, (body entered).2.scripted leaving) := rfl
  unfold Act.connected
  refine (Act.bind_ok hconnect).trans ?_
  unfold Act.within at hbody ⊢
  rw [hbody]
  cases hclose : Act.onEngine index Engine.close ((body entered).2.scripted leaving) with
  | mk closed left =>
    cases closed with
    | error fault =>
      have hturn : Turn.perform index ⟨.close, leaving⟩ (body entered).2 = (.error fault, left) :=
        Act.bind_error hclose
      simp only [hclose, hturn, outcomeAfter]
    | ok _ =>
      have hturn : Turn.perform index ⟨.close, leaving⟩ (body entered).2 = (.ok none, left) :=
        Act.bind_ok hclose
      simp only [hclose, hturn, outcomeAfter]

/-- **A task is the calls that it makes.** -/
theorem perform_eq_after (task : EngineTask) (world : World σ) :
    (task.perform index world).2 = Turn.after index (task.turns index world) world := by
  induction task generalizing world with
  | done result => rfl
  | call turn next ih => exact ih _ _
  | within entering leaving body next ihBody ihNext =>
    cases hconnect : Act.onEngine index Engine.connect (world.scripted entering) with
    | mk connected entered =>
      cases connected with
      | error fault =>
        have hturn : Turn.perform index ⟨.connect, entering⟩ world = (.error fault, entered) :=
          Act.bind_error hconnect
        have hall : perform index (.within entering leaving body next) world =
            (next (.error fault)).perform index entered :=
          (Act.bind_ok rfl).trans (Act.bind_ok (Act.attempt_eq (Act.bind_error hconnect)))
        rw [hall, turns, Turn.after, hturn]
        exact ihNext (.error fault) entered
      | ok _ =>
        have hturn : Turn.perform index ⟨.connect, entering⟩ world = (.ok none, entered) :=
          Act.bind_ok hconnect
        have hall : (perform index (.within entering leaving body next) world).2 =
            ((next (outcomeAfter (body.perform index entered).1
              (Turn.perform index ⟨.close, leaving⟩ (body.perform index entered).2).1)).perform index
              (Turn.perform index ⟨.close, leaving⟩ (body.perform index entered).2).2).2 :=
          congrArg Prod.snd ((Act.bind_ok rfl).trans
            (Act.bind_ok (Act.attempt_eq (connected_of_entered hconnect))))
        rw [hall, turns, Turn.after, hturn]
        dsimp only
        rw [Turn.after_append, ← ihBody, Turn.after]
        exact ihNext _ _

end EngineTask

/-- **Every run keeps the custody.** -/
theorem Turn.exists_custody {index : ℕ} {uri login database : Value} {options : Entries}
    {start : World σ} (hengine : start.engines[index]? = some (.new uri login database options))
    (turns : List Turn) :
    ∃ engine, (Turn.after index turns start).engines[index]? = some engine ∧
      engine.Custody start.store.drivers (Turn.after index turns start).store.drivers
        (Turn.history index turns start) := by
  have hnew := Engine.Custody.new uri login database options start.store.drivers
  exact Turn.invariant (Engine.Custody start.store.drivers)
    (fun _ _ _ _ _ _ hcustody hstep _ => hcustody.step hstep) hengine hnew

/-- **Every driver is accounted for, unless it was lost.**  Between the calls of any task on a new
engine, however its drivers behave, a driver that was created is the one that the engine holds, or
its closing was tried, if and only if it was not given up before. -/
theorem drivers_accounted (index : ℕ) (uri login database : Value) (options : Entries)
    (start : World σ) (hengine : start.engines[index]? = some (.new uri login database options))
    (task : EngineTask) :
    (task.perform index start).2 = Turn.after index (task.turns index start) start ∧
    ∀ turns more, task.turns index start = turns ++ more →
      ∃ engine, (Turn.after index turns start).engines[index]? = some engine ∧
        ∀ driver, start.store.drivers < driver →
          driver ≤ (Turn.after index turns start).store.drivers →
          (engine.driver = some driver ∨ CloseCalled driver (Turn.history index turns start) ↔
            ¬ Lost driver (Turn.history index turns start)) := by
  refine ⟨task.perform_eq_after start, ?_⟩
  intro turns _ _
  obtain ⟨engine, hreached, hcustody⟩ := Turn.exists_custody hengine turns
  exact ⟨engine, hreached, fun driver hafter hbefore => hcustody.accounted hafter hbefore⟩

/-- A driver whose verification fails in a context is forgotten.  The next one is held. -/
theorem drivers_accounted_unverified :
    let start : World Unit :=
      { engines := [.new (.text "bolt://localhost:7687") .null (.text "neo4j") []], own := () }
    let task : EngineTask := .within [(.verification, ⟨.serviceUnavailable, "no route"⟩)] []
      (.done (.ok ())) fun _ => .call ⟨.connect, []⟩ fun _ => .done (.ok ())
    ∃ engine, (task.perform 0 start).2.engines[0]? = some engine ∧ engine.driver = some 2 ∧
      Lost 1 (Turn.history 0 (task.turns 0 start) start) ∧
      ¬ Lost 2 (Turn.history 0 (task.turns 0 start) start) := by
  intro start task
  obtain ⟨hperform, haccounted⟩ :=
    drivers_accounted 0 (.text "bolt://localhost:7687") .null (.text "neo4j") [] start rfl task
  obtain ⟨engine, hreached, hdrivers⟩ := haccounted (task.turns 0 start) [] (by simp)
  have hheld : (Turn.after 0 (task.turns 0 start) start).engines[0]?.map Engine.driver =
      some (some 2) := by decide +kernel
  have hdriver : engine.driver = some 2 := by
    rw [hreached] at hheld
    exact Option.some.inj hheld
  have hnever : ¬ CloseCalled 1 (Turn.history 0 (task.turns 0 start) start) :=
    not_closeCalled (by decide +kernel)
  have hfirst := hdrivers 1 (by decide +kernel) (by decide +kernel)
  have hsecond := hdrivers 2 (by decide +kernel) (by decide +kernel)
  refine ⟨engine, hperform ▸ hreached, hdriver, ?_, hsecond.mp (Or.inl hdriver)⟩
  by_contra hfound
  rcases hfirst.mpr hfound with hone | hclosed
  · simp [hdriver] at hone
  · exact hnever hclosed

/-- A driver whose verification failed is neither held nor closed when the engine is closed. -/
theorem unverified_driver_unclosed :
    let start : World Unit :=
      { engines := [.new (.text "bolt://localhost:7687") .null (.text "neo4j") []], own := () }
    let turns : List Turn :=
      [⟨.connect, [(.verification, ⟨.serviceUnavailable, "no route"⟩)]⟩, ⟨.close, []⟩]
    start.store.drivers = 0 ∧ (Turn.after 0 turns start).store.drivers = 1 ∧
    (Turn.after 0 turns start).engines[0]?.map Engine.driver = some none ∧
    ¬ CloseCalled 1 (Turn.history 0 turns start) := by
  intro start turns
  exact ⟨rfl, by decide +kernel, by decide +kernel, not_closeCalled (by decide +kernel)⟩

end GraphMapper
