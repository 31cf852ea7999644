import GraphMapper.Proofs.Console.Rendering
import GraphMapper.Proofs.Maintenance.Clearing
import GraphMapper.Proofs.Store.Surfacing

/-!
# What commands report

A command catches two families of faults: those of the mapper, and errors of the connection.  Both
are reported in a line, and the command ends with the exit code of a failure.  Whatever else
arrives escapes.

What the driver raises is in neither family, apart from broken connections.  So whether a failure is
reported depends on where it is raised (`App.Arrives`).

* On the way to a connection it is wrapped as an error of the connection.
* While a statement is run, with its session and its records, it is wrapped as an error of the
  mapper.
* When the connection is closed it is not wrapped.

`App.FailuresEnd` says what the command does with each of them, and `closing_failure_escapes` that
the last kind can escape.

The line that reports a fault is printed with markup, and the message of the fault is part of it.
`App.Reported` has a case for a message that cannot be printed.
-/

namespace GraphMapper

variable {σ α : Type}

/-! ## 1.  The jobs -/

namespace Maintenance

theorem propagates_ask (statement : Statement) (read : RecordSet → Except Fault α) :
    Program.Propagates (ask statement read) :=
  Program.propagates_query (.ok statement) read

theorem propagates_countLabels (labels : List Value) (counts : Entries) :
    Program.Propagates (countLabels counts labels) := by
  induction labels generalizing counts with
  | nil => exact trivial
  | cons label rest ih =>
    rw [countLabels]
    split
    · exact Program.Propagates.bind (Program.propagates_query _ _) fun count => ih _
    · exact ih counts

theorem propagates_countTypes (types : List Value) (counts : Entries) :
    Program.Propagates (countTypes counts types) := by
  induction types generalizing counts with
  | nil => exact trivial
  | cons relationshipType rest ih =>
    rw [countTypes]
    split
    · exact Program.Propagates.bind (propagates_ask _ _) fun total => ih _
    · exact ih counts

theorem propagates_collectStatistics (detailed : Bool) :
    Program.Propagates (collectStatistics detailed) := by
  refine Program.Propagates.bind (propagates_ask _ _) fun nodes => ?_
  refine Program.Propagates.bind (propagates_ask _ _) fun relationships => ?_
  refine Program.Propagates.bind (propagates_ask _ _) fun labels => ?_
  refine Program.Propagates.bind (propagates_ask _ _) fun types => ?_
  dsimp only
  split
  · exact Program.Propagates.bind (propagates_countLabels labels []) fun labelCounts =>
      Program.Propagates.bind (propagates_countTypes types []) fun typeCounts => trivial
  · exact trivial

theorem propagates_clearNodes (label : Value) : (clearNodes label).Propagates :=
  Program.propagates_query _ _

end Maintenance

/-! ## 2.  Reporting -/

namespace App

/-- How a failure of the driver can arrive at a command. -/
inductive Arrives (settings : Settings) (failure : Failure) : Fault → Prop where
  | connecting : Arrives settings failure (.connectionFailed settings.uri (.raised failure))
  | running : Arrives settings failure (Gateway.reported failure)
  | closing (h : failure.kind.isConnection = true) : Arrives settings failure (.raised failure)

theorem Arrives.isReported {settings : Settings} {failure : Failure} {fault : Fault}
    (h : Arrives settings failure fault) : isReported fault = true := by
  cases h with
  | connecting => rfl
  | running => rfl
  | closing h => exact h

/-- The line that a fault is reported in. -/
def faultLine (what : String) (fault : Fault) : Except Fault String :=
  Page.line ("[red]" ++ what ++ ":[/red] " ++ fault.message)

/-- How a command ends that reports a fault, after it has printed something. -/
inductive Reported (what : String) (before : List String) (fault : Fault) :
    List String × Ending → Prop where
  /-- The line is printed. -/
  | printed (text : String) (h : faultLine what fault = .ok text) :
      Reported what before fault (before ++ [text], .exit failureCode)
  /-- The message has a bracket that opens a tag, and the line cannot be printed. -/
  | unprintable (flaw : Fault) (h : faultLine what fault = .error flaw)
      (hbracket : '[' ∈ fault.message.toList) (hflaw : ∀ failure, flaw ≠ .raised failure) :
      Reported what before fault (before, .escaped flaw)

/-- A heading without markup. -/
abbrev IsHeading (what : String) : Prop := (what.toList.all fun c => c != '[' && c != '\\') = true

theorem IsHeading.ne {what : String} (h : IsHeading what) :
    ∀ c ∈ what.toList, c ≠ '[' ∧ c ≠ '\\' := by
  simpa [IsHeading] using h

theorem reported_reportFault {what : String} (hwhat : IsHeading what) {fault : Fault}
    (h : isReported fault = true) (before : List String) :
    Reported what before fault
      (before ++ (reportFault what fault).1, (reportFault what fault).2) := by
  have hreport : reportFault what fault = print [faultLine what fault] failureCode := by
    rw [reportFault, if_pos h]
    rfl
  rw [hreport]
  cases hline : faultLine what fault with
  | ok text => exact .printed text hline
  | error flaw =>
    have hbracket : '[' ∈ fault.message.toList := by
      by_contra hnone
      obtain ⟨text, htext⟩ := Page.exists_line_eq_ok hwhat.ne hnone
      rw [faultLine, htext] at hline
      exact nomatch hline
    have hflaw (failure : Failure) : flaw ≠ .raised failure := by
      rintro rfl
      exact Page.notRaised_line _ failure hline
    change Reported what before fault (before ++ [], .escaped flaw)
    rw [List.append_nil]
    exact .unprintable flaw hline hbracket hflaw

/-- What becomes of the failures of the store that are raised while a command runs, after it has
printed something. -/
structure FailuresEnd (what : String) (before : List String) (settings : Settings) (world : World σ)
    (raised : Multiset Failure) (ends : List String × Ending) : Prop where
  /-- One of them is reported, if closing the connection does not fail with another one than a
  broken connection. -/
  reported : (∀ failure, closingFailure? world = some failure → failure.kind.isConnection = true) →
    ∃ failure ∈ raised, ∃ fault, Arrives settings failure fault ∧ Reported what before fault ends
  /-- Such a failure of closing escapes. -/
  escapes : ∀ failure, closingFailure? world = some failure → failure.kind.isConnection = false →
    ends = (before, .escaped (.raised failure))

/-- How a command ends whose job is done. -/
def concluded (what : String) (pages : α → List (Except Fault String)) :
    Except Fault α → List String × Ending
  | .ok a => print (pages a) 0
  | .error fault => reportFault what fault

/-- **What becomes of the failures**, for every job that propagates. -/
theorem failuresEnd_concluded {settings : Settings} {job : Program (Except Fault α)}
    (h : job.Propagates) {what : String} (hwhat : IsHeading what)
    (pages : α → List (Except Fault String)) (before : List String) (world : World σ)
    (hraised : world.raised (withGateway settings job world).2 ≠ 0)
    (hstore : AllOfStore (world.raised (withGateway settings job world).2)) :
    FailuresEnd what before settings world (world.raised (withGateway settings job world).2)
      (before ++ (concluded what pages (withGateway settings job world).1).1,
        (concluded what pages (withGateway settings job world).1).2) := by
  obtain ⟨raised, hpending, hclosing, hother⟩ := exists_surfaced settings h world
  rw [World.raised_eq hpending] at hraised hstore ⊢
  have hreports (fault : Fault) (hfault : (withGateway settings job world).1 = .error fault) :
      concluded what pages (withGateway settings job world).1 = reportFault what fault := by
    rw [hfault]
    rfl
  refine ⟨fun hconnection => ?_, fun failure hfailure hkind => ?_⟩
  · have harrives : ∃ failure ∈ raised, ∃ fault, Arrives settings failure fault ∧
        (withGateway settings job world).1 = .error fault := by
      cases hclose : closingFailure? world with
      | some failure =>
        obtain ⟨hmem, hfault⟩ := hclosing failure hclose
        exact ⟨failure, hmem, _, .closing (hconnection failure hclose), hfault⟩
      | none =>
        obtain ⟨failure, hmem, hfault | hfault⟩ := hother hclose hraised hstore
        · exact ⟨failure, hmem, _, .connecting, hfault⟩
        · exact ⟨failure, hmem, _, .running, hfault⟩
    obtain ⟨failure, hmem, fault, harrived, hfault⟩ := harrives
    refine ⟨failure, hmem, fault, harrived, ?_⟩
    rw [hreports fault hfault]
    exact reported_reportFault hwhat harrived.isReported before
  · obtain ⟨-, hfault⟩ := hclosing failure hfailure
    have hescapes : isReported (.raised failure) = false := hkind
    rw [hreports _ hfault, reportFault, hescapes]
    exact congrArg (·, Ending.escaped (.raised failure)) (List.append_nil before)

/-! ## 3.  The commands -/

/-- What a command says that failed. -/
def failureHeading : Command → String
  | .stats _ => "Failed to get statistics"
  | .clear _ _ => "Failed to clear data"

theorem isHeading_failureHeading (command : Command) : IsHeading (failureHeading command) := by
  cases command with
  | stats detailed =>
    have hplain : IsHeading "Failed to get statistics" := by decide +kernel
    exact hplain
  | clear label force =>
    have hplain : IsHeading "Failed to clear data" := by decide +kernel
    exact hplain

/-- What a command prints before it does anything. -/
def printedBefore (command : Command) (settings : Settings) (input : List String) : List String :=
  match command with
  | .stats _ => []
  | .clear label force => asked settings label force input

theorem stats_eq (settings : Settings) (detailed : Bool) (world : World σ) :
    let done := withGateway settings (Maintenance.collectStatistics detailed) world
    stats settings detailed world =
      (concluded "Failed to get statistics" (statsPages settings detailed) done.1, done.2) := by
  unfold stats
  generalize withGateway settings (Maintenance.collectStatistics detailed) world = done
  obtain ⟨result, after⟩ := done
  cases result <;> rfl

theorem clearNow_eq (settings : Settings) (label : Option String) (world : World σ) :
    let done := withGateway settings (Maintenance.clearNodes (labelValue label)) world
    clearNow settings label world =
      (concluded "Failed to clear data"
        (fun count => [Page.line ("[green]Deleted " ++ toString count ++ " nodes[/green]")]) done.1,
        done.2) := by
  unfold clearNow
  generalize withGateway settings (Maintenance.clearNodes (labelValue label)) world = done
  obtain ⟨result, after⟩ := done
  cases result <;> rfl

theorem failuresEnd_perform (command : Command) (settings : Settings) (input : String)
    (world : World σ) (hraised : world.raised (perform command settings input world).2 ≠ 0)
    (hstore : AllOfStore (world.raised (perform command settings input world).2)) :
    FailuresEnd (failureHeading command)
      (printedBefore command settings (Prompt.inputLines input)) settings world
      (world.raised (perform command settings input world).2)
      (perform command settings input world).1 := by
  have hheading := isHeading_failureHeading command
  cases command with
  | stats detailed =>
    rw [perform, stats_eq] at hraised hstore ⊢
    exact failuresEnd_concluded (Maintenance.propagates_collectStatistics detailed) hheading _ []
      world hraised hstore
  | clear label force =>
    rw [perform] at hraised hstore ⊢
    rcases clear_cases settings label force (Prompt.inputLines input) world with
      hsame | ⟨-, hclear⟩
    · rw [hsame] at hraised
      exact absurd world.raised_self hraised
    · rw [hclear, clearNow_eq] at hraised hstore ⊢
      exact failuresEnd_concluded (Maintenance.propagates_clearNodes _) hheading _ _ world
        hraised hstore

/-! ## 4.  The command line -/

/-- A command line that is understood runs its command. -/
theorem run_eq {words : List String} {input : String} {sources : SettingSources} {command : Command}
    {settings : Settings} {verbosity : Verbosity} (hcommand : Command.ofWords? words = some command)
    (hsettings : Settings.read sources = .ok settings)
    (hverbosity : Verbosity.read settings.logLevel = .ok verbosity) (world : World σ) :
    run words input sources world =
      (⟨(perform command settings input world).1.1, verbosity,
        (perform command settings input world).1.2⟩, (perform command settings input world).2) := by
  rw [run, hcommand]
  dsimp only
  rw [hsettings]
  dsimp only
  rw [hverbosity]

/-- **A command line changes nothing, or runs its command.** -/
theorem run_cases (words : List String) (input : String) (sources : SettingSources)
    (world : World σ) :
    (run words input sources world).2 = world ∨
      ∃ command settings verbosity, Command.ofWords? words = some command ∧
        Settings.read sources = .ok settings ∧
        run words input sources world =
          (⟨(perform command settings input world).1.1, verbosity,
            (perform command settings input world).1.2⟩,
            (perform command settings input world).2) := by
  cases hcommand : Command.ofWords? words with
  | none =>
    rw [run, hcommand]
    exact Or.inl rfl
  | some command =>
    cases hsettings : Settings.read sources with
    | error fault =>
      rw [run, hcommand]
      dsimp only
      rw [hsettings]
      exact Or.inl rfl
    | ok settings =>
      cases hverbosity : Verbosity.read settings.logLevel with
      | error fault =>
        rw [run, hcommand]
        dsimp only
        rw [hsettings]
        dsimp only
        rw [hverbosity]
        exact Or.inl rfl
      | ok verbosity =>
        exact Or.inr ⟨command, settings, verbosity, rfl, rfl,
          run_eq hcommand hsettings hverbosity world⟩

end App

/-- **A failure of the store is reported**, for every command with all its options, and wherever the
driver raises it: the command prints that it failed and ends with the exit code one.  What it
reports is one of the failures that were raised, as it arrives from where it was raised.

A failure of closing the connection escapes instead if it is no broken connection.  Otherwise
nothing escapes but a fault of printing, for a message with a bracket in it. -/
theorem store_failures_reported (words : List String) (input : String) (sources : SettingSources)
    (world : World σ) (hraised : world.raised (App.run words input sources world).2 ≠ 0)
    (hstore : AllOfStore (world.raised (App.run words input sources world).2)) :
    ∃ command settings, Command.ofWords? words = some command ∧
      Settings.read sources = .ok settings ∧
      App.FailuresEnd (App.failureHeading command)
        (App.printedBefore command settings (Prompt.inputLines input)) settings world
        (world.raised (App.run words input sources world).2)
        ((App.run words input sources world).1.printed,
          (App.run words input sources world).1.ending) := by
  rcases App.run_cases words input sources world with
    hsame | ⟨command, settings, verbosity, hcommand, hsettings, hrun⟩
  · rw [hsame] at hraised
    exact absurd world.raised_self hraised
  · rw [hrun] at hraised hstore ⊢
    exact ⟨command, settings, hcommand, hsettings,
      App.failuresEnd_perform command settings input world hraised hstore⟩

deriving instance DecidableEq for Settings

/-- The statistics command without options and settings. -/
theorem App.run_stats (world : World σ) :
    App.run ["stats"] "" {} world =
      (⟨(App.perform (.stats false) {} "" world).1.1, .info,
        (App.perform (.stats false) {} "" world).1.2⟩,
        (App.perform (.stats false) {} "" world).2) := by
  have hcommand : Command.ofWords? ["stats"] = some (.stats false) := by decide +kernel
  have hsettings : Settings.read {} = .ok {} := eq_ok_of_toOption (by decide +kernel)
  have hverbosity : Verbosity.read ({} : Settings).logLevel = .ok .info :=
    eq_ok_of_toOption (by decide +kernel)
  exact App.run_eq hcommand hsettings hverbosity world

/-- A store whose server cannot be reached. -/
def unreachable : World Unit :=
  { own := (), store := { failures := [(.verification, ⟨.serviceUnavailable, "no route"⟩)] } }

/-- The statistics of a database that cannot be reached. -/
theorem store_failures_reported_unreachable :
    let outcome := App.run ["stats"] "" {} unreachable
    let raised := unreachable.raised outcome.2
    raised ≠ 0 ∧ AllOfStore raised ∧
      ∃ command settings, Command.ofWords? ["stats"] = some command ∧
        Settings.read {} = .ok settings ∧
        App.FailuresEnd (App.failureHeading command)
          (App.printedBefore command settings (Prompt.inputLines "")) settings unreachable raised
          (outcome.1.printed, outcome.1.ending) := by
  have hraised : unreachable.raised (App.run ["stats"] "" {} unreachable).2 =
      {⟨.serviceUnavailable, "no route"⟩} := by
    rw [App.run_stats, App.perform, App.stats_eq]
    decide +kernel
  have hsome : unreachable.raised (App.run ["stats"] "" {} unreachable).2 ≠ 0 := by
    rw [hraised]
    exact Multiset.singleton_ne_zero _
  have hstore : AllOfStore (unreachable.raised (App.run ["stats"] "" {} unreachable).2) := by
    rw [hraised]
    exact allOfStore_singleton.mpr rfl
  exact ⟨hsome, hstore, store_failures_reported ["stats"] "" {} unreachable hsome hstore⟩

/-- A store whose driver cannot be closed. -/
def unclosable : World Unit :=
  { own := (), store := { failures := [(.closing, ⟨.serviceUnavailable, "bye"⟩)] } }

/-- **A failure of closing escapes**: it is a failure of the store, and nothing is printed. -/
theorem closing_failure_escapes :
    let outcome := App.run ["stats"] "" {} unclosable
    let failure : Failure := ⟨.serviceUnavailable, "bye"⟩
    unclosable.raised outcome.2 = {failure} ∧ failure.kind.isStoreFailure = true ∧
      outcome.1.printed = [] ∧ outcome.1.ending = .escaped (.raised failure) := by
  have hraised : unclosable.raised (App.perform (.stats false) {} "" unclosable).2 =
      {⟨.serviceUnavailable, "bye"⟩} := by
    rw [App.perform, App.stats_eq]
    decide +kernel
  have hfailures := App.failuresEnd_perform (.stats false) {} "" unclosable
  rw [hraised] at hfailures
  have hclosing : App.closingFailure? unclosable = some ⟨.serviceUnavailable, "bye"⟩ := by
    decide +kernel
  have hescapes := (hfailures (Multiset.singleton_ne_zero _) (allOfStore_singleton.mpr rfl)).escapes
    _ hclosing rfl
  have hrun := App.run_stats unclosable
  rw [hescapes] at hrun
  rw [hrun]
  -- Otherwise the pair is unified with the run itself.
  dsimp only
  exact ⟨hraised, rfl, rfl, rfl⟩

end GraphMapper
