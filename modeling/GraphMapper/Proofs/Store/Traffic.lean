import GraphMapper.Console.App
import GraphMapper.Proofs.Store.Terminals
import GraphMapper.Proofs.Transaction.Bracket

/-!
# What the store is sent

The trace of a store lists everything that it was asked, and most of that is about drivers, sessions
and transactions.  The statements in it are what can change the data.  `sentIn` picks them out, and
`Act.Sends` says of an operation that it sends no other statements than those of a list, in this
order.  It may send fewer: the driver can fail before a statement reaches it.

`Act.Sends` is put together as operations are, one lemma for each way.  Everything an engine does
sends nothing (`Act.sends_connect`, `Act.sends_close`), a gateway sends the statement that it runs
(`Gateway.sends_run`), and `Program.sends_perform` is the induction on a program: what is sent are
statements of its conversation.
-/

namespace GraphMapper

variable {σ α β : Type}

/-! ## 1.  The statements of a trace -/

/-- The statement that an event is, if it is one. -/
def Event.handed? : Event → Option Handed
  | .ran text parameters => some ⟨text, .map parameters⟩
  | .transactionRan text parameters => some ⟨text, .map parameters⟩
  | _ => none

/-- The statements of a trace. -/
def sentIn (trace : List Event) : List Handed := trace.filterMap Event.handed?

theorem sentIn_append (first second : List Event) :
    sentIn (first ++ second) = sentIn first ++ sentIn second := List.filterMap_append ..

/-- Between two worlds, no other statements were sent than those of a list, in this order. -/
def World.Sent (before : World σ) (statements : List Handed) (after : World σ) : Prop :=
  ∃ happened, after.events = before.events ++ happened ∧ (sentIn happened).Sublist statements

namespace World.Sent

variable {statements more : List Handed} {first second third : World σ}

theorem of_events_eq (h : second.events = first.events) : first.Sent [] second :=
  ⟨[], by rw [h, List.append_nil], List.Sublist.refl []⟩

theorem of_event {event : Event} (h : second.events = first.events ++ [event]) :
    first.Sent event.handed?.toList second := by
  refine ⟨[event], h, ?_⟩
  rw [sentIn, List.filterMap_cons, List.filterMap_nil]
  cases event.handed? <;> exact List.Sublist.refl _

theorem mono (h : first.Sent statements second) (hsub : statements.Sublist more) :
    first.Sent more second := by
  obtain ⟨happened, hevents, hsent⟩ := h
  exact ⟨happened, hevents, hsent.trans hsub⟩

theorem trans (h : first.Sent statements second) (hmore : second.Sent more third) :
    first.Sent (statements ++ more) third := by
  obtain ⟨happened, hevents, hsent⟩ := h
  obtain ⟨later, hlater, hsentLater⟩ := hmore
  refine ⟨happened ++ later, ?_, ?_⟩
  · rw [hlater, hevents, List.append_assoc]
  · rw [sentIn_append]
    exact hsent.append hsentLater

end World.Sent

namespace Act

/-! ## 2.  Operations -/

/-- An operation sends no other statements than those of a list, in this order. -/
def Sends (statements : List Handed) (act : Act σ α) : Prop :=
  ∀ world : World σ, world.Sent statements (act world).2

variable {statements more : List Handed}

/-- What adds no event sends nothing. -/
theorem sends_of_events_eq {act : Act σ α} (h : ∀ world, (act world).2.events = world.events) :
    act.Sends [] := fun world => .of_events_eq (h world)

theorem sends_write (source : LogSource) (level : LogLevel) (message : String) :
    (Act.write source level message : Act σ Unit).Sends [] := sends_of_events_eq fun _ => rfl

theorem sends_meet (event : Event) :
    (Act.meet event : Act σ Unit).Sends event.handed?.toList :=
  fun world => .of_event (events_meet event world)

theorem sends_answer (event : Event) :
    (Act.answer event : Act σ RecordSet).Sends event.handed?.toList :=
  fun world => .of_event (events_answer event world)

theorem Sends.bind {act : Act σ α} {next : α → Act σ β} (h : act.Sends statements)
    (hnext : ∀ a, (next a).Sends more) : (act >>= next).Sends (statements ++ more) := by
  intro world
  have hfirst := h world
  cases hact : act world with
  | mk result after =>
    rw [hact] at hfirst
    cases result with
    | error fault =>
      rw [bind_error hact]
      exact hfirst.mono (List.sublist_append_left statements more)
    | ok a =>
      rw [bind_ok hact]
      exact hfirst.trans (hnext a after)

theorem Sends.within {body : Act σ α} {leave : Option Fault → Act σ Unit}
    (h : body.Sends statements) (hleave : ∀ passing, (leave passing).Sends more) :
    (Act.within body leave).Sends (statements ++ more) := by
  intro world
  have hsent := h world
  cases hbody : body world with
  | mk result after =>
    have hmore := hleave (faultOf result) after
    rw [hbody] at hsent
    cases hleft : leave (faultOf result) after with
    | mk leaving left =>
      rw [hleft] at hmore
      cases leaving with
      | ok _ =>
        rw [within_ok hbody hleft]
        exact hsent.trans hmore
      | error fault =>
        rw [within_error hbody hleft]
        exact hsent.trans hmore

theorem Sends.mapFault {act : Act σ α} (h : act.Sends statements) (f : Fault → Fault) :
    (act.mapFault f).Sends statements := h

/-! ## 3.  Engines -/

/-- What an engine is asked for sends nothing, whatever the driver does. -/
theorem sends_engineCall (index : ℕ) (call : EngineCall) :
    (call.perform index : Act σ (Option ℕ)).Sends [] := by
  intro world
  cases hengine : world.engines[index]? with
  | none =>
    have hnone : Act.engine index world = (.error .noAttribute, world) := by
      rw [Act.engine, hengine]
    have honEngine (body : Engine.Call σ Unit) :
        Act.onEngine index body world = (.error .noAttribute, world) := by
      rw [Act.onEngine, bind_error hnone]
    have hcall : call.perform index world = (.error .noAttribute, world) := by
      cases call with
      | connect | close => exact bind_error (honEngine _)
      | openSession requested | readDriver => exact bind_error hnone
    rw [hcall]
    exact .of_events_eq rfl
  | some engine =>
    obtain ⟨step, hstep, htakes⟩ := EngineCall.exists_step hengine call
    refine ⟨step.met.map Encounter.event, htakes.events, ?_⟩
    cases hstep <;> exact List.Sublist.refl _

theorem sends_connect (index : ℕ) : (Act.onEngine index Engine.connect : Act σ Unit).Sends [] := by
  intro world
  have hcall := sends_engineCall index .connect world
  rwa [EngineCall.perform, bind_pure_snd] at hcall

theorem sends_close (index : ℕ) : (Act.onEngine index Engine.close : Act σ Unit).Sends [] := by
  intro world
  have hcall := sends_engineCall index .close world
  rwa [EngineCall.perform, bind_pure_snd] at hcall

/-- An operation between connecting and closing. -/
theorem Sends.connected {body : Act σ α} (index : ℕ) (h : body.Sends statements) :
    (Act.connected index body).Sends statements := by
  have hbody := h.within fun _ => sends_close index
  have hconnected := (sends_connect index).bind fun _ => hbody
  rw [List.append_nil, List.nil_append] at hconnected
  exact hconnected

end Act

/-! ## 4.  Gateways and programs -/

namespace Gateway

theorem sends_enterSession (engine : ℕ) (database : Value) :
    (enterSession engine database : Act σ Unit).Sends [] := by
  intro world
  rcases enterSession_cases engine database world with ⟨fault, -, hrefused⟩ | ⟨requested, hasked⟩
  · rw [hrefused]
    exact .of_events_eq rfl
  · rw [hasked]
    exact Act.sends_meet (.sessionOpened requested) world

theorem sends_submit {event : Value → Entries → Event} (text parameters : Value)
    (hevent : ∀ entries, (event text entries).handed? = some ⟨text, .map entries⟩) :
    (submit event text parameters : Act σ RecordSet).Sends
      (parameters.entries?.map fun entries => (⟨text, .map entries⟩ : Handed)).toList := by
  unfold submit
  cases parameters.entries? with
  | none => exact Act.sends_of_events_eq fun _ => rfl
  | some entries =>
    have hsent : (Act.answer (event text entries) : Act σ RecordSet).Sends _ :=
      Act.sends_answer (event text entries)
    rw [hevent entries] at hsent
    exact hsent

/-- **A gateway sends the statement that it runs**, and no other. -/
theorem sends_run (gateway : Gateway) (statement : Statement) :
    (gateway.run statement : Act σ RecordSet).Sends [statement.handed] := by
  obtain ⟨text, parameters⟩ := statement
  have hbound : (if (Value.map parameters).isTruthy then Value.map parameters
      else .map []) = .map parameters := by
    cases parameters <;> rfl
  have hlog : (logStatement gateway.options (.text text) (.map parameters) : Act σ Unit).Sends [] :=
    Act.sends_write _ _ _
  unfold run execute
  dsimp only
  rw [hbound]
  refine hlog.bind fun _ => Act.Sends.mapFault ?_ (report .statement)
  cases gateway with
  | sessions engine database options =>
    have hsubmit : (submit .ran (.text text) (.map parameters) : Act σ RecordSet).Sends _ :=
      sends_submit (.text text) (.map parameters) fun _ => rfl
    dsimp only
    rw [inSession_eq]
    exact (sends_enterSession engine database).bind fun _ =>
      hsubmit.within fun passing => Act.sends_meet (.sessionLeft passing)
  | transaction options =>
    have hsubmit : (submit .transactionRan (.text text) (.map parameters) : Act σ RecordSet).Sends _ :=
      sends_submit (.text text) (.map parameters) fun _ => rfl
    exact hsubmit

end Gateway

namespace Program

/-- **What is sent on behalf of a program are statements of its conversation**, in this order. -/
theorem sent_perform (program : Program α) (gateway : Gateway) (world : World σ) :
    world.Sent ((program.conversation gateway world).map fun e => e.statement.handed)
      (program.perform gateway world).2 := by
  induction program generalizing world with
  | done result => exact .of_events_eq rfl
  | send statement next ih =>
    have hrun := gateway.sends_run statement world
    exact hrun.trans (ih (gateway.run statement world).1 (gateway.run statement world).2)
  | draw next ih => exact ih _ _
  | warn message next ih => exact ih _

/-- Ending as a result says adds nothing. -/
theorem sent_performOrFail (program : Program (Except Fault α)) (gateway : Gateway)
    (world : World σ) :
    world.Sent ((program.conversation gateway world).map fun e => e.statement.handed)
      (program.performOrFail gateway world).2 := by
  obtain ⟨result, hresult, -, -⟩ := program.yields_conversation gateway world
  rw [performOrFail_of_perform hresult]
  exact program.sent_perform gateway world

end Program

namespace App

/-- A command sends what its job sends, if that does not depend on the connection. -/
theorem sends_withGateway (settings : Settings) {job : Program (Except Fault α)}
    {statements : List Handed}
    (h : ∀ (gateway : Gateway) (world : World σ),
      (job.conversation gateway world).map (fun e => e.statement.handed) = statements) :
    (withGateway settings job : Act σ α).Sends statements := by
  have hadd : (addEngine (engineOf settings []) : Act σ ℕ).Sends [] :=
    Act.sends_of_events_eq fun _ => rfl
  have hjob (gateway : Gateway) : (job.performOrFail gateway : Act σ α).Sends statements := by
    intro world
    have hsent := job.sent_performOrFail gateway world
    rwa [h gateway world] at hsent
  exact hadd.bind fun engine => (hjob _).connected engine

end App

end GraphMapper
