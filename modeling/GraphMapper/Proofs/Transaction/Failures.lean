import GraphMapper.Proofs.Transaction.Entities

/-!
# What escapes from a gateway

A driver can fail at every point of a conversation, and it can fail again while a bracket is left
because of the first failure.  `faultsOfExecute` and `faultsOfTransact` list the faults that arise
in an operation of a gateway, in the order in which they arise: entering, the body, the commit, and
leaving the transaction and the session.  The list is read off the driver, before anything is
reported.

## 1.  The last fault escapes

`Gateway.faultOf_execute` and `Gateway.faultOf_transact` say that of all these the last one escapes,
reported if it is a failure of the store and as it is otherwise.  There is one lemma behind both,
`Act.faultOf_within`: leaving a bracket either adds a fault or lets the last one pass.

## 2.  A report is not reported again

A store failure is no failure of the store, so `Gateway.report` does not touch it.  That is enough
for one statement.  A callback, however, can open transactions of its own, through any gateway, and
raise what came out of them; a `Callback` cannot, since it has only the gateway it is given.  `Task`
is the tree of such a callback.  It makes no store failures itself (`Task.MakesNone`) if all it can
raise of them is what it was told.

`Task.perform_raisesOnly` is the induction on the tree.  The class that it carries is the faults
that wrap nothing, or else one failure of the store.  `gateway_reports_once` collects what this says
of statements and transactions.
-/

namespace GraphMapper

variable {σ α β : Type}

/-! ## 1.  Faults that wrap others -/

namespace Fault

/-- A store failure, as gateways make it. -/
def isReport : Fault → Bool
  | .storeFailure .. => true
  | _ => false

/-- A fault that wraps a failure of the store if it is a store failure. -/
def WrapsOnce (fault : Fault) : Prop :=
  ∀ scope cause, fault = .storeFailure scope cause → cause.isStoreFailure = true

theorem wrapsOnce_of_isReport {fault : Fault} (h : fault.isReport = false) : fault.WrapsOnce := by
  rintro scope cause rfl
  exact absurd h (by simp [isReport])

/-- A store failure says what the failure said that it wraps. -/
theorem message_storeFailure (scope : StoreScope) (cause : Fault) :
    (storeFailure scope cause).message = "Statement failed: " ++ cause.message ∨
      (storeFailure scope cause).message = "Transaction failed: " ++ cause.message := by
  have hmessage : (storeFailure scope cause).message =
      scopeWord scope ++ " failed: " ++ cause.message := rfl
  cases scope with
  | statement => exact Or.inl hmessage
  | transaction => exact Or.inr hmessage

end Fault

namespace Gateway

theorem report_of_isStoreFailure {scope : StoreScope} {fault : Fault}
    (h : fault.isStoreFailure = true) : report scope fault = .storeFailure scope fault := by
  rw [report, if_pos h]

theorem report_of_not_isStoreFailure {scope : StoreScope} {fault : Fault}
    (h : fault.isStoreFailure = false) : report scope fault = fault := by
  rw [report, h]
  rfl

/-- No failure of the store is left after a report. -/
theorem isStoreFailure_report (scope : StoreScope) (fault : Fault) :
    (report scope fault).isStoreFailure = false := by
  cases h : fault.isStoreFailure with
  | true =>
    rw [report_of_isStoreFailure h]
    rfl
  | false => rw [report_of_not_isStoreFailure h, h]

/-- A report wraps a failure of the store, or it is the fault that was there before. -/
theorem wrapsOnce_report (scope : StoreScope) {fault : Fault} (h : fault.WrapsOnce) :
    (report scope fault).WrapsOnce := by
  cases hstore : fault.isStoreFailure with
  | false =>
    rw [report_of_not_isStoreFailure hstore]
    exact h
  | true =>
    rw [report_of_isStoreFailure hstore]
    rintro other cause heq
    obtain ⟨-, rfl⟩ := Fault.storeFailure.inj heq
    exact hstore

end Gateway

/-! ## 2.  The faults that arise -/

namespace Act

/-- If acts in a row return, so does the first, and then the others with what it left. -/
theorem exists_of_bind_eq_ok {first : Act σ α} {next : α → Act σ β} {world : World σ} {b : β}
    (h : ((first >>= next) world).1 = .ok b) :
    ∃ a after, first world = (.ok a, after) ∧ (next a after).1 = .ok b := by
  cases hfirst : first world with
  | mk result after =>
    cases result with
    | error fault =>
      rw [bind_error hfirst] at h
      exact absurd h (by simp)
    | ok a =>
      rw [bind_ok hfirst] at h
      exact ⟨a, after, rfl, h⟩

theorem faultOf_eq_some {result : Except Fault α} {fault : Fault} :
    faultOf result = some fault ↔ result = .error fault := by
  cases result <;> simp [faultOf]

theorem mem_faultOf {result : Except Fault α} {fault : Fault} :
    fault ∈ (faultOf result).toList ↔ result = .error fault := by
  cases result <;> simp [faultOf, eq_comm]

theorem faultOf_mapFault (f : Fault → Fault) (act : Act σ α) (world : World σ) :
    faultOf (act.mapFault f world).1 = (faultOf (act world).1).map f := by
  change faultOf ((act world).1.mapError f) = _
  cases (act world).1 <;> rfl

/-- The fault of leaving what a body ran in, if leaving fails. -/
def faultsOfLeaving (body : Act σ α) (event : Option Fault → Event) (world : World σ) :
    List Fault :=
  (faultOf (meet (event (faultOf (body world).1)) (body world).2).1).toList

/-- **The last fault of a bracket escapes from it**: that of leaving, or else the last one of the
body. -/
theorem faultOf_within (body : Act σ α) (event : Option Fault → Event) (world : World σ)
    {inside : List Fault} (h : faultOf (body world).1 = inside.getLast?) :
    faultOf (within body (fun passing => meet (event passing)) world).1 =
      (inside ++ faultsOfLeaving body event world).getLast? := by
  rw [List.getLast?_append, faultsOfLeaving, within]
  generalize body world = outcome at h ⊢
  obtain ⟨result, after⟩ := outcome
  dsimp only at h ⊢
  generalize meet (event (faultOf result)) after = left
  obtain ⟨leaving, final⟩ := left
  cases leaving with
  | ok _ => exact h
  | error fault => rfl

/-- What returns from a bracket is what its body returned. -/
theorem eq_ok_of_within {body : Act σ α} {event : Option Fault → Event} {world : World σ}
    {a : α} (h : (within body (fun passing => meet (event passing)) world).1 = .ok a) :
    (body world).1 = .ok a := by
  rw [within] at h
  generalize body world = outcome at h ⊢
  obtain ⟨result, after⟩ := outcome
  dsimp only at h ⊢
  generalize meet (event (faultOf result)) after = left at h
  obtain ⟨leaving, final⟩ := left
  cases leaving with
  | ok _ => exact h
  | error fault => exact absurd h (by simp)

theorem isReport_of_meet {event : Event} {world : World σ} {fault : Fault}
    (h : (meet event world).1 = .error fault) : fault.isReport = false := by
  change (world.store.meet event).1 = .error fault at h
  rw [ScriptedStore.meet] at h
  cases hpoint : event.point? with
  | none =>
    rw [hpoint] at h
    exact absurd h (by simp)
  | some point =>
    rw [hpoint] at h
    dsimp only at h
    generalize takeFailure point (world.store.note event).failures = taken at h
    obtain ⟨failure, rest⟩ := taken
    cases failure with
    | none => exact absurd h (by simp)
    | some failure =>
      obtain rfl := Except.error.inj h
      rfl

theorem isReport_of_answer {event : Event} {world : World σ} {fault : Fault}
    (h : (answer event world).1 = .error fault) : fault.isReport = false := by
  change (world.store.answer event).1 = .error fault at h
  rw [ScriptedStore.answer] at h
  cases hanswers : (world.store.note event).answers with
  | nil =>
    rw [hanswers] at h
    exact absurd h (by simp)
  | cons next rest =>
    rw [hanswers] at h
    cases next with
    | records rows => exact absurd h (by simp [Answer.result])
    | refusal failure =>
      obtain rfl := Except.error.inj h
      rfl
    | interruption rows failure =>
      obtain rfl := Except.error.inj h
      rfl

end Act

namespace Gateway

/-- The faults of a session, in order, if `inside` are those of its body. -/
def faultsInSession (engine : Nat) (database : Value) (body : Act σ α)
    (inside : World σ → List Fault) (world : World σ) : List Fault :=
  match enterSession engine database world with
  | (.error fault, _) => [fault]
  | (.ok _, opened) => inside opened ++ body.faultsOfLeaving .sessionLeft opened

/-- A body and the commit that follows it if it returns. -/
def committing (body : Act σ α) : Act σ α := do
  let outcome ← body
  Act.meet .committed
  return outcome

/-- The faults of a transaction, in order.  There is one of its body or one of the commit, since
there is no commit after a body that failed. -/
def faultsInTransaction (body : Act σ α) (world : World σ) : List Fault :=
  match Act.meet .begun world with
  | (.error fault, _) => [fault]
  | (.ok _, begun) => (Act.faultOf (committing body begun).1).toList ++
      (committing body).faultsOfLeaving .transactionLeft begun

/-- The faults that arise while a gateway executes a statement, in order and before any of them is
reported. -/
def faultsOfExecute (gateway : Gateway) (handed : Handed) (world : World σ) : List Fault :=
  let logged := (logStatement gateway.options handed.text handed.bound world).2
  match gateway with
  | .sessions engine database _ =>
    faultsInSession engine database (submit .ran handed.text handed.bound)
      (fun opened => (Act.faultOf (submit .ran handed.text handed.bound opened).1).toList) logged
  | .transaction _ =>
    (Act.faultOf (submit .transactionRan handed.text handed.bound logged).1).toList

/-- The faults that arise in a transaction over a session of its own, in order and before any of
them is reported. -/
def faultsOfTransact (engine : Nat) (database : Value) (body : Act σ α) (world : World σ) :
    List Fault :=
  faultsInSession engine database (inTransaction body) (faultsInTransaction body) world

/-! ## 3.  The last fault escapes -/

theorem getLast?_toList (fault : Option Fault) : fault = fault.toList.getLast? := by
  cases fault <;> rfl

theorem faultOf_inSession (engine : Nat) (database : Value) (body : Act σ α)
    {inside : World σ → List Fault}
    (h : ∀ opened, Act.faultOf (body opened).1 = (inside opened).getLast?) (world : World σ) :
    Act.faultOf (inSession engine database body world).1 =
      (faultsInSession engine database body inside world).getLast? := by
  rw [inSession_eq, faultsInSession]
  cases hsession : enterSession engine database world with
  | mk result opened =>
    cases result with
    | error fault =>
      rw [Act.bind_error hsession]
      rfl
    | ok _ =>
      rw [Act.bind_ok hsession]
      exact Act.faultOf_within body .sessionLeft opened (h opened)

theorem faultOf_inTransaction (body : Act σ α) (world : World σ) :
    Act.faultOf (inTransaction body world).1 = (faultsInTransaction body world).getLast? := by
  rw [inTransaction, faultsInTransaction]
  cases hbegun : Act.meet .begun world with
  | mk result begun =>
    cases result with
    | error fault =>
      rw [Act.bind_error hbegun]
      rfl
    | ok _ =>
      rw [Act.bind_ok hbegun]
      refine Act.faultOf_within (committing body) .transactionLeft begun ?_
      exact getLast?_toList _

/-- **Of the faults of a statement the last one escapes**, reported. -/
theorem faultOf_execute (gateway : Gateway) (handed : Handed) (world : World σ) :
    Act.faultOf (gateway.execute handed.text handed.parameters world).1 =
      (gateway.faultsOfExecute handed world).getLast?.map (report .statement) := by
  cases gateway with
  | sessions engine database options =>
    have hexecute :
        ((Gateway.sessions engine database options).execute handed.text handed.parameters world).1 =
        ((inSession engine database (submit .ran handed.text handed.bound)).mapFault
          (report .statement) (logStatement options handed.text handed.bound world).2).1 := rfl
    rw [hexecute, Act.faultOf_mapFault, faultsOfExecute]
    exact congrArg _ (faultOf_inSession engine database _ (fun opened => getLast?_toList _) _)
  | transaction options =>
    have hexecute :
        ((Gateway.transaction options).execute handed.text handed.parameters world).1 =
        ((submit .transactionRan handed.text handed.bound).mapFault
          (report .statement) (logStatement options handed.text handed.bound world).2).1 := rfl
    rw [hexecute, Act.faultOf_mapFault, faultsOfExecute]
    exact congrArg _ (getLast?_toList _)

/-- **Of the faults of a transaction the last one escapes**, reported. -/
theorem faultOf_transact (engine : Nat) (database : Value) (options : GatewayOptions)
    (callback : Gateway → Act σ α) (world : World σ) :
    Act.faultOf ((Gateway.sessions engine database options).transact callback world).1 =
      (faultsOfTransact engine database (callback (.transaction options)) world).getLast?.map
        (report .transaction) :=
  (Act.faultOf_mapFault (report .transaction) _ _).trans
    (congrArg _ (faultOf_inSession engine database _ (faultOf_inTransaction _) world))

end Gateway

/-! ## 4.  How an operation ends -/

/-- How an operation of a gateway ends if these faults arise in it, in this order. -/
structure ReportsLast (scope : StoreScope) (arisen : List Fault) (outcome : Except Fault α) :
    Prop where
  /-- It fails exactly if a fault arises, and it is the last one that escapes. -/
  last : Act.faultOf outcome = arisen.getLast?.map (Gateway.report scope)
  /-- No failure of the store escapes as it is. -/
  reported : ∀ fault, outcome = .error fault → fault.isStoreFailure = false
  /-- A store failure that escapes wraps a failure of the store, so no other store failure, and says
  what it said. -/
  wrapped : ∀ made cause, outcome = .error (.storeFailure made cause) →
    cause.isStoreFailure = true ∧ cause.isReport = false ∧
      ((Fault.storeFailure made cause).message = "Statement failed: " ++ cause.message ∨
        (Fault.storeFailure made cause).message = "Transaction failed: " ++ cause.message)
  /-- Any other fault escapes as it is, unless a later one takes its place. -/
  unchanged : ∀ fault, arisen.getLast? = some fault → fault.isStoreFailure = false →
    outcome = .error fault

namespace ReportsLast

variable {scope : StoreScope} {arisen : List Fault} {outcome : Except Fault α}

/-- A failure of the store is no store failure. -/
theorem isReport_of_isStoreFailure {fault : Fault} (h : fault.isStoreFailure = true) :
    fault.isReport = false := by
  cases fault <;> first | rfl | exact absurd h (by simp [Fault.isStoreFailure])

/-- Everything else follows from which fault escapes, if none that arises wraps another twice. -/
theorem of_last (hlast : Act.faultOf outcome = arisen.getLast?.map (Gateway.report scope))
    (honce : ∀ fault ∈ arisen, fault.WrapsOnce) : ReportsLast scope arisen outcome := by
  -- What escapes is the report of the last fault that arose.
  have hescaped : ∀ escaped, outcome = .error escaped →
      ∃ fault ∈ arisen, escaped = Gateway.report scope fault := by
    intro escaped houtcome
    rw [Act.faultOf_eq_some.mpr houtcome] at hlast
    obtain ⟨fault, hfault, hreport⟩ := Option.map_eq_some_iff.mp hlast.symm
    exact ⟨fault, List.mem_of_getLast? hfault, hreport.symm⟩
  refine ⟨hlast, ?_, ?_, ?_⟩
  · intro escaped houtcome
    obtain ⟨fault, -, rfl⟩ := hescaped escaped houtcome
    exact Gateway.isStoreFailure_report scope fault
  · intro made cause houtcome
    obtain ⟨fault, hmem, hreport⟩ := hescaped _ houtcome
    have hcause : cause.isStoreFailure = true :=
      Gateway.wrapsOnce_report scope (honce fault hmem) made cause hreport.symm
    exact ⟨hcause, isReport_of_isStoreFailure hcause, Fault.message_storeFailure made cause⟩
  · intro fault hfault hstore
    rw [hfault] at hlast
    rw [Act.faultOf_eq_some.mp hlast, Gateway.report_of_not_isStoreFailure hstore]

/-- What escapes wraps no other fault twice. -/
theorem wrapsOnce (h : ReportsLast scope arisen outcome) {fault : Fault}
    (houtcome : outcome = .error fault) : fault.WrapsOnce := by
  rintro made cause rfl
  exact (h.wrapped made cause houtcome).1

end ReportsLast

/-! ## 5.  What arises in the driver -/

namespace Act

theorem isReport_of_mem_faultsOfLeaving {body : Act σ α} {event : Option Fault → Event}
    {world : World σ} {fault : Fault} (h : fault ∈ body.faultsOfLeaving event world) :
    fault.isReport = false := by
  rw [faultsOfLeaving, mem_faultOf] at h
  exact isReport_of_meet h

end Act

namespace Gateway

theorem isReport_of_enterSession {engine : Nat} {database : Value} {world : World σ}
    {fault : Fault} (h : (enterSession engine database world).1 = .error fault) :
    fault.isReport = false := by
  rcases enterSession_cases engine database world with ⟨refused, hplain, hrefused⟩ | ⟨_, hasked⟩
  · rw [hrefused] at h
    obtain rfl := Except.error.inj h
    cases hreport : refused with
    | storeFailure scope cause => exact absurd hreport (hplain scope cause)
    | _ => rfl
  · rw [hasked] at h
    exact Act.isReport_of_meet h

theorem isReport_of_submit {event : Value → Entries → Event} {text parameters : Value}
    {world : World σ} {fault : Fault}
    (h : (submit event text parameters world).1 = .error fault) : fault.isReport = false := by
  rw [submit] at h
  cases hentries : parameters.entries? with
  | none =>
    rw [hentries] at h
    obtain rfl := Except.error.inj h
    rfl
  | some entries =>
    rw [hentries] at h
    exact Act.isReport_of_answer h

/-- The faults of a session wrap nothing twice if those of its body do not. -/
theorem wrapsOnce_of_mem_faultsInSession {engine : Nat} {database : Value} {body : Act σ α}
    {inside : World σ → List Fault} {world : World σ}
    (hinside : ∀ opened, enterSession engine database world = (.ok (), opened) →
      ∀ fault ∈ inside opened, fault.WrapsOnce)
    {fault : Fault} (h : fault ∈ faultsInSession engine database body inside world) :
    fault.WrapsOnce := by
  rw [faultsInSession] at h
  cases hsession : enterSession engine database world with
  | mk result opened =>
    rw [hsession] at h
    cases result with
    | error refused =>
      obtain rfl := List.mem_singleton.mp h
      exact Fault.wrapsOnce_of_isReport (isReport_of_enterSession (congrArg Prod.fst hsession))
    | ok _ =>
      rcases List.mem_append.mp h with hbody | hleaving
      · exact hinside opened hsession fault hbody
      · exact Fault.wrapsOnce_of_isReport (Act.isReport_of_mem_faultsOfLeaving hleaving)

/-- A statement fails for what the driver says, and that wraps nothing. -/
theorem reportsLast_execute (gateway : Gateway) (handed : Handed) (world : World σ) :
    ReportsLast .statement (gateway.faultsOfExecute handed world)
      (gateway.execute handed.text handed.parameters world).1 := by
  refine .of_last (gateway.faultOf_execute handed world) fun fault h => ?_
  cases gateway with
  | sessions engine database options =>
    refine wrapsOnce_of_mem_faultsInSession (fun opened _ raised hraised => ?_) h
    rw [Act.mem_faultOf] at hraised
    exact Fault.wrapsOnce_of_isReport (isReport_of_submit hraised)
  | transaction options =>
    rw [faultsOfExecute, Act.mem_faultOf] at h
    exact Fault.wrapsOnce_of_isReport (isReport_of_submit h)

/-- A body and its commit end as the body ends, unless the commit fails. -/
theorem committing_cases (body : Act σ α) (world : World σ) :
    (committing body world).1 = (body world).1 ∨
      ∃ fault, (committing body world).1 = .error fault ∧ fault.isReport = false := by
  rw [committing]
  cases hbody : body world with
  | mk result after =>
    cases result with
    | error raised => exact Or.inl (congrArg Prod.fst (Act.bind_error hbody))
    | ok outcome =>
      rw [Act.bind_ok hbody]
      cases hcommit : Act.meet .committed after with
      | mk answer committed =>
        cases answer with
        | error refused =>
          exact Or.inr ⟨refused, congrArg Prod.fst (Act.bind_error hcommit),
            Act.isReport_of_meet (congrArg Prod.fst hcommit)⟩
        | ok _ =>
          rw [Act.bind_ok hcommit]
          exact Or.inl rfl

theorem wrapsOnce_of_mem_faultsInTransaction {body : Act σ α} {world : World σ}
    (hbody : ∀ begun, Act.meet .begun world = (.ok (), begun) →
      ∀ fault, (body begun).1 = .error fault → fault.WrapsOnce)
    {fault : Fault} (h : fault ∈ faultsInTransaction body world) : fault.WrapsOnce := by
  rw [faultsInTransaction] at h
  cases hbegun : Act.meet .begun world with
  | mk result begun =>
    rw [hbegun] at h
    cases result with
    | error refused =>
      obtain rfl := List.mem_singleton.mp h
      exact Fault.wrapsOnce_of_isReport (Act.isReport_of_meet (congrArg Prod.fst hbegun))
    | ok _ =>
      rcases List.mem_append.mp h with hinside | hleaving
      · rw [Act.mem_faultOf] at hinside
        rcases committing_cases body begun with hsame | ⟨refused, hrefused, hreport⟩
        · exact hbody begun hbegun fault (hsame.symm.trans hinside)
        · obtain rfl := Except.error.inj (hrefused.symm.trans hinside)
          exact Fault.wrapsOnce_of_isReport hreport
      · exact Fault.wrapsOnce_of_isReport (Act.isReport_of_mem_faultsOfLeaving hleaving)

/-- **A transaction reports as its callback lets it**: if the callback, where it is run, raises
nothing that wraps another fault twice, neither does the transaction. -/
theorem reportsLast_transact (engine : Nat) (database : Value) (options : GatewayOptions)
    (callback : Gateway → Act σ α) (world : World σ)
    (h : ∀ begun, enterTransaction engine database world = (.ok (), begun) →
      ∀ fault, (callback (.transaction options) begun).1 = .error fault → fault.WrapsOnce) :
    ReportsLast .transaction
      (faultsOfTransact engine database (callback (.transaction options)) world)
      ((Gateway.sessions engine database options).transact callback world).1 := by
  refine .of_last (faultOf_transact engine database options callback world) fun fault hmem => ?_
  refine wrapsOnce_of_mem_faultsInSession (fun opened hsession fault hmem => ?_) hmem
  refine wrapsOnce_of_mem_faultsInTransaction (fun begun hbegun => ?_) hmem
  refine h begun ?_
  rw [enterTransaction, Act.bind_ok hsession, hbegun]

/-- What a transaction returns is what its callback returned. -/
theorem eq_ok_of_transact {engine : Nat} {database : Value} {options : GatewayOptions}
    {callback : Gateway → Act σ α} {world : World σ} {a : α}
    (h : ((Gateway.sessions engine database options).transact callback world).1 = .ok a) :
    ∃ begun, enterTransaction engine database world = (.ok (), begun) ∧
      (callback (.transaction options) begun).1 = .ok a := by
  have hsession : (inSession engine database
      (inTransaction (callback (.transaction options))) world).1 = .ok a := by
    change ((inSession engine database
      (inTransaction (callback (.transaction options))) world).1.mapError _) = .ok a at h
    cases hresult : (inSession engine database
        (inTransaction (callback (.transaction options))) world).1 with
    | error fault =>
      rw [hresult] at h
      exact absurd h (by simp [Except.mapError])
    | ok b =>
      rw [hresult] at h
      exact h
  rw [inSession_eq] at hsession
  obtain ⟨_, opened, hentered, hsession⟩ := Act.exists_of_bind_eq_ok hsession
  have hinside := Act.eq_ok_of_within hsession
  rw [inTransaction] at hinside
  obtain ⟨_, begun, hbegun, hinside⟩ := Act.exists_of_bind_eq_ok hinside
  refine ⟨begun, ?_, ?_⟩
  · rw [enterTransaction, Act.bind_ok hentered, hbegun]
  · have hcommitted := Act.eq_ok_of_within hinside
    rcases committing_cases (callback (.transaction options)) begun with hsame | ⟨fault, hfailed, -⟩
    · exact hsame.symm.trans hcommitted
    · exact absurd (hfailed.symm.trans hcommitted) (by simp)

end Gateway

/-! ## 6.  Callbacks that open transactions of their own -/

/-- A program of the caller that may use any gateway: it ends with a result or with a fault, sends a
statement, runs an operation of the mapper, does something else in the world, or runs a callback in
a transaction.  What can fail hands its outcome on. -/
inductive Task (σ : Type) : Type → Type 1 where
  | done {α : Type} (result : α) : Task σ α
  | raise {α : Type} (fault : Fault) : Task σ α
  | run {α : Type} (gateway : Gateway) (handed : Handed)
      (next : Except Fault RecordSet → Task σ α) : Task σ α
  | operate {α β : Type} (gateway : Gateway) (operation : Program β) (next : β → Task σ α) :
      Task σ α
  | think {α β : Type} (f : World σ → β × World σ) (next : β → Task σ α) : Task σ α
  | transact {α β : Type} (gateway : Gateway) (inner : Gateway → Task σ β)
      (next : Except Fault β → Task σ α) : Task σ α

namespace Task

/-- Runs a task. -/
def perform : {α : Type} → Task σ α → Act σ α
  | _, .done result => pure result
  | _, .raise fault => Act.fail fault
  | _, .run gateway handed next => do
    let answer ← (gateway.execute handed.text handed.parameters).attempt
    (next answer).perform
  | _, .operate gateway operation next => do
    let result ← operation.perform gateway
    (next result).perform
  | _, .think f next => do
    let result ← (fun world => (.ok (f world).1, (f world).2))
    (next result).perform
  | _, .transact gateway inner next => do
    let outcome ← (gateway.transact fun given => (inner given).perform).attempt
    (next outcome).perform

/-- A task raises only faults that are known, if what the caller keeps holds only known ones and all
that it is told is known.  What it returns and what it leaves with the caller is like that again. -/
def RaisesOnly (known : Fault → Prop) (holds : σ → Prop) :
    {α : Type} → Task σ α → (returns : α → Prop) → Prop
  | _, .done result, returns => returns result
  | _, .raise fault, _ => known fault
  | _, .run _ _ next, returns => ∀ answer : Except Fault RecordSet,
      (∀ fault, answer = .error fault → known fault) →
        (next answer).RaisesOnly known holds returns
  | _, .operate _ operation next, returns => ∀ exchanges result,
      operation.Yields exchanges result →
      (∀ exchange ∈ exchanges, ∀ fault, exchange.answer = .error fault → known fault) →
        (next result).RaisesOnly known holds returns
  | _, .think f next, returns => ∀ world, holds world.own →
      holds (f world).2.own ∧ (next (f world).1).RaisesOnly known holds returns
  | _, .transact (β := β) _ inner next, returns => ∃ between : β → Prop,
      (∀ given, (inner given).RaisesOnly known holds between) ∧
      ∀ outcome : Except Fault β, (∀ fault, outcome = .error fault → known fault) →
        (∀ result, outcome = .ok result → between result) →
          (next outcome).RaisesOnly known holds returns

/-- A callback that makes no store failure itself.  Whatever is known, as long as all faults are
known that are no store failures, the callback raises only what is known.  So it can raise a store
failure that it was told, but none that it was not. -/
def MakesNone (callback : Gateway → Task σ α) (start : σ) : Prop :=
  ∀ known : Fault → Prop, (∀ fault, fault.isReport = false → known fault) →
    ∃ (holds : σ → Prop) (returns : α → Prop), holds start ∧
      ∀ given, (callback given).RaisesOnly known holds returns

/-- What is known to a task that makes no store failure: all that wraps nothing twice. -/
theorem perform_raisesOnly (task : Task σ α) {holds : σ → Prop} {returns : α → Prop}
    (h : task.RaisesOnly Fault.WrapsOnce holds returns) (world : World σ)
    (hworld : holds world.own) :
    holds (task.perform world).2.own ∧
      (∀ fault, (task.perform world).1 = .error fault → fault.WrapsOnce) ∧
      ∀ result, (task.perform world).1 = .ok result → returns result := by
  induction task generalizing world with
  | done result =>
    refine ⟨hworld, fun fault houtcome => ?_, fun other houtcome => ?_⟩
    · have hreturned : (Except.ok result : Except Fault _) = .error fault := houtcome
      exact absurd hreturned (by simp)
    · obtain rfl := Except.ok.inj houtcome
      exact h
  | raise fault =>
    refine ⟨hworld, fun other houtcome => ?_, fun result houtcome => ?_⟩
    · obtain rfl := Except.error.inj houtcome
      exact h
    · have hraised : (Except.error fault : Except Fault _) = .ok result := houtcome
      exact absurd hraised (by simp)
  | run gateway handed next ih =>
    have hown := gateway.own_execute handed.text handed.parameters world
    refine ih (gateway.execute handed.text handed.parameters world).1 (h _ ?_)
      (gateway.execute handed.text handed.parameters world).2 (by rw [hown]; exact hworld)
    exact fun fault => (gateway.reportsLast_execute handed world).wrapsOnce
  | operate gateway operation next ih =>
    obtain ⟨exchanges, result, hresult, hyields, hanswers⟩ :=
      operation.exists_yields gateway world
    have hown := operation.own_perform gateway world
    have hnext := h exchanges result hyields fun exchange hexchange fault hfault => by
      obtain ⟨met, hmet⟩ := hanswers exchange hexchange
      exact (gateway.reportsLast_execute exchange.statement.handed met).wrapsOnce
        (hmet.trans hfault)
    have hperform : (Task.operate gateway operation next).perform world =
        (next result).perform (operation.perform gateway world).2 :=
      Act.bind_ok (Prod.ext hresult rfl)
    rw [hperform]
    exact ih result hnext _ (by rw [hown]; exact hworld)
  | think f next ih =>
    obtain ⟨hafter, hnext⟩ := h world hworld
    exact ih (f world).1 hnext (f world).2 hafter
  | transact gateway inner next ihInner ihNext =>
    obtain ⟨between, hinner, hnext⟩ := h
    let act := gateway.transact fun given => (inner given).perform
    have hbetween : holds (act world).2.own ∧
        (∀ fault, (act world).1 = .error fault → fault.WrapsOnce) ∧
        ∀ result, (act world).1 = .ok result → between result := by
      cases gateway with
      | transaction options => exact ihInner _ (hinner _) world hworld
      | sessions engine database options =>
        -- The inner callback is run in the world that is there when the transaction has begun.
        have hentered := Gateway.own_enterTransaction engine database world
        have hbegun : ∀ begun,
            Gateway.enterTransaction engine database world = (.ok (), begun) →
              holds begun.own := by
          intro begun hbegun
          rw [hbegun] at hentered
          rw [hentered]
          exact hworld
        refine ⟨?_, fun fault => ?_, fun result hresult => ?_⟩
        · change holds ((Gateway.sessions engine database options).transact _ world).2.own
          rw [Gateway.own_transact]
          split
          · rename_i begun hentered
            exact (ihInner _ (hinner _) begun (hbegun begun hentered)).1
          · exact hworld
        · refine (Gateway.reportsLast_transact engine database options
            (fun given => (inner given).perform) world fun begun hentered => ?_).wrapsOnce
          exact (ihInner _ (hinner _) begun (hbegun begun hentered)).2.1
        · obtain ⟨begun, hentered, hreturned⟩ := Gateway.eq_ok_of_transact hresult
          exact (ihInner _ (hinner _) begun (hbegun begun hentered)).2.2 result hreturned
    obtain ⟨hafter, hfault, hresult⟩ := hbetween
    exact ihNext (act world).1 (hnext _ hfault hresult) (act world).2 hafter

end Task

/-! ## 7.  The operations of a gateway -/

/-- **Failures of the store are reported once, and nothing else is.**  However the driver fails, and
however often: of the faults that arise in a statement, or in a transaction whose callback makes no
store failure itself, the last one escapes.  If it is a failure of the store, it is wrapped in a
store failure that says what it said; if it is a store failure already, or anything else, it escapes
as it is. -/
theorem gateway_reports_once (engine : Nat) (database : Value) (options : GatewayOptions)
    (callback : Gateway → Task σ α) (world : World σ) (h : Task.MakesNone callback world.own) :
    (∀ (gateway : Gateway) (handed : Handed),
      ReportsLast .statement (gateway.faultsOfExecute handed world)
        (gateway.execute handed.text handed.parameters world).1) ∧
    ReportsLast .transaction
      (Gateway.faultsOfTransact engine database (callback (.transaction options)).perform world)
      ((Gateway.sessions engine database options).transact
        (fun given => (callback given).perform) world).1 := by
  refine ⟨fun gateway handed => gateway.reportsLast_execute handed world,
    Gateway.reportsLast_transact engine database options (fun given => (callback given).perform)
      world fun begun hbegun => ?_⟩
  -- The callback knows every fault that wraps nothing twice, and raises no other.
  obtain ⟨holds, returns, hstart, hcallback⟩ := h Fault.WrapsOnce fun _ =>
    Fault.wrapsOnce_of_isReport
  have hentered := Gateway.own_enterTransaction engine database world
  rw [hbegun] at hentered
  exact ((callback (.transaction options)).perform_raisesOnly (hcallback _) begun
    (by rw [hentered]; exact hstart)).2.1

/-- Ends as something ended that was tried: raises its fault again. -/
def Task.again : Except Fault α → Task σ α
  | .ok result => .done result
  | .error fault => .raise fault

theorem Task.raisesOnly_again {known : Fault → Prop} {holds : σ → Prop}
    {outcome : Except Fault α} (h : ∀ fault, outcome = .error fault → known fault) :
    (Task.again outcome).RaisesOnly known holds fun _ => True := by
  cases outcome with
  | ok result => exact trivial
  | error fault => exact h fault rfl

/-- A callback that sends a statement in a transaction of its own, and raises again what came of
it. -/
def relaying (gateway : Gateway) : Task σ RecordSet :=
  .transact gateway (fun inner => .run inner ⟨.text "RETURN 1", .null⟩ .again) .again

theorem makesNone_relaying (gateway : Gateway) (start : σ) :
    Task.MakesNone (fun _ => relaying gateway) start := by
  intro known _
  refine ⟨fun _ => True, fun _ => True, trivial, fun _ => ⟨fun _ => True, ?_, ?_⟩⟩
  · exact fun inner answer hanswer => Task.raisesOnly_again hanswer
  · exact fun outcome houtcome _ => Task.raisesOnly_again houtcome

/-- **A failure that crosses two transactions is reported once**: the statement of the inner
transaction fails, and this one failure comes out of the outer one. -/
theorem gateway_reports_once_relaying :
    let callback : Gateway → Task Desk RecordSet := fun _ => relaying (.sessions 0 .null {})
    let world := deskWith newPerson { answers := [.refusal ⟨.transient, "boom"⟩] }
    let outcome := ((Gateway.sessions 0 .null {}).transact
      (fun given => (callback given).perform) world).1
    Task.MakesNone callback world.own ∧
      ReportsLast .transaction
        (Gateway.faultsOfTransact 0 .null (callback (.transaction {})).perform world) outcome ∧
      outcome = .error (.storeFailure .statement (.raised ⟨.transient, "boom"⟩)) := by
  intro callback world outcome
  have hcallback : Task.MakesNone callback world.own := makesNone_relaying _ _
  exact ⟨hcallback, (gateway_reports_once 0 .null {} callback world hcallback).2, rfl⟩

end GraphMapper
