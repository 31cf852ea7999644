import GraphMapper.Proofs.Transaction.Callback

/-!
# What the store sees of a transaction

`Gateway.transact` is two brackets, a session around a transaction, around a callback.  A driver can
fail when the session is opened, when the transaction is begun, with any statement, when the
transaction is committed, and when either bracket is left; the callback can fail by itself as well.
`Course` lists how far a transaction can get and what the store has seen of it then.  There are
only four ways, because a failure inside a bracket changes nothing about leaving it: what is left
is decided by what was entered.

`Bracket` reads the promises of a transaction off its course.  That the commit comes after the
statements and before the brackets are left is the order in which a course is written; that it
comes exactly if the callback returned is the one condition in it.
-/

namespace GraphMapper

variable {σ α : Type}

/-! ## 1.  Kinds of events -/

/-- What kind of event a store sees, whatever it is about. -/
inductive EventKind where
  | driverRequested
  | verified
  | driverClosed
  | sessionOpened
  | ran
  | sessionLeft
  | begun
  | transactionRan
  | committed
  | transactionLeft
  deriving DecidableEq

/-- The kind of an event. -/
def Event.kind : Event → EventKind
  | .driverRequested _ => .driverRequested
  | .verified _ => .verified
  | .driverClosed _ => .driverClosed
  | .sessionOpened _ => .sessionOpened
  | .ran .. => .ran
  | .sessionLeft _ => .sessionLeft
  | .begun => .begun
  | .transactionRan .. => .transactionRan
  | .committed => .committed
  | .transactionLeft _ => .transactionLeft

/-- How often a kind of event occurs in a trace. -/
def occurrences (kind : EventKind) (trace : List Event) : Nat := (trace.map Event.kind).count kind

theorem occurrences_append (kind : EventKind) (first second : List Event) :
    occurrences kind (first ++ second) = occurrences kind first + occurrences kind second := by
  rw [occurrences, List.map_append, List.count_append]
  rfl

theorem occurrences_cons (kind : EventKind) (event : Event) (rest : List Event) :
    occurrences kind (event :: rest) =
      (if event.kind = kind then 1 else 0) + occurrences kind rest := by
  rw [occurrences, List.map_cons, List.count_cons, Nat.add_comm]
  by_cases h : event.kind = kind
  · rw [if_pos h, if_pos (beq_iff_eq.mpr h)]
    rfl
  · rw [if_neg h, if_neg (by rw [beq_iff_eq]; exact h)]
    rfl

@[simp] theorem occurrences_nil (kind : EventKind) : occurrences kind [] = 0 := rfl

theorem kind_ne_of_occurrences_eq_zero {kind : EventKind} {trace : List Event}
    (h : occurrences kind trace = 0) {event : Event} (hevent : event ∈ trace) :
    event.kind ≠ kind := by
  rw [occurrences, List.count_eq_zero] at h
  rintro rfl
  exact h (List.mem_map_of_mem hevent)

/-- The statements of a trace that ran inside a transaction. -/
def insideStatements (trace : List Event) : List Event :=
  trace.filter fun event => event.kind = .transactionRan

theorem insideStatements_append (first second : List Event) :
    insideStatements (first ++ second) = insideStatements first ++ insideStatements second :=
  List.filter_append ..

theorem kind_of_mem_transactionEvents {issued : List Handed} {event : Event}
    (h : event ∈ transactionEvents issued) : event.kind = .transactionRan := by
  obtain ⟨handed, -, hevent⟩ := List.mem_filterMap.mp h
  obtain ⟨entries, -, rfl⟩ := Option.map_eq_some_iff.mp hevent
  rfl

theorem occurrences_transactionEvents {kind : EventKind} (h : kind ≠ .transactionRan)
    (issued : List Handed) : occurrences kind (transactionEvents issued) = 0 := by
  rw [occurrences, List.count_eq_zero, List.mem_map]
  rintro ⟨event, hevent, hkind⟩
  rw [kind_of_mem_transactionEvents hevent] at hkind
  exact h hkind.symm

theorem insideStatements_transactionEvents (issued : List Handed) :
    insideStatements (transactionEvents issued) = transactionEvents issued := by
  rw [insideStatements, List.filter_eq_self]
  intro event hevent
  rw [kind_of_mem_transactionEvents hevent]
  rfl

/-! ## 2.  The course of a transaction -/

namespace Gateway

/-- Enters a session: all that happens before its body. -/
def enterSession (engine : Nat) (database : Value) : Act σ Unit := do
  let engine ← Act.engine engine
  engine.openSession database

/-- Enters a transaction: all that happens before the callback. -/
def enterTransaction (engine : Nat) (database : Value) : Act σ Unit := do
  enterSession engine database
  Act.meet .begun

theorem inSession_eq (engine : Nat) (database : Value) (body : Act σ α) :
    inSession engine database body = (enterSession engine database >>= fun _ =>
      Act.within body fun passing => Act.meet (.sessionLeft passing)) := by
  rw [enterSession, Act.bind_assoc]
  rfl

/-- Entering a session is refused without a word to the store, or it is asking for a session. -/
theorem enterSession_cases (engine : Nat) (database : Value) (world : World σ) :
    (∃ fault, (∀ scope cause, fault ≠ .storeFailure scope cause) ∧
        enterSession engine database world = (.error fault, world)) ∨
      ∃ requested, enterSession engine database world =
        Act.meet (.sessionOpened requested) world := by
  cases hengine : world.engines[engine]? with
  | none =>
    have hnone : Act.engine engine world = (.error .noAttribute, world) := by
      rw [Act.engine, hengine]
    exact Or.inl ⟨_, fun _ _ => by simp, Act.bind_error hnone⟩
  | some found =>
    have hsome : Act.engine engine world = (.ok found, world) := by
      rw [Act.engine, hengine]
    have henter : enterSession engine database world = found.openSession database world :=
      Act.bind_ok hsome
    rw [henter, Engine.openSession, Engine.requireDriver]
    cases hdriver : found.usableDriver with
    | none => exact Or.inl ⟨found.notConnected, fun _ _ => by simp [Engine.notConnected],
        Act.bind_error rfl⟩
    | some driver => exact Or.inr ⟨found.databaseFor database, Act.bind_ok rfl⟩

end Gateway

namespace Act

/-- Leaving is the last event, and it is told the fault of the body. -/
theorem events_within (body : Act σ α) (event : Option Fault → Event) (world : World σ) :
    (Act.within body (fun passing => Act.meet (event passing)) world).2.events =
      (body world).2.events ++ [event (faultOf (body world).1)] := by
  rw [← events_meet, within]
  generalize body world = outcome
  obtain ⟨result, after⟩ := outcome
  dsimp only
  generalize Act.meet (event (faultOf result)) after = left
  obtain ⟨leaving, final⟩ := left
  cases leaving <;> rfl

/-- What is returned after an act changes nothing more. -/
theorem bind_pure_snd {β : Type} (act : Act σ α) (b : β) (world : World σ) :
    ((act >>= fun _ => (Pure.pure b : Act σ β)) world).2 = (act world).2 := by
  cases h : act world with
  | mk result after =>
    cases result with
    | error fault => rw [bind_error h]
    | ok a =>
      rw [bind_ok h]
      rfl

end Act

/-- The commit after a callback, if it returned. -/
def commitAfter : Except Fault α → List Event
  | .ok _ => [.committed]
  | .error _ => []

/-- How a transaction can go, and what the store sees of it: it is refused before the store hears
of it; the session cannot be opened; the transaction cannot be begun; or the callback is run.  Then
the commit is asked for exactly if the callback returned, and both brackets are left. -/
inductive Course (engine : Nat) (database : Value) (options : GatewayOptions)
    (callback : Callback σ α) (world : World σ) : List Event → Prop
  | refused {fault : Fault}
      (hsession : Gateway.enterSession engine database world = (.error fault, world)) :
      Course engine database options callback world []
  | unopened {requested : Value} {fault : Fault} {after : World σ}
      (hopened : Act.meet (.sessionOpened requested) world = (.error fault, after))
      (hsession : Gateway.enterSession engine database world = (.error fault, after)) :
      Course engine database options callback world [.sessionOpened requested]
  | unbegun {requested : Value} {fault : Fault} {opened after : World σ}
      (hsession : Gateway.enterSession engine database world = (.ok (), opened))
      (hbegun : Act.meet .begun opened = (.error fault, after)) :
      Course engine database options callback world
        [.sessionOpened requested, .begun, .sessionLeft (some fault)]
  | performed {requested : Value} {opened begun after : World σ} {result : Except Fault α}
      (hsession : Gateway.enterSession engine database world = (.ok (), opened))
      (hbegun : Act.meet .begun opened = (.ok (), begun))
      (hresult : callback.perform (.transaction options) begun = (result, after))
      (passing leaving : Option Fault) :
      Course engine database options callback world
        (.sessionOpened requested :: ([.begun] ++
          transactionEvents (callback.issued options begun) ++
          commitAfter result ++
          [.transactionLeft passing] ++ [.sessionLeft leaving]))

/-- Runs a callback and commits if it returned. -/
def Callback.performAndCommit (callback : Callback σ α) (options : GatewayOptions) : Act σ α := do
  let outcome ← callback.perform (.transaction options)
  Act.meet .committed
  return outcome

/-- What the store sees of a callback, and of the commit that follows if the callback returned. -/
theorem Callback.events_performAndCommit (options : GatewayOptions) (callback : Callback σ α)
    {begun after : World σ} {result : Except Fault α}
    (hresult : callback.perform (.transaction options) begun = (result, after)) :
    (callback.performAndCommit options begun).2.events =
      begun.events ++ (transactionEvents (callback.issued options begun) ++
        commitAfter result) := by
  have hevents := callback.events_perform options begun
  rw [hresult] at hevents
  rw [← List.append_assoc, ← hevents, performAndCommit]
  cases result with
  | error fault =>
    rw [Act.bind_error hresult]
    exact (List.append_nil _).symm
  | ok outcome =>
    rw [Act.bind_ok hresult, Act.bind_pure_snd]
    exact Act.events_meet .committed after

/-- What the store sees of a transaction once it has begun. -/
theorem Gateway.events_inTransaction (options : GatewayOptions) (callback : Callback σ α)
    {opened begun after : World σ} {result : Except Fault α}
    (hbegun : Act.meet .begun opened = (.ok (), begun))
    (hresult : callback.perform (.transaction options) begun = (result, after)) :
    (Gateway.inTransaction (callback.perform (.transaction options)) opened).2.events =
      opened.events ++ ([Event.begun] ++ transactionEvents (callback.issued options begun) ++
        commitAfter result ++
        [Event.transactionLeft (Act.faultOf (callback.performAndCommit options begun).1)]) := by
  have hfirst := Act.events_meet .begun opened
  rw [hbegun] at hfirst
  have hbody := callback.events_performAndCommit options hresult
  have hleft := Act.events_within (callback.performAndCommit options) .transactionLeft begun
  rw [hbody, hfirst] at hleft
  rw [Gateway.inTransaction, Act.bind_ok hbegun]
  refine hleft.trans ?_
  simp only [List.append_assoc]

/-- What the store sees of a session that was opened for a transaction. -/
theorem Gateway.course_opened {engine : Nat} {database requested : Value}
    {options : GatewayOptions} {callback : Callback σ α} {world opened : World σ}
    (hsession : enterSession engine database world = (.ok (), opened)) :
    ∃ trace, Course engine database options callback world (.sessionOpened requested :: trace) ∧
      (Act.within (inTransaction (callback.perform (.transaction options)))
        (fun passing => Act.meet (.sessionLeft passing)) opened).2.events =
          opened.events ++ trace := by
  rw [Act.events_within]
  cases hbegun : Act.meet .begun opened with
  | mk answer begun =>
    cases answer with
    | error fault =>
      have hfirst := Act.events_meet .begun opened
      rw [hbegun] at hfirst
      refine ⟨_, .unbegun hsession hbegun, ?_⟩
      rw [inTransaction, Act.bind_error hbegun, hfirst, List.append_assoc]
      rfl
    | ok _ =>
      cases hresult : callback.perform (.transaction options) begun with
      | mk result after =>
        refine ⟨_, .performed hsession hbegun hresult
          (Act.faultOf (callback.performAndCommit options begun).1)
          (Act.faultOf (inTransaction (callback.perform (.transaction options)) opened).1), ?_⟩
        rw [events_inTransaction options callback hbegun hresult]
        exact List.append_assoc ..

/-- **The course of a transaction**, for every callback and every failure of the driver. -/
theorem Gateway.course_transact (engine : Nat) (database : Value) (options : GatewayOptions)
    (callback : Callback σ α) (world : World σ) :
    ∃ trace, ((Gateway.sessions engine database options).transact callback.perform world).2.events =
        world.events ++ trace ∧ Course engine database options callback world trace := by
  rw [transact, Act.mapFault_snd, inSession_eq]
  rcases enterSession_cases engine database world with ⟨fault, -, hrefused⟩ | ⟨requested, hasked⟩
  · rw [Act.bind_error hrefused]
    exact ⟨[], (List.append_nil _).symm, .refused hrefused⟩
  · have hfirst := Act.events_meet (.sessionOpened requested) world
    cases hopened : Act.meet (.sessionOpened requested) world with
    | mk answer opened =>
      rw [hopened] at hasked hfirst
      cases answer with
      | error fault =>
        rw [Act.bind_error hasked]
        exact ⟨_, hfirst, .unopened hopened hasked⟩
      | ok _ =>
        obtain ⟨trace, hcourse, hevents⟩ := course_opened hasked
        rw [Act.bind_ok hasked, hevents]
        refine ⟨_, ?_, hcourse⟩
        rw [hfirst, List.append_assoc]
        rfl

/-! ## 3.  What a transaction promises -/

/-- What a transaction promises, said of what the store sees of it. -/
structure Bracket (engine : Nat) (database : Value) (options : GatewayOptions)
    (callback : Callback σ α) (world : World σ) (trace : List Event) : Prop where
  /-- At most one session is asked for. -/
  sessions : occurrences .sessionOpened trace ≤ 1
  /-- At most one transaction is begun. -/
  transactions : occurrences .begun trace ≤ 1
  /-- No statement runs outside the transaction. -/
  outside : occurrences .ran trace = 0
  /-- The statements inside it are those that the callback issues. -/
  inside : insideStatements trace =
    match Gateway.enterTransaction engine database world with
    | (.ok _, begun) => transactionEvents (callback.issued options begun)
    | (.error _, _) => []
  /-- There is a commit exactly if the callback was run and returned. -/
  committed : 0 < occurrences .committed trace ↔ ∃ begun outcome after,
    Gateway.enterTransaction engine database world = (.ok (), begun) ∧
      callback.perform (.transaction options) begun = (.ok outcome, after)
  committedOnce : occurrences .committed trace ≤ 1
  /-- No statement comes after the commit. -/
  committedLast : ∀ before rest, trace = before ++ .committed :: rest → insideStatements rest = []
  /-- A session is left exactly once if it was entered. -/
  sessionLeft : occurrences .sessionLeft trace =
    if (Gateway.enterSession engine database world).1.isOk then 1 else 0
  /-- A transaction is left exactly once if it was entered. -/
  transactionLeft : occurrences .transactionLeft trace =
    if (Gateway.enterTransaction engine database world).1.isOk then 1 else 0

/-- Nothing runs after a commit that is not in the first part of a trace, if nothing runs in the
second. -/
theorem insideStatements_after_commit {first last : List Event}
    (hfirst : occurrences .committed first = 0) (hlast : insideStatements last = [])
    (before rest : List Event) (h : first ++ last = before ++ .committed :: rest) :
    insideStatements rest = [] := by
  have hskip : insideStatements (.committed :: rest) = insideStatements rest := rfl
  rcases List.append_eq_append_iff.mp h with ⟨gap, -, hsplit⟩ | ⟨gap, hsplit, hrest⟩
  · rw [hsplit, insideStatements_append, List.append_eq_nil_iff] at hlast
    exact hskip.symm.trans hlast.2
  · cases gap with
    | nil =>
      rw [← hskip, hrest]
      exact hlast
    | cons event gap =>
      have hcommitted : Event.committed = event := (List.cons.inj hrest).1
      have hmem : Event.committed ∈ first := by
        rw [hsplit, hcommitted]
        exact List.mem_append_right _ List.mem_cons_self
      exact absurd rfl (kind_ne_of_occurrences_eq_zero hfirst hmem)

/-- A transaction that was not entered promises little: nothing runs, nothing is committed, and
only the session can have to be left. -/
theorem Bracket.of_not_entered {engine : Nat} {database : Value} {options : GatewayOptions}
    {callback : Callback σ α} {world after : World σ} {fault : Fault} {trace : List Event}
    (htransaction : Gateway.enterTransaction engine database world = (.error fault, after))
    (hsessions : occurrences .sessionOpened trace ≤ 1)
    (htransactions : occurrences .begun trace ≤ 1)
    (hquiet : ∀ event ∈ trace, event.kind = .sessionOpened ∨ event.kind = .begun ∨
      event.kind = .sessionLeft)
    (hleft : occurrences .sessionLeft trace =
      if (Gateway.enterSession engine database world).1.isOk then 1 else 0) :
    Bracket engine database options callback world trace := by
  have hnone (kind : EventKind) (hopened : kind ≠ .sessionOpened) (hbegun : kind ≠ .begun)
      (hsessionLeft : kind ≠ .sessionLeft) : occurrences kind trace = 0 := by
    rw [occurrences, List.count_eq_zero, List.mem_map]
    rintro ⟨event, hevent, rfl⟩
    rcases hquiet event hevent with h | h | h
    · exact hopened h
    · exact hbegun h
    · exact hsessionLeft h
  have hcommitted := hnone .committed (by decide) (by decide) (by decide)
  have hinside : insideStatements trace = [] := by
    rw [insideStatements, List.filter_eq_nil_iff]
    intro event hevent
    have hran := hnone .transactionRan (by decide) (by decide) (by decide)
    rw [decide_eq_true_iff]
    exact kind_ne_of_occurrences_eq_zero hran hevent
  refine ⟨hsessions, htransactions, hnone .ran (by decide) (by decide) (by decide), ?_, ?_, ?_, ?_,
    hleft, ?_⟩
  · rw [htransaction]
    exact hinside
  · rw [hcommitted, htransaction]
    simp
  · rw [hcommitted]
    exact Nat.zero_le 1
  · exact fun before rest hsplit =>
      insideStatements_after_commit hcommitted rfl before rest ((List.append_nil _).trans hsplit)
  · rw [htransaction]
    exact hnone .transactionLeft (by decide) (by decide) (by decide)

theorem occurrences_commitAfter {kind : EventKind} (h : kind ≠ .committed)
    (result : Except Fault α) : occurrences kind (commitAfter result) = 0 := by
  cases result with
  | error fault => rfl
  | ok outcome =>
    have hkind : Event.committed.kind ≠ kind := h.symm
    rw [commitAfter, occurrences_cons, if_neg hkind]
    rfl

/-- How often a kind of event other than a statement occurs when the callback was run. -/
theorem occurrences_performed {kind : EventKind} (h : kind ≠ .transactionRan) (requested : Value)
    (issued : List Handed) (commit : List Event) (passing leaving : Option Fault) :
    occurrences kind (Event.sessionOpened requested :: ([Event.begun] ++
        transactionEvents issued ++ commit ++ [Event.transactionLeft passing] ++
          [Event.sessionLeft leaving])) =
      occurrences kind [.sessionOpened requested, .begun, .transactionLeft passing,
        .sessionLeft leaving] + occurrences kind commit := by
  simp only [occurrences_cons, occurrences_append, occurrences_transactionEvents h,
    occurrences_nil]
  omega

/-- **A course keeps the promises of a transaction.** -/
theorem Course.bracket {engine : Nat} {database : Value} {options : GatewayOptions}
    {callback : Callback σ α} {world : World σ} {trace : List Event}
    (h : Course engine database options callback world trace) :
    Bracket engine database options callback world trace := by
  cases h with
  | refused hsession =>
    refine Bracket.of_not_entered (Act.bind_error hsession) (Nat.zero_le 1) (Nat.zero_le 1) ?_ ?_
    · exact fun event hevent => absurd hevent List.not_mem_nil
    · rw [hsession]
      rfl
  | unopened hopened hsession =>
    refine Bracket.of_not_entered (Act.bind_error hsession) (Nat.le_refl 1) (Nat.zero_le 1) ?_ ?_
    · intro event hevent
      rw [List.mem_singleton.mp hevent]
      exact Or.inl rfl
    · rw [hsession]
      rfl
  | unbegun hsession hbegun =>
    refine Bracket.of_not_entered ((Act.bind_ok hsession).trans hbegun) (Nat.le_refl 1)
      (Nat.le_refl 1) ?_ ?_
    · intro event hevent
      simp only [List.mem_cons, List.not_mem_nil, or_false] at hevent
      rcases hevent with rfl | rfl | rfl
      · exact Or.inl rfl
      · exact Or.inr (Or.inl rfl)
      · exact Or.inr (Or.inr rfl)
    · rw [hsession]
      rfl
  | @performed requested opened begun after result hsession hbegun hresult passing leaving =>
    have htransaction : Gateway.enterTransaction engine database world = (.ok (), begun) :=
      (Act.bind_ok hsession).trans hbegun
    have hcount {kind : EventKind} (hkind : kind ≠ .transactionRan) :=
      occurrences_performed hkind requested (callback.issued options begun)
        (commitAfter result) passing leaving
    have hother {kind : EventKind} (hkind : kind ≠ .committed) :=
      occurrences_commitAfter hkind result
    refine ⟨?_, ?_, ?_, ?_, ?_, ?_, ?_, ?_, ?_⟩
    · rw [hcount (by decide), hother (by decide)]
      exact Nat.le_refl 1
    · rw [hcount (by decide), hother (by decide)]
      exact Nat.le_refl 1
    · rw [hcount (by decide), hother (by decide)]
      rfl
    · have hinside : insideStatements (Event.sessionOpened requested :: ([Event.begun] ++
          transactionEvents (callback.issued options begun) ++ commitAfter result ++
            [Event.transactionLeft passing] ++ [Event.sessionLeft leaving])) =
          insideStatements [Event.sessionOpened requested, .begun] ++
            insideStatements (transactionEvents (callback.issued options begun)) ++
              insideStatements (commitAfter result ++
                [Event.transactionLeft passing, .sessionLeft leaving]) := by
        rw [← insideStatements_append, ← insideStatements_append]
        simp
      rw [hinside, insideStatements_transactionEvents, htransaction]
      cases result <;> exact List.append_nil _
    · rw [hcount (by decide), htransaction]
      cases result with
      | error fault =>
        refine ⟨fun h => absurd h (Nat.lt_irrefl 0), ?_⟩
        rintro ⟨other, outcome, left, hother, hreturned⟩
        rw [← (Prod.mk.inj hother).2, hresult] at hreturned
        exact absurd (Prod.mk.inj hreturned).1 (by simp)
      | ok outcome => exact ⟨fun _ => ⟨begun, outcome, after, rfl, hresult⟩, fun _ => Nat.one_pos⟩
    · rw [hcount (by decide)]
      cases result with
      | error fault => exact Nat.zero_le 1
      | ok outcome => exact Nat.le_refl 1
    · have hsplit : Event.sessionOpened requested :: ([Event.begun] ++
          transactionEvents (callback.issued options begun) ++
            commitAfter result ++ [Event.transactionLeft passing] ++
              [Event.sessionLeft leaving]) =
          (Event.sessionOpened requested :: Event.begun ::
            transactionEvents (callback.issued options begun)) ++
              (commitAfter result ++
                [Event.transactionLeft passing, .sessionLeft leaving]) := by
        simp
      rw [hsplit]
      refine insideStatements_after_commit ?_ ?_
      · exact occurrences_transactionEvents (by decide) _
      · cases result <;> rfl
    · rw [hcount (by decide), hother (by decide), hsession]
      rfl
    · rw [hcount (by decide), hother (by decide), htransaction]
      rfl

/-- **A transaction is a bracket.**  For every callback, every engine and every failure of the
driver, what the store sees of a transaction is one of four courses, and it keeps the promises of a
transaction: one session and one transaction at most, all statements of the callback on that
transaction and none outside, a commit exactly if the callback returned and then once and last, and
everything that was entered left once.  A transaction inside a transaction shows the store nothing
but the statements of its callback. -/
theorem transact_bracket (engine : Nat) (database : Value) (options : GatewayOptions)
    (callback : Callback σ α) (world : World σ) :
    (∃ trace,
      ((Gateway.sessions engine database options).transact callback.perform world).2.events =
          world.events ++ trace ∧
        Course engine database options callback world trace ∧
        Bracket engine database options callback world trace) ∧
      ((Gateway.transaction options).transact callback.perform world).2.events =
        world.events ++ transactionEvents (callback.issued options world) := by
  obtain ⟨trace, hevents, hcourse⟩ :=
    Gateway.course_transact engine database options callback world
  exact ⟨⟨trace, hevents, hcourse, hcourse.bracket⟩, callback.events_perform options world⟩

end GraphMapper
