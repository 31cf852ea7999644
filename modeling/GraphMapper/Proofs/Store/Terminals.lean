import GraphMapper.Proofs.Connection.Encounters
import GraphMapper.Proofs.Store.RowStore
import GraphMapper.Relationship
import GraphMapper.Traversal.Statements

/-!
# One statement for every operation

A mistake in what the mapper is asked for is found where it is made.  The store never hears of it: no
operation sends a statement before it has checked everything that it checks.  And no operation sends
more than one.

## 1.  Local mistakes

`Fault.isLocalMistake` collects the faults that are found without the store: queries that cannot be
built, identities and endpoints that are missing, inputs that do not validate, and updates that
assign nothing or the identity.  The readers of an answer raise faults as well, but none of these
(`ReadsBlameless`).

## 2.  Programs of one statement

`Program.OneStatement` is the shape that all operations have.  It is read off the tree of a program:
every branch ends without a statement, or it sends one and ends whatever the answer is.  What may be
returned in each of the two cases is a parameter, and `OneStatement.yields` gives it back for every
conversation, with any gateway.

## 3.  The operations

`Terminal` lists the operations, `Terminal.oneStatement` has one case for each of them.

## 4.  Through a gateway

What a gateway raises is never a local mistake (`Gateway.failsOnly_run`).  So a local mistake means
that nothing was handed over, and `one_statement_per_terminal` says all of it at once.
-/

namespace GraphMapper

variable {σ α β γ : Type}

/-! ## 1.  Local mistakes -/

/-- A mistake in what was asked of the mapper, which is found without asking the store. -/
def Fault.isLocalMistake : Fault → Bool
  | .missingIdentity _ | .missingEndpoint _ | .invalid _ | .emptyUpdate | .identityInUpdate => true
  | fault => fault.isBuildError

/-- Reading an answer finds no local mistake. -/
def ReadsBlameless (read : RecordSet → Except Fault α) : Prop :=
  ∀ records fault, read records = .error fault → fault.isLocalMistake = false

theorem ReadsBlameless.map {read : RecordSet → Except Fault α} (h : ReadsBlameless read)
    (f : α → β) : ReadsBlameless fun records => (read records).map f :=
  fun records fault hfault => h records fault (eq_error_of_map hfault)

namespace RecordSet

theorem not_isLocalMistake_column {key : Key} {record : Value} {fault : Fault}
    (h : column key record = .error fault) : fault.isLocalMistake = false := by
  unfold column attributeOf at h
  split at h
  case h_2 =>
    split at h
    · exact absurd h (by simp)
    · split at h
      · exact absurd h (by simp)
      · obtain rfl := Except.error.inj h
        rfl
  case h_1 => exact absurd h (by simp)
  all_goals
    obtain rfl := Except.error.inj h
    rfl

theorem not_isLocalMistake_nodesFrom {key : Key} {index : ℕ} {records : List Value} {fault : Fault}
    (h : nodesFrom key index records = .error fault) : fault.isLocalMistake = false := by
  induction records generalizing index with
  | nil => exact absurd h (by simp [nodesFrom])
  | cons record rest ih =>
    unfold nodesFrom at h
    cases hcolumn : column key record with
    | error found =>
      rw [hcolumn] at h
      obtain rfl := Except.error.inj h
      exact not_isLocalMistake_column hcolumn
    | ok found =>
      rw [hcolumn] at h
      dsimp only at h
      split at h
      · exact ih (eq_error_of_map h)
      · obtain rfl := Except.error.inj h
        rfl

theorem readsBlameless_nodes (key : Key) : ReadsBlameless (fun records => records.nodes key) :=
  fun _ _ h => not_isLocalMistake_nodesFrom h

theorem not_isLocalMistake_scalar {records : RecordSet} {key : Key} {default : Value} {fault : Fault}
    (h : records.scalar key default = .error fault) : fault.isLocalMistake = false := by
  unfold scalar at h
  split at h
  · exact absurd h (by simp)
  · exact not_isLocalMistake_column (eq_error_of_map h)

end RecordSet

theorem not_isLocalMistake_readCountText {given : Value} {s : List Char} {fault : Fault}
    (h : readCountText given s = .error fault) : fault.isLocalMistake = false := by
  unfold readCountText at h
  split at h
  case h_1 => exact absurd h (by simp)
  all_goals
    obtain rfl := Except.error.inj h
    rfl

theorem not_isLocalMistake_readCount {value : Value} {fault : Fault}
    (h : readCount value = .error fault) : fault.isLocalMistake = false := by
  cases value with
  | bool b | int n => exact absurd h (by simp [readCount])
  | text s | bytes b => exact not_isLocalMistake_readCountText h
  | float x =>
    unfold readCount at h
    split at h
    case h_4 =>
      split at h
      · exact absurd h (by simp)
      · obtain rfl := Except.error.inj h
        rfl
    all_goals simp_all
    obtain rfl := h
    rfl
  | _ =>
    obtain rfl := Except.error.inj h
    rfl

theorem readsBlameless_readNumber (column : String) : ReadsBlameless (Query.readNumber column) := by
  intro records fault h
  unfold Query.readNumber at h
  cases hscalar : records.scalar (.text column) (.int 0) with
  | error found =>
    rw [hscalar] at h
    obtain rfl := Except.error.inj h
    exact RecordSet.not_isLocalMistake_scalar hscalar
  | ok value =>
    rw [hscalar] at h
    exact not_isLocalMistake_readCount h

/-! ## 2.  Programs of one statement -/

/-- What can become of an operation without asking the store: it fails. -/
def Failed (result : Except Fault α) : Prop := ∀ reply, result ≠ .ok reply

/-- What can become of an operation once the store has answered: a fault is the one that was heard,
or it is no local mistake. -/
def Blameless (answer : Except Fault RecordSet) (result : Except Fault α) : Prop :=
  ∀ fault, result = .error fault → answer = .error fault ∨ fault.isLocalMistake = false

theorem failed_error (fault : Fault) : Failed (.error fault : Except Fault α) :=
  fun reply => by simp

theorem Failed.map {result : Except Fault α} (h : Failed result) (f : α → β) :
    Failed (result.map f) := by
  cases result with
  | ok reply => exact absurd rfl (h reply)
  | error fault => exact failed_error fault

theorem blameless_ok (answer : Except Fault RecordSet) (reply : α) :
    Blameless answer (.ok reply) := fun fault h => absurd h (by simp)

theorem blameless_error {answer : Except Fault RecordSet} {fault : Fault}
    (h : answer = .error fault ∨ fault.isLocalMistake = false) :
    Blameless answer (.error fault : Except Fault α) := by
  intro other hother
  obtain rfl := Except.error.inj hother
  exact h

theorem blameless_heard (fault : Fault) : Blameless (.error fault) (.error fault : Except Fault α) :=
  blameless_error (Or.inl rfl)

theorem Blameless.map {answer : Except Fault RecordSet} {result : Except Fault α}
    (h : Blameless answer result) (f : α → β) : Blameless answer (result.map f) :=
  fun fault hfault => h fault (eq_error_of_map hfault)

theorem ReadsBlameless.bind {read : RecordSet → Except Fault α} (h : ReadsBlameless read)
    (answer : Except Fault RecordSet) : Blameless answer (answer.bind read) := by
  cases answer with
  | error heard => exact blameless_heard heard
  | ok records => exact fun fault hfault => Or.inr (h records fault hfault)

namespace Program

/-- A program sends at most one statement and ends when it has heard the answer.  Its result is one
of those that are possible without an answer, or one that is possible after the answer. -/
def OneStatement (silent : β → Prop) (heard : Except Fault RecordSet → β → Prop) :
    Program β → Prop
  | .done result => silent result
  | .send _ next => ∀ answer, ∃ result, next answer = .done result ∧ heard answer result
  | .draw next => ∀ identity, (next identity).OneStatement silent heard
  | .warn _ next => next.OneStatement silent heard

variable {silent : α → Prop} {heard : Except Fault RecordSet → α → Prop}

/-- **What a program of one statement hears**: nothing, or one answer. -/
theorem OneStatement.yields {program : Program α} (h : program.OneStatement silent heard)
    {exchanges : List Exchange} {result : α} (hyields : program.Yields exchanges result) :
    exchanges = [] ∧ silent result ∨
      ∃ exchange, exchanges = [exchange] ∧ heard exchange.answer result := by
  induction hyields with
  | done result => exact Or.inl ⟨rfl, h⟩
  | send answer hyields _ =>
    obtain ⟨found, hnext, hheard⟩ := h answer
    rw [hnext] at hyields
    cases hyields
    exact Or.inr ⟨_, rfl, hheard⟩
  | draw identity _ ih => exact ih (h identity)
  | warn _ ih => exact ih h

/-- What is done with the result afterwards sends nothing. -/
theorem OneStatement.map {program : Program α} (h : program.OneStatement silent heard) {f : α → β}
    {silent' : β → Prop} {heard' : Except Fault RecordSet → β → Prop}
    (hsilent : ∀ result, silent result → silent' (f result))
    (hheard : ∀ answer result, heard answer result → heard' answer (f result)) :
    (program.map f).OneStatement silent' heard' := by
  induction program with
  | done result => exact hsilent result h
  | send statement next ih =>
    intro answer
    obtain ⟨found, hnext, hfound⟩ := h answer
    refine ⟨f found, ?_, hheard answer found hfound⟩
    change (next answer).map f = _
    rw [hnext]
    rfl
  | draw next ih => exact fun identity => ih identity (h identity)
  | warn message next ih => exact ih h

theorem OneStatement.imp {program : Program α} (h : program.OneStatement silent heard)
    {silent' : α → Prop} {heard' : Except Fault RecordSet → α → Prop}
    (hsilent : ∀ result, silent result → silent' result)
    (hheard : ∀ answer result, heard answer result → heard' answer result) :
    program.OneStatement silent' heard' := by
  induction program with
  | done result => exact hsilent result h
  | send statement next ih =>
    intro answer
    obtain ⟨found, hnext, hfound⟩ := h answer
    exact ⟨found, hnext, hheard answer found hfound⟩
  | draw next ih => exact fun identity => ih identity (h identity)
  | warn message next ih => exact ih h

/-- A statement that is compiled, sent and read. -/
theorem oneStatement_query (statement : Except Fault Statement) {read : RecordSet → Except Fault α}
    (hread : ReadsBlameless read) : (query statement read).OneStatement Failed Blameless := by
  cases statement with
  | error fault => exact failed_error fault
  | ok statement => exact fun answer => ⟨answer.bind read, rfl, hread.bind answer⟩

theorem OneStatement.map_result {program : Program (Except Fault α)}
    (h : program.OneStatement Failed Blameless) (f : α → β) :
    (program.map fun result => result.map f).OneStatement Failed Blameless :=
  h.map (fun _ hfailed => hfailed.map f) fun _ _ hblameless => hblameless.map f

end Program

namespace Node

/-- The operation failed, whatever became of the node. -/
def OutcomeFailed (outcome : Except Fault α × Node) : Prop := Failed outcome.1

/-- The operation failed for what was heard, or for no local mistake, whatever became of the node. -/
def OutcomeBlameless (answer : Except Fault RecordSet) (outcome : Except Fault α × Node) : Prop :=
  Blameless answer outcome.1

theorem oneStatement_update (node : Node) :
    node.update.OneStatement OutcomeFailed OutcomeBlameless := by
  unfold update
  cases node.updateStatement with
  | error fault => exact failed_error fault
  | ok statement =>
    intro answer
    exact ⟨_, rfl, fun fault hfault => Or.inl (eq_error_of_map hfault)⟩

theorem oneStatement_sendInsert (node : Node) :
    node.sendInsert.OneStatement OutcomeFailed OutcomeBlameless := by
  unfold sendInsert
  cases node.insertStatement with
  | error fault => exact failed_error fault
  | ok statement =>
    intro answer
    cases answer with
    | error fault => exact ⟨_, rfl, blameless_heard fault⟩
    | ok records =>
      by_cases hcount : records.count = 0
      · exact ⟨(.ok false, node), by simp [hcount], blameless_ok _ _⟩
      · exact ⟨(.ok true, _), by simp [hcount]; rfl, blameless_ok _ _⟩

theorem oneStatement_save (autoIdentity : Bool) (node : Node) :
    (node.save autoIdentity).OneStatement OutcomeFailed OutcomeBlameless := by
  unfold save
  by_cases hpersisted : node.persisted = true
  · rw [if_pos hpersisted]
    exact node.oneStatement_update
  · rw [if_neg hpersisted]
    by_cases hstored : (node.fromStore && node.isAnonymous) = true
    · rw [if_pos hstored]
      exact failed_error _
    · rw [if_neg hstored]
      unfold insert
      by_cases hdraws : (node.isAnonymous && autoIdentity) = true
      · rw [if_pos hdraws]
        exact fun identity => oneStatement_sendInsert _
      · rw [if_neg hdraws]
        exact node.oneStatement_sendInsert

/-- A deletion that sends nothing returns false, and one that sends a statement does not. -/
theorem oneStatement_delete (detach : Bool) (node : Node) :
    (node.delete detach).OneStatement (fun outcome => outcome.1 = .ok false)
      fun answer outcome => outcome.1 ≠ .ok false ∧ OutcomeBlameless answer outcome := by
  unfold delete
  by_cases hdeletes : (!node.persisted || node.isAnonymous) = true
  · rw [if_pos hdeletes]
    rfl
  · rw [if_neg hdeletes]
    intro answer
    cases answer with
    | error fault => exact ⟨_, rfl, by simp, blameless_heard fault⟩
    | ok records => exact ⟨_, rfl, by simp, blameless_ok _ _⟩

theorem oneStatement_refresh (node : Node) :
    node.refresh.OneStatement OutcomeFailed OutcomeBlameless := by
  unfold refresh
  by_cases hanonymous : node.isAnonymous = true
  · rw [if_pos hanonymous]
    exact failed_error _
  · rw [if_neg hanonymous]
    intro answer
    have hread := (RecordSet.readsBlameless_nodes (.text "n")).bind answer
    cases hfound : answer.bind fun records => records.nodes (.text "n") with
    | error fault =>
      exact ⟨(.error fault, node), by simp only [hfound], blameless_error (hread fault hfound)⟩
    | ok found => exact ⟨(.ok (), node.absorb found), by simp only [hfound], blameless_ok _ _⟩

end Node

theorem Query.oneStatement_createLabelled (labels : Value) (autoIdentity : Bool)
    (attributes : Value) (more : Entries) :
    (Query.createLabelled labels autoIdentity attributes more).OneStatement Failed Blameless := by
  unfold Query.createLabelled
  cases Query.readAttributes attributes more with
  | error fault => exact failed_error fault
  | ok entries =>
    dsimp only
    cases Node.ofInputs [(.text "labels", labels), (.text "attributes", .map entries)] with
    | error fault => exact failed_error fault
    | ok node =>
      exact (node.oneStatement_save autoIdentity).map (fun _ hfailed => hfailed.map _)
        fun _ _ hblameless => hblameless.map _

/-! ## 3.  The operations -/

/-- The operations that talk to a store, each with what it is called on and its arguments, and
indexed by what it returns. -/
inductive Terminal : Type → Type
  | get (query : Query) : Terminal (List Node)
  | first (query : Query) : Terminal (Option Node)
  | find (query : Query) (identity : Value) : Terminal (Option Node)
  | count (query : Query) : Terminal Int
  | «exists» (query : Query) : Terminal Bool
  | create (query : Query) (attributes : Value) (more : Entries) : Terminal Node
  | update (query : Query) (attributes : Value) : Terminal Int
  | delete (query : Query) (detach : Bool) : Terminal Int
  | getTargets (source : Query) (traversal : Traversal) : Terminal (List Node)
  | firstTarget (source : Query) (traversal : Traversal) : Terminal (Option Node)
  | countTargets (source : Query) (traversal : Traversal) : Terminal Int
  | existsTarget (source : Query) (traversal : Traversal) : Terminal Bool
  | saveNode (node : Node) : Terminal Bool
  | deleteNode (node : Node) (detach : Bool) : Terminal Bool
  | refreshNode (node : Node) : Terminal Unit
  | saveRelationship (relationship : Relationship) : Terminal Bool

namespace Terminal

/-- The program of an operation.  What it makes of the query or of the node is left aside. -/
def program (autoIdentity : Bool) : Terminal α → Program (Except Fault α)
  | .get query => query.get
  | .first query => query.first.1
  | .find query identity => (query.find identity).1
  | .count query => query.count
  | .exists query => query.exists
  | .create query attributes more => query.create autoIdentity attributes more
  | .update query attributes => (query.update attributes).1
  | .delete query detach => query.delete detach
  | .getTargets source traversal => traversal.get source
  | .firstTarget source traversal => traversal.first source
  | .countTargets source traversal => traversal.count source
  | .existsTarget source traversal => traversal.exists source
  | .saveNode node => (node.save autoIdentity).map Prod.fst
  | .deleteNode node detach => (node.delete detach).map Prod.fst
  | .refreshNode node => node.refresh.map Prod.fst
  | .saveRelationship relationship => relationship.save

/-- How many statements an operation has handed over if it returns this: one, except that a node
which is not deleted needs none. -/
def statements : Terminal α → α → ℕ
  | .deleteNode _ _, deleted => if deleted then 1 else 0
  | _, _ => 1

variable (terminal : Terminal α)

/-- What an operation may return without having sent anything. -/
def Silent (result : Except Fault α) : Prop :=
  ∀ reply, result = .ok reply → terminal.statements reply = 0

/-- What an operation may return after an answer. -/
def Heard (answer : Except Fault RecordSet) (result : Except Fault α) : Prop :=
  (∀ reply, result = .ok reply → terminal.statements reply = 1) ∧ Blameless answer result

variable {terminal}

/-- An operation that always needs its statement. -/
theorem oneStatement_of_always {program : Program (Except Fault α)}
    (h : program.OneStatement Failed Blameless) (halways : ∀ reply, terminal.statements reply = 1) :
    program.OneStatement terminal.Silent terminal.Heard :=
  h.imp (fun _ hfailed reply hreply => absurd hreply (hfailed reply))
    fun _ _ hblameless => ⟨fun reply _ => halways reply, hblameless⟩

/-- **Every operation sends at most one statement**, and one only if its arguments are in order. -/
theorem oneStatement (terminal : Terminal α) (autoIdentity : Bool) :
    (terminal.program autoIdentity).OneStatement terminal.Silent terminal.Heard := by
  have hnodes := (RecordSet.readsBlameless_nodes (.text Query.variableName)).map
    (List.map Node.hydrate)
  have htargets := (RecordSet.readsBlameless_nodes (.text Traversal.targetName)).map
    (List.map Node.hydrate)
  cases terminal with
  | get query =>
    exact oneStatement_of_always (Program.oneStatement_query _ hnodes) fun _ => rfl
  | first query =>
    exact oneStatement_of_always ((Program.oneStatement_query _ hnodes).map_result _) fun _ => rfl
  | find query identity =>
    exact oneStatement_of_always ((Program.oneStatement_query _ hnodes).map_result _) fun _ => rfl
  | count query =>
    exact oneStatement_of_always
      (Program.oneStatement_query _ (readsBlameless_readNumber _)) fun _ => rfl
  | «exists» query =>
    exact oneStatement_of_always
      ((Program.oneStatement_query _ (readsBlameless_readNumber _)).map_result _) fun _ => rfl
  | create query attributes more =>
    exact oneStatement_of_always (Query.oneStatement_createLabelled _ _ _ _) fun _ => rfl
  | update query attributes =>
    exact oneStatement_of_always
      (Program.oneStatement_query _ (readsBlameless_readNumber _)) fun _ => rfl
  | delete query detach =>
    exact oneStatement_of_always
      (Program.oneStatement_query _ (readsBlameless_readNumber _)) fun _ => rfl
  | getTargets source traversal =>
    exact oneStatement_of_always (Program.oneStatement_query _ htargets) fun _ => rfl
  | firstTarget source traversal =>
    have hread := (RecordSet.readsBlameless_nodes (.text Traversal.targetName)).map
      fun found => found.head?.map Node.hydrate
    exact oneStatement_of_always (Program.oneStatement_query _ hread) fun _ => rfl
  | countTargets source traversal =>
    exact oneStatement_of_always
      (Program.oneStatement_query _ (readsBlameless_readNumber _)) fun _ => rfl
  | existsTarget source traversal =>
    exact oneStatement_of_always
      ((Program.oneStatement_query _ (readsBlameless_readNumber _)).map_result _) fun _ => rfl
  | saveNode node =>
    have hsave := node.oneStatement_save autoIdentity
    exact oneStatement_of_always
      (hsave.map (fun _ hfailed => hfailed) fun _ _ hblameless => hblameless) fun _ => rfl
  | deleteNode node detach =>
    refine (node.oneStatement_delete detach).map ?silent ?heard
    case silent =>
      intro outcome hfalse reply hreply
      obtain rfl := Except.ok.inj (hfalse.symm.trans hreply)
      rfl
    case heard =>
      rintro answer outcome ⟨hnot, hblameless⟩
      refine ⟨fun reply hreply => ?_, hblameless⟩
      cases reply with
      | false => exact absurd hreply hnot
      | true => rfl
  | refreshNode node =>
    exact oneStatement_of_always
      (node.oneStatement_refresh.map (fun _ hfailed => hfailed) fun _ _ hblameless => hblameless)
      fun _ => rfl
  | saveRelationship relationship =>
    have hread : ReadsBlameless fun records : RecordSet =>
        (.ok (decide (0 < records.count)) : Except Fault Bool) :=
      fun _ _ h => absurd h (by simp)
    exact oneStatement_of_always (Program.oneStatement_query _ hread) fun _ => rfl

end Terminal

/-! ## 4.  Through a gateway -/

namespace Act

/-- All faults of an act are of a kind. -/
def FailsOnly (known : Fault → Prop) (act : Act σ α) : Prop :=
  ∀ world fault, (act world).1 = .error fault → known fault

variable {known : Fault → Prop}

theorem FailsOnly.bind {act : Act σ α} {next : α → Act σ β} (h : act.FailsOnly known)
    (hnext : ∀ a, (next a).FailsOnly known) : (act >>= next).FailsOnly known := by
  intro world fault hfault
  cases hact : act world with
  | mk result after =>
    cases result with
    | error found =>
      rw [bind_error hact] at hfault
      obtain rfl := Except.error.inj hfault
      exact h world found (congrArg Prod.fst hact)
    | ok a =>
      rw [bind_ok hact] at hfault
      exact hnext a after fault hfault

/-- A fault that escapes from a bracket is one of its body or of leaving it. -/
theorem FailsOnly.within {body : Act σ α} {leave : Option Fault → Act σ Unit}
    (h : body.FailsOnly known) (hleave : ∀ passing, (leave passing).FailsOnly known) :
    (Act.within body leave).FailsOnly known := by
  intro world fault hfault
  unfold Act.within at hfault
  dsimp only at hfault
  split at hfault
  · exact h world fault hfault
  · rename_i left hleft
    obtain rfl := Except.error.inj hfault
    exact hleave _ _ _ (congrArg Prod.fst hleft)

theorem FailsOnly.mapFault {act : Act σ α} {f : Fault → Fault} (h : act.FailsOnly known)
    (hf : ∀ fault, known fault → known (f fault)) : (act.mapFault f).FailsOnly known := by
  intro world fault hfault
  change (act world).1.mapError f = .error fault at hfault
  cases hact : (act world).1 with
  | error found =>
    rw [hact] at hfault
    obtain rfl := Except.error.inj hfault
    exact hf found (h world found hact)
  | ok a =>
    rw [hact] at hfault
    exact absurd hfault (by simp [Except.mapError])

theorem failsOnly_meet (hraised : ∀ failure, known (.raised failure)) (event : Event) :
    (Act.meet event : Act σ Unit).FailsOnly known := by
  intro world fault hfault
  rw [meet_eq] at hfault
  cases hdue : (due event world.store.failures).1 with
  | none =>
    rw [hdue] at hfault
    exact absurd hfault (by simp [outcomeOf])
  | some failure =>
    rw [hdue] at hfault
    obtain rfl := Except.error.inj hfault
    exact hraised failure

theorem failsOnly_answer (hraised : ∀ failure, known (.raised failure)) (event : Event) :
    (Act.answer event : Act σ RecordSet).FailsOnly known := by
  intro world fault hfault
  change (world.store.answer event).1 = .error fault at hfault
  unfold ScriptedStore.answer at hfault
  dsimp only at hfault
  cases hanswers : (world.store.note event).answers with
  | nil =>
    rw [hanswers] at hfault
    exact absurd hfault (by simp)
  | cons next rest =>
    rw [hanswers] at hfault
    cases next with
    | records rows => exact absurd hfault (by simp [Answer.result])
    | refusal failure | interruption rows failure =>
      obtain rfl := Except.error.inj hfault
      exact hraised failure

end Act

namespace Gateway

/-- The fault is no local mistake. -/
def NoLocalMistake (fault : Fault) : Prop := fault.isLocalMistake = false

theorem noLocalMistake_report (scope : StoreScope) (fault : Fault) (h : NoLocalMistake fault) :
    NoLocalMistake (report scope fault) := by
  unfold report
  by_cases hstore : fault.isStoreFailure = true
  · rw [if_pos hstore]
    rfl
  · rw [if_neg hstore]
    exact h

theorem failsOnly_submit (event : Value → Entries → Event) (text parameters : Value) :
    (submit event text parameters : Act σ RecordSet).FailsOnly NoLocalMistake := by
  unfold submit
  cases parameters.entries? with
  | none =>
    intro world fault hfault
    obtain rfl := Except.error.inj hfault
    rfl
  | some entries => exact Act.failsOnly_answer (fun _ => rfl) _

theorem failsOnly_inSession (engine : ℕ) (database : Value) {body : Act σ α}
    (h : body.FailsOnly NoLocalMistake) :
    (inSession engine database body).FailsOnly NoLocalMistake := by
  have hengine : (Act.engine engine : Act σ Engine).FailsOnly NoLocalMistake := by
    intro world fault hfault
    unfold Act.engine at hfault
    split at hfault
    · exact absurd hfault (by simp)
    · obtain rfl := Except.error.inj hfault
      rfl
  have hopen (found : Engine) :
      (found.openSession database : Act σ Unit).FailsOnly NoLocalMistake := by
    refine Act.FailsOnly.bind ?_ fun _ => Act.failsOnly_meet (fun _ => rfl) _
    intro world fault hfault
    unfold Act.ofExcept Engine.requireDriver at hfault
    split at hfault
    · exact absurd hfault (by simp)
    · obtain rfl := Except.error.inj hfault
      rfl
  exact hengine.bind fun found => (hopen found).bind fun _ =>
    h.within fun _ => Act.failsOnly_meet (fun _ => rfl) _

/-- **A gateway makes no local mistake**: what it raises comes from the driver or the engine. -/
theorem failsOnly_run (gateway : Gateway) (statement : Statement) :
    (gateway.run statement : Act σ RecordSet).FailsOnly NoLocalMistake := by
  have hlog (text parameters : Value) :
      (logStatement gateway.options text parameters : Act σ Unit).FailsOnly NoLocalMistake :=
    fun world fault hfault => absurd hfault (by simp [logStatement, Act.write, Act.change])
  refine (hlog _ _).bind fun _ => Act.FailsOnly.mapFault ?_ (noLocalMistake_report .statement)
  cases gateway with
  | sessions engine database options =>
    exact failsOnly_inSession engine database (failsOnly_submit .ran _ _)
  | transaction options => exact failsOnly_submit .transactionRan _ _

end Gateway

namespace Program

/-- The statements that a program hands to a gateway in a world, in order, each with the answer. -/
def conversation (gateway : Gateway) : Program α → World σ → List Exchange
  | .done _, _ => []
  | .send statement next, world =>
    let answer := gateway.run statement world
    ⟨statement, answer.1⟩ :: (next answer.1).conversation gateway answer.2
  | .draw next, world =>
    (next (identityText (world.identities + 1))).conversation gateway (Act.drawIdentity world).2
  | .warn message next, world =>
    next.conversation gateway (Act.write .maintenance .warning message world).2

/-- **The conversation of a program is what it hears**, and the answers in it are the gateway's. -/
theorem yields_conversation (gateway : Gateway) (program : Program α) (world : World σ) :
    ∃ result, (program.perform gateway world).1 = .ok result ∧
      program.Yields (program.conversation gateway world) result ∧
      ∀ exchange ∈ program.conversation gateway world, ∃ met : World σ,
        (gateway.run exchange.statement met).1 = exchange.answer := by
  induction program generalizing world with
  | done result => exact ⟨result, rfl, .done result, by simp [conversation]⟩
  | send statement next ih =>
    obtain ⟨result, hresult, hyields, hanswers⟩ :=
      ih (gateway.run statement world).1 (gateway.run statement world).2
    refine ⟨result, hresult, .send _ hyields, fun exchange hexchange => ?_⟩
    rcases List.mem_cons.mp hexchange with rfl | hrest
    · exact ⟨world, rfl⟩
    · exact hanswers exchange hrest
  | draw next ih =>
    obtain ⟨result, hresult, hyields, hanswers⟩ :=
      ih (identityText (world.identities + 1)) (Act.drawIdentity world).2
    exact ⟨result, hresult, .draw _ hyields, hanswers⟩
  | warn message next ih =>
    obtain ⟨result, hresult, hyields, hanswers⟩ :=
      ih (Act.write .maintenance .warning message world).2
    exact ⟨result, hresult, .warn hyields, hanswers⟩

/-- Ending as a result says changes nothing any more. -/
theorem performOrFail_of_perform {program : Program (Except Fault α)} {gateway : Gateway}
    {world : World σ} {result : Except Fault α}
    (h : (program.perform gateway world).1 = .ok result) :
    program.performOrFail gateway world = (result, (program.perform gateway world).2) :=
  Act.bind_ok (Prod.ext h rfl)

/-- A program that hands over nothing leaves the store and the engines as they were. -/
theorem perform_of_conversation_nil {gateway : Gateway} {program : Program α} {world : World σ}
    (h : program.conversation gateway world = []) :
    (program.perform gateway world).2.store = world.store ∧
      (program.perform gateway world).2.engines = world.engines := by
  induction program generalizing world with
  | done result => exact ⟨rfl, rfl⟩
  | send statement next ih => exact absurd h (by simp [conversation])
  | draw next ih => exact ih _ h
  | warn message next ih => exact ih h

end Program

/-- **Local mistakes do not reach the store, and every operation is one statement.**  An operation on
any query, traversal, node or relationship, in whatever state it is, hands at most one statement to
its gateway.  If it returns, it has handed over exactly one, except that a deletion which returns
false has handed over none.  If it raises a local mistake, it has handed over none, and store and
engines are as they were. -/
theorem one_statement_per_terminal (terminal : Terminal α) (gateway : Gateway) (world : World σ) :
    let program := terminal.program gateway.options.autoIdentity
    let handed := program.conversation gateway world
    let outcome := program.performOrFail gateway world
    handed.length ≤ 1 ∧
    (∀ reply, outcome.1 = .ok reply → handed.length = terminal.statements reply) ∧
    ∀ fault, outcome.1 = .error fault → fault.isLocalMistake = true →
      handed = [] ∧ outcome.2.store = world.store ∧ outcome.2.engines = world.engines := by
  intro program handed outcome
  obtain ⟨result, hresult, hyields, hanswers⟩ := program.yields_conversation gateway world
  have houtcome : outcome = (result, (program.perform gateway world).2) :=
    Act.bind_ok (Prod.ext hresult rfl)
  have hone := terminal.oneStatement gateway.options.autoIdentity
  rw [houtcome]
  rcases hone.yields hyields with ⟨hnone, hsilent⟩ | ⟨exchange, hexchange, hcount, hblameless⟩
  · have hhanded : handed = [] := hnone
    refine ⟨by simp [hhanded], fun reply hreply => ?_, fun fault _ _ => ?_⟩
    · rw [hhanded, hsilent reply hreply]
      rfl
    · exact ⟨hhanded, Program.perform_of_conversation_nil hnone⟩
  · have hhanded : handed = [exchange] := hexchange
    refine ⟨by simp [hhanded], fun reply hreply => ?_, fun fault hfault hmistake => ?_⟩
    · rw [hhanded, hcount reply hreply]
      rfl
    · -- a fault after an answer is the gateway's, and a gateway makes no local mistake
      exfalso
      have hinnocent : fault.isLocalMistake = false := by
        rcases hblameless fault hfault with hanswer | hinnocent
        · obtain ⟨met, hmet⟩ := hanswers exchange (by simp [hexchange])
          exact gateway.failsOnly_run exchange.statement met fault (hmet.trans hanswer)
        · exact hinnocent
      rw [hinnocent] at hmistake
      exact absurd hmistake (by simp)

/-- Deleting every node is refused and nothing is handed over; counting them is one statement;
deleting a node that was never saved returns false and is none. -/
theorem one_statement_per_terminal_refused :
    let gateway : Gateway := .transaction {}
    let world : World Unit := { own := () }
    let handed {α : Type} (terminal : Terminal α) : List Exchange :=
      (terminal.program true).conversation gateway world
    let outcome {α : Type} (terminal : Terminal α) : Except Fault α :=
      ((terminal.program true).performOrFail gateway world).1
    (outcome (.delete {} true) = .error (.unsafeMutation .delete []) ∧
      handed (.delete {} true) = []) ∧
    (outcome (.count {}) = .ok 0 ∧ (handed (.count {})).length = 1) ∧
    outcome (.deleteNode {} true) = .ok false ∧ (handed (.deleteNode {} true)).length = 0 := by
  intro gateway world handed outcome
  have hrefused : outcome (.delete {} true) = .error (.unsafeMutation .delete []) := rfl
  have hcounted : outcome (.count {}) = .ok 0 := rfl
  have hkept : outcome (.deleteNode {} true) = .ok false := rfl
  have hnothing := (one_statement_per_terminal (.delete {} true) gateway world).2.2 _ hrefused rfl
  have hone := (one_statement_per_terminal (.count {}) gateway world).2.1 0 hcounted
  have hnone := (one_statement_per_terminal (.deleteNode {} true) gateway world).2.1 false hkept
  exact ⟨⟨hrefused, hnothing.1⟩, ⟨hcounted, hone⟩, hkept, hnone⟩

end GraphMapper
