import GraphMapper.Store.Engine
import GraphMapper.Store.Records

/-!
# A scripted store

The store that the mapper runs over here follows a script.  It answers statements from a
queue, in order, and answers with no records when the queue is empty.  At each point of a
conversation where a driver can fail it fails if the script says so, once for each entry of the
script and first in, first out at each point.

Everything it is asked is an event, and an event is noted before the failure that may follow
it.  The list of events is therefore the complete trace of a conversation, failures included.

Drivers are numbered in the order of their creation, so that a trace says which driver was
verified and which was closed.
-/

namespace GraphMapper

/-- What a store sees of a conversation.  The text of a statement is shown as it was given, even
if it is no text.  Leaving a session or a transaction carries the fault that is passing
through. -/
inductive Event where
  | driverRequested (server : ServerAddress)
  | verified (driver : Nat)
  | driverClosed (driver : Nat)
  | sessionOpened (database : Value)
  | ran (text : Value) (parameters : Entries)
  | sessionLeft (passing : Option Fault)
  | begun
  | transactionRan (text : Value) (parameters : Entries)
  | committed
  | transactionLeft (passing : Option Fault)

/-- The points of a conversation at which a driver can fail on its own. -/
inductive Point where
  | creation
  | verification
  | closing
  | opening
  | leavingSession
  | beginning
  | committing
  | leavingTransaction
  deriving DecidableEq

/-- The point that an event is.  Statements fail through their answers. -/
def Event.point? : Event → Option Point
  | .driverRequested _ => some .creation
  | .verified _ => some .verification
  | .driverClosed _ => some .closing
  | .sessionOpened _ => some .opening
  | .ran .. => none
  | .sessionLeft _ => some .leavingSession
  | .begun => some .beginning
  | .transactionRan .. => none
  | .committed => some .committing
  | .transactionLeft _ => some .leavingTransaction

/-- What a store answers to a statement: records, or a failure at once, or a failure while
some records are being read. -/
inductive Answer where
  | records (rows : List Value)
  | refusal (failure : Failure)
  | interruption (rows : List Value) (failure : Failure)

/-- A store with its script and its trace. -/
structure ScriptedStore where
  answers : List Answer := []
  failures : List (Point × Failure) := []
  drivers : Nat := 0
  events : List Event := []

/-- The first failure that is due at a point, and the rest of the script. -/
def takeFailure (point : Point) :
    List (Point × Failure) → Option Failure × List (Point × Failure)
  | [] => (none, [])
  | (p, failure) :: rest =>
    if p = point then (some failure, rest)
    else
      let (found, others) := takeFailure point rest
      (found, (p, failure) :: others)

/-- What a caller gets of an answer.  Records are read to the end, so those before an
interruption are lost. -/
def Answer.result : Answer → Except Fault RecordSet
  | .records rows => .ok ⟨rows⟩
  | .refusal failure => .error (.raised failure)
  | .interruption _ failure => .error (.raised failure)

namespace ScriptedStore

/-- Notes an event. -/
def note (store : ScriptedStore) (event : Event) : ScriptedStore :=
  { store with events := store.events ++ [event] }

/-- Notes an event and fails if the script says so. -/
def meet (store : ScriptedStore) (event : Event) : Except Fault Unit × ScriptedStore :=
  let noted := store.note event
  match event.point? with
  | none => (.ok (), noted)
  | some point =>
    let (failure, rest) := takeFailure point noted.failures
    let after := { noted with failures := rest }
    match failure with
    | none => (.ok (), after)
    | some failure => (.error (.raised failure), after)

/-- Notes a statement and answers it. -/
def answer (store : ScriptedStore) (event : Event) : Except Fault RecordSet × ScriptedStore :=
  let noted := store.note event
  match noted.answers with
  | [] => (.ok {}, noted)
  | next :: rest => (next.result, { noted with answers := rest })

end ScriptedStore

end GraphMapper
