import GraphMapper.Proofs.Names
import GraphMapper.Query.Basic
import Mathlib.Data.List.Basic

/-!
# Calls on a query, and what each of them asks for

A query is built by calls, and a call may be refused.  Whoever builds a query can catch the fault
and go on, so a history is a list of calls of which some had no effect, and the query after it is
a fold.

## What a call asks for

Each call asks for one thing: other labels, one more condition, another ordering, another limit.
What it asks for is read off its arguments alone; it does not depend on the query.  The readings
`labels?`, `requirement?`, `sorting?` and `limit?` say so, and `QueryCall.after_eq` is the one
statement about the effect of a call that everything else uses: it says all that a call can do,
refusals included.  A `Requirement` is a condition before a placeholder was chosen for it, with
the value it compares with in its place.
-/

namespace GraphMapper

/-- A condition as it is asked for: a property, an operator and the value to compare with. -/
structure Requirement where
  field : String
  operator : Operator
  value : Value
  connective : Connective := .and

namespace Requirement

/-- What the arguments of a condition ask for: two of them mean equality, three name an
operator. -/
def ofOperands? (connective : Connective) (field first : Value) :
    Option Value → Option Requirement
  | none => do
    let name ← (identifier fieldRole field).toOption
    return ⟨name, .equal, first, connective⟩
  | some value => do
    let name ← (identifier fieldRole field).toOption
    let operator ← (Operator.read first).toOption
    return ⟨name, operator, value, connective⟩

/-- What a membership condition asks for: the members of the collection, as one list. -/
def ofCollection? (field collection : Value) : Option Requirement := do
  let members ← (Query.readCollection collection).toOption
  let name ← (identifier fieldRole field).toOption
  return ⟨name, .oneOf, .list members, .and⟩

/-- The condition that a requirement becomes under a placeholder. -/
def toCondition (requirement : Requirement) (parameter : String) : Condition :=
  ⟨requirement.field, requirement.operator, parameter, requirement.connective⟩

end Requirement

/-- A new query has its labels, each once, and nothing else. -/
theorem Query.ofLabels_eq_ok {given : List Value} {fresh : Query}
    (h : Query.ofLabels given = .ok fresh) :
    ∃ names, identifiers labelRole given = .ok names ∧ fresh = { labels := distinct names } := by
  rw [ofLabels, withLabels] at h
  obtain ⟨names, hnames, h⟩ := exists_of_bind_eq_ok h
  exact ⟨names, hnames, (Except.ok.inj h).symm⟩

/-- Every operator is read from its own text. -/
@[simp] theorem Operator.read_text (o : Operator) : Operator.read (.text o.text) = .ok o := by
  cases o <;> rfl

/-- Binds the value of a requirement and appends its condition. -/
def Query.require (query : Query) (requirement : Requirement) : Query :=
  query.append requirement.field requirement.operator requirement.value requirement.connective

/-- A condition is added as its requirement says, and refused if there is none. -/
theorem Query.toOption_addCondition (query : Query) (field operator value : Value)
    (connective : Connective) :
    (query.addCondition field operator value connective).toOption =
      (Requirement.ofOperands? connective field operator (some value)).map query.require := by
  rw [Query.addCondition, Requirement.ofOperands?]
  cases identifier fieldRole field with
  | error fault => rfl
  | ok name =>
    cases Operator.read operator with
    | error fault => rfl
    | ok o => rfl

/-- The two forms of a condition's arguments ask for the same as their three-argument form. -/
theorem Requirement.ofOperands?_splitOperands (connective : Connective) (field first : Value)
    (second : Option Value) :
    Requirement.ofOperands? connective field (splitOperands first second).1
      (some (splitOperands first second).2) =
        Requirement.ofOperands? connective field first second := by
  cases second with
  | some value => rfl
  | none =>
    change ofOperands? connective field (.text Operator.equal.text) (some first) = _
    rw [ofOperands?, ofOperands?, Operator.read_text]
    rfl

theorem eq_ok_of_toOption {ε α : Type} {result : Except ε α} {a : α}
    (h : result.toOption = some a) : result = .ok a := by
  cases result with
  | error e => exact absurd h (by simp [Except.toOption])
  | ok b => exact congrArg Except.ok (Option.some.inj h)

theorem Requirement.isIdentifier_of_ofOperands? {connective : Connective} {field first : Value}
    {second : Option Value} {requirement : Requirement}
    (h : Requirement.ofOperands? connective field first second = some requirement) :
    isIdentifier requirement.field = true := by
  cases second with
  | none =>
    rw [ofOperands?] at h
    obtain ⟨name, hname, h⟩ := Option.bind_eq_some_iff.mp h
    rw [← Option.some.inj h]
    exact isIdentifier_of_identifier (eq_ok_of_toOption hname)
  | some value =>
    rw [ofOperands?] at h
    obtain ⟨name, hname, h⟩ := Option.bind_eq_some_iff.mp h
    obtain ⟨operator, -, h⟩ := Option.bind_eq_some_iff.mp h
    rw [← Option.some.inj h]
    exact isIdentifier_of_identifier (eq_ok_of_toOption hname)

theorem Requirement.isIdentifier_of_ofCollection? {field collection : Value}
    {requirement : Requirement}
    (h : Requirement.ofCollection? field collection = some requirement) :
    isIdentifier requirement.field = true := by
  rw [ofCollection?] at h
  obtain ⟨members, -, h⟩ := Option.bind_eq_some_iff.mp h
  obtain ⟨name, hname, h⟩ := Option.bind_eq_some_iff.mp h
  rw [← Option.some.inj h]
  exact isIdentifier_of_identifier (eq_ok_of_toOption hname)

/-! ## Calls -/

/-- A call that builds a query. -/
inductive QueryCall where
  | label (labels : List Value)
  | «where» (field first : Value) (second : Option Value)
  | orWhere (field first : Value) (second : Option Value)
  | whereIn (field collection : Value)
  | orderBy (field direction : Value)
  | limit (count : Value)

/-- What a call is about. -/
inductive CallKind where
  | labels
  | conditions
  | ordering
  | limit
  deriving DecidableEq

namespace QueryCall

/-- Performs a call. -/
def perform : QueryCall → Query → Except Fault Query
  | .label labels, query => query.withLabels labels
  | .«where» field first second, query => query.where field first second
  | .orWhere field first second, query => query.orWhere field first second
  | .whereIn field collection, query => query.whereIn field collection
  | .orderBy field direction, query => query.orderBy field direction
  | .limit count, query => query.withLimit count

/-- The query after a call whose fault, if there is one, is caught. -/
def after (call : QueryCall) (query : Query) : Query :=
  match call.perform query with
  | .ok changed => changed
  | .error _ => query

/-- What a call is about. -/
def kind : QueryCall → CallKind
  | .label _ => .labels
  | .«where» .. | .orWhere .. | .whereIn .. => .conditions
  | .orderBy .. => .ordering
  | .limit _ => .limit

/-- The labels that a call asks for. -/
def labels? : QueryCall → Option (List String)
  | .label labels => (identifiers labelRole labels).toOption
  | _ => none

/-- The condition that a call asks for. -/
def requirement? : QueryCall → Option Requirement
  | .«where» field first second => Requirement.ofOperands? .and field first second
  | .orWhere field first second => Requirement.ofOperands? .or field first second
  | .whereIn field collection => Requirement.ofCollection? field collection
  | _ => none

/-- The ordering that a call asks for. -/
def sorting? : QueryCall → Option Sorting
  | .orderBy field direction => do
    let name ← (identifier fieldRole field).toOption
    let direction ← (SortDirection.read direction).toOption
    return ⟨name, direction⟩
  | _ => none

/-- The limit that a call asks for. -/
def limit? : QueryCall → Option Nat
  | .limit count => (readLimit count).toOption
  | _ => none

/-- Whether a call asks for anything. -/
def asks (call : QueryCall) : Bool :=
  call.labels?.isSome || call.requirement?.isSome || call.sorting?.isSome || call.limit?.isSome

/-- A query with what a call asks for. -/
def granted (call : QueryCall) (query : Query) : Query :=
  let required := call.requirement?.elim query query.require
  { required with
    labels := (call.labels?.map distinct).getD query.labels
    sorting := call.sorting?.or query.sorting
    limit := call.limit?.or query.limit }

end QueryCall

/-- The query after a history of calls. -/
def Query.afterCalls (query : Query) (calls : List QueryCall) : Query :=
  calls.foldl (fun query call => call.after query) query

namespace QueryCall

theorem after_of_perform_eq_error {call : QueryCall} {query : Query} {fault : Fault}
    (h : call.perform query = .error fault) : call.after query = query := by
  rw [after, h]

/-- A membership condition adds the condition it asks for, if it asks for one. -/
theorem toOption_whereIn (query : Query) (field collection : Value) :
    (query.whereIn field collection).toOption =
      (Requirement.ofCollection? field collection).map query.require := by
  rw [Query.whereIn, Requirement.ofCollection?]
  cases Query.readCollection collection with
  | error fault => rfl
  | ok members =>
    change (query.addCondition field (.text Operator.oneOf.text) (.list members) .and).toOption = _
    rw [Query.toOption_addCondition, Requirement.ofOperands?, Operator.read_text]
    rfl

/-- **All that a call can do.**  It is refused exactly if its arguments ask for nothing, and if
it is not refused it changes the query into the query with what it asks for. -/
theorem toOption_perform (call : QueryCall) (query : Query) :
    (call.perform query).toOption = if call.asks then some (call.granted query) else none := by
  cases call with
  | label labels =>
    change (query.withLabels labels).toOption = _
    rw [Query.withLabels, asks, granted, labels?]
    cases identifiers labelRole labels <;> rfl
  | «where» field first second =>
    change (query.addCondition field (splitOperands first second).1
      (splitOperands first second).2 .and).toOption = _
    rw [Query.toOption_addCondition, Requirement.ofOperands?_splitOperands, asks, granted,
      requirement?]
    cases Requirement.ofOperands? .and field first second <;> rfl
  | orWhere field first second =>
    change (query.addCondition field (splitOperands first second).1
      (splitOperands first second).2 .or).toOption = _
    rw [Query.toOption_addCondition, Requirement.ofOperands?_splitOperands, asks, granted,
      requirement?]
    cases Requirement.ofOperands? .or field first second <;> rfl
  | whereIn field collection =>
    change (query.whereIn field collection).toOption = _
    rw [toOption_whereIn, asks, granted, requirement?]
    cases Requirement.ofCollection? field collection <;> rfl
  | orderBy field direction =>
    change (query.orderBy field direction).toOption = _
    rw [Query.orderBy, asks, granted, sorting?]
    cases identifier fieldRole field with
    | error fault => rfl
    | ok name => cases SortDirection.read direction <;> rfl
  | limit count =>
    change (query.withLimit count).toOption = _
    rw [Query.withLimit, asks, granted, limit?]
    cases readLimit count <;> rfl

/-- A call succeeds exactly if it asks for something, whatever query it is made on. -/
theorem isOk_perform (call : QueryCall) (query : Query) :
    (call.perform query).isOk = call.asks := by
  have h := toOption_perform call query
  cases hp : call.perform query with
  | error fault =>
    rw [hp] at h
    cases ha : call.asks with
    | false => rfl
    | true => rw [ha] at h; exact absurd h (by simp [Except.toOption])
  | ok changed =>
    rw [hp] at h
    cases ha : call.asks with
    | false => rw [ha] at h; exact absurd h (by simp [Except.toOption])
    | true => rfl

/-- A call that asks for nothing grants nothing. -/
theorem granted_of_not_asks {call : QueryCall} (h : call.asks = false) (query : Query) :
    call.granted query = query := by
  simp only [asks, Bool.or_eq_false_iff, Option.isSome_eq_false_iff, Option.isNone_iff_eq_none] at h
  obtain ⟨⟨⟨hlabels, hrequirement⟩, hsorting⟩, hlimit⟩ := h
  rw [granted, hlabels, hrequirement, hsorting, hlimit]
  rfl

/-- Refused or not, the query after a call is the query with what the call asks for. -/
theorem after_eq (call : QueryCall) (query : Query) : call.after query = call.granted query := by
  have hgetD : call.after query = (call.perform query).toOption.getD query := by
    rw [after]
    cases call.perform query <;> rfl
  rw [hgetD, toOption_perform]
  cases h : call.asks with
  | true => rfl
  | false => exact (granted_of_not_asks h query).symm

/-! ## What is asked for was accepted -/

theorem isIdentifier_of_labels? {call : QueryCall} {names : List String}
    (h : call.labels? = some names) : ∀ name ∈ names, isIdentifier name = true := by
  cases call with
  | label given =>
    rw [labels?] at h
    exact (eq_map_text_of_identifiers (eq_ok_of_toOption h)).2
  | _ => exact absurd h (by simp [labels?])

theorem isIdentifier_of_requirement? {call : QueryCall} {requirement : Requirement}
    (h : call.requirement? = some requirement) : isIdentifier requirement.field = true := by
  cases call with
  | «where» field first second => exact Requirement.isIdentifier_of_ofOperands? h
  | orWhere field first second => exact Requirement.isIdentifier_of_ofOperands? h
  | whereIn field collection => exact Requirement.isIdentifier_of_ofCollection? h
  | _ => exact absurd h (by simp [requirement?])

theorem isIdentifier_of_sorting? {call : QueryCall} {sorting : Sorting}
    (h : call.sorting? = some sorting) : isIdentifier sorting.field = true := by
  cases call with
  | orderBy field direction =>
    rw [sorting?] at h
    obtain ⟨name, hname, h⟩ := Option.bind_eq_some_iff.mp h
    obtain ⟨read, -, h⟩ := Option.bind_eq_some_iff.mp h
    obtain rfl : ⟨name, read⟩ = sorting := Option.some.inj h
    exact isIdentifier_of_identifier (eq_ok_of_toOption hname)
  | _ => exact absurd h (by simp [sorting?])

/-! ## A call asks for nothing that it is not about -/

theorem labels?_eq_none {call : QueryCall} (h : call.kind ≠ .labels) : call.labels? = none := by
  cases call with
  | label labels => exact absurd rfl h
  | _ => rfl

theorem requirement?_eq_none {call : QueryCall} (h : call.kind ≠ .conditions) :
    call.requirement? = none := by
  cases call with
  | «where» field first second => exact absurd rfl h
  | orWhere field first second => exact absurd rfl h
  | whereIn field collection => exact absurd rfl h
  | _ => rfl

theorem sorting?_eq_none {call : QueryCall} (h : call.kind ≠ .ordering) :
    call.sorting? = none := by
  cases call with
  | orderBy field direction => exact absurd rfl h
  | _ => rfl

theorem limit?_eq_none {call : QueryCall} (h : call.kind ≠ .limit) : call.limit? = none := by
  cases call with
  | limit count => exact absurd rfl h
  | _ => rfl

/-- **Calls of different kinds commute**: each changes a part of the query that the other
neither reads nor writes. -/
theorem after_comm {first second : QueryCall} (h : first.kind ≠ second.kind) (query : Query) :
    second.after (first.after query) = first.after (second.after query) := by
  rw [after_eq, after_eq, after_eq, after_eq]
  cases hk : first.kind with
  | labels =>
    have hs : second.labels? = none := labels?_eq_none fun hs => h (hk.trans hs.symm)
    have hrequirement : first.requirement? = none := requirement?_eq_none (by simp [hk])
    have hsorting : first.sorting? = none := sorting?_eq_none (by simp [hk])
    have hlimit : first.limit? = none := limit?_eq_none (by simp [hk])
    simp only [granted, hrequirement, hsorting, hlimit, hs]
    cases second.requirement? <;> rfl
  | conditions =>
    have hs : second.requirement? = none := requirement?_eq_none fun hs => h (hk.trans hs.symm)
    have hlabels : first.labels? = none := labels?_eq_none (by simp [hk])
    have hsorting : first.sorting? = none := sorting?_eq_none (by simp [hk])
    have hlimit : first.limit? = none := limit?_eq_none (by simp [hk])
    simp only [granted, hlabels, hsorting, hlimit, hs]
    cases first.requirement? <;> rfl
  | ordering =>
    have hs : second.sorting? = none := sorting?_eq_none fun hs => h (hk.trans hs.symm)
    have hlabels : first.labels? = none := labels?_eq_none (by simp [hk])
    have hrequirement : first.requirement? = none := requirement?_eq_none (by simp [hk])
    have hlimit : first.limit? = none := limit?_eq_none (by simp [hk])
    simp only [granted, hlabels, hrequirement, hlimit, hs]
    cases second.requirement? <;> rfl
  | limit =>
    have hs : second.limit? = none := limit?_eq_none fun hs => h (hk.trans hs.symm)
    have hlabels : first.labels? = none := labels?_eq_none (by simp [hk])
    have hrequirement : first.requirement? = none := requirement?_eq_none (by simp [hk])
    have hsorting : first.sorting? = none := sorting?_eq_none (by simp [hk])
    simp only [granted, hlabels, hrequirement, hsorting, hs]
    cases second.requirement? <;> rfl

end QueryCall

end GraphMapper
