import GraphMapper.Proofs.Reading.NodeCommand
import GraphMapper.Proofs.Store.Traffic

/-!
# What clearing clears

Clearing deletes all nodes with a label, or all nodes there are.  Which of the two it is depends on
the label alone, and it is decided twice: the command refuses a label that is no name before it asks
anything, and `Maintenance.clearNodes` compiles a statement from the label that it is given.

The two do not agree on when there is no label.  For the command there is none if the option was not
given; for `clearNodes` there is none if the value is empty.

* `readClearing` reads the labels of a clearing statement back from its text, as a store does, and
  `readClearing_clearing` says that accepted labels are read as they were written.
* `Maintenance.ClearsScoped` says what `clearNodes` does with a label: with a name, with nothing, and
  with anything else.
* `App.CommandScoped` says what the command does with its option.  Only an option that was not given
  clears all nodes.
* `clearing_empty_label` is the disagreement: `clearNodes` with an empty text clears all nodes.
-/

namespace GraphMapper

variable {σ : Type}

/-! ## 1.  The statement -/

/-- What stands after the labels in a clearing statement. -/
def clearingEnd : String := ") DETACH DELETE n RETURN count(n) AS deleted"

/-- The statement that clears the nodes with all of some labels. -/
def clearing (labels : List String) : Statement :=
  ⟨"MATCH (n" ++ Fault.labelsText labels ++ clearingEnd, []⟩

/-- The labels that a clearing statement is restricted to, read from its text. -/
def readClearing (text : String) : Option (List String) := do
  let pattern ← Reading.skip (tokens "MATCH (n") (tokens text)
  let (labels, afterLabels) := Reading.labels pattern
  let rest ← Reading.skip (tokens clearingEnd) afterLabels
  if rest.isEmpty then some labels else none

/-- **A clearing statement is read as restricted to its labels**, each as a store reads it. -/
theorem readClearing_clearing {labels : List String}
    (h : ∀ name ∈ labels, isIdentifier name = true) :
    readClearing (clearing labels).text = some (labels.map readName) := by
  have hend : Closed clearingEnd := closed_of_toList_eq rfl (by decide)
  have htokens : tokens (clearing labels).text =
      tokens "MATCH (n" ++ (labelTokens (labels.map readName) ++ tokens clearingEnd) := by
    rw [clearing, tokens_append_append _ (closed_labelsText labels) hend, tokens_labelsText h]
  have hstart : (tokens clearingEnd).head? ≠ some (.mark ':') := by decide +kernel
  have hrest : Reading.skip (tokens clearingEnd) (tokens clearingEnd) = some [] := by
    have hskip := Reading.skip_append (tokens clearingEnd) []
    rwa [List.append_nil] at hskip
  rw [readClearing, htokens, Reading.skip_append]
  change (do
    let rest ← Reading.skip (tokens clearingEnd) (Reading.labels _).2
    if rest.isEmpty then some (Reading.labels _).1 else none) = _
  rw [Reading.labels_append _ hstart, hrest]
  rfl

/-! ## 2.  What becomes of a label -/

namespace Maintenance

theorem clearStatement_of_isIdentifier {name : String} (h : isIdentifier name = true) :
    clearStatement (.text name) = .ok (clearing [name]) := by
  have htruthy : (Value.text name).isTruthy = true := by
    rw [Value.isTruthy, Bool.not_eq_true', Bool.eq_false_iff]
    intro hempty
    rw [String.isEmpty_iff.mp hempty] at h
    exact absurd h (by decide)
  have hlabels : labelFragment [.text name] = .ok (Fault.labelsText [name]) :=
    labelFragment_map_text (List.forall_mem_singleton.mpr h)
  rw [clearStatement, if_pos htruthy, hlabels]
  rfl

theorem clearStatement_of_nothing {label : Value} (h : label.isTruthy = false) :
    clearStatement label = .ok (clearing []) := by
  rw [clearStatement, h]
  rfl

theorem clearStatement_of_refused {label : Value} (h : label.isTruthy = true)
    (hrefused : ∀ name, label = .text name → isIdentifier name = false) :
    clearStatement label = .error (.invalidIdentifier labelRole label) := by
  rw [clearStatement, if_pos h, labelFragment, identifiers]
  cases hlabel : identifier labelRole label with
  | ok name =>
    obtain ⟨htext, hname⟩ := identifier_eq_ok_iff.mp hlabel
    exact absurd hname (Bool.eq_false_iff.mp (hrefused name htext))
  | error fault =>
    rw [identifier_eq_error hlabel]
    rfl

/-- What clearing a label through a gateway hands over, and what the store is sent. -/
structure ClearsScoped (gateway : Gateway) (label : Value) (world : World σ) : Prop where
  /-- A name: one statement, which is restricted to this label and no other. -/
  named : ∀ name, label = .text name → isIdentifier name = true →
    ((clearNodes label).conversation gateway world).map Exchange.statement = [clearing [name]] ∧
      readClearing (clearing [name]).text = some [readName name]
  /-- Anything else but nothing: it is refused, nothing is handed over, and nothing changes. -/
  refused : label.isTruthy = true → (∀ name, label = .text name → isIdentifier name = false) →
    (clearNodes label).conversation gateway world = [] ∧
      (clearNodes label).performOrFail gateway world =
        (.error (.invalidIdentifier labelRole label), world)
  /-- Nothing, be it null or empty: one statement, which is restricted to no label. -/
  unrestricted : label.isTruthy = false →
    ((clearNodes label).conversation gateway world).map Exchange.statement = [clearing []] ∧
      readClearing (clearing []).text = some []
  /-- The store is sent no other statement than the one that is handed over. -/
  sent : world.Sent
    (((clearNodes label).conversation gateway world).map fun e => e.statement.handed)
    ((clearNodes label).performOrFail gateway world).2

theorem clearsScoped (gateway : Gateway) (label : Value) (world : World σ) :
    ClearsScoped gateway label world where
  named := by
    rintro name rfl hname
    have hread : readClearing (clearing [name]).text = some [readName name] :=
      readClearing_clearing (List.forall_mem_singleton.mpr hname)
    refine ⟨?_, hread⟩
    rw [clearNodes, clearStatement_of_isIdentifier hname]
    rfl
  refused := by
    intro htruthy hrefused
    rw [clearNodes, clearStatement_of_refused htruthy hrefused]
    exact ⟨rfl, rfl⟩
  unrestricted := by
    intro hnothing
    have hread : readClearing (clearing []).text = some [] :=
      readClearing_clearing fun _ hname => absurd hname List.not_mem_nil
    refine ⟨?_, hread⟩
    rw [clearNodes, clearStatement_of_nothing hnothing]
    rfl
  sent := (clearNodes label).sent_performOrFail gateway world

end Maintenance

/-! ## 3.  The command -/

namespace App

/-- What the clearing command does to the store. -/
structure CommandScoped (settings : Settings) (label : Option String) (force : Bool)
    (input : List String) (world : World σ) : Prop where
  /-- A label that is no name is refused, and nothing changes. -/
  refused : ∀ name, label = some name → isIdentifier name = false →
    (clear settings label force input world).2 = world
  /-- Nothing changes either if the command has to ask and is not told to go on. -/
  declined : force = false → (Prompt.confirm (clearQuestion settings label) input).2 ≠ some true →
    (clear settings label force input world).2 = world
  /-- The store is sent one statement at most, and it is restricted to the label that was given; to
  none if none was given. -/
  restricted : ∃ happened,
    (clear settings label force input world).2.events = world.events ++ happened ∧
      (sentIn happened = [] ∨ sentIn happened = [(clearing label.toList).handed] ∧
        readClearing (clearing label.toList).text = some (label.toList.map readName))

variable {settings : Settings} {label : Option String} {force : Bool} {input : List String}
  {world : World σ}

theorem checkLabel_of_refused {name : String} (h : isIdentifier name = false) :
    checkLabel (some name) = .error (.invalidIdentifier labelRole (.text name)) := by
  rw [checkLabel, identifier_text, h]
  rfl

theorem isIdentifier_of_checkLabel (h : checkLabel label = .ok ()) :
    ∀ name ∈ label.toList, isIdentifier name = true := by
  intro name hname
  rw [Option.mem_toList] at hname
  subst hname
  by_contra hrefused
  rw [checkLabel_of_refused (Bool.eq_false_iff.mpr hrefused)] at h
  exact absurd h (by simp)

/-- A command whose label is refused changes nothing. -/
theorem clear_of_refused {fault : Fault} (h : checkLabel label = .error fault) :
    (clear settings label force input world).2 = world := by
  rw [clear, h]

/-- A command that asks and is not told to go on changes nothing. -/
theorem clear_of_declined (hforce : force = false)
    (h : (Prompt.confirm (clearQuestion settings label) input).2 ≠ some true) :
    (clear settings label force input world).2 = world := by
  subst hforce
  cases hcheck : checkLabel label with
  | error fault => exact clear_of_refused hcheck
  | ok _ =>
    rw [clear, hcheck]
    change (if false = true then clearNow settings label world else _).2 = world
    rw [if_neg Bool.false_ne_true]
    revert h
    -- What is printed is left unevaluated.
    generalize Prompt.confirm (clearQuestion settings label) input = confirmed,
      print [Page.line "[yellow]Operation cancelled[/yellow]"] 0 = cancelled
    intro h
    obtain ⟨asked, answer⟩ := confirmed
    obtain ⟨printed, ending⟩ := cancelled
    rcases answer with _ | _ | _
    · rfl
    · rfl
    · exact absurd rfl h

/-- What a clearing command asks, as far as it is answered. -/
def asked (settings : Settings) (label : Option String) (force : Bool) (input : List String) :
    List String :=
  if force then [] else (Prompt.confirm (clearQuestion settings label) input).1

/-- Any other command clears. -/
theorem clear_of_confirmed (hcheck : checkLabel label = .ok ())
    (h : force = false → (Prompt.confirm (clearQuestion settings label) input).2 = some true) :
    clear settings label force input world =
      ((asked settings label force input ++ (clearNow settings label world).1.1,
        (clearNow settings label world).1.2), (clearNow settings label world).2) := by
  rw [clear, hcheck, asked]
  change (if force = true then clearNow settings label world else _) = _
  generalize clearNow settings label world = cleared
  obtain ⟨⟨printed, ending⟩, after⟩ := cleared
  cases force with
  | true =>
    rw [if_pos rfl, if_pos rfl]
    rfl
  | false =>
    have hconfirmed := h rfl
    rw [if_neg Bool.false_ne_true, if_neg Bool.false_ne_true]
    revert hconfirmed
    generalize Prompt.confirm (clearQuestion settings label) input = confirmed
    intro hconfirmed
    obtain ⟨asked, answer⟩ := confirmed
    obtain rfl : answer = some true := hconfirmed
    rfl

/-- **A command changes nothing, or clears with an accepted label.** -/
theorem clear_cases (settings : Settings) (label : Option String) (force : Bool)
    (input : List String) (world : World σ) :
    (clear settings label force input world).2 = world ∨
      (∀ name ∈ label.toList, isIdentifier name = true) ∧
        clear settings label force input world =
          ((asked settings label force input ++ (clearNow settings label world).1.1,
            (clearNow settings label world).1.2), (clearNow settings label world).2) := by
  cases hcheck : checkLabel label with
  | error fault => exact Or.inl (clear_of_refused hcheck)
  | ok _ =>
    by_cases hgoes : force = false →
        (Prompt.confirm (clearQuestion settings label) input).2 = some true
    · exact Or.inr ⟨isIdentifier_of_checkLabel hcheck, clear_of_confirmed hcheck hgoes⟩
    · rw [Classical.not_imp] at hgoes
      exact Or.inl (clear_of_declined hgoes.1 hgoes.2)

/-- Clearing with an accepted label, or none, sends the statement that is restricted to it. -/
theorem sent_clearNow (h : ∀ name ∈ label.toList, isIdentifier name = true) :
    world.Sent [(clearing label.toList).handed] (clearNow settings label world).2 := by
  have hstatement : Maintenance.clearStatement (labelValue label) = .ok (clearing label.toList) := by
    cases label with
    | none => exact Maintenance.clearStatement_of_nothing rfl
    | some name => exact Maintenance.clearStatement_of_isIdentifier (h name (by simp))
  have hjob (gateway : Gateway) (world : World σ) :
      ((Maintenance.clearNodes (labelValue label)).conversation gateway world).map
        (fun e => e.statement.handed) = [(clearing label.toList).handed] := by
    rw [Maintenance.clearNodes, hstatement]
    rfl
  have hsent := sends_withGateway settings hjob world
  have hworld : (clearNow settings label world).2 =
      (withGateway settings (Maintenance.clearNodes (labelValue label)) world).2 := by
    unfold clearNow
    generalize withGateway settings (Maintenance.clearNodes (labelValue label)) world = outcome
    obtain ⟨result, after⟩ := outcome
    cases result <;> rfl
  rw [hworld]
  exact hsent

theorem commandScoped (settings : Settings) (label : Option String) (force : Bool)
    (input : List String) (world : World σ) :
    CommandScoped settings label force input world := by
  refine ⟨?_, clear_of_declined, ?_⟩
  · rintro name rfl hrefused
    exact clear_of_refused (checkLabel_of_refused hrefused)
  · rcases clear_cases settings label force input world with hsame | ⟨haccepted, hclear⟩
    · exact ⟨[], by rw [hsame, List.append_nil], Or.inl rfl⟩
    · have hclears : world.Sent [(clearing label.toList).handed]
          (clearNow settings label world).2 := sent_clearNow haccepted
      obtain ⟨happened, hevents, hsent⟩ := hclears
      rw [hclear]
      refine ⟨happened, hevents, ?_⟩
      rcases List.sublist_singleton.mp hsent with hnone | hone
      · exact Or.inl hnone
      · exact Or.inr ⟨hone, readClearing_clearing haccepted⟩

end App

/-- **Clearing is restricted to the label that is given.**  `clearNodes` hands over one statement for
a name, restricted to just that label; it refuses anything else that is not empty, and nothing is
handed over.  The command sends nothing for a label that is no name, or if it is not told to go on,
and otherwise at most one statement, which is restricted to the label unless none was given.

`clearNodes` takes an empty value for no label at all, and clears every node. -/
theorem clearing_scoped (gateway : Gateway) (given : Value) (settings : Settings)
    (label : Option String) (force : Bool) (input : List String) (world : World σ) :
    Maintenance.ClearsScoped gateway given world ∧
      App.CommandScoped settings label force input world :=
  ⟨Maintenance.clearsScoped gateway given world,
    App.commandScoped settings label force input world⟩

/-- **An empty label clears everything**: it is no name and not null, and yet it is not refused but
one statement is sent, which is restricted to no label. -/
theorem clearing_empty_label :
    let outcome := (Maintenance.clearNodes (.text "")).performOrFail (.transaction {})
      ({ own := () } : World Unit)
    isIdentifier "" = false ∧ outcome.1 = .ok 0 ∧
      outcome.2.events = [.transactionRan
        (.text "MATCH (n) DETACH DELETE n RETURN count(n) AS deleted") []] ∧
      readClearing "MATCH (n) DETACH DELETE n RETURN count(n) AS deleted" = some [] := by
  refine ⟨by decide, rfl, rfl, by decide +kernel⟩

end GraphMapper
