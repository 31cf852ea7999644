import GraphMapper.Proofs.Graph.Store
import GraphMapper.Proofs.Maintenance.Clearing

/-!
# What a detailed count counts

A detailed count asks for totals and for the names in use, and then counts the nodes of each label
and the relationships of each type.  The names come from the store, where anything may stand, and
some may occur twice.  Two loops go through them.  They leave out what cannot be written into a
statement, each in its own way: the one finds out when it builds a query, the other checks first.
They also read the answers in different ways.

For answers that are integers both loops do the same, and `Maintenance.Asks` is what they do: one
question for each accepted name, in order, and each answer written under its name.  A program of
this shape is run once, in `Asks.yields`.  What the answers are written to is an ordered map, so a
name that occurs twice keeps its first place and gets its last answer (`Entries.keys_tally`,
`Entries.get?_tally`).

* `Maintenance.Reported`: what a store must answer in a run, for a count to be possible.
* `Maintenance.Tallied`: which names are counted, and what their counts are.
* `statistics_count_names`: what a detailed count sends, and what it returns.
-/

namespace GraphMapper

variable {σ : Type}

/-! ## 1.  Maps with repeated keys -/

namespace Entries

/-- The keys after a write: a key that is there keeps its place. -/
theorem keys_put (entries : Entries) (key : Key) (value : Value) :
    (entries.put key value).keys =
      if entries.has key then entries.keys else entries.keys ++ [key] := by
  induction entries with
  | nil => rfl
  | cons e rest ih =>
    obtain ⟨k, v⟩ := e
    rw [put_cons, has, get?_cons]
    by_cases hk : k.same key = true
    · rw [if_pos hk, if_pos hk, Option.isSome_some, if_pos rfl]
      rfl
    · rw [if_neg hk, if_neg hk]
      have hrest : keys ((k, v) :: put rest key value) = k :: (put rest key value).keys := rfl
      rw [hrest, ih, has]
      split_ifs <;> rfl

/-- Numbers under names, written one after the other. -/
def tally (totals : List (String × ℤ)) : Entries :=
  merge [] (named (totals.map fun total => (total.1, .int total.2)))

theorem tally_concat (totals : List (String × ℤ)) (name : String) (n : ℤ) :
    tally (totals ++ [(name, n)]) = (tally totals).put (.text name) (.int n) := by
  rw [tally, named, List.map_append, List.map_append, merge, List.foldl_append]
  rfl

/-- **The names of a tally** are those that occur, each at its first place. -/
theorem keys_tally (totals : List (String × ℤ)) :
    (tally totals).keys = ((totals.map (·.1)).eraseDups).map .text := by
  rw [← distinct_eq_eraseDups]
  induction totals using List.reverseRecOn with
  | nil => rfl
  | append_singleton totals total ih =>
    obtain ⟨name, n⟩ := total
    have hhas : (tally totals).has (.text name) = (distinct (totals.map (·.1))).contains name := by
      rw [Bool.eq_iff_iff, has_text_iff ih, List.contains_iff_mem]
    have hstep : distinct ((totals ++ [(name, n)]).map (·.1)) =
        addDistinct (distinct (totals.map (·.1))) name := by
      rw [List.map_append]
      exact List.foldl_append ..
    rw [tally_concat, keys_put, hstep, addDistinct, hhas, ih]
    split_ifs
    · rfl
    · rw [List.map_append]
      rfl

/-- **The count of a name in a tally** is the last that was written. -/
theorem get?_tally {before after : List (String × ℤ)} {name : String} {n : ℤ}
    (hlast : name ∉ after.map (·.1)) :
    (tally (before ++ (name, n) :: after)).get? (.text name) = some (.int n) := by
  induction after using List.reverseRecOn with
  | nil => rw [tally_concat, get?_put_self]
  | append_singleton after total ih =>
    obtain ⟨other, m⟩ := total
    rw [List.map_append, List.mem_append, not_or] at hlast
    have hother : other ≠ name := fun h => hlast.2 (List.mem_singleton.mpr h.symm)
    have hassoc : before ++ (name, n) :: (after ++ [(other, m)]) =
        before ++ (name, n) :: after ++ [(other, m)] := by
      rw [List.append_assoc, List.cons_append]
    rw [hassoc, tally_concat, get?_put_text, if_neg hother, ih hlast.1]

end Entries

/-! ## 2.  Names among values -/

/-- The accepted name that a value is, if it is one. -/
def acceptedName? : Value → Option String
  | .text name => if isIdentifier name then some name else none
  | _ => none

/-- The accepted names among values, in order. -/
def namesAmong (values : List Value) : List String := values.filterMap acceptedName?

/-- Whatever the role, a value is accepted exactly if it is an accepted name. -/
theorem identifier_eq_ok_iff_acceptedName? {role : String} {value : Value} {name : String} :
    identifier role value = .ok name ↔ acceptedName? value = some name := by
  rw [identifier_eq_ok_iff]
  cases value with
  | text s =>
    rw [Value.text.injEq, acceptedName?]
    by_cases hs : isIdentifier s = true
    · rw [if_pos hs, Option.some.injEq]
      constructor
      · exact fun h => h.1
      · rintro rfl
        exact ⟨rfl, hs⟩
    · rw [if_neg hs]
      constructor
      · rintro ⟨rfl, hname⟩
        exact absurd hname hs
      · exact fun h => absurd h (by simp)
  | _ => simp [acceptedName?]

theorem acceptedName?_of_error {role : String} {value : Value} {fault : Fault}
    (h : identifier role value = .error fault) : acceptedName? value = none := by
  cases hvalue : acceptedName? value with
  | none => rfl
  | some name =>
    rw [identifier_eq_ok_iff_acceptedName?.mpr hvalue] at h
    exact absurd h (by simp)

theorem isIdentifier_of_mem_namesAmong {values : List Value} {name : String}
    (h : name ∈ namesAmong values) : isIdentifier name = true := by
  obtain ⟨value, -, hvalue⟩ := List.mem_filterMap.mp h
  have haccepted : identifier labelRole value = .ok name :=
    identifier_eq_ok_iff_acceptedName?.mpr hvalue
  exact isIdentifier_of_identifier haccepted

/-! ## 3.  Questions and answers -/

/-- What was answered reports an integer as the total. -/
def Exchange.Reports (exchange : Exchange) (n : ℤ) : Prop :=
  ∃ records, exchange.answer = .ok records ∧
    records.scalar (.text Query.totalColumn) (.int 0) = .ok (.int n)

/-- A total that is reported is read as it is, as a value and as a number. -/
theorem Exchange.Reports.reads {exchange : Exchange} {n : ℤ} (h : exchange.Reports n) :
    exchange.answer.bind Maintenance.reportedTotal = .ok (.int n) ∧
      exchange.answer.bind (Query.readNumber Query.totalColumn) = .ok n := by
  obtain ⟨records, hanswer, hscalar⟩ := h
  constructor
  · rw [hanswer, Except.bind, Maintenance.reportedTotal, hscalar]
  · rw [hanswer, Except.bind, Query.readNumber, hscalar]
    rfl

/-- An exchange answers a question about a name with a total. -/
def Exchange.Answers (question : String → Statement) (exchange : Exchange)
    (total : String × ℤ) : Prop :=
  exchange.statement = question total.1 ∧ exchange.Reports total.2

namespace Maintenance

/-- Counts the nodes with a label. -/
def labelTotal (label : String) : Statement :=
  ⟨"MATCH (n" ++ Fault.labelsText [label] ++ ") RETURN count(n) AS total", []⟩

/-! ### Telling the statements apart -/

/-- How the text of a statement begins. -/
def lead (statement : Statement) : List Char := statement.text.toList.take 8

theorem lead_labelTotal (name : String) : lead (labelTotal name) = "MATCH (n".toList := by
  rw [lead, labelTotal, String.toList_append, String.toList_append, List.append_assoc]
  exact List.take_left' rfl

theorem lead_typeTotal (name : String) : lead (typeTotal name) = "MATCH ()".toList := by
  rw [lead, typeTotal, String.toList_append, String.toList_append, List.append_assoc]
  rfl

theorem labelTotal_injective : Function.Injective labelTotal := by
  intro s t h
  have htext := congrArg Statement.text h
  rw [labelTotal, labelTotal, String.append_left_inj, String.append_right_inj] at htext
  have hlabel (name : String) : Fault.labelsText [name] = ":" ++ name :=
    String.join_cons.trans String.append_empty
  rwa [hlabel, hlabel, String.append_right_inj] at htext

theorem typeTotal_injective : Function.Injective typeTotal := by
  intro s t h
  have htext := congrArg Statement.text h
  rwa [typeTotal, typeTotal, String.append_left_inj, String.append_right_inj] at htext

/-! ### Programs that ask -/

/-- A program asks one question about each name among some values, in order.  It writes every answer
that is an integer under the name, and leaves a warning for every other value. -/
inductive Asks (question : String → Statement) :
    Entries → List Value → Program (Except Fault Entries) → Prop
  | done (counts : Entries) : Asks question counts [] (.done (.ok counts))
  | asked {counts : Entries} {value : Value} {name : String} {rest : List Value}
      {next : Except Fault RecordSet → Program (Except Fault Entries)}
      (hvalue : acceptedName? value = some name)
      (h : ∀ (exchange : Exchange) (n : ℤ), exchange.Reports n →
        Asks question (counts.put (.text name) (.int n)) rest (next exchange.answer)) :
      Asks question counts (value :: rest) (.send (question name) next)
  | skipped {counts : Entries} {value : Value} {rest : List Value} {message : String}
      {next : Program (Except Fault Entries)} (hvalue : acceptedName? value = none)
      (h : Asks question counts rest next) :
      Asks question counts (value :: rest) (.warn message next)

/-- **A program of this shape sends one question for each name, in order**, and returns the counts
with all answers written to them, if every answer reports an integer. -/
theorem Asks.yields {question : String → Statement} {counts : Entries} {values : List Value}
    {program : Program (Except Fault Entries)} (h : Asks question counts values program)
    {exchanges : List Exchange} {result : Except Fault Entries}
    (hyields : program.Yields exchanges result)
    (hreports : ∀ exchange ∈ exchanges, (∃ name, exchange.statement = question name) →
      ∃ n, exchange.Reports n) :
    ∃ totals, List.Forall₂ (Exchange.Answers question) exchanges totals ∧
      totals.map (·.1) = namesAmong values ∧
      result = .ok (counts.merge (Entries.named (totals.map fun t => (t.1, .int t.2)))) := by
  induction h generalizing exchanges with
  | done counts =>
    cases hyields
    exact ⟨[], .nil, rfl, rfl⟩
  | @asked counts value name rest next hvalue h ih =>
    cases hyields with
    | @send _ _ answer exchanges _ hrest =>
      obtain ⟨hfirst, hlater⟩ := List.forall_mem_cons.mp hreports
      obtain ⟨n, hn⟩ := hfirst ⟨name, rfl⟩
      obtain ⟨totals, hanswers, hnames, hresult⟩ := ih _ n hn hrest hlater
      refine ⟨(name, n) :: totals, .cons ⟨rfl, hn⟩ hanswers, ?_, hresult⟩
      rw [List.map_cons, hnames, namesAmong, namesAmong, List.filterMap_cons_some hvalue]
  | skipped hvalue _ ih =>
    cases hyields with
    | warn hrest =>
      rw [namesAmong, List.filterMap_cons_none hvalue]
      exact ih hrest hreports

/-! ## 4.  The two loops -/

/-- A label that is a name makes a query that counts the nodes with it. -/
theorem countStatement_ofLabels {name : String} (h : isIdentifier name = true) :
    Query.ofLabels [.text name] = .ok { labels := [name] } ∧
      Query.countStatement { labels := [name] } = .ok (labelTotal name) := by
  have hnames : identifiers labelRole [.text name] = .ok [name] :=
    identifiers_map_text (List.forall_mem_singleton.mpr h)
  have hfragment : labelFragment [.text name] = .ok (Fault.labelsText [name]) :=
    labelFragment_map_text (List.forall_mem_singleton.mpr h)
  constructor
  · rw [Query.ofLabels, Query.withLabels, hnames]
    rfl
  · have hstart : "MATCH (" ++ Query.variableName = "MATCH (n" := by decide +kernel
    have hend : ")" ++ ("" ++ Query.returnCount Query.totalColumn) =
        ") RETURN count(n) AS total" := by
      decide +kernel
    have htext : "MATCH (" ++ Query.variableName ++ Fault.labelsText [name] ++ ")" ++ "" ++
        Query.returnCount Query.totalColumn =
          "MATCH (n" ++ Fault.labelsText [name] ++ ") RETURN count(n) AS total" := by
      rw [hstart, String.append_assoc, String.append_assoc, hend]
    have hmap : List.map Value.text [name] = [.text name] := rfl
    rw [Query.countStatement, Query.rows, Query.matchClause, hmap, hfragment, labelTotal, ← htext]
    rfl

/-- A label that is no name makes no query. -/
theorem ofLabels_of_error {label : Value} {fault : Fault}
    (h : identifier labelRole label = .error fault) : Query.ofLabels [label] = .error fault := by
  rw [Query.ofLabels, Query.withLabels, identifiers, h]
  rfl

theorem asks_countLabels (counts : Entries) (labels : List Value) :
    Asks labelTotal counts labels (countLabels counts labels) := by
  induction labels generalizing counts with
  | nil => exact .done counts
  | cons label rest ih =>
    rw [countLabels]
    cases hlabel : identifier labelRole label with
    | error fault =>
      rw [ofLabels_of_error hlabel]
      exact .skipped (acceptedName?_of_error hlabel) (ih counts)
    | ok name =>
      obtain ⟨rfl, hname⟩ := identifier_eq_ok_iff.mp hlabel
      obtain ⟨hquery, hstatement⟩ := countStatement_ofLabels hname
      rw [hquery]
      dsimp only [Value.toKey?]
      unfold Query.count
      rw [hstatement]
      refine .asked (identifier_eq_ok_iff_acceptedName?.mp hlabel) fun exchange n hn => ?_
      dsimp only
      rw [hn.reads.2]
      exact ih _

theorem asks_countTypes (counts : Entries) (types : List Value) :
    Asks typeTotal counts types (countTypes counts types) := by
  induction types generalizing counts with
  | nil => exact .done counts
  | cons relationshipType rest ih =>
    rw [countTypes]
    cases htype : identifier relationshipRole relationshipType with
    | error fault => exact .skipped (acceptedName?_of_error htype) (ih counts)
    | ok name =>
      refine .asked (identifier_eq_ok_iff_acceptedName?.mp htype) fun exchange n hn => ?_
      dsimp only
      rw [hn.reads.1]
      exact ih _

/-! ## 5.  The whole count -/

/-- Asking and going on with what was read. -/
theorem yields_ask_bind {α β : Type} {statement : Statement} {read : RecordSet → Except Fault α}
    {next : α → ExceptT Fault Program β} {exchanges : List Exchange} {result : Except Fault β}
    (h : Program.Yields (ask statement read >>= next : ExceptT Fault Program β) exchanges result) :
    ∃ answer rest, exchanges = ⟨statement, answer⟩ :: rest ∧
      ∀ a, answer.bind read = .ok a → Program.Yields (next a) rest result := by
  cases h with
  | @send _ _ answer rest _ hrest =>
    refine ⟨answer, rest, rfl, fun a ha => ?_⟩
    dsimp only at hrest
    rw [ha] at hrest
    exact hrest

/-- The answers of a run in which a store reports labels and relationship types of any kind, and an
integer whenever it is asked for a total. -/
structure Reported (handed : List Exchange) (labels types : List Value) : Prop where
  labels : ∀ exchange ∈ handed, exchange.statement = labelList →
    ∃ records, exchange.answer = .ok records ∧ records.values (.text "label") = .ok labels
  types : ∀ exchange ∈ handed, exchange.statement = typeList →
    ∃ records, exchange.answer = .ok records ∧
      records.values (.text "relationshipType") = .ok types
  totals : ∀ exchange ∈ handed, exchange.statement ≠ labelList → exchange.statement ≠ typeList →
    ∃ n, exchange.Reports n

/-- A statement that does not begin as a call is neither of the two that list names. -/
theorem ne_of_lead {statement : Statement} (h : lead statement ≠ "CALL db.".toList) :
    statement ≠ labelList ∧ statement ≠ typeList :=
  ⟨fun heq => h (by rw [heq]; decide), fun heq => h (by rw [heq]; decide)⟩

/-- What a detailed count does when it knows the totals and the names. -/
def countEach (totals : Statistics) : ExceptT Fault Program Statistics := do
  let labelCounts ← countLabels [] totals.labels
  let typeCounts ← countTypes [] totals.relationshipTypes
  return { totals with labelCounts := labelCounts, typeCounts := typeCounts }

/-- A detailed count begins with four statements: two totals, and two lists of names. -/
theorem yields_totals {labels types : List Value} {exchanges : List Exchange}
    {result : Except Fault Statistics}
    (h : Program.Yields (collectStatistics true) exchanges result)
    (hreported : Reported exchanges labels types) :
    ∃ first rest nodes relationships, exchanges = first ++ rest ∧
      first.map Exchange.statement = [nodeTotal, relationshipTotal, labelList, typeList] ∧
      Program.Yields (countEach ⟨nodes, relationships, labels, types, [], []⟩) rest result := by
  obtain ⟨nodeAnswer, afterNodes, hnodes, h⟩ := yields_ask_bind h
  have hnode : nodeTotal ≠ labelList ∧ nodeTotal ≠ typeList := ne_of_lead (by decide)
  obtain ⟨n, hn⟩ := hreported.totals ⟨nodeTotal, nodeAnswer⟩ (by simp [hnodes]) hnode.1 hnode.2
  obtain ⟨relationshipAnswer, afterTotals, htotals, h⟩ := yields_ask_bind (h _ hn.reads.1)
  have hrelationship : relationshipTotal ≠ labelList ∧ relationshipTotal ≠ typeList :=
    ne_of_lead (by decide)
  obtain ⟨m, hm⟩ := hreported.totals ⟨relationshipTotal, relationshipAnswer⟩
    (by simp [hnodes, htotals]) hrelationship.1 hrelationship.2
  obtain ⟨labelAnswer, afterLabels, hlabels, h⟩ := yields_ask_bind (h _ hm.reads.1)
  obtain ⟨found, hfound, hvalues⟩ := hreported.labels ⟨labelList, labelAnswer⟩
    (by simp [hnodes, htotals, hlabels]) rfl
  obtain ⟨typeAnswer, afterTypes, htypes, h⟩ :=
    yields_ask_bind (h labels ((congrArg (Except.bind · _) hfound).trans hvalues))
  obtain ⟨found, hfound, hvalues⟩ := hreported.types ⟨typeList, typeAnswer⟩
    (by simp [hnodes, htotals, hlabels, htypes]) rfl
  refine ⟨[⟨nodeTotal, nodeAnswer⟩, ⟨relationshipTotal, relationshipAnswer⟩,
    ⟨labelList, labelAnswer⟩, ⟨typeList, typeAnswer⟩], afterTypes, .int n, .int m, ?_, rfl,
    h types ((congrArg (Except.bind · _) hfound).trans hvalues)⟩
  rw [hnodes, htotals, hlabels, htypes]
  rfl

/-- **A detailed count goes on with one question for each label and then one for each type.** -/
theorem yields_countEach {totals : Statistics} {exchanges : List Exchange}
    {result : Except Fault Statistics}
    (h : Program.Yields (countEach totals) exchanges result)
    (hreports : ∀ exchange ∈ exchanges, lead exchange.statement ≠ "CALL db.".toList →
      ∃ n, exchange.Reports n) :
    ∃ labelled typed labelTotals typeTotals, exchanges = labelled ++ typed ∧
      List.Forall₂ (Exchange.Answers labelTotal) labelled labelTotals ∧
      labelTotals.map (·.1) = namesAmong totals.labels ∧
      List.Forall₂ (Exchange.Answers typeTotal) typed typeTotals ∧
      typeTotals.map (·.1) = namesAmong totals.relationshipTypes ∧
      result = .ok { totals with
        labelCounts := .tally labelTotals, typeCounts := .tally typeTotals } := by
  obtain ⟨labelled, labelCounts, rest, rfl, hlabelled, h⟩ := Program.Yields.split h
  have hlabelReports : ∀ exchange ∈ labelled, (∃ name, exchange.statement = labelTotal name) →
      ∃ n, exchange.Reports n := by
    rintro exchange hexchange ⟨name, hname⟩
    refine hreports exchange (List.mem_append_left rest hexchange) ?_
    rw [hname, lead_labelTotal]
    decide
  obtain ⟨labelTotals, hlabelAnswers, hlabelNames, hlabelCounts⟩ :=
    (asks_countLabels [] totals.labels).yields hlabelled hlabelReports
  rw [hlabelCounts] at h
  obtain ⟨typed, typeCounts, ending, rfl, htyped, h⟩ := Program.Yields.split h
  have htypeReports : ∀ exchange ∈ typed, (∃ name, exchange.statement = typeTotal name) →
      ∃ n, exchange.Reports n := by
    rintro exchange hexchange ⟨name, hname⟩
    have hmem : exchange ∈ typed ++ ending := List.mem_append_left ending hexchange
    refine hreports exchange (List.mem_append_right labelled hmem) ?_
    rw [hname, lead_typeTotal]
    decide
  obtain ⟨typeTotals, htypeAnswers, htypeNames, htypeCounts⟩ :=
    (asks_countTypes [] totals.relationshipTypes).yields htyped htypeReports
  rw [htypeCounts] at h
  cases h
  rw [List.append_nil]
  exact ⟨labelled, typed, labelTotals, typeTotals, rfl, hlabelAnswers, hlabelNames, htypeAnswers,
    htypeNames, rfl⟩

/-! ## 6.  What is counted -/

/-- In a run, one question was asked about each of some names, and the counts have these names as
keys, each at its first place and with what was answered to the last question about it. -/
structure Tallied (handed : List Exchange) (question : String → Statement) (names : List String)
    (counts : Entries) : Prop where
  keys : counts.keys = names.eraseDups.map .text
  last : ∀ name ∈ names, ∃ before exchange after n, handed = before ++ exchange :: after ∧
    exchange.statement = question name ∧ exchange.Reports n ∧
    (∀ later ∈ after, later.statement ≠ question name) ∧
    counts.get? (.text name) = some (.int n)

section

variable {question : String → Statement} {asked : List Exchange} {totals : List (String × ℤ)}

theorem map_statement_of_answers (h : List.Forall₂ (Exchange.Answers question) asked totals) :
    asked.map Exchange.statement = (totals.map (·.1)).map question := by
  induction h with
  | nil => rfl
  | cons hanswer _ ih => rw [List.map_cons, List.map_cons, List.map_cons, hanswer.1, ih]

/-- Whatever was asked was asked about one of the names. -/
theorem exists_name_of_answers (h : List.Forall₂ (Exchange.Answers question) asked totals)
    {exchange : Exchange} (hexchange : exchange ∈ asked) :
    ∃ name ∈ totals.map (·.1), question name = exchange.statement := by
  have hmem : exchange.statement ∈ asked.map Exchange.statement := List.mem_map_of_mem hexchange
  rw [map_statement_of_answers h] at hmem
  exact List.mem_map.mp hmem

/-- No question about a type is one about a label. -/
theorem ne_labelTotal_of_answers (h : List.Forall₂ (Exchange.Answers typeTotal) asked totals)
    {exchange : Exchange} (hexchange : exchange ∈ asked) (name : String) :
    exchange.statement ≠ labelTotal name := by
  intro hsame
  obtain ⟨other, -, hother⟩ := exists_name_of_answers h hexchange
  have hlead := congrArg lead (hother.trans hsame)
  rw [lead_typeTotal, lead_labelTotal] at hlead
  exact absurd hlead (by decide)

/-- What was asked about a name has a last question about it. -/
theorem exists_last_answer (hinjective : Function.Injective question)
    (h : List.Forall₂ (Exchange.Answers question) asked totals) {name : String}
    (hname : name ∈ totals.map (·.1)) :
    ∃ before exchange after earlier n later, asked = before ++ exchange :: after ∧
      totals = earlier ++ (name, n) :: later ∧ name ∉ later.map (·.1) ∧
      exchange.statement = question name ∧ exchange.Reports n ∧
      ∀ next ∈ after, next.statement ≠ question name := by
  induction h with
  | nil => exact absurd hname List.not_mem_nil
  | @cons exchange total asked totals hanswer hrest ih =>
    by_cases hlater : name ∈ totals.map (·.1)
    · obtain ⟨before, found, after, earlier, n, later, rfl, rfl, hlast⟩ := ih hlater
      exact ⟨exchange :: before, found, after, total :: earlier, n, later, rfl, rfl, hlast⟩
    · obtain rfl : name = total.1 := by
        rw [List.map_cons, List.mem_cons] at hname
        exact hname.resolve_right hlater
      refine ⟨[], exchange, asked, [], total.2, totals, rfl, rfl, hlater, hanswer.1, hanswer.2,
        fun next hnext hsame => hlater ?_⟩
      -- a later question about this name would stand among the later names
      obtain ⟨other, hother, hquestion⟩ := exists_name_of_answers hrest hnext
      rwa [← hinjective (hquestion.trans hsame)]

/-- **What was asked and answered in a row is tallied.** -/
theorem tallied_of_answers (hinjective : Function.Injective question)
    (h : List.Forall₂ (Exchange.Answers question) asked totals) (before : List Exchange)
    {after : List Exchange} (hafter : ∀ next ∈ after, ∀ name, next.statement ≠ question name) :
    Tallied (before ++ (asked ++ after)) question (totals.map (·.1)) (.tally totals) := by
  refine ⟨Entries.keys_tally totals, fun name hname => ?_⟩
  obtain ⟨front, exchange, back, earlier, n, later, hasked, htotals, hlater, hstatement, hreports,
    hback⟩ := exists_last_answer hinjective h hname
  refine ⟨before ++ front, exchange, back ++ after, n, ?_, hstatement, hreports, ?_, ?_⟩
  · rw [hasked]
    simp only [List.append_assoc, List.cons_append]
  · intro next hnext
    rcases List.mem_append.mp hnext with hnext | hnext
    · exact hback next hnext
    · exact hafter next hnext name
  · rw [htotals]
    exact Entries.get?_tally hlater

end

/-! ## 7.  What is read in the statements -/

/-- Whether a token is no word, or a word that is a plain name. -/
def plainWord : Token → Bool
  | .word word => isName word.toList
  | _ => true

theorem isName_readName {name : String} (h : isIdentifier name = true) :
    isName (readName name).toList = true := by
  rw [readName, String.toList_ofList]
  exact h

theorem plainWord_labelTotal {name : String} (h : isIdentifier name = true) :
    (tokens (labelTotal name).text).all plainWord = true := by
  have hend : Closed ") RETURN count(n) AS total" := closed_of_toList_eq rfl (by decide)
  have hstart : (tokens "MATCH (n").all plainWord = true := by decide +kernel
  have hrest : (tokens ") RETURN count(n) AS total").all plainWord = true := by decide +kernel
  rw [labelTotal, tokens_append_append _ (closed_labelsText [name]) hend,
    tokens_labelsText (List.forall_mem_singleton.mpr h), List.all_append, List.all_append, hstart,
    hrest]
  simp [labelTokens, plainWord, isName_readName h]

theorem plainWord_typeTotal {name : String} (h : isIdentifier name = true) :
    (tokens (typeTotal name).text).all plainWord = true := by
  have hshut : Shut "MATCH ()-[r:".toList := by decide +kernel
  have hend : Closed "]->() RETURN count(r) AS total" := closed_of_toList_eq rfl (by decide)
  have hstart : (tokens "MATCH ()-[r:").all plainWord = true := by decide +kernel
  have hrest : (tokens "]->() RETURN count(r) AS total").all plainWord = true := by decide +kernel
  rw [typeTotal, tokens_append _ hend, tokens_append_of_shut hshut, tokens_of_isIdentifier h,
    List.all_append, List.all_append, hstart, hrest]
  simp [plainWord, isName_readName h]

/-- Every word in the statements of a count is a plain name. -/
theorem isName_of_word_mem {labels types : List Value} {statement : Statement}
    (h : statement ∈ [nodeTotal, relationshipTotal, labelList, typeList] ++
      ((namesAmong labels).map labelTotal ++ (namesAmong types).map typeTotal))
    {word : String} (hword : .word word ∈ tokens statement.text) : isName word.toList = true := by
  have hall : (tokens statement.text).all plainWord = true := by
    rcases List.mem_append.mp h with h | h
    · have hfixed : ([nodeTotal, relationshipTotal, labelList, typeList].all fun fixed =>
          (tokens fixed.text).all plainWord) = true := by
        decide +kernel
      exact List.all_eq_true.mp hfixed statement h
    · rcases List.mem_append.mp h with h | h
      · obtain ⟨name, hname, rfl⟩ := List.mem_map.mp h
        exact plainWord_labelTotal (isIdentifier_of_mem_namesAmong hname)
      · obtain ⟨name, hname, rfl⟩ := List.mem_map.mp h
        exact plainWord_typeTotal (isIdentifier_of_mem_namesAmong hname)
  exact List.all_eq_true.mp hall (.word word) hword

/-! ## 8.  A detailed count -/

/-- **A detailed count counts exactly the accepted names.**  Let a store report labels and
relationship types of any kind, repeated or not, and an integer whenever it is asked for a total.

* The count succeeds.
* It sends four statements, then one for each label that is an accepted name, then one for each such
  type, in the order in which they were reported.
* Every word in them is a plain name, so none is a name that is refused.
* All labels and types are returned as they were reported.
* The counts have the accepted names as keys, each at its first place, with what was answered to the
  last statement about it. -/
theorem statistics_count_names (gateway : Gateway) (world : World σ) {labels types : List Value}
    (h : Reported (Program.conversation gateway (collectStatistics true) world) labels types) :
    let program : Program (Except Fault Statistics) := collectStatistics true
    let handed := program.conversation gateway world
    ∃ statistics, (program.performOrFail gateway world).1 = .ok statistics ∧
      handed.map Exchange.statement = [nodeTotal, relationshipTotal, labelList, typeList] ++
        ((namesAmong labels).map labelTotal ++ (namesAmong types).map typeTotal) ∧
      (∀ exchange ∈ handed, ∀ word, Token.word word ∈ tokens exchange.statement.text →
        isName word.toList = true) ∧
      statistics.labels = labels ∧ statistics.relationshipTypes = types ∧
      Tallied handed labelTotal (namesAmong labels) statistics.labelCounts ∧
      Tallied handed typeTotal (namesAmong types) statistics.typeCounts := by
  intro program handed
  obtain ⟨result, hresult, hyields, -⟩ := program.yields_conversation gateway world
  have houtcome := Program.performOrFail_of_perform hresult
  obtain ⟨first, rest, nodes, relationships, hsplit, hfirst, hrest⟩ := yields_totals hyields h
  have hhanded : handed = first ++ rest := hsplit
  have hreports : ∀ exchange ∈ rest, lead exchange.statement ≠ "CALL db.".toList →
      ∃ n, exchange.Reports n := by
    intro exchange hexchange hlead
    have hmem : exchange ∈ handed := by
      rw [hhanded]
      exact List.mem_append_right first hexchange
    exact h.totals exchange hmem (ne_of_lead hlead).1 (ne_of_lead hlead).2
  obtain ⟨labelled, typed, labelTotals, typeTotals, rfl, hlabelled, hlabelNames, htyped,
    htypeNames, hok⟩ := yields_countEach hrest hreports
  have hstatements : handed.map Exchange.statement =
      [nodeTotal, relationshipTotal, labelList, typeList] ++
        ((namesAmong labels).map labelTotal ++ (namesAmong types).map typeTotal) := by
    rw [hhanded, List.map_append, List.map_append, hfirst, map_statement_of_answers hlabelled,
      map_statement_of_answers htyped, hlabelNames, htypeNames]
  refine ⟨_, by rw [houtcome, hok], hstatements, fun exchange hexchange word hword => ?_, rfl, rfl,
    ?_, ?_⟩
  · have hmem : exchange.statement ∈ handed.map Exchange.statement :=
      List.mem_map_of_mem hexchange
    rw [hstatements] at hmem
    exact isName_of_word_mem hmem hword
  · have htallied := tallied_of_answers labelTotal_injective hlabelled first
      fun _ hnext => ne_labelTotal_of_answers htyped hnext
    rw [hlabelNames] at htallied
    rw [hhanded]
    exact htallied
  · have hnone : ∀ next ∈ ([] : List Exchange), ∀ name, next.statement ≠ typeTotal name :=
      fun next hnext => absurd hnext List.not_mem_nil
    have htallied := tallied_of_answers typeTotal_injective htyped (first ++ labelled) hnone
    rw [htypeNames, List.append_nil, List.append_assoc] at htallied
    rw [hhanded]
    exact htallied

/-- A run in which names are listed and every total is an integer. -/
theorem Reported.of_cons {nodes relationships : Except Fault RecordSet} {labelled typed : RecordSet}
    {rest : List Exchange} {labels types : List Value} {n m : ℤ}
    (hnodes : Exchange.Reports ⟨nodeTotal, nodes⟩ n)
    (hrelationships : Exchange.Reports ⟨relationshipTotal, relationships⟩ m)
    (hlabels : labelled.values (.text "label") = .ok labels)
    (htypes : typed.values (.text "relationshipType") = .ok types)
    (hrest : ∀ exchange ∈ rest, lead exchange.statement ≠ "CALL db.".toList ∧
      ∃ n, exchange.Reports n) :
    Reported (⟨nodeTotal, nodes⟩ :: ⟨relationshipTotal, relationships⟩ ::
      ⟨labelList, .ok labelled⟩ :: ⟨typeList, .ok typed⟩ :: rest) labels types := by
  have hdiffer : labelList ≠ typeList := fun h => absurd (congrArg Statement.text h) (by decide)
  have hnode : nodeTotal ≠ labelList ∧ nodeTotal ≠ typeList := ne_of_lead (by decide)
  have hrelationship : relationshipTotal ≠ labelList ∧ relationshipTotal ≠ typeList :=
    ne_of_lead (by decide)
  refine ⟨?_, ?_, ?_⟩
  · simp only [List.forall_mem_cons]
    exact ⟨fun h => absurd h hnode.1, fun h => absurd h hrelationship.1,
      fun _ => ⟨labelled, rfl, hlabels⟩, fun h => absurd h.symm hdiffer,
      fun exchange hexchange h => absurd h (ne_of_lead (hrest exchange hexchange).1).1⟩
  · simp only [List.forall_mem_cons]
    exact ⟨fun h => absurd h hnode.2, fun h => absurd h hrelationship.2,
      fun h => absurd h hdiffer, fun _ => ⟨typed, rfl, htypes⟩,
      fun exchange hexchange h => absurd h (ne_of_lead (hrest exchange hexchange).1).2⟩
  · simp only [List.forall_mem_cons]
    exact ⟨fun _ _ => ⟨n, hnodes⟩, fun _ _ => ⟨m, hrelationships⟩, fun h => absurd rfl h,
      fun _ h => absurd rfl h, fun exchange hexchange _ _ => (hrest exchange hexchange).2⟩

/-- One record with one column. -/
def cell (column : String) (value : Value) : Value := .map [(.text column, value)]

/-- A store in which a label occurs twice, with one between that is no name and one that is no text.
The two totals of the label differ. -/
def crowded : World Unit :=
  { store := { answers := [.records [cell "total" (.int 4)], .records [cell "total" (.int 2)],
      .records [cell "label" (.text "Person"), cell "label" (.text "bad label"),
        cell "label" (.int 5), cell "label" (.text "Person")],
      .records [cell "relationshipType" (.text "KNOWS")],
      .records [cell "total" (.int 3)], .records [cell "total" (.int 9)],
      .records [cell "total" (.int 2)]] }
    own := () }

/-- The label is asked for twice, and its last total counts. -/
theorem statistics_count_names_crowded :
    let program : Program (Except Fault Statistics) := collectStatistics true
    let handed := program.conversation (.transaction {}) crowded
    Reported handed [.text "Person", .text "bad label", .int 5, .text "Person"] [.text "KNOWS"] ∧
    ∃ statistics, (program.performOrFail (.transaction {}) crowded).1 = .ok statistics ∧
      handed.map Exchange.statement = [nodeTotal, relationshipTotal, labelList, typeList,
        labelTotal "Person", labelTotal "Person", typeTotal "KNOWS"] ∧
      statistics.labelCounts.keys = [.text "Person"] ∧
      statistics.labelCounts.map (fun e => (e.1, e.2.plain)) = [(.text "Person", "9")] := by
  intro program handed
  have hhanded : handed = [⟨nodeTotal, .ok ⟨[cell "total" (.int 4)]⟩⟩,
      ⟨relationshipTotal, .ok ⟨[cell "total" (.int 2)]⟩⟩,
      ⟨labelList, .ok ⟨[cell "label" (.text "Person"), cell "label" (.text "bad label"),
        cell "label" (.int 5), cell "label" (.text "Person")]⟩⟩,
      ⟨typeList, .ok ⟨[cell "relationshipType" (.text "KNOWS")]⟩⟩,
      ⟨labelTotal "Person", .ok ⟨[cell "total" (.int 3)]⟩⟩,
      ⟨labelTotal "Person", .ok ⟨[cell "total" (.int 9)]⟩⟩,
      ⟨typeTotal "KNOWS", .ok ⟨[cell "total" (.int 2)]⟩⟩] := rfl
  have htotal (statement : Statement) (n : ℤ) :
      Exchange.Reports ⟨statement, .ok ⟨[cell "total" (.int n)]⟩⟩ n := ⟨_, rfl, rfl⟩
  have hreported : Reported handed
      [.text "Person", .text "bad label", .int 5, .text "Person"] [.text "KNOWS"] := by
    have hlabels : RecordSet.values ⟨[cell "label" (.text "Person"),
        cell "label" (.text "bad label"), cell "label" (.int 5), cell "label" (.text "Person")]⟩
          (.text "label") = .ok [.text "Person", .text "bad label", .int 5, .text "Person"] := rfl
    have htypes : RecordSet.values ⟨[cell "relationshipType" (.text "KNOWS")]⟩
        (.text "relationshipType") = .ok [.text "KNOWS"] := rfl
    rw [hhanded]
    refine .of_cons (htotal nodeTotal 4) (htotal relationshipTotal 2) hlabels htypes ?_
    simp only [List.forall_mem_cons, lead_labelTotal, lead_typeTotal]
    exact ⟨⟨by decide, 3, htotal _ 3⟩, ⟨by decide, 9, htotal _ 9⟩, ⟨by decide, 2, htotal _ 2⟩,
      fun _ h => absurd h List.not_mem_nil⟩
  obtain ⟨statistics, hok, hstatements, -, -, -, hlabels, -⟩ :=
    statistics_count_names (.transaction {}) crowded hreported
  have hnames : namesAmong [.text "Person", .text "bad label", .int 5, .text "Person"] =
      ["Person", "Person"] := by
    decide +kernel
  have htypes : namesAmong [.text "KNOWS"] = ["KNOWS"] := by decide +kernel
  have hkeys : (["Person", "Person"].eraseDups).map Key.text = [.text "Person"] := by
    decide +kernel
  have hcounts : ((program.performOrFail (.transaction {}) crowded).1.toOption.map fun counted =>
      counted.labelCounts.map fun e => (e.1, e.2.plain)) = some [(.text "Person", "9")] := by
    decide +kernel
  rw [hnames, htypes] at hstatements
  rw [hnames] at hlabels
  rw [hok] at hcounts
  exact ⟨hreported, statistics, hok, hstatements, hlabels.keys.trans hkeys,
    Option.some.inj hcounts⟩

end Maintenance

end GraphMapper
