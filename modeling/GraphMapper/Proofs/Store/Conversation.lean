import GraphMapper.Store.Gateway

/-!
# What a program hears

A program sends statements and hears an answer to each.  An *exchange* is one of both.  The
gateway decides what the answers are, and nothing that is said of a program should depend on it.
So `Program.Yields` says which results are possible after which exchanges, whoever answers, and
`Program.exists_yields` says that a gateway gives one of them: a program that is performed through
a gateway always ends, and it ends as its exchanges say.

An exchange says nothing of the identities that a program draws.  `Program.Takes` is the same
relation with the draws left in, in their places between the exchanges.
-/

namespace GraphMapper

/-- A statement that was sent, and what came back. -/
structure Exchange where
  statement : Statement
  answer : Except Fault RecordSet

/-- The nodes that an answer returned. -/
def Exchange.nodes (exchange : Exchange) : List StoredNode :=
  match exchange.answer.bind fun result => result.nodes (.text "n") with
  | .ok found => found
  | .error _ => []

theorem Exchange.nodes_of_ok {exchange : Exchange} {found : List StoredNode}
    (h : (exchange.answer.bind fun result => result.nodes (.text "n")) = .ok found) :
    exchange.nodes = found := by
  rw [nodes, h]

theorem Exchange.nodes_of_error {exchange : Exchange} {fault : Fault}
    (h : (exchange.answer.bind fun result => result.nodes (.text "n")) = .error fault) :
    exchange.nodes = [] := by
  rw [nodes, h]

/-- A program can have these exchanges, in this order, and end with this result.  Fresh identities
may be anything. -/
inductive Program.Yields {α : Type} : Program α → List Exchange → α → Prop
  | done (result : α) : Yields (.done result) [] result
  | send {statement : Statement} {next : Except Fault RecordSet → Program α}
      (answer : Except Fault RecordSet) {exchanges : List Exchange} {result : α}
      (h : Yields (next answer) exchanges result) :
      Yields (.send statement next) (⟨statement, answer⟩ :: exchanges) result
  | draw {next : String → Program α} (identity : String) {exchanges : List Exchange} {result : α}
      (h : Yields (next identity) exchanges result) : Yields (.draw next) exchanges result
  | warn {message : String} {next : Program α} {exchanges : List Exchange} {result : α}
      (h : Yields next exchanges result) : Yields (.warn message next) exchanges result

/-- What a program does on its way: it sends a statement and hears an answer, or it draws a fresh
identity. -/
inductive Move where
  | exchanged (exchange : Exchange)
  | drew (identity : String)

/-- The exchange that a move is. -/
def Move.exchange? : Move → Option Exchange
  | .exchanged exchange => some exchange
  | .drew _ => none

/-- A program can take these moves, in this order, and end with this result. -/
inductive Program.Takes {α : Type} : Program α → List Move → α → Prop
  | done (result : α) : Takes (.done result) [] result
  | send {statement : Statement} {next : Except Fault RecordSet → Program α}
      (answer : Except Fault RecordSet) {moves : List Move} {result : α}
      (h : Takes (next answer) moves result) :
      Takes (.send statement next) (.exchanged ⟨statement, answer⟩ :: moves) result
  | draw {next : String → Program α} (identity : String) {moves : List Move} {result : α}
      (h : Takes (next identity) moves result) : Takes (.draw next) (.drew identity :: moves) result
  | warn {message : String} {next : Program α} {moves : List Move} {result : α}
      (h : Takes next moves result) : Takes (.warn message next) moves result

namespace Program

variable {α σ : Type}

/-- The exchanges among the moves of a program are those of its conversation. -/
theorem Takes.yields {program : Program α} {moves : List Move} {result : α}
    (h : program.Takes moves result) :
    program.Yields (moves.filterMap Move.exchange?) result := by
  induction h with
  | done result => exact .done result
  | send answer _ ih => exact .send answer ih
  | draw identity _ ih => exact .draw identity ih
  | warn _ ih => exact .warn ih

/-- What a program hears that runs another one first is what the other hears, and then the rest. -/
theorem Yields.split {β : Type} {program : Program α} {next : α → Program β}
    {exchanges : List Exchange} {result : β} (h : (program.bind next).Yields exchanges result) :
    ∃ first a rest, exchanges = first ++ rest ∧ program.Yields first a ∧
      (next a).Yields rest result := by
  induction program generalizing exchanges with
  | done a => exact ⟨[], a, exchanges, rfl, .done a, h⟩
  | send statement next ih =>
    cases h with
    | send answer h =>
      obtain ⟨first, a, rest, rfl, hfirst, hrest⟩ := ih answer h
      exact ⟨_, a, rest, rfl, .send answer hfirst, hrest⟩
  | draw next ih =>
    cases h with
    | draw identity h =>
      obtain ⟨first, a, rest, rfl, hfirst, hrest⟩ := ih identity h
      exact ⟨first, a, rest, rfl, .draw identity hfirst, hrest⟩
  | warn message next ih =>
    cases h with
    | warn h =>
      obtain ⟨first, a, rest, rfl, hfirst, hrest⟩ := ih h
      exact ⟨first, a, rest, rfl, .warn hfirst, hrest⟩

/-- A program performed through a gateway takes some of its moves to the end.  The answers in them
are those of the gateway. -/
theorem exists_takes (program : Program α) (gateway : Gateway) (world : World σ) :
    ∃ moves result, (program.perform gateway world).1 = .ok result ∧
      program.Takes moves result ∧
      ∀ exchange, .exchanged exchange ∈ moves → ∃ met : World σ,
        (gateway.run exchange.statement met).1 = exchange.answer := by
  induction program generalizing world with
  | done result => exact ⟨[], result, rfl, .done result, fun _ h => absurd h List.not_mem_nil⟩
  | send statement next ih =>
    -- Whatever becomes of the statement is an answer to the program.
    obtain ⟨moves, result, hresult, htakes, hanswers⟩ :=
      ih (gateway.run statement world).1 (gateway.run statement world).2
    refine ⟨_, result, hresult, .send _ htakes, fun exchange hexchange => ?_⟩
    rcases List.mem_cons.mp hexchange with hfirst | hrest
    · rw [Move.exchanged.inj hfirst]
      exact ⟨world, rfl⟩
    · exact hanswers exchange hrest
  | draw next ih =>
    obtain ⟨moves, result, hresult, htakes, hanswers⟩ :=
      ih (identityText (world.identities + 1))
        { world with identities := world.identities + 1 }
    refine ⟨_, result, hresult, .draw _ htakes, fun exchange hexchange => ?_⟩
    rcases List.mem_cons.mp hexchange with hfirst | hrest
    · exact absurd hfirst (by simp)
    · exact hanswers exchange hrest
  | warn message next ih =>
    obtain ⟨moves, result, hresult, htakes, hanswers⟩ :=
      ih { world with log := world.log ++ [⟨.maintenance, .warning, message⟩] }
    exact ⟨moves, result, hresult, .warn htakes, hanswers⟩

/-- **A program performed through a gateway ends, and ends as its exchanges say.**  The answers
in them are those of the gateway. -/
theorem exists_yields (program : Program α) (gateway : Gateway) (world : World σ) :
    ∃ exchanges result, (program.perform gateway world).1 = .ok result ∧
      program.Yields exchanges result ∧
      ∀ exchange ∈ exchanges, ∃ met : World σ,
        (gateway.run exchange.statement met).1 = exchange.answer := by
  obtain ⟨moves, result, hresult, htakes, hanswers⟩ := program.exists_takes gateway world
  refine ⟨_, result, hresult, htakes.yields, fun exchange hexchange => ?_⟩
  obtain ⟨move, hmove, heq⟩ := List.mem_filterMap.mp hexchange
  cases move with
  | exchanged found => exact hanswers exchange (Option.some.inj heq ▸ hmove)
  | drew identity => exact absurd heq (by simp [Move.exchange?])

end Program

end GraphMapper
