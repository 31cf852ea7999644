import GraphMapper.Proofs.Entries
import GraphMapper.Proofs.Names
import GraphMapper.Proofs.Reading.NodeCommand
import GraphMapper.Store.Program

/-!
# A faithful store

What the mapper writes is only as good as what a store makes of it.  `Graph` is a store that does
what the texts say and nothing else: it reads a text as a command (`readNodeCommand`), looks up
the placeholders in the parameters, and keeps a list of nodes.

* A created node has the listed labels and the inline properties; nothing checks that an identity
  is new, so two nodes can carry the same one.
* A change finds the nodes whose property `id` has the value that is asked for, of the same type,
  assigns the properties to all of them, and returns them.  Null identifies nothing.
* Assigning null removes a property, so no stored property is null.
* A text that is no command, or that names an unbound placeholder, is refused and changes nothing.

`Program.serve` lets an operation talk to such a store.  The fresh identities come from an
arbitrary sequence, of which nothing is assumed: not even that it never repeats one.
-/

namespace GraphMapper

/-- Assigns a property.  Null removes it. -/
def Entries.assign (properties : Entries) (name : String) (value : Value) : Entries :=
  if value.bare.isNull then properties.erase (.text name) else properties.put (.text name) value

/-- Assigns properties, in order. -/
def Entries.assignAll (properties : Entries) (values : List (String × Value)) : Entries :=
  values.foldl (fun acc e => acc.assign e.1 e.2) properties

namespace StoredNode

/-- The value that identifies a stored node, null if it has none. -/
def identity (node : StoredNode) : Value := (node.properties.get? Node.identityEntry).getD .null

/-- Whether a stored node is identified by a value: the same value, of the same type.  Identities
are scalars. -/
def carries (identity : Value) (node : StoredNode) : Bool :=
  match identity.bare.toKey?, node.identity.bare.toKey? with
  | none, _ | some .null, _ => false
  | some asked, found => found = some asked

/-- A stored node with properties assigned. -/
def assign (values : List (String × Value)) (node : StoredNode) : StoredNode :=
  { node with properties := node.properties.assignAll values }

end StoredNode

/-- The nodes of a store, in the order in which they were created. -/
abbrev Graph := List StoredNode

/-- The records of a result with nodes in the column `n`. -/
def nodeRecords (nodes : List StoredNode) : RecordSet :=
  ⟨nodes.map fun node => .map [(.text "n", node.toValue)]⟩

namespace Graph

/-- The values of placeholders, if all of them are bound. -/
def resolve (parameters : Entries) (pairs : List (String × String)) :
    Option (List (String × Value)) :=
  pairs.mapM fun pair => (parameters.get? (.text pair.2)).map fun value => (pair.1, value)

/-- What a command does to the nodes, and which nodes it returns. -/
def execute (graph : Graph) (parameters : Entries) : NodeCommand → Option (Graph × List StoredNode)
  | .create labels pairs => do
    let values ← resolve parameters pairs
    let node : StoredNode := ⟨distinct labels, Entries.assignAll [] values⟩
    return (graph ++ [node], [node])
  | .change parameter pairs => do
    let identity ← parameters.get? (.text parameter)
    let values ← resolve parameters pairs
    return (graph.map fun node => if node.carries identity then node.assign values else node,
      (graph.filter (·.carries identity)).map (·.assign values))

/-- What a store says to a text that it does not understand. -/
def refusal : Fault :=
  .storeFailure .statement (.raised ⟨.statementSyntax, "Invalid input"⟩)

/-- The nodes after a statement, and the answer to it. -/
def answer (graph : Graph) (statement : Statement) : Graph × Except Fault RecordSet :=
  match (readNodeCommand statement.text).bind (graph.execute statement.parameters) with
  | some (after, nodes) => (after, .ok (nodeRecords nodes))
  | none => (graph, .error refusal)

end Graph

/-- A store and how many identities were drawn. -/
structure Server where
  graph : Graph
  drawn : ℕ := 0

/-- Lets a program talk to a store.  `identities` is the sequence of fresh identities. -/
def Program.serve {α : Type} (identities : ℕ → String) : Program α → Server → α × Server
  | .done result, server => (result, server)
  | .send statement next, server =>
    let (graph, answer) := server.graph.answer statement
    (next answer).serve identities { server with graph := graph }
  | .draw next, server =>
    (next (identities server.drawn)).serve identities { server with drawn := server.drawn + 1 }
  | .warn _ next, server => next.serve identities server

namespace Program

variable {α : Type} (identities : ℕ → String) (server : Server)

@[simp] theorem serve_done (result : α) :
    (Program.done result).serve identities server = (result, server) := rfl

@[simp] theorem serve_send (statement : Statement) (next : Except Fault RecordSet → Program α) :
    (Program.send statement next).serve identities server =
      (next (server.graph.answer statement).2).serve identities
        { server with graph := (server.graph.answer statement).1 } := rfl

@[simp] theorem serve_draw (next : String → Program α) :
    (Program.draw next).serve identities server =
      (next (identities server.drawn)).serve identities
        { server with drawn := server.drawn + 1 } := rfl

end Program

/-! ## Properties that are assigned -/

namespace Entries

/-- Properties with their names as keys. -/
def named (values : List (String × Value)) : Entries := values.map fun e => (.text e.1, e.2)

/-- Assigning values that are not null is writing them. -/
theorem assignAll_eq_merge {values : List (String × Value)}
    (h : ∀ e ∈ values, e.2.bare.isNull = false) (properties : Entries) :
    properties.assignAll values = properties.merge (named values) := by
  induction values generalizing properties with
  | nil => rfl
  | cons e rest ih =>
    obtain ⟨he, hrest⟩ := List.forall_mem_cons.mp h
    have hassign : properties.assign e.1 e.2 = properties.put (.text e.1) e.2 := by
      rw [assign, if_neg (by rw [he]; exact Bool.false_ne_true)]
    have hstep : properties.assignAll (e :: rest) =
        (properties.assign e.1 e.2).assignAll rest := rfl
    rw [hstep, hassign, ih hrest]
    rfl

end Entries

/-! ## Answers -/

@[simp] theorem count_nodeRecords (nodes : List StoredNode) :
    (nodeRecords nodes).count = nodes.length := List.length_map _

/-- The nodes that a store returns are the nodes that are read of the result. -/
theorem nodes_nodeRecords (nodes : List StoredNode) :
    (nodeRecords nodes).nodes (.text "n") = .ok nodes := by
  have hfrom : ∀ index, RecordSet.nodesFrom (.text "n") index (nodeRecords nodes).records =
      .ok nodes := by
    induction nodes with
    | nil => exact fun _ => rfl
    | cons node rest ih =>
      intro index
      have hstep : RecordSet.nodesFrom (.text "n") index (nodeRecords (node :: rest)).records =
          (RecordSet.nodesFrom (.text "n") (index + 1) (nodeRecords rest).records).map
            (⟨node.labels, node.properties⟩ :: ·) := rfl
      rw [hstep, ih (index + 1)]
      rfl
  exact hfrom 0

namespace Graph

theorem answer_eq {graph after : Graph} {statement : Statement} {command : NodeCommand}
    {nodes : List StoredNode} (hread : readNodeCommand statement.text = some command)
    (hexecute : graph.execute statement.parameters command = some (after, nodes)) :
    graph.answer statement = (after, .ok (nodeRecords nodes)) := by
  rw [answer, hread, Option.bind_some, hexecute]

theorem resolve_append {parameters : Entries} {pairs others : List (String × String)}
    {values more : List (String × Value)} (hpairs : resolve parameters pairs = some values)
    (hothers : resolve parameters others = some more) :
    resolve parameters (pairs ++ others) = some (values ++ more) := by
  rw [resolve, List.mapM_append]
  rw [resolve] at hpairs hothers
  rw [hpairs, hothers]
  rfl

/-- Keys that are paired with the names of values get these values. -/
theorem resolve_zip {parameters : Entries} {keys names : List String} {values : List Value}
    (h : names.map (fun name => parameters.get? (.text name)) = values.map some) :
    resolve parameters (keys.zip names) = some (keys.zip values) := by
  induction keys generalizing names values with
  | nil => rfl
  | cons key keys ih =>
    cases names with
    | nil =>
      have hvalues : values = [] := List.map_eq_nil_iff.mp h.symm
      rw [hvalues]
      rfl
    | cons name names =>
      cases values with
      | nil => exact absurd h (List.cons_ne_nil _ _)
      | cons value values =>
        rw [List.map_cons, List.map_cons, List.cons.injEq] at h
        have hrest := ih h.2
        rw [resolve] at hrest
        rw [List.zip_cons_cons, List.zip_cons_cons, resolve, List.mapM_cons, h.1, hrest]
        rfl

end Graph

namespace StoredNode

/-- A text identifies the nodes that have this text as identity. -/
theorem carries_text_iff {s : String} {node : StoredNode} :
    node.carries (.text s) = true ↔ node.identity.bare = .text s := by
  have hcarries : node.carries (.text s) =
      decide (node.identity.bare.toKey? = some (.text s)) := rfl
  rw [hcarries, decide_eq_true_iff]
  cases node.identity.bare <;> simp [Value.toKey?]

end StoredNode

end GraphMapper
