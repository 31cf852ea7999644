import GraphMapper.Query.Terminals

/-!
# Maintenance

Two jobs that look after a whole database: counting what is in it and clearing it.

Counting asks for totals and for the names in use.  A detailed count then asks for the number
of nodes of each label and of relationships of each type, one statement per name.  The names
come from the store, where anybody may have put them, and not every name can be written into a
statement; those that cannot are left out with a warning.

Clearing deletes all nodes, or all nodes with one label.  A label that is no name is refused
before anything is sent.
-/

namespace GraphMapper.Maintenance

/-- What is in a database. -/
structure Statistics where
  nodes : Value
  relationships : Value
  labels : List Value
  relationshipTypes : List Value
  labelCounts : Entries := []
  typeCounts : Entries := []

/-- Statistics as a map. -/
def Statistics.toEntries (statistics : Statistics) : Entries :=
  [(.text "nodes", statistics.nodes), (.text "relationships", statistics.relationships),
    (.text "labels", .list statistics.labels),
    (.text "relationship_types", .list statistics.relationshipTypes),
    (.text "label_counts", .map statistics.labelCounts),
    (.text "type_counts", .map statistics.typeCounts)]

/-- Counts all nodes. -/
def nodeTotal : Statement := ⟨"MATCH (n) RETURN count(n) AS total", []⟩

/-- Counts all relationships. -/
def relationshipTotal : Statement := ⟨"MATCH ()-[r]->() RETURN count(r) AS total", []⟩

/-- Lists the labels in use. -/
def labelList : Statement := ⟨"CALL db.labels() YIELD label RETURN label", []⟩

/-- Lists the relationship types in use. -/
def typeList : Statement :=
  ⟨"CALL db.relationshipTypes() YIELD relationshipType RETURN relationshipType", []⟩

/-- Counts the relationships of a type. -/
def typeTotal (relationshipType : String) : Statement :=
  ⟨"MATCH ()-[r:" ++ relationshipType ++ "]->() RETURN count(r) AS total", []⟩

/-- A count as the store reports it, zero if it reports none. -/
def reportedTotal (result : RecordSet) : Except Fault Value :=
  result.scalar (.text Query.totalColumn) (.int 0)

/-- Sends a statement and reads its result, or ends with the fault. -/
def ask {α : Type} (statement : Statement) (read : RecordSet → Except Fault α) :
    ExceptT Fault Program α :=
  Program.query (.ok statement) read

/-- Leaves a warning. -/
def warn (message : String) : ExceptT Fault Program Unit :=
  Program.warn message (.done (.ok ()))

/-- The warning about a label that cannot be counted. -/
def labelWarning (label : Value) : String :=
  "Skipping label " ++ label.literal ++ ": not a plain identifier"

/-- The warning about a relationship type that cannot be counted. -/
def typeWarning (relationshipType : Value) : String :=
  "Skipping relationship type " ++ relationshipType.literal ++ ": not a plain identifier"

/-- Counts the nodes of each label in turn. -/
def countLabels (counts : Entries) : List Value → ExceptT Fault Program Entries
  | [] => return counts
  | label :: rest =>
    match Query.ofLabels [label], label.toKey? with
    | .ok query, some key => do
      let count ← (query.count : ExceptT Fault Program Int)
      countLabels (counts.put key (.int count)) rest
    | _, _ => do
      warn (labelWarning label)
      countLabels counts rest

/-- Counts the relationships of each type in turn. -/
def countTypes (counts : Entries) : List Value → ExceptT Fault Program Entries
  | [] => return counts
  | relationshipType :: rest =>
    match identifier relationshipRole relationshipType with
    | .ok name => do
      let total ← ask (typeTotal name) reportedTotal
      countTypes (counts.put (.text name) total) rest
    | .error _ => do
      warn (typeWarning relationshipType)
      countTypes counts rest

/-- Counts what is in a database. -/
def collectStatistics (detailed : Bool) : ExceptT Fault Program Statistics := do
  let nodes ← ask nodeTotal reportedTotal
  let relationships ← ask relationshipTotal reportedTotal
  let labels ← ask labelList fun result => result.values (.text "label")
  let types ← ask typeList fun result => result.values (.text "relationshipType")
  let totals : Statistics := ⟨nodes, relationships, labels, types, [], []⟩
  if detailed then
    let labelCounts ← countLabels [] labels
    let typeCounts ← countTypes [] types
    return { totals with labelCounts := labelCounts, typeCounts := typeCounts }
  else return totals

/-- The statement that clears the nodes with a label, or all nodes if the label is null or
empty. -/
def clearStatement (label : Value) : Except Fault Statement := do
  let labels ← labelFragment (if label.isTruthy then [label] else [])
  return ⟨"MATCH (n" ++ labels ++ ") DETACH DELETE n RETURN count(n) AS deleted", []⟩

/-- Clears the nodes with a label, or all nodes, and returns how many there were. -/
def clearNodes (label : Value) : Program (Except Fault Int) :=
  .query (clearStatement label) (Query.readNumber Query.deletedColumn)

end GraphMapper.Maintenance
