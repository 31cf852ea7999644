import GraphMapper.Node.Statements
import GraphMapper.Query.Basic

/-!
# Statements of a query

All statements of a query share one part, `MATCH … WHERE …`, that says which nodes are meant.
They differ in what is done with them: nodes are returned in order and up to the limit,
counted, changed, or deleted.  Ordering and limit only make sense for the first.

## Changes need a condition

Changing or deleting every node with a label is nearly always a mistake, so a query without a
condition refuses to compile such a statement.

## The placeholders of an update

The values that an update assigns are bound by the query's own allocator, so they cannot
clash with its conditions.  They are bound in a copy of the parameters: the query does not keep
them, only the allocator has moved on, even if a property is refused half-way.
-/

namespace GraphMapper.Query

/-- The pattern variable of a query. -/
def variableName : String := "n"

/-- The pattern of a query on a variable. -/
def matchClause (query : Query) (var : String) : Except Fault String := do
  let labels ← labelFragment (query.labels.map .text)
  return "MATCH (" ++ var ++ labels ++ ")"

/-- The filter of a query on a variable. -/
def whereClause (query : Query) (var : String) : String :=
  GraphMapper.whereClause query.conditions var

/-- The part that says which nodes are meant. -/
def rows (query : Query) (var : String) : Except Fault String := do
  let pattern ← query.matchClause var
  return pattern ++ query.whereClause var

/-- The ordering of a statement. -/
def sortingClause (sorting : Option Sorting) : String :=
  match sorting with
  | some s => " ORDER BY " ++ variableName ++ "." ++ s.field ++ " " ++ s.direction.text
  | none => ""

/-- The limit of a statement. -/
def limitClause (limit : Option Nat) : String :=
  match limit with
  | some n => " LIMIT " ++ Nat.repr n
  | none => ""

/-- The return part of a statement that counts nodes under a column. -/
def returnCount (column : String) : String :=
  " RETURN count(" ++ variableName ++ ") AS " ++ column

/-- The column of a count. -/
def totalColumn : String := "total"

/-- The column of the number of updated nodes. -/
def updatedColumn : String := "updated"

/-- The column of the number of deleted nodes. -/
def deletedColumn : String := "deleted"

/-- The statement that returns the nodes. -/
def selectStatement (query : Query) : Except Fault Statement := do
  let rows ← query.rows variableName
  return ⟨rows ++ " RETURN " ++ variableName ++ sortingClause query.sorting ++
    limitClause query.limit, query.parameters⟩

/-- The statement that counts the nodes. -/
def countStatement (query : Query) : Except Fault Statement := do
  let rows ← query.rows variableName
  return ⟨rows ++ returnCount totalColumn, query.parameters⟩

/-- Refuses a change to nodes that no condition selects. -/
def guardMutation (query : Query) (mutation : Mutation) : Except Fault Unit :=
  if query.conditions.isEmpty then .error (.unsafeMutation mutation query.labels) else .ok ()

/-- Whether one text occurs in another. -/
def occursIn (piece : List Char) : List Char → Bool
  | [] => piece.isEmpty
  | c :: rest => piece.isPrefixOf (c :: rest) || occursIn piece rest

/-- Whether a value mentions the identity: as a key, as a member or inside a text. -/
def mentionsIdentity (value : Value) : Except Fault Bool :=
  match value.bare with
  | .map entries => .ok (Entries.has entries (.text identityKey))
  | .text s => .ok (occursIn identityKey.toList s.toList)
  | .bytes _ => .error .wrongKind
  | v =>
    match v.members? with
    | some members => .ok (members.any isIdentityText)
    | none => .error .wrongKind
where
  /-- Whether a value is the identity's key. -/
  isIdentityText : Value → Bool
    | .text s => s == identityKey
    | _ => false

/-- The attributes that an update assigns: a map with at least one entry, none of them the
identity. -/
def readChanges (attributes : Value) : Except Fault Entries := do
  if !attributes.isTruthy then throw .emptyUpdate
  if ← mentionsIdentity attributes then throw .identityInUpdate
  match attributes.bare with
  | .map entries => return entries
  | _ => throw .noAttribute

/-- Binds the assignments of an update to placeholders of the query. -/
def bindChanges (query : Query) (changes : Entries) : Except Fault Statement × Query :=
  let (result, final) := setClause variableName ⟨query.allocator, query.parameters⟩ changes
  let statement := do
    let assignments ← result
    let rows ← query.rows variableName
    return ⟨rows ++ assignments ++ returnCount updatedColumn, final.parameters⟩
  (statement, { query with allocator := final.allocator })

/-- The statement that assigns attributes to every node, and the query with the placeholders
handed out. -/
def updateStatement (query : Query) (attributes : Value) : Except Fault Statement × Query :=
  match query.guardMutation .update with
  | .error fault => (.error fault, query)
  | .ok () =>
    match readChanges attributes with
    | .error fault => (.error fault, query)
    | .ok changes => query.bindChanges changes

/-- The statement that deletes the nodes. -/
def deleteStatement (query : Query) (detach : Bool) : Except Fault Statement := do
  query.guardMutation .delete
  let rows ← query.rows variableName
  return ⟨rows ++ " " ++ Node.deleteKeyword detach ++ " " ++ variableName ++
    returnCount deletedColumn, query.parameters⟩

end GraphMapper.Query
