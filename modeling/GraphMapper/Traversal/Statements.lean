import GraphMapper.Query.Terminals
import GraphMapper.Traversal.Basic

/-!
# Statements of a traversal, and what it does

A traversal compiles to two patterns with a filter each: the pattern and the conditions of its
source under the variable `source`, then the relationship and the target with the traversal's
own conditions.  Because the filters are apart, an "or" of the source never reaches the other
half.
-/

namespace GraphMapper.Traversal

/-- The pattern variable of the source. -/
def sourceName : String := "source"

/-- The pattern variable of the target, which is also the column that returns it. -/
def targetName : String := PathPart.target.var

/-- The parameters of the source with the traversal's own. -/
def allParameters (source : Query) (traversal : Traversal) : Entries :=
  source.parameters.merge traversal.parameters

/-- The relationship of the pattern. -/
def relationshipPattern (traversal : Traversal) : Except Fault String :=
  traversal.direction.pattern traversal.relationshipType

/-- The filter on relationship and target. -/
def filter (traversal : Traversal) : String :=
  whereClauseFor (traversal.conditions.map fun c => (c.1, c.2.var))

/-- The part that says which targets are meant. -/
def rows (source : Query) (traversal : Traversal) : Except Fault String := do
  let start ← source.rows sourceName
  let relationship ← traversal.relationshipPattern
  let labels ← labelFragment (traversal.targetLabels.map .text)
  return start ++ " MATCH (" ++ sourceName ++ ")" ++ relationship ++ "(" ++ targetName ++
    labels ++ ")" ++ traversal.filter

/-- The statement that returns the targets, up to a limit that is written as given. -/
def selectLimited (source : Query) (traversal : Traversal) (limit : Option String) :
    Except Fault Statement := do
  let rows ← rows source traversal
  let limit := match limit with
    | some text => " LIMIT " ++ text
    | none => ""
  return ⟨rows ++ " RETURN " ++ targetName ++ limit, allParameters source traversal⟩

/-- The statement that returns the targets, up to the given limit or else the traversal's
own. -/
def selectStatement (source : Query) (traversal : Traversal) (limit : Value) :
    Except Fault Statement :=
  selectLimited source traversal
    (if limit.isNull then traversal.limit.map Nat.repr else some limit.plain)

/-- The statement that counts the targets. -/
def countStatement (source : Query) (traversal : Traversal) : Except Fault Statement := do
  let rows ← rows source traversal
  return ⟨rows ++ " RETURN count(" ++ targetName ++ ") AS " ++ Query.totalColumn,
    allParameters source traversal⟩

/-- The targets of a result. -/
def readNodes (result : RecordSet) : Except Fault (List Node) :=
  (result.nodes (.text targetName)).map (·.map Node.hydrate)

/-- All targets, in the order of the result. -/
def get (source : Query) (traversal : Traversal) : Program (Except Fault (List Node)) :=
  .query (selectStatement source traversal .null) readNodes

/-- The first target.  The limit of the traversal stays as it is. -/
def first (source : Query) (traversal : Traversal) : Program (Except Fault (Option Node)) :=
  .query (selectStatement source traversal (.int 1)) fun result =>
    (result.nodes (.text targetName)).map fun found => found.head?.map Node.hydrate

/-- How many targets there are. -/
def count (source : Query) (traversal : Traversal) : Program (Except Fault Int) :=
  .query (countStatement source traversal) (Query.readNumber Query.totalColumn)

/-- Whether there is a target. -/
def «exists» (source : Query) (traversal : Traversal) : Program (Except Fault Bool) :=
  (count source traversal).map fun result => result.map fun n => decide (0 < n)

end GraphMapper.Traversal
