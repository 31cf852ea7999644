import GraphMapper.Identifier
import GraphMapper.Number.Reading
import GraphMapper.Value.Entries

/-!
# Results of statements

A result is the list of records that a store returned, read to its end before anyone looks at
it.  A record is a map from columns to values; a column that it lacks reads as null.

## Nodes in a column

`RecordSet.nodes` checks every record before it returns anything, so a caller gets all nodes of
a column or the index of the first record that has none there.

## Counts

A statement that counts returns one scalar.  Stores are not trusted to return an integer, so
the scalar is read as one: truth values count as zero or one, fractions are cut off, and texts
are read as whole numbers.
-/

namespace GraphMapper

/-- A node as a store returns it.  Its labels are a set, so none is there twice, whatever their
order and however often one is listed. -/
structure StoredNode where
  labels : List String
  properties : Entries

/-- The value that a stored node is. -/
def StoredNode.toValue (node : StoredNode) : Value := .node node.labels node.properties

/-- Puts a label into a sorted list of labels, unless it is there. -/
def insertLabel (label : String) : List String → List String
  | [] => [label]
  | other :: rest =>
    if label = other then other :: rest
    else if label < other then label :: other :: rest
    else other :: insertLabel label rest

/-- The labels of a set, sorted by code points.  A label that is listed again is left out, as is
right for the labels of a stored node and for nothing else: they are a set. -/
def sortLabels (labels : List String) : List String := labels.foldr insertLabel []

/-- All records that a statement returned. -/
structure RecordSet where
  records : List Value := []

namespace RecordSet

/-- The value of an attribute of a node that stands where a record is expected. -/
def attributeOf (key : Key) (parts : Entries) : Except Fault Value :=
  if key = .text identityKey then .ok ((Entries.get? parts (.text "identity")).getD .null)
  else
    match ((Entries.get? parts (.text "attributes")).getD .null).bare with
    | .map attributes => .ok ((Entries.get? attributes key).getD .null)
    | _ => .error .noAttribute

/-- The value of a column in one record.  A node serves as a record of its attributes; a query
has something else under the word that reads a column. -/
def column (key : Key) (record : Value) : Except Fault Value :=
  match record.bare with
  | .map entries => .ok ((Entries.get? entries key).getD .null)
  | .object .node _ _ parts => attributeOf key parts
  | .object .query .. | .object .traversal .. => .error .wrongKind
  | _ => .error .noAttribute

/-- How many records there are. -/
def count (result : RecordSet) : Nat := result.records.length

/-- The first record, or null. -/
def first (result : RecordSet) : Value := result.records.headD .null

/-- The values of a column, in order. -/
def values (result : RecordSet) (key : Key) : Except Fault (List Value) :=
  result.records.mapM (column key)

/-- The value of a column in the first record; the default if there is no record or the value
is null. -/
def scalar (result : RecordSet) (key : Key) (default : Value) : Except Fault Value :=
  match result.first with
  | .null => .ok default
  | record => (column key record).map fun v => if v.isNull then default else v

/-- The nodes in a column of records numbered from `index` on. -/
def nodesFrom (key : Key) (index : Nat) : List Value → Except Fault (List StoredNode)
  | [] => .ok []
  | record :: rest =>
    match column key record with
    | .error fault => .error fault
    | .ok found =>
      match found.bare with
      | .node labels properties =>
        (nodesFrom key (index + 1) rest).map (⟨labels, properties⟩ :: ·)
      | _ => .error (.malformedRecord index key found)

/-- The nodes in a column, in order; a fault if any record has none there. -/
def nodes (result : RecordSet) (key : Key) : Except Fault (List StoredNode) :=
  nodesFrom key 0 result.records

end RecordSet

/-- The whole number that the characters of a reported count are. -/
def readCountText (given : Value) (s : List Char) : Except Fault Int :=
  match readWhole s with
  | .ok n => .ok n
  | .error .malformed => .error (.notAWholeNumber given)
  | .error (.tooLong digits) => .error (.tooManyDigits digits)

/-- The basic Latin character that a byte is; any other byte is no part of a number. -/
def byteChar (b : UInt8) : Char := if b < 128 then Char.ofNat b.toNat else '?'

/-- The whole number that a reported count stands for. -/
def readCount : Value → Except Fault Int
  | .bool b => .ok (if b then 1 else 0)
  | .int n => .ok n
  | .float (.infinite _) => .error .infiniteCount
  | .float x =>
    match x.truncate? with
    | some n => .ok n
    | none => .error .undefinedCount
  | .text s => readCountText (.text s) s.toList
  | .bytes b => readCountText (.bytes b) (b.map byteChar)
  | _ => .error .wrongKind

end GraphMapper
