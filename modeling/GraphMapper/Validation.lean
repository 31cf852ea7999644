import GraphMapper.Value.Display
import GraphMapper.Value.Entries

/-!
# Validation reports

Entities, conditions, statements and settings are built from named inputs of any kind.  A
constructor that cannot accept its inputs does not stop at the first problem: it goes through
its fields in the order in which they are declared and reports every field that does not fit,
each with the place where the problem is.

## What fits

A text field takes a text, or a string of bytes that is one in UTF-8.  A truth value may also be
given as the number zero or one or by one of the usual words for it, in any letter case but
without blanks around it.  A whole number of machine size that is neither zero nor one cannot be
interpreted; any other number is of the wrong type altogether.  Lists of texts may be given as
tuples.

A map may be given as a view of one, and its keys have to fit a text field each.  A key that is a
string of bytes is therefore read as its text, wherever in the map it stands, and where that makes
two keys one, they become one entry.
-/

namespace GraphMapper

/-- One step of the way to a problem: a field, or a position in a list. -/
inductive PathStep where
  | field (name : String)
  | index (n : Int)
  | key
  deriving DecidableEq

/-- What is wrong with an input. -/
inductive Problem where
  | notText
  | notTextBytes
  | notBool
  | unreadableBool
  | notList
  | notMap
  | missing
  | unexpected
  | notAName
  | notConnective
  | rejected (message : String)
  | frozen
  | notAnEntity
  deriving DecidableEq

/-- A problem and the way to it from the outermost input. -/
structure Issue where
  place : List PathStep
  problem : Problem
  deriving DecidableEq

/-- What was being built. -/
inductive Subject where
  | node
  | condition
  | statement
  | settings
  deriving DecidableEq

/-- The name of what was being built. -/
def Subject.title : Subject → String
  | .node => "Node"
  | .condition => "Predicate"
  | .statement => "CypherStatement"
  | .settings => "Neo4jSettings"

/-- All problems of one construction. -/
structure ValidationReport where
  subject : Subject
  issues : List Issue
  deriving DecidableEq

/-- The word that names a problem. -/
def Problem.code : Problem → String
  | .notText => "string_type"
  | .notTextBytes => "string_unicode"
  | .notBool => "bool_type"
  | .unreadableBool => "bool_parsing"
  | .notList => "list_type"
  | .notMap => "dict_type"
  | .missing => "missing"
  | .unexpected => "extra_forbidden"
  | .notAName => "invalid_key"
  | .notConnective => "literal_error"
  | .rejected _ => "value_error"
  | .frozen => "frozen_instance"
  | .notAnEntity => "model_type"

/-- The sentence that describes a problem. -/
def Problem.message : Problem → String
  | .notText => "Input should be a valid string"
  | .notTextBytes => "Input should be a valid string, unable to parse raw data as a unicode string"
  | .notBool => "Input should be a valid boolean"
  | .unreadableBool => "Input should be a valid boolean, unable to interpret input"
  | .notList => "Input should be a valid list"
  | .notMap => "Input should be a valid dictionary"
  | .missing => "Field required"
  | .unexpected => "Extra inputs are not permitted"
  | .notAName => "Keys should be strings"
  | .notConnective => "Input should be 'AND' or 'OR'"
  | .rejected message => "Value error, " ++ message
  | .frozen => "Instance is frozen"
  | .notAnEntity => "Input should be a valid dictionary or instance of Node"

/-- The step to the entry under a key: a whole number of machine size is a position, every
other key is named by its text. -/
def Key.pathStep (k : Key) : PathStep :=
  let named : PathStep := .field (match k with | .text s => s | other => other.literal)
  match k with
  | .bool b => .index (if b then 1 else 0)
  | .int n => if -9223372036854775808 ≤ n ∧ n < 9223372036854775808 then .index n else named
  | _ => named

/-- A problem at one field. -/
def Issue.at (name : String) (problem : Problem) : Issue := ⟨[.field name], problem⟩

namespace Validation

/-- The text of a string of bytes. -/
def textOfBytes? (bytes : List UInt8) : Option String :=
  String.fromUTF8? (ByteArray.mk bytes.toArray)

/-- A text, or what is wrong with the input as one. -/
def text : Value → Except Problem String
  | .text s => .ok s
  | .bytes b =>
    match textOfBytes? b with
    | some s => .ok s
    | none => .error .notTextBytes
  | _ => .error .notText

/-- The words for true and for false. -/
def trueWords : List String := ["1", "true", "t", "yes", "y", "on"]

@[inherit_doc trueWords] def falseWords : List String := ["0", "false", "f", "no", "n", "off"]

/-- The truth value that a word stands for, whatever its letter case. -/
def boolOfWord? (word : String) : Option Bool :=
  let plain := String.ofList (word.toList.map Char.toLower)
  if trueWords.contains plain then some true
  else if falseWords.contains plain then some false
  else none

/-- The truth value that a word stands for, or the problem with it. -/
def readBool (word : String) : Except Problem Bool :=
  match boolOfWord? word with
  | some b => .ok b
  | none => .error .unreadableBool

/-- Whether a whole number has machine size. -/
def isMachineSize (n : Int) : Bool := -9223372036854775808 ≤ n && n < 9223372036854775808

/-- The truth value that a whole number stands for, or the problem with it. -/
def boolOfInt (n : Int) : Except Problem Bool :=
  if n = 0 then .ok false
  else if n = 1 then .ok true
  else if isMachineSize n then .error .unreadableBool
  else .error .notBool

/-- A truth value, or what is wrong with the input as one. -/
def bool : Value → Except Problem Bool
  | .bool b => .ok b
  | .int n => boolOfInt n
  | .float x =>
    match x.toInt? with
    | some n => boolOfInt n
    | none => .error .notBool
  | .text s => readBool s
  | .bytes b =>
    match textOfBytes? b with
    | some s => readBool s
    | none => .error .unreadableBool
  | _ => .error .notBool

/-- The texts of a list, with a problem for each item that is none. -/
def textItems (name : String) (n : Nat) : List Value → List String × List Issue
  | [] => ([], [])
  | v :: rest =>
    let (texts, issues) := textItems name (n + 1) rest
    match text v with
    | .ok s => (s :: texts, issues)
    | .error problem => (texts, ⟨[.field name, .index n], problem⟩ :: issues)

/-- A list of texts under a field, or the problems with it.  Any object that can be gone through
serves as a list. -/
def textList (name : String) (input : Value) : Except (List Issue) (List String) :=
  let ofItems (items : List Value) : Except (List Issue) (List String) :=
    match textItems name 0 items with
    | (texts, []) => .ok texts
    | (_, issues) => .error issues
  match input.bare, input.members? with
  | .list items, _ => ofItems items
  | .tuple items, _ => ofItems items
  | .object .., some members => ofItems members
  | _, _ => .error [.at name .notList]

/-- Whether a key is a text already. -/
def isText : Key → Bool
  | .text _ => true
  | _ => false

/-- The entries of a map under the texts of their keys, with a problem for each key that has
none. -/
def textKeys (name : String) : List (Key × Value) → Entries × List Issue
  | [] => ([], [])
  | (key, v) :: rest =>
    let (entries, issues) := textKeys name rest
    match text key.toValue with
    | .ok s => ((.text s, v) :: entries, issues)
    | .error problem => (entries, ⟨[.field name, key.pathStep, .key], problem⟩ :: issues)

/-- A map whose keys are texts under a field, or the problems with it.  Reading the keys can only
make two of them one if one is no text already. -/
def textMap (name : String) (input : Value) : Except (List Issue) Entries :=
  match input.bare with
  | .map entries =>
    match textKeys name entries with
    | (read, []) => .ok (if entries.all fun e => isText e.1 then read else Entries.ofPairs read)
    | (_, issues) => .error issues
  | _ => .error [.at name .notMap]

/-- The input of a field, if there is one. -/
def input? (name : String) (inputs : List (Key × Value)) : Option Value :=
  (inputs.find? fun e => e.1 == .text name).map (·.2)

/-- The result of checking one field: its value, if it has one, and its problems. -/
structure Checked (α : Type) where
  value? : Option α
  issues : List Issue

/-- A field that was checked as one whole. -/
def Checked.of {α : Type} : Except (List Issue) α → Checked α
  | .ok a => ⟨some a, []⟩
  | .error issues => ⟨none, issues⟩

/-- A field that takes its default when it is not given. -/
def optional {α : Type} (name : String) (default : α) (check : Value → Except (List Issue) α)
    (inputs : List (Key × Value)) : Checked α :=
  match input? name inputs with
  | some v => .of (check v)
  | none => ⟨some default, []⟩

/-- A field that has to be given. -/
def required {α : Type} (name : String) (check : Value → Except (List Issue) α)
    (inputs : List (Key × Value)) : Checked α :=
  match input? name inputs with
  | some v => .of (check v)
  | none => ⟨none, [.at name .missing]⟩

/-- A check of one scalar field. -/
def scalar {α : Type} (name : String) (check : Value → Except Problem α) (v : Value) :
    Except (List Issue) α :=
  (check v).mapError fun problem => [.at name problem]

end Validation

end GraphMapper
