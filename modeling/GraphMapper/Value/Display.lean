import GraphMapper.Number.Layout
import GraphMapper.Text.Quoted
import GraphMapper.Value.Basic

/-!
# The text of a value

Values appear in messages, in statement logs and, converted to text, as identities.  There are
two forms.  The *literal* form shows what kind of value it is: texts are quoted.  The *plain*
form is the same except that a text stands for itself.

Inside a list, tuple or map everything is literal, so the plain form of a list of texts still
quotes them.  A tuple of one item keeps a comma, which tells it from a value in parentheses.

A container that is held in common can be part of itself.  Where it is met again inside itself,
dots stand for what is in it.
-/

namespace GraphMapper

/-- Pieces of text with a separator between them. -/
def joinTexts (separator : String) (pieces : List String) : String :=
  separator.intercalate pieces

/-- The literal form of a truth value. -/
def boolLiteral (b : Bool) : String := if b then "True" else "False"

/-- The literal form of null. -/
def nullLiteral : String := "None"

/-- The literal form of a key. -/
def Key.literal : Key → String
  | .null => nullLiteral
  | .bool b => boolLiteral b
  | .int n => toString n
  | .float x => x.text
  | .text s => Text.quoted s
  | .bytes b => Text.quotedBytes b

/-- What stands for a container that is met again inside itself. -/
def Value.dots? : Value → Option String
  | .list _ => some "[...]"
  | .tuple _ => some "(...)"
  | .map _ => some "\x7b...\x7d"
  | .node labels _ => some ("<node " ++ joinTexts ":" labels ++ " \x7b...\x7d>")
  | _ => none

mutual

/-- The literal form of a value inside containers at certain places. -/
def Value.literalWithin (opened : List Nat) : Value → String
  | .null => nullLiteral
  | .bool b => boolLiteral b
  | .int n => toString n
  | .float x => x.text
  | .text s => Text.quoted s
  | .bytes b => Text.quotedBytes b
  | .list items => "[" ++ joinTexts ", " (Value.literalsWithin opened items) ++ "]"
  | .tuple items =>
    match Value.literalsWithin opened items with
    | [only] => "(" ++ only ++ ",)"
    | pieces => "(" ++ joinTexts ", " pieces ++ ")"
  | .map entries =>
    "\x7b" ++ joinTexts ", " (Value.entryLiteralsWithin opened entries) ++ "\x7d"
  | .node labels properties =>
    "<node " ++ joinTexts ":" labels ++ " \x7b" ++
      joinTexts ", " (Value.entryLiteralsWithin opened properties) ++ "\x7d>"
  | .object _ literal _ _ => literal
  | .shared place seen =>
    match if opened.contains place then seen.dots? else none with
    | some dots => dots
    | none => seen.literalWithin (place :: opened)

/-- The literal forms of several values inside containers at certain places. -/
def Value.literalsWithin (opened : List Nat) : List Value → List String
  | [] => []
  | v :: rest => v.literalWithin opened :: Value.literalsWithin opened rest

/-- The literal forms of the entries of a map inside containers at certain places. -/
def Value.entryLiteralsWithin (opened : List Nat) : List (Key × Value) → List String
  | [] => []
  | (k, v) :: rest =>
    (k.literal ++ ": " ++ v.literalWithin opened) :: Value.entryLiteralsWithin opened rest

end

/-- The literal form of a value. -/
def Value.literal (v : Value) : String := v.literalWithin []

/-- The plain form of a value. -/
def Value.plain : Value → String
  | .text s => s
  | .object _ _ plain _ => plain
  | .shared _ (.text s) => s
  | .shared _ (.object _ _ plain _) => plain
  | v => v.literal

/-- The plain form of a key. -/
def Key.plain : Key → String
  | .text s => s
  | k => k.literal

@[simp] theorem Value.plain_text (s : String) : Value.plain (.text s) = s := rfl

end GraphMapper
