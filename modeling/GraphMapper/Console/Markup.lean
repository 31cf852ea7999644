import GraphMapper.Console.Action
import GraphMapper.Console.Emoji
import GraphMapper.Console.Lines
import GraphMapper.Console.Style

/-!
# Markup

Messages are printed with markup: a tag in brackets switches a style on, and a tag that begins
with a slash switches it off again.  Styles show nothing in a plain text, so what a message
reads as is the text between its tags, with its pictures in place of their names.

Messages quote values that come from outside, and such a value may look like markup.  What
looks like a tag disappears; what looks like a closing tag without its opening one is a fault,
and then nothing of the message is printed.

* A tag begins with a small letter, `#`, `/` or `@` after the bracket and ends at the next
  closing bracket; it contains no opening one.
* Backslashes before a tag are paired: a pair stands for one backslash, and one that is left
  over makes the tag plain text.
* A closing tag without a name closes whatever was opened last.
* A name of a picture does not reach across a tag.

Some control characters never reach a terminal and are dropped.

What stands after the equals sign of a tag is read as part of its style, but only where the text
of the tag is printed; see `Styled.check`.
-/

namespace GraphMapper.Markup

/-- A stretch of a message. -/
inductive Piece where
  | plain (text : List Char)
  | tag (text : List Char) (position : Nat)

/-- A character that can begin a tag. -/
def isTagStart (c : Char) : Bool := c.isLower || c == '#' || c == '/' || c == '@'

/-- The tag after an opening bracket, and what is left. -/
def readTag (s : List Char) : Option (List Char × List Char) :=
  let text := s.takeWhile fun c => c != '[' && c != ']'
  match text, s.drop text.length with
  | c :: _, ']' :: rest => if isTagStart c then some (text, rest) else none
  | _, _ => none

/-- The tag that begins after any backslashes, their number, and what is left. -/
def readEscapedTag (s : List Char) : Option (Nat × List Char × List Char) :=
  let escapes := s.takeWhile (· == '\\')
  match s.drop escapes.length with
  | '[' :: inner => (readTag inner).map fun (text, rest) => (escapes.length, text, rest)
  | _ => none

/-- The pieces of a tag with backslashes before it, from a position on. -/
def tagPieces (escapes position : Nat) (text : List Char) : List Piece :=
  let pairs := escapes / 2
  let slashes := if pairs = 0 then [] else [Piece.plain (List.replicate pairs '\\')]
  if escapes % 2 = 1 then slashes ++ [.plain ('[' :: text ++ [']'])]
  else slashes ++ [.tag text (position + 2 * pairs)]

/-- The piece of a text that was read backwards, unless it is empty. -/
def plainPiece (backwards : List Char) : List Piece :=
  if backwards.isEmpty then [] else [.plain backwards.reverse]

/-- The pieces of a message from a position on, given the plain text before it that belongs to
no piece yet, last character first; `fuel` bounds the characters. -/
def piecesWithin : Nat → Nat → List Char → List Char → List Piece
  | 0, _, before, _ => plainPiece before
  | _, _, before, [] => plainPiece before
  | fuel + 1, position, before, c :: rest =>
    match if c = '[' ∨ c = '\\' then readEscapedTag (c :: rest) else none with
    | some (escapes, text, after) =>
      plainPiece before ++ tagPieces escapes position text ++
        piecesWithin fuel (position + escapes + text.length + 2) [] after
    | none => piecesWithin fuel (position + 1) (c :: before) rest

/-- The pieces of a message. -/
def pieces (message : List Char) : List Piece := piecesWithin message.length 0 [] message

/-- A plain text without the backslashes that stand right before an opening bracket. -/
def withoutEscapes : List Char → List Char
  | '\\' :: '[' :: rest => '[' :: withoutEscapes rest
  | c :: rest => c :: withoutEscapes rest
  | [] => []

/-- What a plain piece reads as. -/
def plainText (text : List Char) : List Char := Emoji.replace (withoutEscapes text)

/-- A tag that was opened: its name in normal form, what stands after its equals sign, and the
place in the text where it was opened. -/
structure OpenTag where
  name : String
  action : List Char
  start : Nat

/-- A stretch of a text, from a place up to another, and the description of its style. -/
structure Span where
  start : Nat
  stop : Nat
  style : List Char

/-- A text with styles, in the order in which they are applied. -/
structure Styled where
  text : List Char
  spans : List Span

/-- The stretch between a tag and the place where it was closed. -/
def OpenTag.span (tag : OpenTag) (stop : Nat) : Span :=
  ⟨tag.start, stop, tag.name.toList ++ ' ' :: tag.action⟩

/-- Whether a tag is an action and not a style. -/
def OpenTag.isAction (tag : OpenTag) : Bool := tag.name.startsWith "@"

/-- The name of a tag and what stands after its equals sign. -/
def splitTag (text : List Char) : List Char × List Char :=
  let name := text.takeWhile (· != '=')
  (name, text.drop (name.length + 1))

/-- A tag as it was written. -/
def tagText (text : List Char) : String := "[" ++ String.ofList text ++ "]"

/-- The tag with a name that was opened last, and the other open tags. -/
def takeTag (name : String) : List OpenTag → Option (OpenTag × List OpenTag)
  | [] => none
  | tag :: rest =>
    if tag.name = name then some (tag, rest)
    else (takeTag name rest).map fun (found, others) => (found, tag :: others)

/-- The tag that a closing tag closes, and the tags that are still open, the last opened first. -/
def closeTag (opened : List OpenTag) (text : List Char) (position : Nat) :
    Except Fault (OpenTag × List OpenTag) := do
  let written := Text.trim ((splitTag text).1.drop 1)
  let found ← if written.isEmpty then
      match opened with
      | [] => throw (.nothingToClose "[/]" position)
      | tag :: rest => pure (tag, rest)
    else
      match takeTag (← Style.normal written) opened with
      | some found => pure found
      | none => throw (.unopenedTag (tagText text) position)
  if found.1.isAction then Action.check found.1.action
  return found

/-- Whether a character never reaches a terminal. -/
def isDropped (c : Char) : Bool :=
  let n := c.toNat
  n == 7 || n == 8 || n == 11 || n == 12 || n == 13

/-- The text of pieces from a place on, and its styles in the order in which they end, given the
open tags. -/
def textOf (opened : List OpenTag) (place : Nat) : List Piece → Except Fault Styled
  | [] => .ok ⟨[], opened.map fun tag => tag.span place⟩
  | .plain text :: rest => do
    let shown := (plainText text).filter (!isDropped ·)
    let after ← textOf opened (place + shown.length) rest
    return { after with text := shown ++ after.text }
  | .tag text position :: rest => do
    if text.head? = some '/' then
      let (tag, others) ← closeTag opened text position
      let after ← textOf others place rest
      return if tag.isAction then after else { after with spans := tag.span place :: after.spans }
    else
      let (name, action) := splitTag text
      textOf (⟨(← Style.normal name), action, place⟩ :: opened) place rest

/-- Spans in the order in which they are applied: by where they begin, and of those that begin
together the last to end first. -/
def sortSpans (spans : List Span) : List Span :=
  spans.reverse.mergeSort fun a b => a.start ≤ b.start

/-- The text of a message, with its styles. -/
def render (message : String) : Except Fault Styled :=
  (textOf [] 0 (pieces message.toList)).map fun styled =>
    { styled with spans := sortSpans styled.spans }

/-- Reads the styles of a text as its lines are printed.  A style that shows on no line is never
read. -/
def Styled.check (styled : Styled) (layout : Lines.Layout) : Except Fault Unit :=
  layout.lines.forM fun line => styled.spans.forM fun span => do
    if layout.shows styled.text.length span.start span.stop line then Style.check span.style

end GraphMapper.Markup
