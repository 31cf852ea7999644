import GraphMapper.Console.Markup
import GraphMapper.Console.Table
import GraphMapper.Value.Display

/-!
# What is printed

Output goes to a page of a fixed width.  A message is folded to the width of the page, and a frame
and a table have narrower lines.

`words` is the text of a page as a reader takes it in: frames are blanks, and any stretch of
blanks is one space.
-/

namespace GraphMapper.Page

/-- The columns of a page. -/
def width : Nat := 120

/-- The columns inside a frame with one blank on either side. -/
def frameWidth : Nat := width - 4

/-- Lines as a text. -/
def linesText (lines : List (List Char)) : String :=
  String.join (lines.map fun line => String.ofList line ++ "\n")

/-- A message with markup, folded to a number of columns. -/
def folded (columns : Nat) (message : String) : Except Fault String := do
  let styled ← Markup.render message
  let layout := Lines.folded columns styled.text
  styled.check layout
  return linesText layout.texts

/-- A line of a message, with markup. -/
def line (message : String) : Except Fault String := folded width message

/-- A titled frame around a message, with markup. -/
def frame (title message : String) : Except Fault String :=
  (folded frameWidth message).map fun text => title ++ "\n" ++ text

/-- A titled table of names and counts, with markup in its cells. -/
def table (title heading : String) (rows : List (String × String)) : Except Fault String := do
  let names ← rows.mapM fun row => Markup.render row.1
  let counts ← rows.mapM fun row => Markup.render row.2
  let cells := names.zip counts
  let layouts := Table.layouts width (heading.toList, "Count".toList)
    (cells.map fun (name, count) => (name.text, count.text))
  (cells.zip (layouts.drop 1)).forM fun ((name, count), nameLines, countLines) => do
    name.check nameLines
    count.check countLines
  return title ++ "\n" ++ linesText (Table.lines layouts)

/-- Whether a character draws a frame. -/
def isFrame (c : Char) : Bool :=
  let n := c.toNat
  0x2500 ≤ n && n ≤ 0x257F

/-- The words of what was printed, one space apart. -/
def words (printed : List String) : String :=
  let text := (String.join printed).toList.map fun c => if isFrame c then ' ' else c
  joinTexts " " ((Text.words text).map String.ofList)

end GraphMapper.Page
