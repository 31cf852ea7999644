import GraphMapper.Console.Lines

/-!
# Tables

A table has a column of names, flush left, and a column of counts, flush right.  Every column is
as wide as its widest cell, as long as the table fits on the page.  If it does not, the widest
column gives way until it is no wider than the next one, and from there on the widest columns
give way together.

A cell that is too long for its column goes on below, and a word that is too long for its column
ends in an ellipsis.  `Table.lines` lists the lines of the table as they are read across.
-/

namespace GraphMapper.Table

/-- The blanks at the sides of a cell. -/
def margin : Nat := 2

/-- The columns that the three rules of a table take. -/
def rules : Nat := 3

/-- Whether a character ends a line of a text that is measured. -/
def endsLine (c : Char) : Bool :=
  let n := c.toNat
  (10 ≤ n && n ≤ 13) || (28 ≤ n && n ≤ 30) || n == 0x85 || n == 0x2028 || n == 0x2029

/-- The lines of a text that is measured, given the line so far, last character first. -/
def measuredLines (before : List Char) : List Char → List (List Char)
  | [] => [before.reverse]
  | c :: rest =>
    if endsLine c then before.reverse :: measuredLines [] rest else measuredLines (c :: before) rest

/-- The widest of several widths. -/
def widest (widths : List Nat) : Nat := widths.foldl max 0

/-- The columns that cells need, margins included, of those that there are. -/
def needed (room : Nat) (cells : List (List Char)) : Nat :=
  min room (widest (cells.map fun cell => widest ((measuredLines [] cell).map Text.width)) + margin)

/-- A half of a number, a half unit going to the even neighbour. -/
def evenHalf (n : Nat) : Nat :=
  if n % 2 = 0 then n / 2 else if n / 2 % 2 = 0 then n / 2 else n / 2 + 1

/-- The widths of two columns of which the first has at most the second's room to give, reduced
until they fit; `fuel` bounds the steps. -/
def collapseWithin : Nat → Nat → Nat × Nat → Nat × Nat
  | 0, _, widths => widths
  | fuel + 1, room, (a, b) =>
    let excess := a + b - room
    if excess = 0 then (a, b)
    else if b < a then collapseWithin fuel room (a - min excess (a - b), b)
    else if a < b then collapseWithin fuel room (a, b - min excess (b - a))
    else
      let first := min (min excess a) (evenHalf excess)
      (a - first, b - min (min excess a) (excess - first))

/-- The widths of two columns on a page. -/
def collapse (room : Nat) (widths : Nat × Nat) : Nat × Nat := collapseWithin 3 room widths

/-- Lines side by side; a cell that has ended is blank. -/
def sideBySide : List (List Char) → List (List Char) → List (List Char)
  | [], right => right
  | left, [] => left
  | l :: left, r :: right => (l ++ ' ' :: r) :: sideBySide left right

/-- The cells of two columns under their headings in lines, on a page of a given width. -/
def layouts (page : Nat) (headings : List Char × List Char) (cells : List (List Char × List Char)) :
    List (Lines.Layout × Lines.Layout) :=
  let all := headings :: cells
  let room := page - rules
  let widths := collapse room (needed room (all.map (·.1)), needed room (all.map (·.2)))
  all.map fun (name, count) =>
    (Lines.shortened (widths.1 - margin) name, Lines.shortenedRight (widths.2 - margin) count)

/-- The lines of the rows. -/
def lines (rows : List (Lines.Layout × Lines.Layout)) : List (List Char) :=
  rows.flatMap fun (name, count) => sideBySide name.texts count.texts

end GraphMapper.Table
