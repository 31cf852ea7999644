import GraphMapper.Text.Blank
import GraphMapper.Text.Width

/-!
# Lines

A text is printed in lines of a given number of columns.  Each of its own lines is first freed of
tabs and then broken between words.  A word goes to the next line if it does not fit into the
rest of this one; the blanks after a word belong to it, but they need not fit.

A word that is wider than a whole line is treated in one of two ways.  *Folding* cuts it where the
line ends, so nothing is lost.  *Cropping* leaves it whole; `ellipsized` then cuts the line and
marks the place with an ellipsis.

Columns are cells, not characters: see `Text.width`.

A `Layout` says of every character of its lines from which place of the text it comes, so that a
property of a stretch of the text can be followed to the lines.
-/

namespace GraphMapper.Lines

/-- The lines of a text. -/
def split (text : List Char) : List (List Char) :=
  match text with
  | [] => [[]]
  | c :: rest =>
    match split rest with
    | [] => [[c]]
    | line :: others => if c = '\n' then [] :: line :: others else (c :: line) :: others

/-- A line, and the places of its characters in the text. -/
structure Line where
  text : List Char
  places : List Nat

/-- Pieces of a text as lines, given the places of their characters. -/
def divide (places : List Nat) : List (List Char) → List Line
  | [] => []
  | piece :: rest =>
    ⟨piece, places.take piece.length⟩ :: divide (places.drop piece.length) rest

/-- The lines of a text from a place on. -/
def placed (place : Nat) : List (List Char) → List Line
  | [] => []
  | text :: rest =>
    ⟨text, List.range' place text.length⟩ :: placed (place + text.length + 1) rest

/-- A line that was changed, keeping its beginning. -/
def Line.become (line : Line) (text : List Char) : Line := ⟨text, line.places.take text.length⟩

/-- A line without tabs, given its cells so far and what stands since the last tab, last character
first: a tab becomes blanks up to the next multiple of eight, at least one. -/
def expandTabsAfter (cells : Nat) (before : List (Char × Nat)) :
    List (Char × Nat) → List (Char × Nat)
  | [] => before.reverse
  | (c, place) :: rest =>
    if c = '\t' then
      let part := ((' ', place) :: before).reverse
      let filled := cells + Text.width (part.map Prod.fst)
      let gap := (8 - filled % 8) % 8
      part ++ List.replicate gap (' ', place) ++ expandTabsAfter (filled + gap) [] rest
    else expandTabsAfter cells ((c, place) :: before) rest

/-- A line without tabs. -/
def Line.expandTabs (line : Line) : Line :=
  let expanded := expandTabsAfter 0 [] (line.text.zip line.places)
  ⟨expanded.map Prod.fst, expanded.map Prod.snd⟩

/-- The words of a line, each with the blanks after it and the first with the blanks before it.
A line of blanks has none. -/
def wordsOf (line : List Char) : List (List Char) :=
  let margin := line.takeWhile Text.isBlank
  match go (line.length + 1) (line.drop margin.length) with
  | [] => []
  | first :: rest => (margin ++ first) :: rest
where
  /-- The words of a line that begins with one, at most `fuel`. -/
  go : Nat → List Char → List (List Char)
    | 0, _ => []
    | _, [] => []
    | fuel + 1, s =>
      let body := s.takeWhile (!Text.isBlank ·)
      let gap := (s.drop body.length).takeWhile Text.isBlank
      (body ++ gap) :: go fuel (s.drop (body.length + gap.length))

/-- Lines as they are filled: the full ones, the last first, the one that is being filled, and
its cells. -/
structure Filling where
  full : List (List Char) := []
  current : List Char := []
  cells : Nat := 0
  started : Bool := false

/-- Ends the current line, unless nothing was put into any line yet. -/
def Filling.endLine (filling : Filling) : Filling :=
  if filling.started then { filling with full := filling.current :: filling.full, current := [] }
  else filling

/-- Puts a text into the current line, which then has so many cells. -/
def Filling.put (filling : Filling) (text : List Char) (cells : Nat) : Filling :=
  { filling with current := filling.current ++ text, cells := cells, started := true }

/-- Puts a word into the lines. -/
def Filling.addWord (columns : Nat) (fold : Bool) (filling : Filling) (word : List Char) :
    Filling :=
  let size := Text.width (Text.trimRight word)
  if filling.cells + size ≤ columns then
    filling.put word (filling.cells + Text.width word)
  else if columns < size && fold then
    (Text.chop columns word).foldl
      (fun filling piece => filling.endLine.put piece (Text.width piece)) filling
  else filling.endLine.put word (Text.width word)

/-- A line broken between words. -/
def breakLine (columns : Nat) (fold : Bool) (line : List Char) : List (List Char) :=
  match wordsOf line with
  | [] => [line]
  | words =>
    let filling : Filling := words.foldl (fun f word => f.addWord columns fold word) {}
    (filling.current :: filling.full).reverse

/-- A text in lines; `divided` tells whether it was taken apart at all. -/
structure Layout where
  lines : List Line
  divided : Bool

/-- The text in the lines. -/
def Layout.texts (layout : Layout) : List (List Char) := layout.lines.map Line.text

/-- A text in lines, broken to a number of columns. -/
def broken (columns : Nat) (fold : Bool) (text : List Char) : Layout :=
  let lines := (placed 0 (split text)).flatMap fun line =>
    let line := line.expandTabs
    divide line.places (breakLine columns fold line.text)
  ⟨lines, 1 < lines.length || text.contains '\t'⟩

/-- A line without the blanks at its end that make it longer than a number of characters. -/
def dropExcess (columns : Nat) (line : List Char) : List Char :=
  let blanks := (line.reverse.takeWhile Text.isBlank).length
  line.take (line.length - min blanks (line.length - columns))

/-- A line that fits, if need be cut. -/
def cropped (columns : Nat) (line : List Char) : List Char :=
  if Text.width line ≤ columns then line else Text.cut columns line

/-- A line that fits, if need be cut before an ellipsis. -/
def ellipsized (columns : Nat) (line : List Char) : List Char :=
  if Text.width line ≤ columns then line else Text.cut (columns - 1) line ++ ['…']

/-- A layout with each line changed, keeping its beginning. -/
def Layout.map (layout : Layout) (change : List Char → List Char) : Layout :=
  { layout with lines := layout.lines.map fun line => line.become (change line.text) }

/-- The lines of a text whose long words are folded. -/
def folded (columns : Nat) (text : List Char) : Layout :=
  (broken columns true text).map fun line => cropped columns (dropExcess columns line)

/-- The lines of a text whose long words are cut before an ellipsis. -/
def shortened (columns : Nat) (text : List Char) : Layout :=
  (broken columns false text).map fun line => ellipsized columns (dropExcess columns line)

/-- The lines of a text whose long words are cut before an ellipsis, flush right. -/
def shortenedRight (columns : Nat) (text : List Char) : Layout :=
  (broken columns false text).map fun line =>
    ellipsized columns (Text.trimRight (dropExcess columns line))

/-- Whether a line shows something of a stretch of a text of a given length, from a place up to
another.  An empty stretch shows on a line that is the whole text, unless the end was cut off
before it. -/
def Layout.shows (layout : Layout) (length start stop : Nat) (line : Line) : Bool :=
  if layout.divided then line.places.any fun place => start ≤ place && place < stop
  else start < line.places.length || line.places.length = length

end GraphMapper.Lines
