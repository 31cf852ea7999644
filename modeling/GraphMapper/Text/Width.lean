import GraphMapper.Text.Ranges
import GraphMapper.Text.Width.Table

/-!
# The width of a text

A line of a terminal is measured in cells, and a character takes one cell, two or none.
Ideographs and pictures take two; controls and marks that stand on the character before them take
none.  The printable characters of the basic Latin alphabet are decided before the lists are
looked at, so laws about plain text need nothing from them.

Two characters change what stands around them.  A *joiner* draws the character after it into the
picture before it, so that character takes no cell of its own.  A *selector* asks for the picture
of the character before it, which may be wider than the character.

What is drawn together is a *cluster*.  A line is cut between clusters only.
-/

namespace GraphMapper.Text

/-- The cells that a character takes. -/
def charWidth (c : Char) : Nat :=
  let n := c.toNat
  if 32 ≤ n ∧ n ≤ 126 then 1
  else if n < 160 ∧ (n < 32 ∨ 127 ≤ n) then 0
  else if inRanges emptyRanges n then 0
  else if inRanges wideRanges n then 2
  else 1

/-- The character that draws the next one into the picture before it. -/
def joiner : Char := '\u200d'

/-- The character that asks for the picture of the one before it. -/
def pictureSelector : Char := '\ufe0f'

/-- The cells that a selector adds after a character. -/
def gain (drawn : Option Char) : Nat :=
  if (drawn.map fun c => inRanges pictureRanges c.toNat) = some true then 1 else 0

/-- The cells of what is left of a text, given the last character that took cells and has no
selector yet, and whether a joiner stands right before. -/
def widthAfter (drawn : Option Char) (joined : Bool) : List Char → Nat
  | [] => 0
  | c :: rest =>
    if joined then widthAfter drawn false rest
    else if c = joiner then widthAfter drawn true rest
    else if c = pictureSelector then gain drawn + widthAfter none false rest
    else if charWidth c = 0 then widthAfter drawn false rest
    else charWidth c + widthAfter (some c) false rest

/-- The cells that a text takes. -/
def width (text : List Char) : Nat := widthAfter none false text

/-- Characters that are drawn together, and their cells. -/
structure Cluster where
  text : List Char
  cells : Nat

/-- The clusters of what is left of a text, given the cluster before it.  Only a text that begins
with a joiner, a selector or a mark has a cluster without cells. -/
def clustersAfter (before : Cluster) (drawn : Option Char) (joined : Bool) :
    List Char → List Cluster
  | [] => [before]
  | c :: rest =>
    let longer : Cluster := ⟨before.text ++ [c], before.cells⟩
    if joined then clustersAfter longer drawn false rest
    else if c = joiner then clustersAfter longer drawn true rest
    else if c = pictureSelector then
      clustersAfter ⟨longer.text, before.cells + gain drawn⟩ none false rest
    else if charWidth c = 0 then clustersAfter longer drawn false rest
    else before :: clustersAfter ⟨[c], charWidth c⟩ (some c) false rest

/-- The clusters of a text. -/
def clusters : List Char → List Cluster
  | [] => []
  | c :: rest =>
    if c = joiner ∨ c = pictureSelector ∨ charWidth c = 0 then
      clustersAfter ⟨[c], 0⟩ none false rest
    else clustersAfter ⟨[c], charWidth c⟩ (some c) false rest

/-- The beginning of a text that fills a number of cells; a cluster that would stand half outside
is replaced by a blank. -/
def cutClusters (columns : Nat) : List Cluster → List Char
  | [] => []
  | cluster :: rest =>
    if columns = 0 then []
    else if columns < cluster.cells then [' ']
    else cluster.text ++ cutClusters (columns - cluster.cells) rest

/-- The beginning of a text that fills a number of cells. -/
def cut (columns : Nat) (text : List Char) : List Char := cutClusters columns (clusters text)

/-- Clusters in pieces of at most so many cells, given the piece before them and its cells.  What
is left at the end is a piece only if it takes cells. -/
def chopClusters (columns : Nat) (before : List Char) (cells : Nat) :
    List Cluster → List (List Char)
  | [] => if cells = 0 then [] else [before]
  | cluster :: rest =>
    if columns < cells + cluster.cells then
      before :: chopClusters columns cluster.text cluster.cells rest
    else chopClusters columns (before ++ cluster.text) (cells + cluster.cells) rest

/-- A text cut into pieces of at most so many cells. -/
def chop (columns : Nat) (text : List Char) : List (List Char) :=
  chopClusters columns [] 0 (clusters text)

end GraphMapper.Text
