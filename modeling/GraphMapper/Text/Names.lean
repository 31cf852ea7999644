import GraphMapper.Text.Names.Table
import GraphMapper.Text.Ranges

/-!
# Names and words

A name begins with a letter or an underscore and goes on with letters, digits, underscores and
marks of any script.  The characters of words are almost the same: a word has no marks, but it may
have numerals that are no digits.
-/

namespace GraphMapper.Text

/-- Whether a character can begin a name. -/
def beginsName (c : Char) : Bool :=
  if c.toNat < 128 then c.isAlpha || c == '_' else inRanges nameStartRanges c.toNat

/-- Whether a character can stand in a name. -/
def continuesName (c : Char) : Bool :=
  if c.toNat < 128 then c.isAlphanum || c == '_'
  else inRanges nameStartRanges c.toNat || inRanges nameInnerRanges c.toNat

/-- Signs that can begin a name although they are no letters. -/
def nameSigns : List Nat := [6277, 6278, 8472, 8494]

/-- Whether a character belongs to a word. -/
def isWordChar (c : Char) : Bool :=
  if c.toNat < 128 then c.isAlphanum || c == '_'
  else inRanges numeralRanges c.toNat ||
    (inRanges nameStartRanges c.toNat && !nameSigns.contains c.toNat)

end GraphMapper.Text
