/-!
# Blank characters and words

Operators may be spelled with any amount of white space between and around their words.  White
space here is every character that separates words in Unicode's sense together with the four
information separators U+001C to U+001F; the zero-width space and the byte order mark are not
blank, although nothing shows of them.

`words` cuts a text at its blanks.  It never returns an empty word, so joining the words with
single spaces gives every spelling of an operator one normal form.
-/

namespace GraphMapper.Text

/-- Whether a character separates words. -/
def isBlank (c : Char) : Bool :=
  let n := c.toNat
  (9 ≤ n && n ≤ 13) || (28 ≤ n && n ≤ 32) || n == 0x85 || n == 0xA0 || n == 0x1680 ||
    (0x2000 ≤ n && n ≤ 0x200A) || n == 0x2028 || n == 0x2029 || n == 0x202F || n == 0x205F ||
    n == 0x3000

/-- A Basic Latin character that shows is not blank. -/
theorem isBlank_of_graphic {c : Char} (h : 33 ≤ c.toNat ∧ c.toNat ≤ 126) : isBlank c = false := by
  simp only [isBlank, Bool.or_eq_false_iff, Bool.and_eq_false_iff, decide_eq_false_iff_not,
    beq_eq_false_iff_ne]
  omega

/-- The words of a text, given the word read so far. -/
def wordsFrom (current : List Char) : List Char → List (List Char)
  | [] => if current.isEmpty then [] else [current]
  | c :: rest =>
    if isBlank c then
      if current.isEmpty then wordsFrom [] rest else current :: wordsFrom [] rest
    else wordsFrom (current ++ [c]) rest

/-- The words of a text: its longest stretches without a blank, in order. -/
def words (s : List Char) : List (List Char) := wordsFrom [] s

/-- A text without the blanks at its start. -/
def trimLeft (s : List Char) : List Char := s.dropWhile isBlank

/-- A text without the blanks at its end. -/
def trimRight (s : List Char) : List Char := (s.reverse.dropWhile isBlank).reverse

/-- A text without the blanks at either end. -/
def trim (s : List Char) : List Char := trimRight (trimLeft s)

end GraphMapper.Text
