import GraphMapper.Text.Printable

/-!
# Quoted text

Messages and statement logs show a text between quotation marks, so that blanks at its ends
and characters that do not print can be seen.

## The format

The mark is the apostrophe, unless the text holds an apostrophe and no double quote; then it
is the double quote.  The mark in use and the backslash are written with a backslash before
them, line feed, carriage return and tab by their letters, and every other character without
a visible mark by its code point in lower-case hexadecimal: two digits after `\x`, four after
`\u` or eight after `\U`, whichever is the first to fit.

Strings of bytes have the same format with a `b` in front, except that only basic Latin
characters stand as they are.
-/

namespace GraphMapper.Text

/-- The lower-case hexadecimal digit of a number below sixteen. -/
def hexDigit (n : Nat) : Char := Char.ofNat (if n < 10 then 48 + n else 87 + n)

/-- The last `width` hexadecimal digits of a number, leading zeros included. -/
def hexDigits : Nat → Nat → List Char
  | 0, _ => []
  | width + 1, n => hexDigits width (n / 16) ++ [hexDigit (n % 16)]

/-- The quotation mark that a text is put between. -/
def quoteMark (s : List Char) : Char :=
  if s.contains '\'' && !s.contains '"' then '"' else '\''

/-- A character inside a quoted text. -/
def escaped (mark c : Char) : List Char :=
  if c == mark || c == '\\' then ['\\', c]
  else if c == '\n' then ['\\', 'n']
  else if c == '\r' then ['\\', 'r']
  else if c == '\t' then ['\\', 't']
  else if isPrintable c then [c]
  else if c.toNat < 256 then '\\' :: 'x' :: hexDigits 2 c.toNat
  else if c.toNat < 65536 then '\\' :: 'u' :: hexDigits 4 c.toNat
  else '\\' :: 'U' :: hexDigits 8 c.toNat

/-- A text between quotation marks. -/
def quoted (s : String) : String :=
  let mark := quoteMark s.toList
  String.ofList (mark :: s.toList.flatMap (escaped mark) ++ [mark])

/-- A byte inside a quoted string of bytes. -/
def escapedByte (mark : Char) (b : UInt8) : List Char :=
  if b < 127 then escaped mark (Char.ofNat b.toNat) else '\\' :: 'x' :: hexDigits 2 b.toNat

/-- A string of bytes between quotation marks. -/
def quotedBytes (bytes : List UInt8) : String :=
  let mark := quoteMark (bytes.map fun b => Char.ofNat b.toNat)
  String.ofList ('b' :: mark :: bytes.flatMap (escapedByte mark) ++ [mark])

end GraphMapper.Text
