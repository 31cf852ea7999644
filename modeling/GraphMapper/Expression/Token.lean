import GraphMapper.Expression.Flaw

/-!
# Tokens

The tokens of an expression: names, words and marks with a meaning of their own, numbers, texts,
and the layout of lines outside of brackets.  A token knows its line and how many brackets are
open after it.
-/

namespace GraphMapper.Expression

/-- A number as far as literals need it: whole numbers by their value, the others by their
kind. -/
inductive Numeral where
  | whole (value : Nat)
  | fractional
  | imaginary
  deriving DecidableEq

/-- What a token is.  A number that is too long is a token; its flaw shows when it is used. -/
inductive Kind where
  | name (text : String)
  | word (text : String)
  | number (value : Except Flaw Numeral)
  | text (written : List Char)
  | newline
  | indent
  | dedent
  | ending

/-- A token. -/
structure Token where
  kind : Kind
  line : Nat
  depth : Nat

/-- Where the tokens of a text end early: the flaw, whether it stands whatever else is wrong, the
innermost open bracket with its line, and whether the end of the text was noticed with the token
before it. -/
structure Stop where
  flaw : Flaw
  decisive : Bool
  bracket : Option (Char × Nat)
  noticed : Bool

/-- The tokens of a text. -/
structure Tokens where
  list : Array Token
  stop : Option Stop

/-- Names that have a meaning of their own. -/
def keywords : List String :=
  ["False", "None", "True", "and", "as", "assert", "async", "await", "break", "class", "continue",
    "def", "del", "elif", "else", "except", "finally", "for", "from", "global", "if", "import",
    "in", "is", "lambda", "nonlocal", "not", "or", "pass", "raise", "return", "try", "while", "with",
    "yield"]

/-- Marks of two or three characters. -/
def longMarks : List String :=
  ["**=", "//=", "<<=", ">>=", "...", "!=", "%=", "&=", "**", "*=", "+=", "-=", "->", "//", "/=",
    ":=", "<<", "<=", "<>", "==", ">=", ">>", "@=", "^=", "|="]

end GraphMapper.Expression
