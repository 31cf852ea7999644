import GraphMapper.Text.Printable
import GraphMapper.Text.Quoted

/-!
# Why an expression does not read

An expression is cut into tokens, and the tokens are put together by a grammar.  Each of the two
can find a flaw, and so can the reading of a number or a text.  `Flaw.message` has the sentence of
each.

1. `NumberFlaw` and the constructors up to `tooManyMargins` are found in the characters.
2. `Mistake` is what the grammar recognises as a common slip; where it recognises none, the
   expression is `malformed`.
3. `TemplateFlaw` is found in a text with expressions in braces.
-/

namespace GraphMapper.Expression

/-- The form of a number. -/
inductive NumberForm where
  | decimal
  | hexadecimal
  | octal
  | binary
  | imaginary
  deriving DecidableEq

/-- The name of a form. -/
def NumberForm.name : NumberForm → String
  | .decimal => "decimal"
  | .hexadecimal => "hexadecimal"
  | .octal => "octal"
  | .binary => "binary"
  | .imaginary => "imaginary"

/-- A slip that the grammar recognises. -/
inductive Mistake where
  | missingComma
  | missingElse
  | missingColonAfterKey
  | missingValueAfterKey
  | missingDefault
  | missingCall (name : String)
  | starredValue
  | starredGroup
  | doubleStarredGroup
  | starredComprehension
  | unpackingComprehension
  | bareStarred
  | bareTarget
  | bareGenerator
  | starredAfterUnpacking
  | positionalAfterKeyword
  | positionalAfterUnpacking
  | equalsForComparison
  | equalsInKeyword
  | assignment (what : String)
  | assignmentHere (what : String)
  | namedAssignment (what : String)
  | parameterWithoutDefault
  | bracketedParameters
  | nothingBeforeSlash
  | secondSlash
  | slashAfterStar
  | starAfterSlash
  | nothingAfterStar
  | defaultOfStarred
  | secondStar
  | defaultOfDoubleStarred
  | parameterAfterDoubleStarred
  deriving DecidableEq

/-- The sentence of a slip. -/
def Mistake.message : Mistake → String
  | .missingComma => "invalid syntax. Perhaps you forgot a comma?"
  | .missingElse => "expected 'else' after 'if' expression"
  | .missingColonAfterKey => "':' expected after dictionary key"
  | .missingValueAfterKey => "expression expected after dictionary key and ':'"
  | .missingDefault => "expected default value expression"
  | .missingCall name =>
    "Missing parentheses in call to '" ++ name ++ "'. Did you mean " ++ name ++ "(...)?"
  | .starredValue => "cannot use a starred expression in a dictionary value"
  | .starredGroup => "cannot use starred expression here"
  | .doubleStarredGroup => "cannot use double starred expression here"
  | .starredComprehension => "iterable unpacking cannot be used in comprehension"
  | .unpackingComprehension => "dict unpacking cannot be used in dict comprehension"
  | .bareStarred => "Invalid star expression"
  | .bareTarget => "did you forget parentheses around the comprehension target?"
  | .bareGenerator => "Generator expression must be parenthesized"
  | .starredAfterUnpacking => "iterable argument unpacking follows keyword argument unpacking"
  | .positionalAfterKeyword => "positional argument follows keyword argument"
  | .positionalAfterUnpacking => "positional argument follows keyword argument unpacking"
  | .equalsForComparison => "invalid syntax. Maybe you meant '==' or ':=' instead of '='?"
  | .equalsInKeyword => "expression cannot contain assignment, perhaps you meant \"==\"?"
  | .assignment what => "cannot assign to " ++ what
  | .assignmentHere what =>
    "cannot assign to " ++ what ++ " here. Maybe you meant '==' instead of '='?"
  | .namedAssignment what => "cannot use assignment expressions with " ++ what
  | .parameterWithoutDefault => "non-default argument follows default argument"
  | .bracketedParameters => "Lambda expression parameters cannot be parenthesized"
  | .nothingBeforeSlash => "at least one argument must precede /"
  | .secondSlash => "/ may appear only once"
  | .slashAfterStar => "/ must be ahead of *"
  | .starAfterSlash => "expected comma between / and *"
  | .nothingAfterStar => "named arguments must follow bare *"
  | .defaultOfStarred => "var-positional argument cannot have default value"
  | .secondStar => "* argument may appear only once"
  | .defaultOfDoubleStarred => "var-keyword argument cannot have default value"
  | .parameterAfterDoubleStarred => "arguments cannot follow var-keyword argument"

/-- What is wrong with a text that has expressions in braces. -/
inductive TemplateFlaw where
  | closingBrace
  | nestedTooDeep
  | backslash
  | comment
  | tooManyBrackets
  | unopened (bracket : Char)
  | mismatched (closing opening : Char)
  | endlessText
  | unclosed (bracket : Char)
  | missingBrace
  | emptyExpression
  | nothingBefore (mark : Char)
  | badConversion
  | leftover
  deriving DecidableEq

/-- The sentence of a flaw in a text with expressions. -/
def TemplateFlaw.message : TemplateFlaw → String
  | .closingBrace => "f-string: single '\x7d' is not allowed"
  | .nestedTooDeep => "f-string: expressions nested too deeply"
  | .backslash => "f-string expression part cannot include a backslash"
  | .comment => "f-string expression part cannot include '#'"
  | .tooManyBrackets => "f-string: too many nested parenthesis"
  | .unopened bracket => "f-string: unmatched '" ++ bracket.toString ++ "'"
  | .mismatched closing opening =>
    "f-string: closing parenthesis '" ++ closing.toString ++
      "' does not match opening parenthesis '" ++ opening.toString ++ "'"
  | .endlessText => "f-string: unterminated string"
  | .unclosed bracket => "f-string: unmatched '" ++ bracket.toString ++ "'"
  | .missingBrace => "f-string: expecting '\x7d'"
  | .emptyExpression => "f-string: empty expression not allowed"
  | .nothingBefore mark => "f-string: expression required before '" ++ mark.toString ++ "'"
  | .badConversion => "f-string: invalid conversion character: expected 's', 'r', or 'a'"
  | .leftover => "f-string: unexpected end of string"

/-- Why an expression does not read. -/
inductive Flaw where
  | badCharacter (c : Char)
  | hiddenCharacter (c : Char)
  | badNumber (kind : NumberForm)
  | badDigit (digit : Char) (kind : NumberForm)
  | leadingZeros
  | longNumber (digits : Nat)
  | endlessText (line : Nat)
  | endlessBlock (line : Nat)
  | unclosed (bracket : Char)
  | unopened (bracket : Char)
  | mismatched (closing opening : Char) (line : Option Nat)
  | tooManyBrackets
  | strayBackslash
  | cutShort
  | mixedMargins
  | unknownMargin
  | tooManyMargins
  | unexpectedMargin
  | malformed
  | mistake (slip : Mistake)
  | foreignByte
  | mixedTexts
  | badByteEscape (position : Nat)
  | badEscape (first last : Nat) (reason : String)
  | template (flaw : TemplateFlaw)
  | inTemplate (flaw : Flaw)
  deriving DecidableEq

/-- The code point of a character, as it is written in messages: at least four digits. -/
def codePoint (c : Char) : String :=
  let digits := (Nat.toDigits 16 c.toNat).map Char.toUpper
  String.ofList (List.replicate (4 - digits.length) '0' ++ digits)

/-- The most digits that a decimal number may have. -/
def mostDigits : Nat := 4300

/-- The sentence of a flaw. -/
def Flaw.message : Flaw → String
  | .badCharacter c => "invalid character '" ++ c.toString ++ "' (U+" ++ codePoint c ++ ")"
  | .hiddenCharacter c => "invalid non-printable character U+" ++ codePoint c
  | .badNumber kind => "invalid " ++ kind.name ++ " literal"
  | .badDigit digit kind =>
    "invalid digit '" ++ digit.toString ++ "' in " ++ kind.name ++ " literal"
  | .leadingZeros =>
    "leading zeros in decimal integer literals are not permitted; " ++
      "use an 0o prefix for octal integers"
  | .longNumber digits =>
    "Exceeds the limit (" ++ toString mostDigits ++
      " digits) for integer string conversion: value has " ++ toString digits ++
      " digits; use sys.set_int_max_str_digits() to increase the limit - " ++
      "Consider hexadecimal for huge integer literals to avoid decimal conversion limits."
  | .endlessText line =>
    "unterminated string literal (detected at line " ++ toString line ++ ")"
  | .endlessBlock line =>
    "unterminated triple-quoted string literal (detected at line " ++ toString line ++ ")"
  | .unclosed bracket => "'" ++ bracket.toString ++ "' was never closed"
  | .unopened bracket => "unmatched '" ++ bracket.toString ++ "'"
  | .mismatched closing opening line =>
    "closing parenthesis '" ++ closing.toString ++ "' does not match opening parenthesis '" ++
      opening.toString ++ "'" ++
      (match line with
        | some line => " on line " ++ toString line
        | none => "")
  | .tooManyBrackets => "too many nested parentheses"
  | .strayBackslash => "unexpected character after line continuation character"
  | .cutShort => "unexpected EOF while parsing"
  | .mixedMargins => "inconsistent use of tabs and spaces in indentation"
  | .unknownMargin => "unindent does not match any outer indentation level"
  | .tooManyMargins => "too many levels of indentation"
  | .unexpectedMargin => "unexpected indent"
  | .malformed => "invalid syntax"
  | .mistake slip => slip.message
  | .foreignByte => "bytes can only contain ASCII literal characters"
  | .mixedTexts => "cannot mix bytes and nonbytes literals"
  | .badByteEscape position =>
    "(value error) invalid \\x escape at position " ++ toString position
  | .badEscape first last reason =>
    "(unicode error) 'unicodeescape' codec can't decode bytes in position " ++ toString first ++
      "-" ++ toString last ++ ": " ++ reason
  | .template flaw => flaw.message
  | .inTemplate flaw => "f-string: " ++ flaw.message

end GraphMapper.Expression
