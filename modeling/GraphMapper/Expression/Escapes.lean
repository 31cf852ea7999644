import GraphMapper.Expression.Number
import GraphMapper.Text.CharacterNames

/-!
# Escapes in texts

A backslash in a text begins an escape.  Most escapes cannot be wrong, and a backslash without a
meaning stands for itself; but `\x`, `\u` and `\U` need all of their digits, the digits of `\U`
must not go beyond the last code point, and `\N` needs the name of a character in braces.

Places in a text are counted as if every character beyond basic Latin were written as an escape
of ten characters.
-/

namespace GraphMapper.Expression

/-- The escape of a character beyond basic Latin. -/
def wideEscape (c : Char) : List Char := '\\' :: 'U' :: Text.hexDigits 8 c.toNat

/-- A text in basic Latin characters. -/
def basicForm : List Char → List Char
  | [] => []
  | ['\\'] => "\\u005c".toList
  | '\\' :: c :: rest =>
    if c.toNat < 128 then '\\' :: c :: basicForm rest
    else "\\u005c".toList ++ wideEscape c ++ basicForm rest
  | c :: rest => if c.toNat < 128 then c :: basicForm rest else wideEscape c ++ basicForm rest

/-- Checks an escape at a place that needs a number of digits, of which some are given. -/
def checkDigits (place count : Nat) (digits : List Char) (reason : String) : Except Flaw Unit :=
  if digits.length < count then .error (.badEscape place (place + 1 + digits.length) reason)
  else if wholeValue 16 digits ≤ 0x10FFFF then .ok ()
  else .error (.badEscape place (place + 1 + digits.length) "illegal Unicode character")

/-- Checks the escapes of a text in its basic form from a place on, at most `fuel` of them. -/
def checkEscapes : Nat → Nat → List Char → Except Flaw Unit
  | 0, _, _ => .ok ()
  | fuel + 1, place, s =>
    let plain := s.takeWhile (· ≠ '\\')
    let start := place + plain.length
    match s.drop plain.length with
    | '\\' :: mark :: rest =>
      let numbered (count : Nat) (reason : String) : Except Flaw Unit := do
        let digits := (rest.take count).takeWhile isHexDigit
        checkDigits start count digits reason
        checkEscapes fuel (start + 2 + count) (rest.drop count)
      if mark = 'x' then numbered 2 "truncated \\xXX escape"
      else if mark = 'u' then numbered 4 "truncated \\uXXXX escape"
      else if mark = 'U' then numbered 8 "truncated \\UXXXXXXXX escape"
      else if mark = 'N' then
        let malformed (last : Nat) : Except Flaw Unit :=
          .error (.badEscape start last "malformed \\N character escape")
        match rest with
        | '\x7b' :: inner =>
          let name := inner.takeWhile (· ≠ '\x7d')
          if name.length = inner.length ∨ name.isEmpty then malformed (start + 2 + name.length)
          else if Text.isCharacterName name then
            checkEscapes fuel (start + 4 + name.length) (inner.drop (name.length + 1))
          else
            .error (.badEscape start (start + 3 + name.length) "unknown Unicode character name")
        | _ => malformed (start + 1)
      else checkEscapes fuel (start + 2) rest
    | _ => .ok ()

/-- Checks the escapes of a text of bytes from a place on, at most `fuel` of them. -/
def checkByteEscapes : Nat → Nat → List Char → Except Flaw Unit
  | 0, _, _ => .ok ()
  | fuel + 1, place, s =>
    let plain := s.takeWhile (· ≠ '\\')
    let start := place + plain.length
    match s.drop plain.length with
    | '\\' :: 'x' :: rest =>
      let digits := (rest.take 2).takeWhile isHexDigit
      if digits.length < 2 then .error (.badByteEscape start)
      else checkByteEscapes fuel (start + 4) (rest.drop 2)
    | '\\' :: _ :: rest => checkByteEscapes fuel (start + 2) rest
    | _ => .ok ()

/-- How a text is to be read: letters before it, and what stands between its quotation marks. -/
structure Written where
  letters : List Char
  body : List Char

/-- The parts of a written text. -/
def Written.ofToken (written : List Char) : Written :=
  let letters := written.takeWhile Char.isAlpha
  let quoted := written.drop letters.length
  let size := if 6 ≤ quoted.length ∧ quoted.take 2 = (quoted.drop 1).take 2 then 3 else 1
  ⟨letters.map Char.toLower, (quoted.drop size).take (quoted.length - 2 * size)⟩

/-- Whether a text is of bytes. -/
def Written.isBytes (written : Written) : Bool := written.letters.contains 'b'

/-- Whether backslashes in a text stand for themselves. -/
def Written.isRaw (written : Written) : Bool :=
  written.letters.contains 'r' || !written.body.contains '\\'

/-- Whether a text has expressions in braces. -/
def Written.isTemplate (written : Written) : Bool := written.letters.contains 'f'

/-- Checks the characters of a piece of a text. -/
def checkPiece (raw : Bool) (piece : List Char) : Except Flaw Unit :=
  let basic := basicForm piece
  if raw then .ok () else checkEscapes basic.length 0 basic

/-- Checks a text without expressions. -/
def Written.check (written : Written) : Except Flaw Unit :=
  if written.isBytes then
    if written.body.any fun c => 128 ≤ c.toNat then .error .foreignByte
    else if written.isRaw then .ok ()
    else checkByteEscapes written.body.length 0 written.body
  else checkPiece written.isRaw written.body

end GraphMapper.Expression
