import GraphMapper.Number.Binary64
import GraphMapper.Text.Blank
import GraphMapper.Text.Digit

/-!
# Reading numbers

Two readers.  `readWhole` reads a whole number the way counts reported by a store are read:
blanks around it are ignored unless they are information separators, a sign may come first,
the digits may be of any script, and a single underscore may separate two digits.
`Binary64.read?` reads the decimal notation that `Number.Layout` writes.

Reading a whole number takes time that grows with the square of its length, so a numeral of more
than `digitLimit` digits is refused.  Its digits are counted before anything after them is
looked at.
-/

namespace GraphMapper

/-- Why a text does not read as a whole number. -/
inductive NumeralFlaw where
  | malformed
  | tooLong (digits : Nat)
  deriving DecidableEq

/-- The most digits that a numeral may have. -/
def digitLimit : Nat := 4300

/-- The digits of a whole number after its first: its value, how many digits it has, and what
is left.  An underscore must be followed by a digit. -/
def readRun (value digits : Nat) : List Char → Option (Nat × Nat × List Char)
  | [] => some (value, digits, [])
  | ['_'] => none
  | '_' :: c :: rest =>
    match Text.digitValue? c with
    | some d => readRun (10 * value + d) (digits + 1) rest
    | none => none
  | c :: rest =>
    match Text.digitValue? c with
    | some d => readRun (10 * value + d) (digits + 1) rest
    | none => some (value, digits, c :: rest)

/-- An unsigned whole number: digits, with single underscores between them. -/
def readUnsigned : List Char → Except NumeralFlaw Nat
  | [] => .error .malformed
  | c :: rest =>
    match (Text.digitValue? c).bind fun d => readRun d 1 rest with
    | none => .error .malformed
    | some (value, digits, left) =>
      if digitLimit < digits then .error (.tooLong digits)
      else if left.isEmpty then .ok value
      else .error .malformed

/-- A blank that may stand around a number: any but the four information separators. -/
def isMargin (c : Char) : Bool := Text.isBlank c && !(28 ≤ c.toNat && c.toNat ≤ 31)

/-- A text without the margins on either side. -/
def dropMargins (s : List Char) : List Char :=
  ((s.dropWhile isMargin).reverse.dropWhile isMargin).reverse

/-- A whole number with optional sign and surrounding blanks. -/
def readWhole (s : List Char) : Except NumeralFlaw Int :=
  match dropMargins s with
  | '-' :: rest => (readUnsigned rest).map fun n => -(n : Int)
  | '+' :: rest => (readUnsigned rest).map fun n => (n : Int)
  | rest => (readUnsigned rest).map fun n => (n : Int)

namespace Binary64

/-- The value of a list of plain digits. -/
def plainDigits? (s : List Char) : Option Nat :=
  if s.all Char.isDigit then some (s.foldl (fun n c => 10 * n + (c.toNat - 48)) 0) else none

/-- An unsigned decimal with an optional fraction and an optional exponent. -/
def readUnsigned? (negative : Bool) (s : List Char) : Option Binary64 :=
  let isMark (c : Char) : Bool := c == 'e' || c == 'E'
  let significand := s.takeWhile (!isMark ·)
  let whole := significand.takeWhile (· != '.')
  let part := (significand.dropWhile (· != '.')).drop 1
  let exponent? : Option Int :=
    match s.dropWhile (!isMark ·) with
    | [] => some 0
    | _ :: digits => (readWhole digits).toOption
  if whole.isEmpty && part.isEmpty then none
  else do
    let digits ← plainDigits? (whole ++ part)
    let exponent ← exponent?
    return ofDecimal negative digits (exponent - part.length)

/-- A number in decimal notation, an infinity, or `nan`. -/
def read? (s : String) : Option Binary64 :=
  match s.toList with
  | '-' :: rest => if rest == "inf".toList then some (.infinite true) else readUnsigned? true rest
  | rest =>
    if rest == "inf".toList then some (.infinite false)
    else if rest == "nan".toList then some .nan
    else readUnsigned? false rest

end Binary64

end GraphMapper
