import GraphMapper.Expression.Token

/-!
# Numbers

Where a number ends, and what it is.  Digits may have single underscores between them.  A number
has to end before the next name begins, but a few words may follow it without a blank.
-/

namespace GraphMapper.Expression

/-- Whether a character could go on with a name; beyond basic Latin that is looked at later. -/
def mayContinueName (c : Char) : Bool := c.isAlphanum || c == '_' || 128 ≤ c.toNat

/-- Whether a text begins with a whole word. -/
def beginsWithWord (word : String) (s : List Char) : Bool :=
  word.toList.isPrefixOf s && !((s.drop word.length).head?.any mayContinueName)

/-- Whether a text begins with a word that may follow a number without a blank. -/
def beginsWithFollower (s : List Char) : Bool :=
  ["and", "else", "for", "or", "not"].any (beginsWithWord · s) ||
    ["if", "in", "is"].any fun word => word.toList.isPrefixOf s

/-- The rest after a number, which must not go on with a basic Latin name. -/
def endNumber (kind : NumberForm) (rest : List Char) : Except Flaw (List Char) :=
  if beginsWithFollower rest then .ok rest
  else if rest.head?.any fun c => c.isAlphanum || c == '_' then .error (.badNumber kind)
  else .ok rest

/-- The rest after decimal digits, given after the first one. -/
def afterDigits : List Char → Except Flaw (List Char)
  | [] => .ok []
  | ['_'] => .error (.badNumber .decimal)
  | '_' :: c :: rest => if c.isDigit then afterDigits rest else .error (.badNumber .decimal)
  | c :: rest => if c.isDigit then afterDigits rest else .ok (c :: rest)

/-- The rest after the mark of an imaginary number, or after a number without it. -/
def afterImaginary : List Char → Except Flaw (List Char)
  | [] => .ok []
  | c :: rest =>
    if c = 'j' ∨ c = 'J' then endNumber .imaginary rest else endNumber .decimal (c :: rest)

/-- The rest after an exponent and what may follow it. -/
def afterExponent : List Char → Except Flaw (List Char)
  | [] => .ok []
  | c :: rest =>
    if c = 'e' ∨ c = 'E' then
      match rest with
      | [] => endNumber .decimal [c]
      | d :: digits =>
        if d = '+' ∨ d = '-' then
          match digits with
          | [] => .error (.badNumber .decimal)
          | f :: digits =>
            if f.isDigit then (afterDigits digits).bind afterImaginary
            else .error (.badNumber .decimal)
        else if d.isDigit then (afterDigits digits).bind afterImaginary
        else endNumber .decimal (c :: d :: digits)
    else afterImaginary (c :: rest)

/-- The rest after the digits that follow a point. -/
def afterPoint : List Char → Except Flaw (List Char)
  | [] => .ok []
  | c :: rest =>
    if c.isDigit then (afterDigits rest).bind afterExponent else afterExponent (c :: rest)

/-- The rest after a number, given after its whole part. -/
def afterWhole : List Char → Except Flaw (List Char)
  | [] => .ok []
  | c :: rest => if c = '.' then afterPoint rest else afterExponent (c :: rest)

/-- The rest after leading zeros. -/
def afterZeros : List Char → Except Flaw (List Char)
  | [] => .ok []
  | ['_'] => .error (.badNumber .decimal)
  | '_' :: c :: rest =>
    if c = '0' then afterZeros rest
    else if c.isDigit then .ok (c :: rest)
    else .error (.badNumber .decimal)
  | c :: rest => if c = '0' then afterZeros rest else .ok (c :: rest)

/-- The rest after a number that begins with a zero: only a fraction may have more digits. -/
def afterZero (s : List Char) : Except Flaw (List Char) := do
  match ← afterZeros s with
  | [] => return []
  | c :: rest =>
    if c.isDigit then
      match ← afterDigits rest with
      | [] => throw .leadingZeros
      | d :: left =>
        if d = '.' ∨ d = 'e' ∨ d = 'E' ∨ d = 'j' ∨ d = 'J' then afterWhole (d :: left)
        else throw .leadingZeros
    else afterWhole (c :: rest)

/-- What the digits of a number have to do next. -/
inductive DigitState where
  | fresh
  | required
  | open
  deriving DecidableEq

/-- The rest after digits of a given form. -/
def afterRadix (kind : NumberForm) (isDigit : Char → Bool) :
    DigitState → List Char → Except Flaw (List Char)
  | state, [] => if state = .open then .ok [] else .error (.badNumber kind)
  | state, c :: rest =>
    if isDigit c then afterRadix kind isDigit .open rest
    else if c = '_' ∧ state ≠ .required then afterRadix kind isDigit .required rest
    else if c.isDigit then .error (.badDigit c kind)
    else if state = .open then endNumber kind (c :: rest)
    else .error (.badNumber kind)

/-- Whether a character is a digit of hexadecimal numbers. -/
def isHexDigit (c : Char) : Bool :=
  c.isDigit || ('a' ≤ c && c ≤ 'f') || ('A' ≤ c && c ≤ 'F')

/-- The rest after a number that begins with a digit. -/
def afterNumber : List Char → Except Flaw (List Char)
  | '0' :: c :: rest =>
    if c = 'x' ∨ c = 'X' then afterRadix .hexadecimal isHexDigit .fresh rest
    else if c = 'o' ∨ c = 'O' then afterRadix .octal (fun d => '0' ≤ d && d ≤ '7') .fresh rest
    else if c = 'b' ∨ c = 'B' then afterRadix .binary (fun d => d == '0' || d == '1') .fresh rest
    else afterZero (c :: rest)
  | _ :: rest => (afterDigits rest).bind afterWhole
  | [] => .ok []

/-- The value of a digit of any form. -/
def digitValue (c : Char) : Nat :=
  if c.isDigit then c.toNat - 48 else c.toLower.toNat - 87

/-- The value of digits. -/
def wholeValue (radix : Nat) (digits : List Char) : Nat :=
  digits.foldl (fun value c => radix * value + digitValue c) 0

/-- What a written number is. -/
def readNumber (written : List Char) : Except Flaw Numeral :=
  let digits := written.filter (· != '_')
  match digits with
  | '0' :: 'x' :: rest => .ok (.whole (wholeValue 16 rest))
  | '0' :: 'X' :: rest => .ok (.whole (wholeValue 16 rest))
  | '0' :: 'o' :: rest => .ok (.whole (wholeValue 8 rest))
  | '0' :: 'O' :: rest => .ok (.whole (wholeValue 8 rest))
  | '0' :: 'b' :: rest => .ok (.whole (wholeValue 2 rest))
  | '0' :: 'B' :: rest => .ok (.whole (wholeValue 2 rest))
  | _ =>
    if digits.any fun c => c == 'j' || c == 'J' then .ok .imaginary
    else if digits.any fun c => c == '.' || c == 'e' || c == 'E' then .ok .fractional
    else if digits.head? ≠ some '0' ∧ mostDigits < digits.length then
      .error (.longNumber digits.length)
    else .ok (.whole (wholeValue 10 digits))

end GraphMapper.Expression
