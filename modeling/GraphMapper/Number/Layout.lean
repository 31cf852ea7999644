import GraphMapper.Number.Shortest

/-!
# The text of a floating-point number

`Number.Shortest` chooses the digits; this module lays them out.  The choices that make up the
mapper's number format --- when the point is moved and when an exponent is written, how many
digits an exponent has at least, what the infinities are called --- are collected in one
record, so that nothing else in the library depends on them.
-/

namespace GraphMapper.Binary64

/-- How the digits of a number are laid out.  The point stands among the digits, or among
zeros put before or after them, while its position lies from `leastPoint` to `mostPoint`. -/
structure Layout where
  leastPoint : Int
  mostPoint : Int
  exponentWidth : Nat
  infinity : String
  notANumber : String

/-- Numbers from `0.0001` up to `9999999999999998.0` are written without an exponent, and an
exponent has a sign and at least two digits. -/
def plainLayout : Layout := ⟨-3, 16, 2, "inf", "nan"⟩

/-- `count` zeros. -/
def zeros (count : Nat) : String := String.ofList (List.replicate count '0')

/-- Digits without the zeros at their end; at least one digit stays. -/
def stripZeros (digits : List Char) : List Char :=
  match (digits.reverse.dropWhile (· == '0')).reverse with
  | [] => ['0']
  | kept => kept

/-- An exponent with its sign. -/
def Layout.exponentText (layout : Layout) (exponent : Int) : String :=
  let digits := Nat.repr exponent.natAbs
  (if exponent < 0 then "e-" else "e+") ++ zeros (layout.exponentWidth - digits.length) ++ digits

/-- Digits with the decimal point after the first `point` of them. -/
def Layout.place (layout : Layout) (digits : List Char) (point : Int) : String :=
  if layout.leastPoint ≤ point ∧ point ≤ layout.mostPoint then
    if point ≤ 0 then "0." ++ zeros (-point).toNat ++ String.ofList digits
    else
      let whole := digits.take point.toNat
      let rest := digits.drop point.toNat
      String.ofList whole ++ zeros (point.toNat - whole.length) ++ "." ++
        (if rest.isEmpty then "0" else String.ofList rest)
  else
    match digits with
    | first :: [] => String.ofList [first] ++ layout.exponentText (point - 1)
    | first :: rest =>
      String.ofList [first] ++ "." ++ String.ofList rest ++ layout.exponentText (point - 1)
    | [] => ""

/-- The text of a number in a given layout. -/
def Layout.text (layout : Layout) : Binary64 → String
  | .nan => layout.notANumber
  | .infinite negative => (if negative then "-" else "") ++ layout.infinity
  | .finite negative mantissa exponent =>
    (if negative then "-" else "") ++
      if mantissa = 0 then "0.0"
      else
        let decimal := shortest mantissa exponent
        let digits := Nat.toDigits 10 decimal.digits
        layout.place (stripZeros digits) (digits.length + decimal.exponent)

/-- The text of a number. -/
def text (x : Binary64) : String := plainLayout.text x

end GraphMapper.Binary64
