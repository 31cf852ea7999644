/-!
# Floating-point numbers

Attribute values may be double-precision numbers.  The mapper does no arithmetic on them: it
reads them, writes them, compares them with whole numbers and cuts off their fraction.  All of
that is exact integer arithmetic once a finite number is held as `± m · 2 ^ q`, so that is how
it is held here, and no operation below depends on how a machine computes.

## Canonical form

`ofDecimal` returns numbers with `m < 2 ^ 53` and `-1074 ≤ q`, where `m < 2 ^ 52` only if
`q = -1074`.  Two such numbers of one sign are equal only if their fields are, so equality of
the type is equality of the numbers, with the two zeros kept apart.
-/

namespace GraphMapper

/-- A double-precision number: `(-1)^negative · mantissa · 2 ^ exponent`, an infinity, or the
value that is no number. -/
inductive Binary64 where
  | finite (negative : Bool) (mantissa : Nat) (exponent : Int)
  | infinite (negative : Bool)
  | nan
  deriving DecidableEq

namespace Binary64

/-- A quotient of natural numbers rounded to the nearest natural number, ties to the even
one. -/
def roundDiv (num den : Nat) : Nat :=
  let quotient := num / den
  let rest := num % den
  if 2 * rest < den then quotient
  else if den < 2 * rest then quotient + 1
  else quotient + quotient % 2

/-- `base ^ exponent`, and one if the exponent is negative.  Multiplying one side of a
fraction by `power base e` and the other by `power base (-e)` scales it by `base ^ e` whatever
the sign of `e` is. -/
def power (base : Nat) (exponent : Int) : Nat := base.pow exponent.toNat

/-- `num / den` in units of `2 ^ exponent`, as a fraction. -/
def inUnits (num den : Nat) (exponent : Int) : Nat × Nat :=
  (num * power 2 (-exponent), den * power 2 exponent)

/-- The least mantissa of full length, `2 ^ 52`. -/
def fullMantissa : Nat := 4503599627370496

/-- The finite number nearest to a positive fraction; past the largest one lies infinity. -/
def ofFraction (negative : Bool) (num den : Nat) : Binary64 :=
  let guess : Int := Nat.log2 num - Nat.log2 den - 52
  -- the guess may be one too large, never too small
  let (n, d) := inUnits num den guess
  let exponent := max (-1074) (if n < fullMantissa * d then guess - 1 else guess)
  let (n, d) := inUnits num den exponent
  let mantissa := roundDiv n d
  let (mantissa, exponent) :=
    if mantissa = 2 * fullMantissa then (fullMantissa, exponent + 1) else (mantissa, exponent)
  if 971 < exponent then .infinite negative else .finite negative mantissa exponent

/-- The number nearest to `± digits · 10 ^ exponent`. -/
def ofDecimal (negative : Bool) (digits : Nat) (exponent : Int) : Binary64 :=
  if digits = 0 then .finite negative 0 (-1074)
  else ofFraction negative (digits * power 10 exponent) (power 10 (-exponent))

/-- The absolute value of a finite number as a fraction. -/
def fraction (mantissa : Nat) (exponent : Int) : Nat × Nat :=
  (mantissa * power 2 exponent, power 2 (-exponent))

/-- A finite number without its fraction. -/
def truncate? : Binary64 → Option Int
  | .finite negative mantissa exponent =>
    let (num, den) := fraction mantissa exponent
    some (if negative then -(num / den : Nat) else (num / den : Nat))
  | _ => none

/-- The whole number that a floating-point number equals, if it equals one. -/
def toInt? (x : Binary64) : Option Int :=
  match x with
  | .finite _ mantissa exponent =>
    let (num, den) := fraction mantissa exponent
    if num % den = 0 then x.truncate? else none
  | _ => none

end Binary64

end GraphMapper
