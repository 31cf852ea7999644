import GraphMapper.Number.Binary64

/-!
# The shortest decimal of a floating-point number

A floating-point number is written with the fewest digits that read back as the number
itself, and among those decimals with the one nearest to it; of two that are equally near, the
one with the even last digit is written.

## Why two candidates are enough

Fix a number of digits.  The decimals with that many digits form a grid, and the decimals that
read back as the number form an interval around it.  If the interval holds any grid point, it
holds one of the two grid points next to the number, the one below or the one above.  Which of
the two is *nearer* does not decide it: just above a power of two the interval is wider on one
side, and the farther neighbour may be the only one inside.  So both are tried.
-/

namespace GraphMapper.Binary64

/-- A positive decimal: `digits · 10 ^ exponent`. -/
structure Decimal where
  digits : Nat
  exponent : Int
  deriving DecidableEq

/-- How many digits a natural number has; zero has one. -/
def digitCount (n : Nat) : Nat := (Nat.repr n).length

/-- The position of the decimal point of a positive fraction `v`, counted from its first
digit: the `k` with `10 ^ (k - 1) ≤ v < 10 ^ k`. -/
def pointPosition (num den : Nat) : Int :=
  if den ≤ num then digitCount (num / den)
  else 1 - (digitCount ((den + num - 1) / num - 1) : Int)

/-- The grid point at or below `num / den` among the decimals with `count` digits, and
whether it goes before the next one above: because it is nearer, or because both are equally
near and it is the even one. -/
def gridPoint (num den : Nat) (count : Nat) : Decimal × Bool :=
  let exponent := pointPosition num den - count
  let (n, d) := (num * power 10 (-exponent), den * power 10 exponent)
  (⟨n / d, exponent⟩, 2 * (n % d) < d || (2 * (n % d) == d && n / d % 2 == 0))

/-- The decimal with `count` digits that stands for a positive number, if there is one: of
the two grid points next to it, the nearer that reads back. -/
def withDigits? (mantissa : Nat) (exponent : Int) (count : Nat) : Option Decimal :=
  let (num, den) := fraction mantissa exponent
  let (below, belowFirst) := gridPoint num den count
  let above : Decimal := ⟨below.digits + 1, below.exponent⟩
  let candidates := if belowFirst then [below, above] else [above, below]
  candidates.find? fun d => ofDecimal false d.digits d.exponent == .finite false mantissa exponent

/-- The shortest decimal of a positive number.  Seventeen digits always read back, so the
default is never reached. -/
def shortest (mantissa : Nat) (exponent : Int) : Decimal :=
  ((List.range 17).findSome? fun n => withDigits? mantissa exponent (n + 1)).getD ⟨mantissa, 0⟩

end GraphMapper.Binary64
