import Mustache.Decimal.Shortest
/-!
# The floating point number nearest to a decimal

The decimal is taken as an exact quotient and cut to the 53 binary digits of a floating point number,
or to a multiple of `2 ^ -1074` if it is smaller than the numbers with that many digits. Of two
nearest neighbours the even one is taken.
-/

namespace Mustache

/-- The natural number nearest to a quotient; a tie goes to the even one. -/
def roundQuotient (num den : Nat) : Nat :=
  let n := num / den
  let twice := 2 * (num % den)
  if twice < den || (twice == den && n % 2 == 0) then n else n + 1

/-- The floating point number nearest to a positive quotient, or `none` if that is too large. -/
def nearestQuotient? (num den : Nat) : Option Float :=
  -- The quotient lies strictly between `2 ^ (size - 1)` and `2 ^ (size + 1)`.
  let size : Int := (num.log2 : Int) - (den.log2 : Int)
  let scaled (exponent : Int) := (Decimal.scale 2 num (-exponent), Decimal.scale 2 den exponent)
  let fine := max (size - 53) (-1074)
  let (n, d) := scaled fine
  let exponent := if n < d <<< 53 then fine else fine + 1
  let (n, d) := scaled exponent
  let x := (roundQuotient n d).toUInt64.toFloat.scaleB exponent
  if x.isInf then none else some x

/-- The floating point number nearest to a decimal, or `none` if that is too large. Far outside the
range of floating point numbers the digits do not matter. -/
def Decimal.toFloat? (d : Decimal) : Option Float :=
  let size := (Nat.toDigits 10 d.digits).length + d.exponent
  if d.digits = 0 ∨ size < -400 then some 0.0
  else if 400 < size then none
  else nearestQuotient? (scale 10 d.digits d.exponent) (scale 10 1 (-d.exponent))

end Mustache
