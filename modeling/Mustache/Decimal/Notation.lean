import Mustache.Decimal.Shortest
/-!
# Floating point numbers as text

A number is written with its shortest digits. If the exponent of its leading digit lies from -5 to 15
the digits stand around a decimal point, with at least one digit on either side; otherwise a single
digit stands before the point, the point is left out if nothing follows it, and the exponent comes
after an `e`, always with a sign. Zero keeps its sign. In full, all digits stand around a decimal point.
-/

namespace Mustache

namespace Decimal

/-- The digits without the zeros at the end, and the number of digits of the whole part. -/
def significand (d : Decimal) : List Char × Int :=
  let digits := Nat.toDigits 10 d.digits
  ((digits.reverse.dropWhile (· == '0')).reverse, digits.length + d.exponent)

/-- The digits with a point after the first `whole` of them. -/
def positional (digits : List Char) (whole : Int) : List Char :=
  if whole ≤ 0 then '0' :: '.' :: (List.replicate (-whole).toNat '0' ++ digits)
  else if digits.length ≤ whole then
    digits ++ List.replicate (whole.toNat - digits.length) '0' ++ ['.', '0']
  else digits.take whole.toNat ++ '.' :: digits.drop whole.toNat

/-- The digits with a point after the first of them, and the exponent of that digit. -/
def scientific (digits : List Char) (exponent : Int) : List Char :=
  let fraction := if digits.length ≤ 1 then [] else '.' :: digits.drop 1
  let sign := if exponent < 0 then '-' else '+'
  digits.take 1 ++ fraction ++ 'e' :: sign :: Nat.toDigits 10 exponent.natAbs

/-- A positive decimal as text, in full. -/
def writeInFull (d : Decimal) : List Char :=
  let (digits, whole) := d.significand
  positional digits whole

example : writeInFull ⟨1, 3⟩ = "1000.0".toList := by decide

/-- A positive decimal as text. -/
def write (d : Decimal) : List Char :=
  let (digits, whole) := d.significand
  if -4 ≤ whole ∧ whole ≤ 16 then positional digits whole else scientific digits (whole - 1)

example : write ⟨10, -1⟩ = "1.0".toList := by decide

example : write ⟨1, 15⟩ = "1000000000000000.0".toList := by decide

example : write ⟨1, 16⟩ = "1e+16".toList := by decide

example : write ⟨1, -5⟩ = "0.00001".toList := by decide

example : write ⟨15, -8⟩ = "1.5e-7".toList := by decide

end Decimal

/-- A finite floating point number as text, with a way to write a positive one. -/
def writeSigned (write : Decimal → List Char) (x : Float) : String :=
  let bits := x.toBits
  let magnitude := Dyadic.ofBits bits
  let text := if magnitude.mantissa = 0 then "0.0".toList else write (Decimal.shortest magnitude)
  String.ofList (if bits >>> 63 = 0 then text else '-' :: text)

/-- A finite floating point number as text. -/
def writeFloat (x : Float) : String :=
  writeSigned Decimal.write x

/-- A floating point number as text, in full. -/
def writeFloatInFull (x : Float) : String :=
  if x.isNaN then "NaN"
  else if x.isFinite then writeSigned Decimal.writeInFull x
  else if x < 0 then "-inf"
  else "inf"

end Mustache
