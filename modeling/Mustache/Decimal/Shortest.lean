/-!
# The shortest decimal that reads back

A floating point number stands for all reals that round to it, an interval around its exact value
with ends halfway to its neighbours. Its shortest decimal is the one in that interval with the fewest
digits, the nearest of those if there are several, and the even one on a tie.

Everything is exact arithmetic on natural numbers: no floating point operation takes part.
-/

namespace Mustache

/-- The number `digits * 10 ^ exponent`. -/
structure Decimal where
  /-- The digits, as one natural number. -/
  digits : Nat
  /-- The power of ten that scales them. -/
  exponent : Int
deriving DecidableEq, Repr

/-- A positive number `mantissa * 2 ^ exponent` of a binary floating point format. -/
structure Dyadic where
  /-- The mantissa. -/
  mantissa : Nat
  /-- The power of two that scales it. -/
  exponent : Int
  /-- The neighbour below is only half as far away as the neighbour above. -/
  narrow : Bool
deriving DecidableEq, Repr

/-- The magnitude of a finite number of 64 bits. -/
def Dyadic.ofBits (bits : UInt64) : Dyadic :=
  let field := ((bits >>> 52) &&& 0x7FF).toNat
  let fraction := (bits &&& 0xFFFFFFFFFFFFF).toNat
  if field = 0 then ⟨fraction, -1074, false⟩
  else ⟨0x10000000000000 + fraction, (field : Int) - 1075, fraction == 0 && field > 1⟩

namespace Decimal

/-- `n` times `base ^ exponent`, or `n` alone if the exponent is negative. -/
def scale (base n : Nat) (exponent : Int) : Nat :=
  n * Nat.pow base exponent.toNat

/-- Compares a decimal with `n * 2 ^ e`, exactly. -/
def compareScaled (d : Decimal) (n : Nat) (e : Int) : Ordering :=
  compare (scale 2 (scale 10 d.digits d.exponent) (-e)) (scale 10 (scale 2 n e) (-d.exponent))

/-- Whether the decimal rounds to `x`: it lies between the two midpoints around `x`, or on one of
them if the mantissa is even. -/
def readsBackTo (d : Decimal) (x : Dyadic) : Bool :=
  let low := d.compareScaled (4 * x.mantissa - if x.narrow then 1 else 2) (x.exponent - 2)
  let high := d.compareScaled (4 * x.mantissa + 2) (x.exponent - 2)
  let even := x.mantissa % 2 == 0
  (low == .gt || (even && low == .eq)) && (high == .lt || (even && high == .eq))

/-- The largest multiple of `10 ^ exponent` that is at most `x`. -/
def floorOf (x : Dyadic) (exponent : Int) : Decimal where
  digits := scale 10 (scale 2 x.mantissa x.exponent) (-exponent) /
    scale 10 (scale 2 1 (-x.exponent)) exponent
  exponent := exponent

/-- The next multiple of the same power of ten. -/
def next (d : Decimal) : Decimal :=
  { d with digits := d.digits + 1 }

/-- The neighbour of `x` among the multiples of `10 ^ exponent` that reads back to `x`, the nearer if
both do. -/
def nearest? (x : Dyadic) (exponent : Int) : Option Decimal :=
  let below := floorOf x exponent
  let above := below.next
  match below.readsBackTo x, above.readsBackTo x with
  | false, false => none
  | true, false => some below
  | false, true => some above
  | true, true =>
    -- The midpoint of the two neighbours decides.
    match compareScaled ⟨2 * below.digits + 1, exponent⟩ (2 * x.mantissa) x.exponent with
    | .gt => some below
    | .lt => some above
    | .eq => some (if below.digits % 2 = 0 then below else above)

/-- The least `k` with `x < 10 ^ k`, found from the binary size of `x`, which gives it to within
two. -/
def scaleOf (x : Dyadic) : Int :=
  let estimate := ((x.mantissa.log2 : Int) + x.exponent) * 30103 / 100000
  let covers (k : Int) : Bool := compareScaled ⟨1, k⟩ x.mantissa x.exponent == .gt
  if covers estimate then estimate
  else if covers (estimate + 1) then estimate + 1
  else estimate + 2

/-- The exact value of `x`. -/
def ofDyadic (x : Dyadic) : Decimal :=
  ⟨scale 5 (scale 2 x.mantissa x.exponent) (-x.exponent), -((-x.exponent).toNat : Int)⟩

/-- The shortest decimal that reads back to `x`. Seventeen digits are always enough. -/
def shortest (x : Dyadic) : Decimal :=
  let size := scaleOf x
  ((List.range 17).findSome? fun n => nearest? x (size - (n + 1 : Nat))).getD (ofDyadic x)

theorem readsBackTo_of_nearest? {x : Dyadic} {e : Int} {d : Decimal}
    (h : nearest? x e = some d) : d.readsBackTo x = true := by
  simp only [nearest?] at h
  split at h
  · simp at h
  · rename_i hb _
    simp only [Option.some.injEq] at h
    exact h ▸ hb
  · rename_i _ ha
    simp only [Option.some.injEq] at h
    exact h ▸ ha
  · rename_i hb ha
    split at h <;> simp only [Option.some.injEq] at h
    · exact h ▸ hb
    · exact h ▸ ha
    · split at h
      · exact h ▸ hb
      · exact h ▸ ha

end Decimal

end Mustache
