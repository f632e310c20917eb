import Dossier.Number.Double

/-!
The shortest decimal text of a double.

The reals which are read back as a given double form an interval around it.  For one digit, two
digits and so on, the decimal grid of that many digits is searched for a point of the interval;
where a grid has one, one of the two grid points next to the double is such a point.  Seventeen
digits always suffice.
-/

namespace Dossier

structure Decimal where
  digits : Nat
  exponent : Int
deriving DecidableEq, Repr

namespace Double

def digitCount (n : Nat) : Nat := (Nat.toDigits 10 n).length

/-- The greatest `k` with `10 ^ k ≤ num / den`, for positive `num` and `den`. -/
def floorLogTen (num den : Nat) : Int :=
  if den ≤ num then (digitCount (num / den) : Int) - 1
  else
    let places := digitCount (den / num)
    if den ≤ num * Nat.pow 10 (places - 1) then 1 - (places : Int) else -(places : Int)

/-- The double and the ends of its interval, in quarters of a unit of the last place.  Below a power
of two the neighbour is only half as far. -/
structure Interval where
  low : Nat
  value : Nat
  high : Nat
  closed : Bool
  /-- A quarter of the last place is `scale quarter / scale (-quarter)`. -/
  quarter : Int

def interval (d : Double) : Interval :=
  let value := 4 * d.mantissa
  let below := if d.mantissa = Nat.pow 2 52 ∧ leastExponent < d.exponent then 1 else 2
  ⟨value - below, value, value + 2, d.mantissa % 2 == 0, d.exponent - 2⟩

namespace Interval

/-- `digits * 10 ^ exponent` and `quarters` quarters, over a common denominator. -/
def compared (i : Interval) (digits : Nat) (exponent : Int) (quarters : Nat) : Nat × Nat :=
  (digits * Nat.pow 10 exponent.toNat * scale (-i.quarter),
    quarters * scale i.quarter * Nat.pow 10 (-exponent).toNat)

def holds (i : Interval) (digits : Nat) (exponent : Int) : Bool :=
  let (point, low) := i.compared digits exponent i.low
  let (_, high) := i.compared digits exponent i.high
  if i.closed then low ≤ point && point ≤ high else low < point && point < high

/-- The better grid point next to the value on the grid of `10 ^ exponent`, if one is in the
interval; of two equally near ones the even one. -/
def onGrid? (i : Interval) (exponent : Int) : Option Decimal :=
  let (unit, value) := i.compared 1 exponent i.value
  let low := value / unit
  match i.holds low exponent, i.holds (low + 1) exponent with
  | false, false => none
  | true, false => some ⟨low, exponent⟩
  | false, true => some ⟨low + 1, exponent⟩
  | true, true => some ⟨roundHalfEven value unit, exponent⟩

end Interval

/-- The fewest digits which are read back as the double. -/
def shortest (d : Double) : Decimal :=
  if d.isZero then ⟨0, 0⟩
  else
    let i := d.interval
    let first := floorLogTen (i.value * scale i.quarter) (scale (-i.quarter))
    let grids := (List.range 17).map fun (more : Nat) => first - more
    (grids.findSome? i.onGrid?).getD ⟨0, 0⟩

end Double

end Dossier
