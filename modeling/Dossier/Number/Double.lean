/-!
Finite double precision numbers, as exact values.

A double is kept as a mantissa below `2 ^ 53` and a power of two, so that reading it from decimal
digits and comparing it are integer arithmetic.  The exponents go from `-1074` to `971`, and the
mantissa is at least `2 ^ 52` unless the exponent is the least one.
-/

namespace Dossier

/-- The value `mantissa * 2 ^ exponent`, negated if `negative`. -/
structure Double where
  negative : Bool
  mantissa : Nat
  exponent : Int
deriving DecidableEq, Repr

namespace Double

def leastExponent : Int := -1074

def greatestExponent : Int := 971

def zero (negative : Bool) : Double := ⟨negative, 0, leastExponent⟩

def isZero (d : Double) : Bool := d.mantissa == 0

def sameValue (a b : Double) : Bool :=
  a == b || (a.isZero && b.isZero)

/-- The part of `2 ^ k` which multiplies a numerator; `scale (-k)` is the part for the
denominator. -/
def scale (k : Int) : Nat := Nat.pow 2 k.toNat

/-- The greatest `k` with `2 ^ k ≤ num / den`, for positive `num` and `den`. -/
def floorLog (num den : Nat) : Int :=
  let k : Int := (num.log2 : Int) - den.log2
  if num * scale (-k) < den * scale k then k - 1 else k

/-- The whole number nearest to `num / den`, the even one of two. -/
def roundHalfEven (num den : Nat) : Nat :=
  let low := num / den
  let rest := 2 * (num % den)
  if rest < den then low
  else if den < rest then low + 1
  else if low % 2 = 0 then low else low + 1

/-- The double nearest to `num / den`, unless that is beyond the greatest one. -/
def nearest? (negative : Bool) (num den : Nat) : Option Double :=
  if num = 0 then some (zero negative)
  else
    let exponent := max (floorLog num den - 52) leastExponent
    let mantissa := roundHalfEven (num * scale (-exponent)) (den * scale exponent)
    let (mantissa, exponent) :=
      if mantissa = Nat.pow 2 53 then (Nat.pow 2 52, exponent + 1) else (mantissa, exponent)
    if greatestExponent < exponent then none else some ⟨negative, mantissa, exponent⟩

/-- Decimal exponents of the first digit above which every number is too large, and below which
every number is nearest to zero. -/
def decimalBound : Int := 400

/-- The double nearest to `coefficient * 10 ^ exponent`, where `coefficient` has at most `digits`
digits. -/
def ofDecimal? (negative : Bool) (coefficient digits : Nat) (exponent : Int) : Option Double :=
  if coefficient = 0 then some (zero negative)
  else if decimalBound < exponent then none
  else if exponent + digits < -decimalBound then some (zero negative)
  else nearest? negative (coefficient * Nat.pow 10 exponent.toNat) (Nat.pow 10 (-exponent).toNat)

def truncate (d : Double) : Nat :=
  d.mantissa * scale d.exponent / scale (-d.exponent)

end Double

end Dossier
