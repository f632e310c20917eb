import Dossier.Number.Shortest
import Dossier.Number.Word

/-!
The numbers of documents: whole numbers of 64 bits, and doubles.  A whole number and a double are
different numbers even where their values agree, and they are written differently.
-/

namespace Dossier

inductive Number where
  | integer (value : Int)
  | double (value : Double)
deriving Repr

namespace Number

/-- Whole numbers which fit a signed or an unsigned word of 64 bits. -/
def fitsWord (n : Int) : Bool :=
  -(wordSize 63 : Int) ≤ n && n < wordSize 64

def same : Number → Number → Bool
  | .integer a, .integer b => a == b
  | .double a, .double b => a.sameValue b
  | _, _ => false

instance : BEq Number := ⟨same⟩

/-- The decimal exponents of the first digit for which a double is written without an exponent. -/
structure PlainRange where
  least : Int
  greatest : Int

/-- Plain from `0.00001` up to sixteen whole digits; beyond, an exponent with a sign and no
padding. -/
def plainRange : PlainRange := ⟨-5, 15⟩

def zeros (n : Nat) : List Char := List.replicate n '0'

/-- Digits with the point after the first `whole` of them, and a zero on either side of it where no
digit is. -/
def plain (digits : List Char) (first : Int) : List Char :=
  if first < 0 then '0' :: '.' :: zeros ((-first).toNat - 1) ++ digits
  else
    let whole := first.toNat + 1
    if digits.length ≤ whole then digits ++ zeros (whole - digits.length) ++ ['.', '0']
    else digits.take whole ++ '.' :: digits.drop whole

def scientific (digits : List Char) (first : Int) : List Char :=
  let fraction := digits.drop 1
  digits.take 1 ++ (if fraction.isEmpty then [] else '.' :: fraction) ++
    'e' :: (if first < 0 then '-' else '+') :: Nat.toDigits 10 first.natAbs

def doubleChars (d : Double) : List Char :=
  let shortest := d.shortest
  let all := Nat.toDigits 10 shortest.digits
  let first := shortest.exponent + all.length - 1
  let significant := (all.reverse.dropWhile (· == '0')).reverse
  let body :=
    if d.isZero then ['0', '.', '0']
    else if plainRange.least ≤ first && first ≤ plainRange.greatest then plain significant first
    else scientific significant first
  if d.negative then '-' :: body else body

def text : Number → String
  | .integer n => toString n
  | .double d => String.ofList (doubleChars d)

end Number

end Dossier
