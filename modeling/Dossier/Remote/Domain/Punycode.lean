import Dossier.Number.Word

/-!
Punycode: labels of any characters, written with letters, digits and hyphens.

The characters of ASCII come first, and a hyphen ends them.  Then comes a number for each other
character, from the least code point on: how many places are passed over, of all at which the
characters in between could have been put in.  A number is written in digits of base 36, of which
the last one is below a threshold; thresholds follow the size of the numbers before.
-/

namespace Dossier.Remote.Domain.Punycode

def base : Nat := 36

def firstCodePoint : Nat := 0x80

/-- The bias before there are numbers to follow. -/
def firstBias : Nat := 72

/-- Letters come before the ten digits. -/
def digit? (c : Char) : Option Nat :=
  if c.isLower then some (c.toNat - 'a'.toNat)
  else if c.isDigit then some (c.toNat - '0'.toNat + 26)
  else none

def digitChar (n : Nat) : Char :=
  if n < 26 then Char.ofNat ('a'.toNat + n) else Char.ofNat ('0'.toNat + (n - 26))

/-- The threshold of the digit with a number of others before it. -/
def threshold (bias index : Nat) : Nat :=
  min 26 (max 1 (base * (index + 1) - bias))

theorem threshold_pos (bias index : Nat) : 0 < threshold bias index := by
  simp only [threshold]
  omega

/-- Divides by the number of digits above the least threshold until a number is small. -/
def reduce (rounds delta : Nat) : Nat :=
  if 455 < delta then reduce (rounds + 1) (delta / 35)
  else base * rounds + base * delta / (delta + 38)
termination_by delta

/-- The bias after a number, which put a character into a text of `length` with it. -/
def adapt (delta length : Nat) (isFirst : Bool) : Nat :=
  let delta := if isFirst then delta / 700 else delta / 2
  reduce 0 (delta + delta / length)

structure Decoding where
  text : List Char
  codePoint : Nat
  /-- Where the next character is put if no place is passed over. -/
  position : Nat
  bias : Nat
  /-- The position and the digits read so far of the number which is added to it. -/
  sum : Nat
  weight : Nat
  digits : Nat
deriving Repr

def word? (n : Nat) : Option Nat := if n < wordSize 32 then some n else none

def char? (n : Nat) : Option Char := if n.isValidChar then some (Char.ofNat n) else none

namespace Decoding

def start (text : List Char) : Decoding :=
  ⟨text, firstCodePoint, 0, firstBias, 0, 1, 0⟩

/-- Puts in the character at which the sum arrives. -/
def insert? (decoding : Decoding) (sum : Nat) : Option Decoding := do
  let length := decoding.text.length + 1
  let codePoint ← word? (decoding.codePoint + sum / length)
  let c ← char? codePoint
  let position := sum % length
  return {
    text := decoding.text.insertIdx position c
    codePoint
    position := position + 1
    bias := adapt (sum - decoding.position) length (decoding.position == 0)
    sum := position + 1
    weight := 1
    digits := 0 }

def read? (decoding : Decoding) (c : Char) : Option Decoding := do
  let digit ← digit? c
  let sum ← word? (decoding.sum + digit * decoding.weight)
  let threshold := threshold decoding.bias decoding.digits
  if digit < threshold then decoding.insert? sum
  else
    let weight ← word? (decoding.weight * (base - threshold))
    return { decoding with sum, weight, digits := decoding.digits + 1 }

end Decoding

/-- The label behind a written one.  A hyphen with nothing before it ends nothing. -/
def decode? (written : List Char) : Option (List Char) := do
  let digits := (written.reverse.takeWhile (· != '-')).reverse
  let ascii := (written.take (written.length - digits.length)).dropLast
  let digits := if ascii.isEmpty then written else digits
  let decoding ← digits.foldlM Decoding.read? (Decoding.start ascii)
  if decoding.digits = 0 then some decoding.text else none

/-- The digits of a number, the last one of which is below its threshold. -/
def digitsFrom (bias index n : Nat) : List Char :=
  let threshold := threshold bias index
  if n < threshold then [digitChar n]
  else
    digitChar (threshold + (n - threshold) % (base - threshold)) ::
      digitsFrom bias (index + 1) ((n - threshold) / (base - threshold))
termination_by n
decreasing_by
  have pos := threshold_pos bias index
  exact Nat.lt_of_le_of_lt (Nat.div_le_self _ _) (by omega)

structure Encoding where
  written : List Char
  count : Nat
  bias : Nat
  /-- How many places are passed over since the last one. -/
  passed : Nat

/-- Passes over the places of a code point at which a label has lesser characters, and writes those
which are it.  As many characters as `ascii` says are not counted out. -/
def Encoding.visit (ascii codePoint : Nat) (encoding : Encoding) (c : Char) : Encoding :=
  if c.toNat < codePoint then { encoding with passed := encoding.passed + 1 }
  else if c.toNat = codePoint then {
    written := encoding.written ++ digitsFrom encoding.bias 0 encoding.passed
    count := encoding.count + 1
    bias := adapt encoding.passed (encoding.count + 1) (encoding.count == ascii)
    passed := 0 }
  else encoding

def encode (label : List Char) : List Char :=
  let (ascii, others) := label.partition (·.toNat < firstCodePoint)
  let codePoints := ((others.map Char.toNat).mergeSort (· ≤ ·)).eraseReps
  let write (progress : Nat × Encoding) (codePoint : Nat) : Nat × Encoding :=
    let (next, encoding) := progress
    let reached :=
      { encoding with passed := encoding.passed + (codePoint - next) * (encoding.count + 1) }
    let written := label.foldl (Encoding.visit ascii.length codePoint) reached
    (codePoint + 1, { written with passed := written.passed + 1 })
  let start := if ascii.isEmpty then [] else ascii ++ ['-']
  (codePoints.foldl write (firstCodePoint, ⟨start, ascii.length, firstBias, 0⟩)).2.written

end Dossier.Remote.Domain.Punycode
