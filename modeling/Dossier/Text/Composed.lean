import Dossier.Text.Composed.Tables
import Dossier.Text.Ranges

/-!
Composed texts: of all texts which say the same with marks of their own and with characters which
have the marks built in, the one which is built in as far as it can be.

A text is taken apart, its marks are put into order, and it is put together again.
-/

namespace Dossier.Text

namespace Composed

/-- The class which decides the order of marks, zero for all other characters. -/
def order (c : Char) : Nat := (classWithin orderRanges c).getD 0

/-! Korean syllables are made of two or three letters, and are counted through in their order. -/

def firstSyllable : Nat := 0xac00
def firstLead : Nat := 0x1100
def firstVowel : Nat := 0x1161
/-- One before the first letter which ends a syllable. -/
def noTail : Nat := 0x11a7
def leads : Nat := 19
def vowels : Nat := 21
/-- Among the ends of a syllable is that of none. -/
def tails : Nat := 28

def syllable? (first second : Nat) : Option Nat :=
  let lead := first - firstLead
  let vowel := second - firstVowel
  let syllable := first - firstSyllable
  let tail := second - noTail
  if firstLead ≤ first && lead < leads && firstVowel ≤ second && vowel < vowels then
    some (firstSyllable + (lead * vowels + vowel) * tails)
  else if firstSyllable ≤ first && syllable < leads * vowels * tails && syllable % tails = 0 &&
      noTail < second && tail < tails then
    some (first + tail)
  else none

def syllableParts? (n : Nat) : Option (Nat × Nat) :=
  let syllable := n - firstSyllable
  if n < firstSyllable || leads * vowels * tails ≤ syllable then none
  else if syllable % tails = 0 then
    some (firstLead + syllable / tails / vowels, firstVowel + syllable / tails % vowels)
  else some (n - syllable % tails, noTail + syllable % tails)

def compose? (first second : Char) : Option Char :=
  let whole := (syllable? first.toNat second.toNat).or do
    (← pairs.lookup second.toNat).lookup first.toNat
  whole.map Char.ofNat

def parts? (whole : Char) : Option (Char × Char) :=
  let parts := (syllableParts? whole.toNat).or <| pairs.findSome? fun (second, firsts) =>
    (firsts.find? (·.2 == whole.toNat)).map fun first => (first.1, second)
  parts.map fun (first, second) => (Char.ofNat first, Char.ofNat second)

/-- Takes a character apart, and its first part as often as `depth` allows. -/
def takeApart : Nat → Char → List Char
  | 0, c => [c]
  | depth + 1, c =>
      match parts? c with
      | some (first, second) => takeApart depth first ++ [second]
      | none => [c]

/-- No character is made up of more than one other one and three marks. -/
def depth : Nat := 3

/-- A mark goes behind those whose class is less than its own. -/
def place (c : Char) : List Char → List Char
  | [] => [c]
  | next :: rest =>
      if 0 < order next && order next < order c then next :: place c rest else c :: next :: rest

def inOrder (cs : List Char) : List Char := cs.foldr place []

/-- Puts characters together with the one they follow.  In between stand the marks which could not
be put together with it, last one first; no mark reaches over one of its own class or of a greater
one. -/
def join (base : Char) (between : List Char) : List Char → List Char
  | [] => base :: between.reverse
  | c :: rest =>
      let reaches := between.head?.all fun mark => order mark < order c
      match (if reaches then compose? base c else none) with
      | some whole => join whole between rest
      | none =>
          if order c = 0 then base :: between.reverse ++ join c [] rest
          else join base (c :: between) rest

def putTogether : List Char → List Char
  | [] => []
  | c :: rest => if order c = 0 then join c [] rest else c :: putTogether rest

end Composed

def composed (cs : List Char) : List Char :=
  Composed.putTogether (Composed.inOrder (cs.flatMap (Composed.takeApart Composed.depth)))

end Dossier.Text
