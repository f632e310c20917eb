import Dossier.Remote.Domain.Folding.Tables
import Dossier.Text.Ranges

/-!
Folding: spellings of a domain name which do not matter are made one.

Capital letters become small ones, characters of compatibility become those they stand for, and some
which cannot be seen are dropped.  Other characters stay, or must not be in a domain name.
-/

namespace Dossier.Remote.Domain

namespace Folding

def Run.holds (run : Run) (n : Nat) : Bool :=
  run.first ≤ n && n ≤ run.last && (n - run.first) % run.step == 0

def Run.image (run : Run) (n : Nat) : Nat :=
  run.target + (n - run.first) / run.step * run.stride

def listed? (table : List (Nat × List α)) (n : Nat) : Option α :=
  table.findSome? fun (first, images) => if first ≤ n then images[n - first]? else none

/-- The images of a character which does not stay as it is. -/
def images? (n : Nat) : Option (List Nat) :=
  let single := ((runs.find? (·.holds n)).map (·.image n)).or <|
    (listed? images n).or <| (listed? laterImages n).or (listed? ideographImages n)
  (single.map fun image => [image]).or (listed? expansions n)

end Folding

open Folding Text

/-- What becomes of a character, which a domain name may have to do without. -/
def fold? (c : Char) : Option (List Char) :=
  if within forbiddenRanges c then none
  else if within droppedRanges c then some []
  else
    match images? c.toNat with
    | some images => some (images.map Char.ofNat)
    | none => some [c]

def isFolded (c : Char) : Bool := fold? c == some [c]

end Dossier.Remote.Domain
