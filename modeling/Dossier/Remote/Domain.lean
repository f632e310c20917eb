import Dossier.Remote.Domain.Label

/-!
Domain names, which may be written with characters of all scripts and are looked up in ASCII.
-/

namespace Dossier.Remote.Domain

def splitLabels (name : List Char) : List (List Char) := name.splitOn '.'

/-- The labels of a domain name, after its spelling has been made one. -/
def labels? (name : List Char) : Option (List (List Char)) := do
  let folded := (← name.mapM fold?).flatten
  let labels ← (splitLabels (Text.composed folded)).mapM Label.ofFolded?
  let bothDirections := labels.any (·.any Label.isRightToLeft)
  let fits (label : List Char) : Bool :=
    Label.isValid label &&
      (!bothDirections || Label.directionsFit (label.map Text.Direction.ofChar))
  if labels.all fits then some labels else none

def toAscii? (name : List Char) : Option (List Char) := do
  let labels ← (← labels? name).mapM Label.toAscii?
  return ['.'].intercalate labels

end Dossier.Remote.Domain
