/-!
Directions of writing, as far as one character has one by itself.
-/

namespace Dossier.Text

inductive Direction where
  | leftToRight
  | rightToLeft
  /-- Right to left as well, as the letters of the Arabic script. -/
  | arabicLetter
  | europeanNumber
  | arabicNumber
  | europeanSeparator
  | europeanTerminator
  | commonSeparator
  | nonspacingMark
  | boundaryNeutral
  | otherNeutral
deriving DecidableEq, Repr

end Dossier.Text
