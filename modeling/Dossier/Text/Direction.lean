import Dossier.Text.Direction.Tables
import Dossier.Text.Mark

/-!
The direction of a character.
-/

namespace Dossier.Text.Direction

def ofChar (c : Char) : Direction :=
  if Mark.isNonspacing c && !within leftToRightMarks c then nonspacingMark
  else (classWithin ranges c).getD leftToRight

end Dossier.Text.Direction
