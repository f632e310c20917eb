import Dossier.Text.Mark.Tables
import Dossier.Text.Ranges

/-!
Combining marks, which belong to the character in front of them.
-/

namespace Dossier.Text.Mark

def isNonspacing (c : Char) : Bool := within nonspacingRanges c

def isSpacing (c : Char) : Bool := within spacingRanges c

def isMark (c : Char) : Bool := isNonspacing c || isSpacing c

end Dossier.Text.Mark
