/-!
The widths of words, which bound the numbers that are read.
-/

namespace Dossier

def wordSize (bits : Nat) : Nat := Nat.pow 2 bits

end Dossier
