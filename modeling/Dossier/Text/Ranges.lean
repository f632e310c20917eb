/-!
Properties of characters, as inclusive ranges of code points.
-/

namespace Dossier.Text

def within (ranges : List (Nat × Nat)) (c : Char) : Bool :=
  ranges.any fun range => range.1 ≤ c.toNat && c.toNat ≤ range.2

def classWithin (ranges : List (Nat × Nat × α)) (c : Char) : Option α :=
  (ranges.find? fun range => range.1 ≤ c.toNat && c.toNat ≤ range.2.1).map (·.2.2)

end Dossier.Text
