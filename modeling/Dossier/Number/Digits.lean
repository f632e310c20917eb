/-!
Digits, and the numbers they make up.
-/

namespace Dossier.Digits

def value? (base : Nat) (c : Char) : Option Nat :=
  let value :=
    if c.isDigit then some (c.toNat - '0'.toNat)
    else if 'a' ≤ c.toLower && c.toLower ≤ 'f' then some (c.toLower.toNat - 'a'.toNat + 10)
    else none
  value.filter (· < base)

def read? (base : Nat) (cs : List Char) : Option Nat :=
  (cs.mapM (value? base)).map (·.foldl (fun n digit => base * n + digit) 0)

def decimal (cs : List Char) : Nat :=
  cs.foldl (fun n c => 10 * n + (c.toNat - '0'.toNat)) 0

end Dossier.Digits
