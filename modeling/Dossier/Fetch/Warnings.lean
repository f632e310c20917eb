import Dossier.Table

/-!
Warnings by key, which is an entity type or an alert.  The first warning of a key stays.
-/

namespace Dossier

structure Warnings where
  entries : List (String × String)

namespace Warnings

def empty : Warnings := ⟨[]⟩

def contains (warnings : Warnings) (key : String) : Bool :=
  Table.has key warnings.entries

def insert (warnings : Warnings) (key message : String) : Warnings :=
  if warnings.contains key then warnings else ⟨warnings.entries ++ [(key, message)]⟩

end Warnings

end Dossier
