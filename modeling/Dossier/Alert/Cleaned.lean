import Dossier.Alert.Defect

/-!
The outcome of cleaning one component of a document: what is left of it, if anything, and the
defects which were found on the way.
-/

namespace Dossier

structure Cleaned (α : Type) where
  value : Option α
  defects : List Defect

namespace Cleaned

/-- Nothing is wrong with it. -/
def sound (value : α) : Cleaned α := ⟨some value, []⟩

def drop (location : Location) (flaw : Flaw) : Cleaned α := ⟨none, [⟨location, flaw⟩]⟩

/-- The next component is looked at only where this one is left. -/
def andThen (cleaned : Cleaned α) (next : α → Cleaned β) : Cleaned β :=
  match cleaned.value with
  | none => ⟨none, cleaned.defects⟩
  | some value =>
      let rest := next value
      ⟨rest.value, cleaned.defects ++ rest.defects⟩

instance : Monad Cleaned where
  pure := sound
  bind := andThen

/-- A value which has to be there. -/
def ofOption (value : Option α) (location : Location) (flaw : Flaw) : Cleaned α :=
  match value with
  | some value => sound value
  | none => drop location flaw

/-- A component without which nothing is left of its parent. -/
def needed (location : Location) (flaw : Flaw) (cleaned : Cleaned α) : Cleaned α :=
  match cleaned.value with
  | some _ => cleaned
  | none => ⟨none, cleaned.defects ++ [⟨location, flaw⟩]⟩

/-- What is left of the items of a list; dropped ones leave no gap. -/
def collect (items : List (Cleaned α)) : Cleaned (List α) :=
  ⟨some (items.filterMap (·.value)), items.flatMap (·.defects)⟩

def nonEmpty (cleaned : Cleaned (List α)) : Cleaned (List α) :=
  ⟨cleaned.value.filter fun values => !values.isEmpty, cleaned.defects⟩

def collectSome (location : Location) (kind : String) (items : List (Cleaned α)) :
    Cleaned (List α) :=
  needed location (.noChildren kind) (nonEmpty (collect items))

end Cleaned

end Dossier
