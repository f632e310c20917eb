/-!
Finite tables and sets, kept as lists.

A table is a list of entries of which each key has one.  Its order is part of it: `put` keeps the
order in which keys first came, and `putSorted` the order of the names.
-/

namespace Dossier

def distinct [BEq α] (items : List α) : List α :=
  items.foldl (fun seen item => if seen.contains item then seen else seen ++ [item]) []

/-- A name at its place among sorted names, unless it is there already. -/
def addSorted (name : String) : List String → List String
  | [] => [name]
  | other :: rest =>
      if name == other then other :: rest
      else if name < other then name :: other :: rest
      else other :: addSorted name rest

def sortNames (names : List String) : List String :=
  names.foldl (fun sorted name => addSorted name sorted) []

namespace Table

/-- The value of a key is set where the key stands, at the end if it is new. -/
def put [BEq κ] (key : κ) (value : α) : List (κ × α) → List (κ × α)
  | [] => [(key, value)]
  | (other, prior) :: rest =>
      if other == key then (other, value) :: rest else (other, prior) :: put key value rest

/-- The items of each key, keys and items in order of first appearance. -/
def group [BEq κ] (keyed : List (κ × α)) : List (κ × List α) :=
  keyed.foldl (fun groups entry =>
    put entry.1 ((groups.lookup entry.1).getD [] ++ [entry.2]) groups) []

/-- An entry at its place in the order of names, over one of the same name. -/
def putSorted (name : String) (value : α) : List (String × α) → List (String × α)
  | [] => [(name, value)]
  | (other, prior) :: rest =>
      if name == other then (name, value) :: rest
      else if name < other then (name, value) :: (other, prior) :: rest
      else (other, prior) :: putSorted name value rest

/-- Entries in the order of their names, the last one of each name. -/
def sort (entries : List (String × α)) : List (String × α) :=
  entries.foldl (fun sorted entry => putSorted entry.1 entry.2 sorted) []

def has [BEq κ] (key : κ) (table : List (κ × α)) : Bool :=
  (table.lookup key).isSome

end Table

end Dossier
