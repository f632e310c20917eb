import Dossier.Json.Basic

/-!
Reading structures and choices out of JSON values.

A structure is an object of its members, or the list of their values in the order of their
declaration.  A choice is its name, or an object of that name alone with null.
-/

namespace Dossier.Json

def text? : Json → Option String
  | .text s => some s
  | _ => none

def count? : Json → Option Nat
  | .number (.integer (.ofNat n)) => some n
  | _ => none

def choice? : Json → Option String
  | .text name => some name
  | .object [(name, .null)] => some name
  | _ => none

/-- A choice inside a rule node, where an empty object is as good as null. -/
def nodeChoice? : Json → Option String
  | .object [(name, .object [])] => some name
  | json => choice? json

def list? (read : Json → Option α) : Json → Option (List α)
  | .array items => items.mapM read
  | _ => none

def nullable? (read : Json → Option α) : Json → Option (Option α)
  | .null => some none
  | json => (read json).map some

/-- The values of a list under the names of a structure, which may leave out the last ones. -/
def positional? (names : List String) (items : List α) : Option (List (String × α)) :=
  if items.length ≤ names.length then some (names.zip items) else none

/-- The members of a structure; those of other names are passed over. -/
def structure? (names : List String) : Json → Option (List (String × Json))
  | .object members => some members
  | .array items => positional? names items
  | .scalar _ => none

def required (members : List (String × Json)) (name : String) (read : Json → Option α) :
    Option α :=
  members.lookup name >>= read

def optionally (members : List (String × Json)) (name : String) (read : Json → Option α) :
    Option (Option α) :=
  match members.lookup name with
  | some json => nullable? read json
  | none => some none

end Dossier.Json
