import Dossier.Number.Basic

/-!
JSON values.

Members of an object are kept in the order in which they were given.  `fold` is the one recursion
over nested values: it hands every array and every object the results of its parts beside the parts
themselves, so that a reader of some nested form is an ordinary function of one level.
-/

namespace Dossier

inductive Scalar where
  | null
  | bool (value : Bool)
  | number (value : Number)
  | text (value : String)
deriving Repr

namespace Scalar

def same : Scalar → Scalar → Bool
  | .null, .null => true
  | .bool a, .bool b => a == b
  | .number a, .number b => a == b
  | .text a, .text b => a == b
  | _, _ => false

instance : BEq Scalar := ⟨same⟩

end Scalar

inductive Json where
  | scalar (value : Scalar)
  | array (items : List Json)
  | object (members : List (String × Json))
deriving Repr

namespace Json

@[match_pattern] abbrev null : Json := .scalar .null
@[match_pattern] abbrev bool (value : Bool) : Json := .scalar (.bool value)
@[match_pattern] abbrev number (value : Number) : Json := .scalar (.number value)
@[match_pattern] abbrev text (value : String) : Json := .scalar (.text value)

def integer (n : Int) : Json := number (.integer n)

def texts (values : List String) : Json := array (values.map text)

def textOrNull (value : Option String) : Json := (value.map text).getD null

def optional (name : String) (value : Option Json) : List (String × Json) :=
  (value.map fun json => (name, json)).toList

mutual

/-- Equal up to the sign of zero doubles. -/
def same : Json → Json → Bool
  | .scalar a, .scalar b => a == b
  | .array xs, .array ys => sameItems xs ys
  | .object xs, .object ys => sameMembers xs ys
  | _, _ => false

def sameItems : List Json → List Json → Bool
  | [], [] => true
  | x :: xs, y :: ys => same x y && sameItems xs ys
  | _, _ => false

def sameMembers : List (String × Json) → List (String × Json) → Bool
  | [], [] => true
  | (k, x) :: xs, (l, y) :: ys => k == l && same x y && sameMembers xs ys
  | _, _ => false

end

instance : BEq Json := ⟨same⟩

section Fold

variable {α : Type}

mutual

/-- The result of a value out of those of its parts. -/
def fold (ofScalar : Scalar → α) (ofArray : List (Json × α) → α)
    (ofObject : List (String × Json × α) → α) : Json → α
  | .scalar value => ofScalar value
  | .array items => ofArray (foldItems ofScalar ofArray ofObject items)
  | .object members => ofObject (foldMembers ofScalar ofArray ofObject members)

def foldItems (ofScalar : Scalar → α) (ofArray : List (Json × α) → α)
    (ofObject : List (String × Json × α) → α) : List Json → List (Json × α)
  | [] => []
  | item :: rest =>
      (item, fold ofScalar ofArray ofObject item) :: foldItems ofScalar ofArray ofObject rest

def foldMembers (ofScalar : Scalar → α) (ofArray : List (Json × α) → α)
    (ofObject : List (String × Json × α) → α) :
    List (String × Json) → List (String × Json × α)
  | [] => []
  | (name, value) :: rest =>
      (name, value, fold ofScalar ofArray ofObject value) ::
        foldMembers ofScalar ofArray ofObject rest

end

end Fold

end Json

end Dossier
