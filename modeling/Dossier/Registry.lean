import Dossier.Document.Basic
import Dossier.Text.Quoted

/-!
The schema registry: the entity types which are fetched for each account, and how the records of
each one link back to it.
-/

namespace Dossier

/-- The path through which records of a type are reached from an account. -/
inductive Link where
  | root
  /-- A field of the record holds the account identifier. -/
  | direct (field : String)
  /-- A field of the account's contacts holds the identifier of the record. -/
  | contactReference (field : String)
  /-- A field of the record holds the identifier of one of the account's contacts, or that of one of
  its individuals. -/
  | contactPoint (contactField individualField : Option String)
deriving DecidableEq, Repr

inductive LinkPath where
  | contact
  | individual
deriving DecidableEq, Repr

namespace LinkPath

def all : List LinkPath := [.contact, .individual]

def name : LinkPath → String
  | .contact => "contact"
  | .individual => "individual"

def ofName? (name : String) : Option LinkPath :=
  all.find? (·.name == name)

end LinkPath

/-- How a contact point was reached: the path, and the field which holds the owner. -/
structure LinkSource where
  path : LinkPath
  field : String
deriving DecidableEq, Repr

structure EntityType where
  name : String
  label : String
  requiredFields : List String
  link : Link
  defaultFields : List String
deriving DecidableEq, Repr

namespace EntityType

/-- The root type, on which every run is keyed. -/
def account : String := "Account"

/-- The type through which referenced types and contact points are reached. -/
def contact : String := "Contact"

/-- The type which contacts refer to, and which owns contact points beside them. -/
def individual : String := "Individual"

def isLinked (type : EntityType) : Bool :=
  type.link != .root

end EntityType

/-- Entity types in their default display order. -/
structure Registry where
  objects : List EntityType
deriving DecidableEq, Repr

namespace Registry

def get? (registry : Registry) (name : String) : Option EntityType :=
  registry.objects.find? (·.name == name)

def label (registry : Registry) (name : String) : String :=
  match registry.get? name with
  | some type => type.label
  | none => name

def linked (registry : Registry) : List EntityType :=
  registry.objects.filter (·.isLinked)

/-- The fields of a link which records of the type itself carry. -/
def ownLinkFields : Link → List String
  | .root => []
  | .direct field => [field]
  | .contactReference _ => []
  | .contactPoint contactField individualField => contactField.toList ++ individualField.toList

def referenceFields (registry : Registry) : List String :=
  registry.objects.filterMap fun type =>
    match type.link with
    | .contactReference field => some field
    | _ => none

/-- The fields which link records of a type to others: those it requires, those of its link, and on
contacts the references which other types are reached by. -/
def linkFields (registry : Registry) (name : String) : List String :=
  match registry.get? name with
  | none => []
  | some type =>
      let references := if name == EntityType.contact then registry.referenceFields else []
      distinct ((type.requiredFields ++ ownLinkFields type.link ++ references).filter (· != ""))

end Registry

inductive RegistryError where
  /-- The root types are not just `Account`. -/
  | root (found : List String)
  | duplicate (name : String)
  | missingLink (object through : String)
  | noContactPointPath (name : String)
deriving DecidableEq, Repr

namespace RegistryError

def kind : RegistryError → String
  | .root _ => "Root"
  | .duplicate _ => "Duplicate"
  | .missingLink _ _ => "MissingLink"
  | .noContactPointPath _ => "NoContactPointPath"

def message : RegistryError → String
  | .root found =>
      "registry must define exactly one root type named " ++ EntityType.account ++ " (found " ++
        Text.quotedList found ++ ")"
  | .duplicate name => "entity type " ++ name ++ " is defined more than once"
  | .missingLink object through =>
      object ++ " links through " ++ through ++ ", which is not a directly-linked type"
  | .noContactPointPath name =>
      "contact point " ++ name ++ " must define a contact field, an individual field, or both"

end RegistryError

namespace Registry

def roots (registry : Registry) : List String :=
  (registry.objects.filter fun type => !type.isLinked).map (·.name)

def firstRepeated? : List String → List String → Option String
  | _, [] => none
  | seen, name :: rest =>
      if seen.contains name then some name else firstRepeated? (name :: seen) rest

def isDirect (registry : Registry) (name : String) : Bool :=
  match registry.get? name with
  | some ⟨_, _, _, .direct _, _⟩ => true
  | _ => false

/-- What keeps records of a type from being reached. -/
def linkError? (registry : Registry) (type : EntityType) : Option RegistryError :=
  let throughContact :=
    if registry.isDirect EntityType.contact then none
    else some (.missingLink type.name EntityType.contact)
  match type.link with
  | .contactReference _ => throughContact
  | .contactPoint none none => some (.noContactPointPath type.name)
  | .contactPoint _ _ => throughContact
  | _ => none

/-- One root named `Account`, no name twice, and a way to every type. -/
def validate (registry : Registry) : Except RegistryError Unit :=
  if registry.roots ≠ [EntityType.account] then .error (.root registry.roots)
  else
    match firstRepeated? [] (registry.objects.map (·.name)) with
    | some name => .error (.duplicate name)
    | none =>
        match registry.objects.findSome? registry.linkError? with
        | some error => .error error
        | none => .ok ()

end Registry

end Dossier
