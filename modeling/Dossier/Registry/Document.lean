import Dossier.Document.Basic
import Dossier.Registry

/-!
Registries as documents.
-/

namespace Dossier

open Document (structure? required defaulted text? texts? list? nullable? choice?)

namespace Link

def toJson : Link → Json
  | .root => .object [("kind", .text "root")]
  | .direct field => .object [("kind", .text "direct"), ("field", .text field)]
  | .contactReference field =>
      .object [("kind", .text "contactReference"), ("field", .text field)]
  | .contactPoint contactField individualField =>
      .object (("kind", .text "contactPoint") ::
        Json.optional "contactField" (contactField.map .text) ++
          Json.optional "individualField" (individualField.map .text))

/-- The kind decides which members a link has. -/
def ofMembers? (kind : String) (rest : Document) : Option Link :=
  match kind with
  | "root" =>
      match rest with
      | .list (_ :: _) => none
      | _ => some .root
  | "direct" => do
      let members ← structure? ["field"] .allowed rest
      return .direct (← required members "field" text?)
  | "contactReference" => do
      let members ← structure? ["field"] .allowed rest
      return .contactReference (← required members "field" text?)
  | "contactPoint" => do
      let members ← structure? ["contactField", "individualField"] .allowed rest
      return .contactPoint
        (← defaulted members "contactField" (nullable? text?) none)
        (← defaulted members "individualField" (nullable? text?) none)
  | _ => none

/-- A link is told by its one `kind`, or by the first item of a list.  Bare words stand for their
values in it. -/
def ofDocument? : Document → Option Link
  | .mapping members =>
      match members.partition (·.1 == "kind") with
      | ([(_, kind)], rest) => do
          ofMembers? (← kind.text?) (← (Document.mapping rest).withoutWords?)
      | _ => none
  | .list (kind :: rest) => do
      ofMembers? (← kind.text?) (← (Document.list rest).withoutWords?)
  | _ => none

end Link

namespace LinkPath

def ofDocument? (document : Document) : Option LinkPath :=
  document.choice? >>= ofName?

end LinkPath

namespace LinkSource

def toJson (source : LinkSource) : Json :=
  .object [("type", .text source.path.name), ("field", .text source.field)]

def ofDocument? (document : Document) : Option LinkSource := do
  let members ← structure? ["type", "field"] .allowed document
  return ⟨← required members "type" LinkPath.ofDocument?, ← required members "field" text?⟩

end LinkSource

namespace EntityType

def fieldsMember (name : String) (fields : List String) : List (String × Json) :=
  if fields.isEmpty then [] else [(name, .texts fields)]

def toJson (type : EntityType) : Json :=
  .object ([("name", .text type.name), ("label", .text type.label)] ++
    fieldsMember "requiredFields" type.requiredFields ++ [("link", type.link.toJson)] ++
      fieldsMember "defaultFields" type.defaultFields)

def ofDocument? (document : Document) : Option EntityType := do
  let members ← structure? ["name", "label", "requiredFields", "link", "defaultFields"] .refused
    document
  return ⟨← required members "name" text?, ← required members "label" text?,
    ← defaulted members "requiredFields" texts? [], ← required members "link" Link.ofDocument?,
    ← defaulted members "defaultFields" texts? []⟩

end EntityType

namespace Registry

def toJson (registry : Registry) : Json :=
  .object [("objects", .array (registry.objects.map EntityType.toJson))]

def ofDocument? (document : Document) : Option Registry := do
  let members ← structure? ["objects"] .refused document
  return ⟨← required members "objects" (list? EntityType.ofDocument?)⟩

end Registry

end Dossier
