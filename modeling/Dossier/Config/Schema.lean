import Dossier.Json.Basic

/-!
The JSON schema of configurations.
-/

namespace Dossier.Config.Schema

def described (description : String) (members : List (String × Json)) : Json :=
  .object (("description", .text description) :: members)

def titled (title : String) (members : List (String × Json)) : Json :=
  .object (("title", .text title) :: members)

def type (name : String) : String × Json := ("type", .text name)

def string : Json := .object [type "string"]

def reference (name : String) : Json := .object [("$ref", .text ("#/$defs/" ++ name))]

def listOf (items : Json) : List (String × Json) := [type "array", ("items", items)]

def tableOf (values : Json) : List (String × Json) :=
  [type "object", ("additionalProperties", values)]

def closed (required : List String) (properties : List (String × Json)) : List (String × Json) :=
  [type "object", ("additionalProperties", .bool false), ("properties", .object properties),
    ("required", .texts required)]

/-- A text which tells alternatives apart. -/
def constant (value : String) : List (String × Json) := [type "string", ("const", .text value)]

def linkKind (description kind : String) (fields : List String) : Json :=
  described description [type "object",
    ("properties", .object (("kind", .object (constant kind)) ::
      fields.map fun field => (field, string))),
    ("required", .texts ("kind" :: fields))]

def optionalText : Json := .object [("type", .texts ["string", "null"])]

def link : Json :=
  described "Link is the path through which records of a type are reached from an account." [
    ("oneOf", .array [
      linkKind "The root type itself, selected by its identifier." "root" [],
      linkKind "Linked directly to the account by an account-reference field." "direct" ["field"],
      linkKind "Referenced by the `field` of each of the account's contacts." "contactReference"
        ["field"],
      described ("Reachable through the account's contacts (by `contactField`) and/or\n" ++
          "through the account's individuals (by `individualField`).") [type "object",
        ("properties", .object [("kind", .object (constant "contactPoint")),
          ("contactField", optionalText), ("individualField", optionalText)]),
        ("required", .texts ["kind"])]])]

def linkPath : Json :=
  described "LinkPath is one of the two alternative paths to a contact point." [
    ("oneOf", .array [
      described "Reached through one of the account's contacts." (constant "contact"),
      described "Reached through one of the account's individuals." (constant "individual")])]

def entityType : Json :=
  described "ObjectDef describes one entity type of the remote store."
    (closed ["name", "label", "link"] [
      ("name", titled "Remote name of the entity type." [type "string"]),
      ("label", titled "Human-readable label of the entity type." [type "string"]),
      ("requiredFields", titled "Link fields which must always be queried." (listOf string)),
      ("link", .object [("title", .text "How records of this type are reached from an account."),
        ("$ref", .text "#/$defs/Link")]),
      ("defaultFields",
        titled "Fields displayed when the operator hasn't selected any." (listOf string))])

def visibility : Json :=
  described "ObjectVisibility is the display setting of one linked entity type."
    (closed ["key"] [("key", string),
      ("hidden", .object [type "boolean", ("default", .bool false)])])

def registry : Json :=
  described ("Registry is the Schema Registry: the fixed set of entity types which\n" ++
      "are fetched for each account, and how each one links back to it.")
    (closed ["objects"] [
      ("objects", described "Entity types, in their default display order."
        (listOf (reference "ObjectDef")))])

def properties : List (String × Json) := [
  ("fields", .object ([
    ("title", .text "Display fields selected for each entity type."),
    ("description", .text "Types without a selection display the registry's default fields.")] ++
      tableOf (.object (listOf string)))),
  ("objects", .object ([
    ("title", .text "Display order and visibility of linked entity types."),
    ("description", .text "Types which aren't listed are displayed after listed ones.")] ++
      listOf (reference "ObjectVisibility"))),
  ("contactPointLinks", .object ([
    ("title", .text "Active link paths of each contact point type."),
    ("description", .text "Types without a selection are reached through both paths.")] ++
      tableOf (.object (listOf (reference "LinkPath"))))),
  ("alerts", .object [
    ("title", .text "Alert definitions, as authored by the operator."),
    ("description", .text "Malformed definitions are dropped when the configuration is used.")]),
  ("registry", titled "Override of the built-in schema registry." [
    ("anyOf", .array [reference "Registry", .object [type "null"]])])]

end Schema

def schema : Json :=
  .object [
    ("$schema", .text "https://json-schema.org/draft/2020-12/schema"),
    ("title", .text "ExplorerConfig"),
    ("description", .text "ExplorerConfig is the operator's configuration of an explorer run."),
    ("type", .text "object"),
    ("properties", .object Schema.properties),
    ("additionalProperties", .bool false),
    ("$defs", .object [
      ("Link", Schema.link),
      ("LinkPath", Schema.linkPath),
      ("ObjectDef", Schema.entityType),
      ("ObjectVisibility", Schema.visibility),
      ("Registry", Schema.registry)])]

end Dossier.Config
