import Dossier.Config

/-!
Query plans: which fields of a type are queried, and which of them are displayed.
-/

namespace Dossier

structure ObjectPlan where
  object : String
  /-- The identifier, then available link fields, then available display fields. -/
  queryFields : List String
  displayFields : List String
  linkFields : List String
  available : List String

namespace ObjectPlan

/-- Only what the store knows is planned for, but the identifier always is. -/
def make (config : Config) (object : String) (available : List String) : ObjectPlan :=
  let linkFields := (config.registry.linkFields object).filter available.contains
  let displayFields := (config.displayFields object).filter available.contains
  { object, displayFields, linkFields, available
    queryFields := distinct (Record.idField :: linkFields ++ displayFields) }

def hasField (plan : ObjectPlan) (field : String) : Bool :=
  plan.available.contains field

def toJson (plan : ObjectPlan) : Json :=
  .object [("object", .text plan.object), ("queryFields", .texts plan.queryFields),
    ("displayFields", .texts plan.displayFields), ("linkFields", .texts plan.linkFields)]

end ObjectPlan

end Dossier
