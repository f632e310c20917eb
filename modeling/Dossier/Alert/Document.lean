import Dossier.Alert.Basic
import Dossier.Json.Structure

/-!
Alert definitions as documents.

`toJson` writes a definition and `ofJson?` reads one.  The reader takes the documents which the
writer makes, and more: members of unknown names, null for what is absent, structures as lists, and
node kinds by number.  The rule of a definition is a list of filter groups where it can be read as
one, and a node otherwise.
-/

namespace Dossier

open Json (required optionally structure? positional? text? count? choice? nodeChoice? list?)

namespace Operator

def ofJson? (json : Json) : Option Operator :=
  choice? json >>= ofName?

end Operator

namespace Filter

def members (filter : Filter) : List (String × Json) :=
  [("field", .text filter.field), ("operator", .text filter.operator.name)] ++
    Json.optional "value" (filter.value.map .text)

def ofMembers? (operator? : Json → Option Operator) (members : List (String × Json)) :
    Option Filter := do
  return ⟨← required members "field" text?, ← required members "operator" operator?,
    ← optionally members "value" text?⟩

def ofJson? (json : Json) : Option Filter :=
  structure? ["field", "operator", "value"] json >>= ofMembers? Operator.ofJson?

end Filter

namespace FilterGroup

def toJson (group : FilterGroup) : Json :=
  .object [("object", .text group.object),
    ("filters", .array (group.filters.map fun filter => .object filter.members))]

def ofJson? (json : Json) : Option FilterGroup := do
  let members ← structure? ["object", "filters"] json
  return ⟨← required members "object" text?, ← required members "filters" (list? Filter.ofJson?)⟩

end FilterGroup

namespace RuleNode

mutual

def toJson : RuleNode → Json
  | .condition ⟨object, filter⟩ =>
      .object (("type", .text Kind.condition.name) :: ("object", .text object) :: filter.members)
  | .group logic children =>
      .object [("type", .text Kind.group.name), ("logic", .text logic.name),
        ("children", .array (toItems children))]
  | .scope object quantifier children =>
      .object [("type", .text Kind.scope.name), ("object", .text object),
        ("match", .text quantifier.name), ("children", .array (toItems children))]
  | .aggregate duplicates criteria =>
      .object ([("type", .text Kind.aggregate.name), ("operation", .text Duplicates.operation),
        ("object", .text duplicates.object), ("field", .text duplicates.field),
        ("minCount", .integer duplicates.minCount)] ++
          Json.optional "distinctField" (duplicates.distinctField.map .text) ++
            criteriaMember criteria)

def toItems : List RuleNode → List Json
  | [] => []
  | node :: rest => toJson node :: toItems rest

def criteriaMember : Option RuleNode → List (String × Json)
  | none => []
  | some criteria => [("criteria", toJson criteria)]

end

/-- What one JSON value may be in a rule: a node, or a list of nodes. -/
structure Reading where
  node : Option RuleNode
  nodes : Option (List RuleNode)

def Kind.ofJson? : Json → Option Kind
  | .text name => ofName? name
  | .number (.integer (.ofNat index)) => all[index]?
  | _ => none

/-- The members of each kind of node, in the order in which a list gives them. -/
def Kind.members : Kind → List String
  | .condition => ["object", "field", "operator", "value"]
  | .group => ["logic", "children"]
  | .scope => ["object", "match", "children"]
  | .aggregate => ["operation", "object", "field", "minCount", "distinctField", "criteria"]

def childrenOf? (members : List (String × Json × Reading)) : Option (List RuleNode) :=
  members.lookup "children" >>= fun (_, reading) => reading.nodes

def criteriaOf? (members : List (String × Json × Reading)) : Option (Option RuleNode) :=
  match members.lookup "criteria" with
  | none => some none
  | some (.null, _) => some none
  | some (_, reading) => reading.node.map some

/-- A node out of its members, each one with what it may be in a rule. -/
def ofMembers? (kind : Kind) (members : List (String × Json × Reading)) : Option RuleNode := do
  let values := members.map fun (name, json, _) => (name, json)
  match kind with
  | .condition =>
      let object ← required values "object" text?
      let operator? (json : Json) := nodeChoice? json >>= Operator.ofName?
      return .condition ⟨object, ← Filter.ofMembers? operator? values⟩
  | .group =>
      let logic ← required values "logic" fun json => nodeChoice? json >>= Logic.ofName?
      return .group logic (← childrenOf? members)
  | .scope =>
      let object ← required values "object" text?
      let quantifier ← required values "match" fun json => nodeChoice? json >>= Quantifier.ofName?
      return .scope object quantifier (← childrenOf? members)
  | .aggregate =>
      let operation ← required values "operation" nodeChoice?
      if operation ≠ Duplicates.operation then failure
      let object ← required values "object" text?
      let field ← required values "field" text?
      let minCount ← required values "minCount" count?
      let distinctField ← optionally values "distinctField" text?
      return .aggregate ⟨object, field, minCount, distinctField⟩ (← criteriaOf? members)

def readItems (items : List (Json × Reading)) : Reading where
  node := do
    let ((tag, _) :: rest) := items | none
    let kind ← Kind.ofJson? tag
    ofMembers? kind (← positional? kind.members rest)
  nodes := items.mapM fun (_, reading) => reading.node

def readMembers (members : List (String × Json × Reading)) : Reading where
  node := do
    let (tag, _) ← members.lookup "type"
    ofMembers? (← Kind.ofJson? tag) members
  nodes := none

def reading (json : Json) : Reading :=
  json.fold (fun _ => ⟨none, none⟩) readItems readMembers

def ofJson? (json : Json) : Option RuleNode :=
  (reading json).node

end RuleNode

namespace AlertRule

def toJson : AlertRule → Json
  | .simple groups => .array (groups.map FilterGroup.toJson)
  | .advanced root => root.toJson

def ofJson? (json : Json) : Option AlertRule :=
  match list? FilterGroup.ofJson? json with
  | some groups => some (.simple groups)
  | none => (RuleNode.ofJson? json).map .advanced

end AlertRule

namespace AlertDefinition

def toJson (alert : AlertDefinition) : Json :=
  .object ([("id", .text alert.id), ("label", .text alert.label)] ++
    Json.optional "description" (alert.description.map .text) ++
      [("mode", .text alert.mode.name), ("rule", alert.rule.toJson)])

def ofJson? (json : Json) : Option AlertDefinition := do
  let members ← structure? ["id", "label", "description", "mode", "rule"] json
  return ⟨← required members "id" text?, ← required members "label" text?,
    ← optionally members "description" text?,
    ← required members "mode" (fun json => choice? json >>= AlertMode.ofName?),
    ← required members "rule" AlertRule.ofJson?⟩

end AlertDefinition

end Dossier
