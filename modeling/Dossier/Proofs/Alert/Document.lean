import Dossier.Proofs.Alert.Sanitize.Written
import Dossier.Proofs.Alert.Tree

/-!
Definitions are read back from their documents.

The reader takes a rule for a list of filter groups if it can, and for a node otherwise.  Since the
one is written as an array and the other as an object, it never takes the one for the other, and
every definition is read back from what is written of it, whether or not its rule makes sense.
-/

namespace Dossier

open Json (required optionally text? list?)
open Sanitize (Holds holds_members holds_condition)

namespace Json

variable {members : List (String × Json)} {property : String}

theorem required_text (text : String) (written : members.lookup property = some (.text text)) :
    required members property text? = some text := by
  rw [required, written]
  rfl

theorem optionally_text (text : Option String)
    (written : members.lookup property = text.map .text) :
    optionally members property text? = some text := by
  rw [optionally, written]
  cases text <;> rfl

theorem list?_map {α : Type} {read : Json → Option α} {write : α → Json} {values : List α}
    (each : ∀ value ∈ values, read (write value) = some value) :
    list? read (.array (values.map write)) = some values := by
  rw [list?]
  induction values with
  | nil => rfl
  | cons value rest ih =>
      obtain ⟨first, others⟩ := List.forall_mem_cons.mp each
      simp [first, ih others]

end Json

theorem Filter.ofMembers?_written {members : List (String × Json)} {filter : Filter}
    {operator? : Json → Option Operator} (held : Holds members filter)
    (named : operator? (.text filter.operator.name) = some filter.operator) :
    ofMembers? operator? members = some filter := by
  have operator : required members "operator" operator? = some filter.operator := by
    rw [required, held.operator]
    exact named
  rw [ofMembers?, Json.required_text _ held.field, operator, Json.optionally_text _ held.value]
  rfl

theorem FilterGroup.ofJson?_toJson (group : FilterGroup) :
    ofJson? group.toJson = some group := by
  have filters : list? Filter.ofJson?
      (.array (group.filters.map fun filter => .object filter.members)) = some group.filters := by
    refine Json.list?_map fun filter _ => ?_
    exact Filter.ofMembers?_written (holds_members filter) (Operator.ofName?_name filter.operator)
  simp [ofJson?, toJson, Json.structure?, required, List.lookup_cons, filters, text?]

namespace RuleNode

/-- Members, each one with what it may be in a rule. -/
def readings (members : List (String × Json)) : List (String × Json × Reading) :=
  members.map fun (name, json) => (name, json, reading json)

theorem readings_values (members : List (String × Json)) :
    (readings members).map (fun (name, json, _) => (name, json)) = members := by
  simp [readings, Function.comp_def]

theorem readings_lookup (members : List (String × Json)) (property : String) :
    (readings members).lookup property =
      (members.lookup property).map fun json => (json, reading json) :=
  Table.lookup_map_snd members (fun _ json => (json, reading json)) property

theorem Kind.ofJson?_name (kind : Kind) : ofJson? (.text kind.name) = some kind := by
  cases kind <;> rfl

/-- An object of a known kind is read by its members. -/
theorem ofJson?_object {members : List (String × Json)} (kind : Kind)
    (written : members.lookup "type" = some (.text kind.name)) :
    RuleNode.ofJson? (.object members) = ofMembers? kind (readings members) := by
  have read : reading (.object members) = readMembers (readings members) := by
    rw [reading, Json.fold, Json.foldMembers_eq_map]
    rfl
  rw [RuleNode.ofJson?, read, readMembers, readings_lookup, written]
  simp [Kind.ofJson?_name]

theorem childrenOf?_written {members : List (String × Json)} {nodes : List RuleNode}
    (written : members.lookup "children" = some (.array (toItems nodes)))
    (each : ∀ node ∈ nodes, RuleNode.ofJson? node.toJson = some node) :
    childrenOf? (readings members) = some nodes := by
  have read : (reading (.array (toItems nodes))).nodes =
      list? RuleNode.ofJson? (.array (nodes.map toJson)) := by
    rw [reading, Json.fold, Json.foldItems_eq_map, toItems_eq_map]
    exact List.mapM_map
  rw [childrenOf?, readings_lookup, written]
  exact read.trans (Json.list?_map each)

theorem criteriaOf?_written {members : List (String × Json)} (criteria : Option RuleNode)
    (written : members.lookup "criteria" = criteria.map toJson)
    (each : ∀ root, criteria = some root → RuleNode.ofJson? root.toJson = some root) :
    criteriaOf? (readings members) = some criteria := by
  rw [criteriaOf?, readings_lookup, written]
  cases criteria with
  | none => rfl
  | some root =>
      have read := each root rfl
      obtain ⟨parts, form⟩ := root.toJson_object
      rw [RuleNode.ofJson?, form] at read
      simp [form, read]

/-- What is written of a node is read back, at every depth. -/
theorem ofJson?_toJson (node : RuleNode) : RuleNode.ofJson? node.toJson = some node := by
  induction node using RuleNode.induct with
  | condition tested =>
      obtain ⟨object, filter⟩ := tested
      have held := holds_condition (.text Kind.condition.name) (.text object) filter
      rw [toJson, ofJson?_object .condition rfl, ofMembers?]
      simp only [readings_values]
      rw [Json.required_text object rfl]
      simp only [Option.bind_eq_bind, Option.bind_some]
      rw [Filter.ofMembers?_written held (Operator.ofName?_name filter.operator)]
      rfl
  | group logic children ih =>
      rw [toJson, ofJson?_object .group rfl, ofMembers?, childrenOf?_written rfl ih]
      simp [readings_values, required, List.lookup_cons, Json.nodeChoice?, Json.choice?]
  | scope object quantifier children ih =>
      rw [toJson, ofJson?_object .scope rfl, ofMembers?, childrenOf?_written rfl ih]
      simp [readings_values, required, List.lookup_cons, Json.nodeChoice?, Json.choice?, text?]
  | aggregate duplicates criteria ih =>
      obtain ⟨object, field, count, distinctField⟩ := duplicates
      rw [toJson, ofJson?_object .aggregate rfl, ofMembers?,
        criteriaOf?_written criteria (by cases distinctField <;> cases criteria <;> rfl) ih]
      simp only [readings_values]
      rw [Json.optionally_text distinctField
        (by cases distinctField <;> cases criteria <;> rfl)]
      simp [required, List.lookup_cons, Json.nodeChoice?, Json.choice?, text?, Json.count?]
      rfl

end RuleNode

/-- A list is read as a simple rule, and an object as an advanced one. -/
theorem AlertRule.ofJson?_toJson (rule : AlertRule) : ofJson? rule.toJson = some rule := by
  cases rule with
  | simple groups =>
      rw [toJson, ofJson?, Json.list?_map fun group _ => group.ofJson?_toJson]
  | advanced root =>
      obtain ⟨members, form⟩ := root.toJson_object
      have listed : list? FilterGroup.ofJson? root.toJson = none := by
        rw [form]
        rfl
      rw [toJson, ofJson?, listed, root.ofJson?_toJson]
      rfl

namespace AlertDefinition

/-- Every definition is read back from its document, so that no other one has the same document. -/
theorem toJson_faithful :
    (∀ alert, ofJson? (toJson alert) = some alert) ∧ Function.Injective toJson := by
  have read : ∀ alert, ofJson? (toJson alert) = some alert := by
    intro alert
    obtain ⟨members, form, id, label, description, mode, rule⟩ := alert.toJson_object
    have moded : required members "mode" (fun json => (Json.choice? json).bind AlertMode.ofName?) =
        some alert.mode := by
      rw [required, mode]
      exact AlertMode.ofName?_name alert.mode
    have ruled : required members "rule" AlertRule.ofJson? = some alert.rule := by
      rw [required, rule]
      exact alert.rule.ofJson?_toJson
    rw [form, ofJson?, Json.structure?]
    simp only [Option.bind_eq_bind, Option.bind_some]
    rw [Json.required_text _ id, Json.required_text _ label, Json.optionally_text _ description,
      moded, ruled]
    rfl
  refine ⟨read, fun alert other same => ?_⟩
  have again := read alert
  rw [same, read] at again
  exact (Option.some.inj again).symm

end AlertDefinition

end Dossier
