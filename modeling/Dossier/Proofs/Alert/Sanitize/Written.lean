import Dossier.Alert.Document
import Dossier.Proofs.Alert.Sanitize.Rule

/-!
Written rules are read back.

The sanitizer reads much more than what is written, but of what is written it drops nothing: every
component of a well-formed rule is found sound where it was written, without a defect.
-/

namespace Dossier

namespace RuleNode

theorem toItems_eq_map (nodes : List RuleNode) : toItems nodes = nodes.map toJson := by
  induction nodes with
  | nil => rfl
  | cons node rest ih => rw [toItems, ih, List.map_cons]

theorem toJson_object (node : RuleNode) : ∃ members, node.toJson = .object members := by
  cases node <;> exact ⟨_, rfl⟩

end RuleNode

theorem AlertDefinition.toJson_object (alert : AlertDefinition) :
    ∃ members, alert.toJson = .object members ∧
      members.lookup "id" = (some alert.id).map .text ∧
      members.lookup "label" = (some alert.label).map .text ∧
      members.lookup "description" = alert.description.map .text ∧
      members.lookup "mode" = some (.text alert.mode.name) ∧
      members.lookup "rule" = some alert.rule.toJson := by
  obtain ⟨id, label, description, mode, rule⟩ := alert
  refine ⟨_, rfl, rfl, rfl, ?_, ?_, ?_⟩ <;> cases description <;> rfl

namespace Sanitize

section Keywords

theorem parse?_name (operator : Operator) : Operator.parse? operator.name = some operator := by
  cases operator <;> decide +kernel

theorem ofName?_kind (kind : RuleNode.Kind) :
    RuleNode.Kind.ofName? (Text.lower (Text.trim kind.name)) = some kind := by
  cases kind <;> decide +kernel

theorem ofName?_logic (logic : Logic) : Logic.ofName? (normalized logic.name) = some logic := by
  cases logic <;> decide +kernel

theorem ofName?_quantifier (quantifier : Quantifier) :
    Quantifier.ofName? (normalized quantifier.name) = some quantifier := by
  cases quantifier <;> decide +kernel

theorem normalized_operation : normalized Duplicates.operation = Duplicates.operation := by
  decide +kernel

theorem logic_not_blank (logic : Logic) : Text.blank logic.name = false := by
  cases logic <;> decide +kernel

theorem quantifier_not_blank (quantifier : Quantifier) : Text.blank quantifier.name = false := by
  cases quantifier <;> decide +kernel

theorem operation_not_blank : Text.blank Duplicates.operation = false := by
  decide +kernel

end Keywords

variable {location : Location} {members : Members}

theorem kind_written (kind : RuleNode.Kind)
    (written : members.lookup "type" = some (.text kind.name)) :
    Sanitize.kind location members = .sound kind := by
  simp only [Sanitize.kind, written, ofName?_kind, Cleaned.ofOption_some]

theorem keyword_written {α : Type} {property what word : String} {default value : α}
    {read : String → Option α} (written : members.lookup property = some (.text word))
    (full : Text.blank word = false) (known : read (normalized word) = some value) :
    keyword location property what default read members = .sound value := by
  simp only [keyword, written, full, Bool.false_eq_true, if_false, known, Cleaned.ofOption_some]

theorem name_written {property what : String} (text : String)
    (written : members.lookup property = some (.text text)) (tidy : Text.Tidy text) :
    name location property what members = .sound text := by
  simp only [name, written, Option.bind_eq_bind, Option.bind_some, nonBlank?, tidy.trimmed?,
    Cleaned.ofOption_some]

theorem operator_written {operator : Operator}
    (written : members.lookup "operator" = some (.text operator.name)) :
    Sanitize.operator location members = .sound operator := by
  simp only [Sanitize.operator, written, parse?_name, Cleaned.ofOption_some]

theorem value_written {filter : Filter} (sound : filter.WellFormed)
    (written : members.lookup "value" = filter.value.map .text) :
    value location filter.operator members = .sound filter.value := by
  have fits := sound.value
  cases given : filter.value with
  | none =>
      rw [given] at fits
      simp [value, ← fits]
  | some text =>
      rw [given] at fits written
      rw [value, ← fits, written]
      simp [sound.given text given]

/-- A filter among the members of a larger component. -/
structure Holds (members : Members) (filter : Filter) : Prop where
  field : members.lookup "field" = some (.text filter.field)
  operator : members.lookup "operator" = some (.text filter.operator.name)
  value : members.lookup "value" = filter.value.map .text

theorem filter_written {filter : Filter} (held : Holds members filter)
    (sound : filter.WellFormed) : Sanitize.filter location members = .sound filter := by
  simp only [Sanitize.filter, name_written _ held.field sound.field, operator_written held.operator,
    value_written sound held.value, Cleaned.sound_bind]
  rfl

theorem holds_members (filter : Filter) : Holds filter.members filter := by
  constructor <;> simp [Filter.members, Json.optional, List.lookup_cons]
  cases filter.value <;> rfl

theorem holds_condition (kind object : Json) (filter : Filter) :
    Holds (("type", kind) :: ("object", object) :: filter.members) filter := by
  have held := holds_members filter
  constructor
  · simpa [List.lookup_cons] using held.field
  · simpa [List.lookup_cons] using held.operator
  · simpa [List.lookup_cons] using held.value

/-- Items which are all sound where they stand are those of a sound list. -/
theorem each_written {α β : Type} {clean : Location → α → Cleaned β} {write : β → α}
    {values : List β} (sound : ∀ value ∈ values, ∀ place, clean place (write value) = .sound value) :
    each location clean (values.map write) = values.map .sound := by
  refine List.ext_getElem (by simp [each]) fun index inside _ => ?_
  simp only [each, List.getElem_mapIdx, List.getElem_map]
  exact sound _ (List.getElem_mem _) _

theorem filterGroup_written {group : FilterGroup} (sound : group.WellFormed) :
    filterGroup location group.toJson = .sound group := by
  have named : List.lookup "object" [("object", Json.text group.object),
      ("filters", .array (group.filters.map fun filter => .object filter.members))] =
      some (.text group.object) := rfl
  have filters : each (location.property "filters")
      (fun place item => object place item >>= Sanitize.filter place)
      (group.filters.map fun filter => .object filter.members) = group.filters.map .sound := by
    refine each_written fun filter member place => ?_
    rw [object, Cleaned.sound_bind]
    exact filter_written (holds_members filter) (sound.filters filter member)
  have listed : items (List.lookup "filters" [("object", Json.text group.object),
      ("filters", .array (group.filters.map fun filter => .object filter.members))]) =
      group.filters.map fun filter => .object filter.members := rfl
  rw [FilterGroup.toJson, filterGroup, object, Cleaned.sound_bind, name_written _ named sound.object,
    Cleaned.sound_bind, listed, filters, Cleaned.collectSome_sound _ _ sound.filled,
    Cleaned.sound_bind]
  rfl

theorem filterGroups_written {groups : List FilterGroup}
    (sound : ∀ group ∈ groups, group.WellFormed) :
    filterGroups location (groups.map FilterGroup.toJson) = .sound groups := by
  rw [filterGroups, each_written fun group member _ => filterGroup_written (sound group member),
    Cleaned.collect_sound]

end Sanitize

end Dossier
