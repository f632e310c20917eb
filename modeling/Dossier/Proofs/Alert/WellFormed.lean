import Dossier.Alert.Sanitize
import Dossier.Proofs.Alert.Checking
import Dossier.Proofs.Text.Trimming

/-!
Well-formed alerts.

This is the form in which definitions leave the sanitizer.  It says more than the checker asks for:
every well-formed rule passes the check.
-/

namespace Dossier

structure Filter.WellFormed (filter : Filter) : Prop where
  field : Text.Tidy filter.field
  /-- There is a value exactly where the operator compares with one. -/
  value : filter.value.isSome = filter.operator.requiresValue
  given : ∀ value, filter.value = some value → Text.blank value = false

structure FilterGroup.WellFormed (group : FilterGroup) : Prop where
  object : Text.Tidy group.object
  filled : group.filters ≠ []
  filters : ∀ filter ∈ group.filters, filter.WellFormed

structure Condition.WellFormed (condition : Condition) : Prop where
  object : Text.Tidy condition.object
  filter : condition.filter.WellFormed

structure Duplicates.WellFormed (duplicates : Duplicates) : Prop where
  object : Text.Tidy duplicates.object
  field : Text.Tidy duplicates.field
  minCount : 2 ≤ duplicates.minCount
  distinctField : ∀ field, duplicates.distinctField = some field → Text.Tidy field

/-- Well-formed at every depth. -/
inductive RuleNode.WellFormed : RuleNode → Prop where
  | condition {condition : Condition} (sound : condition.WellFormed) :
      WellFormed (.condition condition)
  | group {logic : Logic} {children : List RuleNode} (filled : children ≠ [])
      (sound : ∀ child ∈ children, WellFormed child) :
      WellFormed (.group logic children)
  | scope {object : String} {quantifier : Quantifier} {children : List RuleNode}
      (named : Text.Tidy object) (filled : children ≠ [])
      (fit : ∀ child ∈ children, child.FitsScope)
      (sound : ∀ child ∈ children, WellFormed child) :
      WellFormed (.scope object quantifier children)
  | aggregate {duplicates : Duplicates} {criteria : Option RuleNode}
      (duplicated : duplicates.WellFormed)
      (sound : ∀ node, criteria = some node → WellFormed node) :
      WellFormed (.aggregate duplicates criteria)

inductive AlertRule.WellFormed : AlertRule → Prop where
  | simple {groups : List FilterGroup} (filled : groups ≠ [])
      (sound : ∀ group ∈ groups, group.WellFormed) : WellFormed (.simple groups)
  | advanced {root : RuleNode} (sound : root.WellFormed) : WellFormed (.advanced root)

/-- Well formed up to the identifier, which is a matter of the batch. -/
structure AlertDefinition.WellFormed (alert : AlertDefinition) : Prop where
  label : Text.Tidy alert.label
  description : ∀ text, alert.description = some text → Text.Tidy text
  mode : alert.mode = alert.rule.mode
  rule : alert.rule.WellFormed

theorem Filter.WellFormed.check {filter : Filter} (sound : filter.WellFormed) (object : String) :
    filter.check object = .ok () := by
  refine Filter.check_eq_ok.mpr fun required => ?_
  rw [← sound.value] at required
  obtain ⟨value, given⟩ := Option.isSome_iff_exists.mp required
  exact ⟨value, given, sound.given value given⟩

theorem RuleNode.WellFormed.check {node : RuleNode} (sound : node.WellFormed) :
    node.check = .ok () := by
  induction sound with
  | condition sound => exact sound.filter.check _
  | group filled sound ih => exact RuleNode.checkAll_eq_ok.mpr ih
  | scope named filled fit sound ih =>
      exact RuleNode.checkScoped_eq_ok.mpr fun child member => ⟨fit child member, ih child member⟩
  | aggregate duplicated sound ih =>
      exact RuleNode.check_aggregate_eq_ok.mpr ⟨duplicated.minCount, ih⟩

theorem AlertRule.WellFormed.check {rule : AlertRule} (sound : rule.WellFormed) :
    rule.check = .ok () := by
  cases sound with
  | simple filled sound =>
      refine AlertRule.check_simple_eq_ok.mpr ⟨filled, fun group member filter inside => ?_⟩
      exact ((sound group member).filters filter inside).check group.object
  | advanced sound => exact sound.check

end Dossier
