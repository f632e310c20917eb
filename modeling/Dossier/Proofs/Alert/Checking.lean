import Dossier.Alert.Check
import Dossier.Alert.Evaluate

/-!
Which rules pass the check.

A rule passes if all of its parts do: the checker stops at the first error, and where it finds none
it has seen every filter and every node.
-/

namespace Dossier

theorem forM_eq_ok {α ε : Type} {items : List α} {act : α → Except ε Unit} :
    items.forM act = .ok () ↔ ∀ item ∈ items, act item = .ok () := by
  induction items with
  | nil => simp [pure, Except.pure]
  | cons first rest ih =>
      rw [List.forall_mem_cons, ← ih]
      change (act first >>= fun _ => rest.forM act) = .ok () ↔ _
      cases act first <;> simp [bind, Except.bind]

namespace Filter

/-- A value is given, and is more than white space. -/
def ValueGiven (filter : Filter) : Prop :=
  ∃ value, filter.value = some value ∧ Text.blank value = false

theorem check_eq_ok {filter : Filter} {object : String} :
    filter.check object = .ok () ↔ (filter.operator.requiresValue = true → filter.ValueGiven) := by
  unfold check ValueGiven
  cases filter.value with
  | none => cases filter.operator.requiresValue <;> simp
  | some value =>
      cases blank : Text.blank value <;> cases filter.operator.requiresValue <;> simp [blank]

end Filter

namespace RuleNode

/-- What scopes may hold: the tests of their records, and groups of them. -/
def FitsScope : RuleNode → Prop
  | .condition _ | .group _ _ => True
  | .scope _ _ _ | .aggregate _ _ => False

theorem checkAll_eq_ok {children : List RuleNode} :
    checkAll children = .ok () ↔ ∀ child ∈ children, child.check = .ok () := by
  induction children with
  | nil => simp [checkAll]
  | cons child rest ih =>
      rw [List.forall_mem_cons, ← ih, checkAll]
      cases child.check <;> simp

theorem check_condition (condition : Condition) :
    (RuleNode.condition condition).check = condition.filter.check condition.object := rfl

theorem checkScoped_eq_ok {object : String} {children : List RuleNode} :
    checkScoped object children = .ok () ↔
      ∀ child ∈ children, child.FitsScope ∧ child.check = .ok () := by
  induction children with
  | nil => simp [checkScoped]
  | cons child rest ih =>
      rw [List.forall_mem_cons, ← ih]
      cases child with
      | condition condition =>
          rw [check_condition, checkScoped]
          cases condition.filter.check condition.object <;> simp [FitsScope]
      | group logic nodes =>
          rw [check, checkScoped]
          cases checkAll nodes <;> simp [FitsScope]
      | scope nested quantifier nodes => simp [checkScoped, FitsScope]
      | aggregate duplicates criteria => simp [checkScoped, FitsScope]

theorem check_aggregate_eq_ok {duplicates : Duplicates} {criteria : Option RuleNode} :
    (RuleNode.aggregate duplicates criteria).check = .ok () ↔
      2 ≤ duplicates.minCount ∧ ∀ root, criteria = some root → root.check = .ok () := by
  rw [check]
  split
  · rename_i few
    exact iff_of_false (fun checked => nomatch checked) fun sound => Nat.not_le.mpr few sound.1
  · rename_i enough
    rw [and_iff_right (Nat.not_lt.mp enough)]
    cases criteria with
    | none => exact iff_of_true rfl fun _ same => nomatch same
    | some root => simp [checkCriteria]

end RuleNode

namespace AlertRule

theorem check_simple_eq_ok {groups : List FilterGroup} :
    (AlertRule.simple groups).check = .ok () ↔
      groups ≠ [] ∧ ∀ group ∈ groups, ∀ filter ∈ group.filters, filter.check group.object = .ok () := by
  cases groups with
  | nil => simp [check]
  | cons group rest =>
      rw [check, forM_eq_ok]
      simp only [forM_eq_ok, ne_eq, reduceCtorEq, not_false_eq_true, true_and]
      intro impossible
      contradiction

end AlertRule

theorem AlertDefinition.evaluate_of_check {alert : AlertDefinition}
    (checked : alert.rule.check = .ok ()) (graph : AccountGraph) :
    alert.evaluate graph = .ok (Outcome.ofVerdict (alert.rule.verdict graph)) := by
  rw [evaluate, checked]

end Dossier
