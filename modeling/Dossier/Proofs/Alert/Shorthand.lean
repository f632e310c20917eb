import Dossier.Proofs.Alert.Meaning
import Dossier.Proofs.Alert.SimpleAsTree
import Dossier.Proofs.Alert.Tree

/-!
Conditions as shorthand for scopes.

A condition on another type than the one in context asks for some record of its type.  A scope asks
for the same in full, and it may stand in the place of the condition wherever that is: nothing which
a tree makes of its nodes tells the one from the other.
-/

namespace Dossier

namespace RuleNode

/-- A tree with a hole in the place of one of its nodes. -/
inductive Hole where
  | here
  | group (logic : Logic) (before : List RuleNode) (place : Hole) (after : List RuleNode)
  | scope (object : String) (quantifier : Quantifier) (before : List RuleNode) (place : Hole)
      (after : List RuleNode)
  | criteria (duplicates : Duplicates) (place : Hole)

namespace Hole

/-- The tree with this node in the hole. -/
def fill (node : RuleNode) : Hole → RuleNode
  | here => node
  | group logic before place after => .group logic (before ++ place.fill node :: after)
  | scope object quantifier before place after =>
      .scope object quantifier (before ++ place.fill node :: after)
  | criteria duplicates place => .aggregate duplicates (some (place.fill node))

/-- The type which is in context at the hole: that of the nearest scope or aggregate around it, or
that in which the tree is evaluated. -/
def object (outer : String) : Hole → String
  | here => outer
  | group _ _ place _ => place.object outer
  | scope object _ _ place _ => place.object object
  | criteria duplicates place => place.object duplicates.object

variable {node other : RuleNode}

theorem within_fill (hole : Hole) : node.Within (hole.fill node) := by
  induction hole with
  | here => exact .root
  | group logic before place after ih =>
      exact .group (List.mem_append_right before List.mem_cons_self) ih
  | scope object quantifier before place after ih =>
      exact .scope (List.mem_append_right before List.mem_cons_self) ih
  | criteria duplicates place ih => exact .criteria ih

/-- There is a hole for every node of a tree. -/
theorem within_iff {root : RuleNode} : node.Within root ↔ ∃ hole : Hole, root = hole.fill node := by
  constructor
  · intro inside
    induction inside with
    | root => exact ⟨.here, rfl⟩
    | @group logic children child member _ ih =>
        obtain ⟨place, rfl⟩ := ih
        obtain ⟨before, after, rfl⟩ := List.append_of_mem member
        exact ⟨.group logic before place after, rfl⟩
    | @scope object quantifier children child member _ ih =>
        obtain ⟨place, rfl⟩ := ih
        obtain ⟨before, after, rfl⟩ := List.append_of_mem member
        exact ⟨.scope object quantifier before place after, rfl⟩
    | @criteria duplicates criteria _ ih =>
        obtain ⟨place, rfl⟩ := ih
        exact ⟨.criteria duplicates place, rfl⟩
  · rintro ⟨hole, rfl⟩
    exact within_fill hole

/-- Nodes with the same verdict on all records of the type in context may replace each other. -/
theorem verdict_fill {graph : AccountGraph} {hole : Hole} {outer : String}
    (same : ∀ record, node.verdict ⟨graph, hole.object outer, record⟩ =
      other.verdict ⟨graph, hole.object outer, record⟩) (record : GraphRecord) :
    (hole.fill node).verdict ⟨graph, outer, record⟩ =
      (hole.fill other).verdict ⟨graph, outer, record⟩ := by
  induction hole generalizing outer record with
  | here => exact same record
  | group logic before place after ih =>
      simp only [fill, verdict, verdicts_eq_map, List.map_append, List.map_cons, ih same]
  | scope object quantifier before place after ih =>
      simp only [fill, verdict, verdicts_eq_map, List.map_append, List.map_cons, ih same]
  | criteria duplicates place ih =>
      simp only [fill, verdict, satisfies, ih same]

theorem fitsScope_fill {hole : Hole} (fits : (hole.fill node).FitsScope) (fit : other.FitsScope) :
    (hole.fill other).FitsScope := by
  cases hole with
  | here => exact fit
  | group logic before place after => trivial
  | scope object quantifier before place after => exact fits
  | criteria duplicates place => exact fits

theorem check_fill {hole : Hole} (checked : (hole.fill node).check = .ok ()) (fit : other.FitsScope)
    (sound : other.check = .ok ()) : (hole.fill other).check = .ok () := by
  induction hole with
  | here => exact sound
  | group logic before place after ih =>
      have each := check_group checked
      refine checkAll_eq_ok.mpr ?_
      rw [List.forall_mem_append, List.forall_mem_cons] at each ⊢
      obtain ⟨first, own, last⟩ := each
      exact ⟨first, ih own, last⟩
  | scope object quantifier before place after ih =>
      have each := checkScoped_eq_ok.mp checked
      refine checkScoped_eq_ok.mpr ?_
      rw [List.forall_mem_append, List.forall_mem_cons] at each ⊢
      obtain ⟨first, ⟨fits, own⟩, last⟩ := each
      exact ⟨first, ⟨fitsScope_fill fits fit, ih own⟩, last⟩
  | criteria duplicates place ih =>
      obtain ⟨enough, own⟩ := check_aggregate checked
      refine check_aggregate_eq_ok.mpr ⟨enough, ?_⟩
      rintro _ ⟨⟩
      exact ih (own _ rfl)

end Hole

/-- All parts of a tree which passes the check pass it. -/
theorem check_within {node root : RuleNode} (inside : node.Within root)
    (checked : root.check = .ok ()) : node.check = .ok () := by
  induction inside with
  | root => exact checked
  | group member _ ih => exact ih (check_group checked _ member)
  | scope member _ ih => exact ih (check_scope checked _ member)
  | criteria _ ih => exact ih ((check_aggregate checked).2 _ rfl)

end RuleNode

namespace Condition

/-- The condition in full: some record of its type passes it. -/
def asScope (tested : Condition) : RuleNode :=
  .group .and [.scope tested.object .any [.condition tested]]

variable {tested : Condition}

theorem check_asScope (checked : (RuleNode.condition tested).check = .ok ()) :
    tested.asScope.check = .ok () := by
  refine RuleNode.checkAll_eq_ok.mpr (List.forall_mem_singleton.mpr ?_)
  exact RuleNode.checkScoped_eq_ok.mpr (List.forall_mem_singleton.mpr ⟨trivial, checked⟩)

/-- What a scope for some record finds by a test of its own records. -/
theorem verdict_scope (tested : Condition) (context : Context) :
    let passing := (context.graph.records tested.object).filter tested.filter.test
    (RuleNode.scope tested.object .any [.condition tested]).verdict context =
      ⟨!passing.isEmpty, passing.map fun record =>
        Match.ofRecord tested.object record [tested.filter.fieldMatch record]⟩ := by
  intro passing
  have found := FilterGroup.verdict_scopeOf_any tested.object [tested.filter]
    (List.cons_ne_nil _ _) context
  have same : FilterGroup.satisfying context.graph tested.object [tested.filter] = passing := by
    simp [FilterGroup.satisfying, passing]
  rw [same] at found
  refine found.trans ?_
  rw [List.map_eq_flatMap]
  rfl

/-- Out of context a condition finds what its scope finds, and a group of one node finds what the
node finds. -/
theorem verdict_asScope {context : Context} (apart : context.object ≠ tested.object) :
    tested.asScope.verdict context = tested.verdict context := by
  have own : ¬(tested.object == context.object) = true := by simpa using Ne.symm apart
  rw [asScope, RuleNode.verdict, RuleNode.verdicts_eq_map, List.map_singleton, verdict_scope, verdict,
    if_neg own]
  cases (context.graph.records tested.object).filter tested.filter.test with
  | nil => rfl
  | cons record rest => simp [Logic.verdict]

end Condition

/-- A condition on another type than the one in context is shorthand for a scope: wherever such a
condition stands in a tree, the scope may stand instead.  The tree still passes the check, and it has
the same outcome on every account. -/
theorem AlertDefinition.evaluate_shorthand (alert : AlertDefinition) {hole : RuleNode.Hole}
    {tested : Condition} (advanced : alert.rule = .advanced (hole.fill (.condition tested)))
    (checked : alert.rule.check = .ok ())
    (apart : hole.object EntityType.account ≠ tested.object) :
    (AlertRule.advanced (hole.fill tested.asScope)).check = .ok () ∧
      ∀ graph, ∃ outcome, alert.evaluate graph = .ok outcome ∧
        ({ alert with rule := .advanced (hole.fill tested.asScope) } : AlertDefinition).evaluate
          graph = .ok outcome := by
  rw [advanced] at checked
  have sound : (AlertRule.advanced (hole.fill tested.asScope)).check = .ok () := by
    refine RuleNode.Hole.check_fill checked trivial (Condition.check_asScope ?_)
    exact RuleNode.check_within hole.within_fill checked
  refine ⟨sound, fun graph => ⟨_, evaluate_of_check (by rw [advanced]; exact checked) graph, ?_⟩⟩
  have same (record : GraphRecord) :
      tested.asScope.verdict ⟨graph, hole.object EntityType.account, record⟩ =
        (RuleNode.condition tested).verdict ⟨graph, hole.object EntityType.account, record⟩ :=
    Condition.verdict_asScope apart
  rw [evaluate_of_check sound, advanced]
  exact congrArg (Except.ok ∘ Outcome.ofVerdict) (RuleNode.Hole.verdict_fill same graph.account)

/-- The place in `unevenCases` of the condition on contacts, beside which a case is in context. -/
def besideCase : RuleNode.Hole :=
  .group .and [.scope "Case" .notAll [.condition ⟨"Case", ⟨"Status", .equals, some "Closed"⟩⟩]]
    (.scope "Case" .any []
      (.group .or [.condition ⟨"Case", ⟨"Status", .equals, some "Void"⟩⟩] .here []) [])
    [.aggregate ⟨"Case", "Priority", 2, some "Status"⟩
      (some (.condition ⟨"Case", ⟨"Priority", .notNull, none⟩⟩))]

/-- What is found of the contact is found within the scope over cases. -/
theorem evaluate_shorthand_besideCase :
    let tested : Condition := ⟨"Contact", ⟨"Email", .notBlank, none⟩⟩
    unevenCasesAlert.rule = .advanced (besideCase.fill (.condition tested)) ∧
      unevenCasesAlert.rule.check = .ok () ∧
      besideCase.object EntityType.account ≠ tested.object ∧
      ∃ outcome, unevenCasesAlert.evaluate urgentAccount = .ok outcome ∧
        outcome.passed = true ∧ ("Contact", "003") ∈ outcome.found.map Match.key ∧
        ({ unevenCasesAlert with rule := .advanced (besideCase.fill tested.asScope) } :
          AlertDefinition).evaluate urgentAccount = .ok outcome := by
  intro tested
  have written : unevenCasesAlert.rule = .advanced (besideCase.fill (.condition tested)) := rfl
  have apart : besideCase.object EntityType.account ≠ tested.object := by decide
  obtain ⟨-, same⟩ := unevenCasesAlert.evaluate_shorthand written rfl apart
  obtain ⟨outcome, evaluated, alsoEvaluated⟩ := same urgentAccount
  have told : (unevenCasesAlert.evaluate urgentAccount).toOption.any (fun outcome =>
      outcome.passed && (outcome.found.map Match.key).contains ("Contact", "003")) = true := by
    decide +kernel
  rw [evaluated] at told
  obtain ⟨passed, named⟩ := Bool.and_eq_true_iff.mp told
  exact ⟨written, rfl, apart, outcome, evaluated, passed, List.contains_iff_mem.mp named,
    alsoEvaluated⟩

end Dossier
