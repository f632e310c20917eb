import Dossier.Proofs.Alert.Meaning

/-!
Alerts on growing accounts.

More records cannot silence an alert which only ever asks for records to be there.  Of the scopes
these are the ones with `any`: the others say something of every record, or of the number of those
which fail.  Conditions, groups and aggregates ask for nothing else, and criteria may only let more
records through when they hold of more.
-/

namespace Dossier

namespace AccountGraph

variable {graph larger : AccountGraph} {object other : String}

/-- The account is the same, and the records of each type are among those of the other graph, in the
same order. -/
structure GrowsTo (graph larger : AccountGraph) : Prop where
  account : larger.account = graph.account
  records : ∀ object, (graph.records object).Sublist (larger.records object)

/-- The graph with no record of a type. -/
def without (graph : AccountGraph) (object : String) : AccountGraph :=
  { graph with related := graph.related.filter (·.1 != object) }

theorem records_without_self (related : object ≠ EntityType.account) :
    (graph.without object).records object = [] := by
  have gone : (graph.related.filter (·.1 != object)).lookup object = none := by
    rw [List.lookup_eq_none_iff]
    intro entry member
    have other : entry.1 ≠ object := by simpa using (List.mem_filter.mp member).2
    simpa using other.symm
  simp [records, without, related, gone]

theorem records_without_other (different : other ≠ object) :
    (graph.without object).records other = graph.records other := by
  simp only [records, without, Table.lookup_filter_ne graph.related different]

theorem without_growsTo (related : object ≠ EntityType.account) :
    (graph.without object).GrowsTo graph where
  account := rfl
  records other := by
    by_cases same : other = object
    · subst same
      rw [records_without_self related]
      exact List.nil_sublist _
    · rw [records_without_other same]

end AccountGraph

namespace Duplicates

variable {duplicates : Duplicates} {records larger : List GraphRecord} {field text : String}

theorem sharing_sublist (among : records.Sublist larger) :
    (duplicates.sharing records text).Sublist (duplicates.sharing larger text) :=
  among.filter _

theorem Tells.mono (among : records ⊆ larger) (told : Tells records field text) :
    Tells larger field text := by
  obtain ⟨shown, record, member, same⟩ := told
  exact ⟨shown, record, among member, same⟩

/-- Duplicates stay duplicates: their group gets no smaller, and no text is lost to it. -/
theorem Present.mono (among : records.Sublist larger) (present : duplicates.Present records) :
    duplicates.Present larger := by
  obtain ⟨text, shown, enough, differ⟩ := present
  have shared : (duplicates.sharing records text).Sublist (duplicates.sharing larger text) :=
    sharing_sublist among
  refine ⟨text, shown, Nat.le_trans enough shared.length_le, fun field asked => ?_⟩
  obtain ⟨first, second, different, told, also⟩ := differ field asked
  exact ⟨first, second, different, told.mono shared.subset, also.mono shared.subset⟩

end Duplicates

namespace RuleNode

/-- Asks for records to be there and for nothing else. -/
inductive Positive : RuleNode → Prop where
  | condition (tested : Condition) : Positive (.condition tested)
  | group (logic : Logic) {children : List RuleNode} (each : ∀ child ∈ children, Positive child) :
      Positive (.group logic children)
  | scope (object : String) {children : List RuleNode} (each : ∀ child ∈ children, Positive child) :
      Positive (.scope object .any children)
  | aggregate (duplicates : Duplicates) {criteria : Option RuleNode}
      (each : ∀ root, criteria = some root → Positive root) :
      Positive (.aggregate duplicates criteria)

open Classical in
/-- The record in context is the same in both graphs, of whatever type it is: a condition on that
type does not see the other records. -/
theorem Positive.holds {node : RuleNode} (positive : node.Positive) {graph larger : AccountGraph}
    (grows : graph.GrowsTo larger) (object : String) (record : GraphRecord)
    (held : node.Holds ⟨graph, object, record⟩) : node.Holds ⟨larger, object, record⟩ := by
  induction positive generalizing object record with
  | condition tested =>
      rw [Holds] at held ⊢
      by_cases same : tested.object = object
      · simpa only [same, if_true] using held
      · simp only [same, if_false] at held ⊢
        obtain ⟨witness, member, passes⟩ := held
        exact ⟨witness, (grows.records _).subset member, passes⟩
  | group logic _ ih =>
      cases logic with
      | and =>
          rw [Holds, allHold_iff] at held ⊢
          exact fun child member => ih child member object record (held child member)
      | or =>
          rw [Holds, someHolds_iff] at held ⊢
          obtain ⟨child, member, holds⟩ := held
          exact ⟨child, member, ih child member object record holds⟩
  | @scope asked children _ ih =>
      have kept (inner : GraphRecord) (all : AllHold children ⟨graph, asked, inner⟩) :
          AllHold children ⟨larger, asked, inner⟩ := by
        rw [allHold_iff] at all ⊢
        exact fun child member => ih child member asked inner (all child member)
      rw [Holds] at held ⊢
      simp only [Quantifier.Met] at held ⊢
      rw [Nat.succ_le_iff, List.countP_pos_iff] at held ⊢
      obtain ⟨inner, member, all⟩ := held
      refine ⟨inner, (grows.records _).subset member, ?_⟩
      exact decide_eq_true (kept inner (of_decide_eq_true all))
  | @aggregate duplicates criteria _ ih =>
      have kept (inner : GraphRecord)
          (hold : CriteriaHold criteria ⟨graph, duplicates.object, inner⟩) :
          CriteriaHold criteria ⟨larger, duplicates.object, inner⟩ := by
        cases criteria with
        | none => trivial
        | some root => exact ih root rfl duplicates.object inner hold
      have widened : ((graph.records duplicates.object).filter fun inner =>
            CriteriaHold criteria ⟨graph, duplicates.object, inner⟩).Sublist
          ((graph.records duplicates.object).filter fun inner =>
            CriteriaHold criteria ⟨larger, duplicates.object, inner⟩) :=
        List.monotone_filter_right _ fun inner hold =>
          decide_eq_true (kept inner (of_decide_eq_true hold))
      rw [Holds] at held ⊢
      exact held.mono (widened.trans ((grows.records _).filter _))

end RuleNode

namespace FilterGroup

variable {groups : List FilterGroup} {graph larger : AccountGraph}

theorem satisfying_sublist (grows : graph.GrowsTo larger) (object : String)
    (filters : List Filter) :
    (satisfying graph object filters).Sublist (satisfying larger object filters) :=
  (grows.records object).filter _

theorem passed_growing (grows : graph.GrowsTo larger)
    (passed : (FilterGroup.verdict groups graph).passed = true) :
    (FilterGroup.verdict groups larger).passed = true := by
  rw [verdict_passed] at passed ⊢
  obtain ⟨some, each⟩ := passed
  refine ⟨some, fun object about gone => each object about ?_⟩
  exact List.eq_nil_of_sublist_nil (gone ▸ satisfying_sublist grows object _)

/-- Every object is required, also one of which nothing is asked. -/
theorem failed_without {object : String} (about : object ∈ objects groups)
    (gone : graph.records object = []) : (FilterGroup.verdict groups graph).passed = false := by
  rw [Bool.eq_false_iff, ne_eq, verdict_passed]
  rintro ⟨-, each⟩
  apply each object about
  rw [satisfying, gone, List.filter_nil]

end FilterGroup

namespace AlertRule

/-- Asks for records to be there and for nothing else. -/
def Positive : AlertRule → Prop
  | .simple _ => True
  | .advanced root => root.Positive

theorem Positive.passed {rule : AlertRule} (positive : rule.Positive)
    (checked : rule.check = .ok ()) {graph larger : AccountGraph} (grows : graph.GrowsTo larger)
    (passed : (rule.verdict graph).passed = true) : (rule.verdict larger).passed = true := by
  cases rule with
  | simple groups => exact FilterGroup.passed_growing grows passed
  | advanced root =>
      have sound : root.check = .ok () := checked
      have held := (RuleNode.verdict_passed sound _).mp passed
      simp only [verdict, grows.account]
      exact (RuleNode.verdict_passed sound _).mpr
        (RuleNode.Positive.holds positive grows _ _ held)

end AlertRule

/-- An alert which asks only for records to be there passes on every account to which one on which it
passes may grow.  A simple one asks for a record of each of its objects: take all records of one of
them away, and it fails. -/
theorem AlertDefinition.evaluate_growing (alert : AlertDefinition)
    (checked : alert.rule.check = .ok ()) :
    (alert.rule.Positive → ∀ graph larger : AccountGraph, graph.GrowsTo larger →
      ∃ before after, alert.evaluate graph = .ok before ∧ alert.evaluate larger = .ok after ∧
        (before.passed = true → after.passed = true)) ∧
    ∀ groups, alert.rule = .simple groups → ∀ group ∈ groups,
      group.object ≠ EntityType.account → ∀ graph : AccountGraph,
        ∃ outcome, alert.evaluate (graph.without group.object) = .ok outcome ∧
          outcome.passed = false := by
  constructor
  · intro positive graph larger grows
    refine ⟨_, _, evaluate_of_check checked graph, evaluate_of_check checked larger, ?_⟩
    exact positive.passed checked grows
  · intro groups simple group member related graph
    refine ⟨_, evaluate_of_check checked _, ?_⟩
    have about : group.object ∈ FilterGroup.objects groups :=
      FilterGroup.mem_objects.mpr ⟨group, member, rfl⟩
    rw [simple]
    exact FilterGroup.failed_without about (AccountGraph.records_without_self related)

/-- Either some contact can be written to while a case is open, or two cases of different status share
a priority. -/
def pressing : RuleNode :=
  .group .or [
    .scope "Contact" .any [
      .condition ⟨"Contact", ⟨"Email", .notBlank, none⟩⟩,
      .condition ⟨"Case", ⟨"Status", .equals, some "Open"⟩⟩],
    .aggregate ⟨"Case", "Priority", 2, some "Status"⟩
      (some (.condition ⟨"Case", ⟨"Priority", .notNull, none⟩⟩))]

def pressingAlert : AlertDefinition :=
  ⟨"pressing", "Pressing case", none, .advanced, .advanced pressing⟩

theorem pressing_positive : pressing.Positive := by
  refine .group _ fun child member => ?_
  obtain rfl | rfl : child = _ ∨ child = _ := by simpa using member
  · refine .scope _ fun child member => ?_
    obtain rfl | rfl : child = _ ∨ child = _ := by simpa using member
    · exact .condition _
    · exact .condition _
  · refine .aggregate _ fun root same => ?_
    obtain rfl := Option.some.inj same
    exact .condition _

/-- The tree passes where there are no contacts, for the sake of its duplicates, and still does when a
contact comes; the simple rule misses the contact. -/
theorem evaluate_pressing :
    (urgentAccount.without "Contact").GrowsTo urgentAccount ∧
    (∃ before after,
      pressingAlert.evaluate (urgentAccount.without "Contact") = .ok before ∧
      pressingAlert.evaluate urgentAccount = .ok after ∧
      before.passed = true ∧ after.passed = true) ∧
    ∃ outcome, urgentCaseAlert.evaluate (urgentAccount.without "Contact") = .ok outcome ∧
      outcome.passed = false := by
  have grows : (urgentAccount.without "Contact").GrowsTo urgentAccount :=
    AccountGraph.without_growsTo (by decide)
  obtain ⟨kept, -⟩ := AlertDefinition.evaluate_growing pressingAlert (by rfl)
  obtain ⟨-, required⟩ := AlertDefinition.evaluate_growing urgentCaseAlert (by rfl)
  obtain ⟨before, after, first, second, still⟩ := kept pressing_positive _ _ grows
  have passed : (pressingAlert.evaluate (urgentAccount.without "Contact")).toOption.any
      (·.passed) = true := by
    decide +kernel
  rw [first] at passed
  refine ⟨grows, ⟨before, after, first, second, passed, still passed⟩, ?_⟩
  exact required urgentCase rfl ⟨"Contact", [⟨"Email", .notBlank, none⟩]⟩ (by simp [urgentCase])
    (by decide) urgentAccount

end Dossier
