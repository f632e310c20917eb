import Dossier.Alert.Evaluate
import Dossier.Proofs.Alert.SimpleAsTree
import Dossier.Proofs.Alert.Tree
import Dossier.Proofs.Table

/-!
What rule trees mean.

A tree is a formula over the records of an account: groups are its connectives, scopes its
quantifiers, and the record in context is what its conditions speak of.  The meaning knows nothing of
evidence.  The verdict is found along with the evidence, of which some is dropped and some is made up
on the way, and is the meaning all the same.
-/

namespace Dossier

namespace Quantifier

/-- Is it as many as the quantifier asks for, where `passing` of `count` records do? -/
def Met (quantifier : Quantifier) (count passing : Nat) : Prop :=
  match quantifier with
  | .any => 1 ≤ passing
  | .all => 1 ≤ count ∧ passing = count
  | .none => passing = 0
  | .notAll => 1 ≤ count ∧ passing < count

end Quantifier

namespace Duplicates

/-- The records whose text of the field is this one. -/
def sharing (duplicates : Duplicates) (records : List GraphRecord) (text : String) :
    List GraphRecord :=
  records.filter fun record => record.record.text? duplicates.field == some text

/-- Some record has this text of the field, and it is not blank. -/
def Tells (records : List GraphRecord) (field text : String) : Prop :=
  Text.blank text = false ∧ ∃ record ∈ records, record.record.text? field = some text

/-- Enough of the records share a text which is not blank, and if another field is asked for, two
different texts of it are found among them. -/
def Present (duplicates : Duplicates) (records : List GraphRecord) : Prop :=
  ∃ text, Text.blank text = false ∧
    duplicates.minCount ≤ (duplicates.sharing records text).length ∧
    ∀ field, duplicates.distinctField = some field →
      ∃ first second, first ≠ second ∧ Tells (duplicates.sharing records text) field first ∧
        Tells (duplicates.sharing records text) field second

end Duplicates

namespace RuleNode

open Classical in
mutual

/-- What a tree says in a context. -/
def Holds : RuleNode → Context → Prop
  | .condition tested, context =>
      if tested.object = context.object then tested.filter.test context.record = true
      else ∃ record ∈ context.graph.records tested.object, tested.filter.test record = true
  | .group .and children, context => AllHold children context
  | .group .or children, context => SomeHolds children context
  | .scope object quantifier children, context =>
      let records := context.graph.records object
      quantifier.Met records.length
        (records.countP fun record => AllHold children { context with object, record })
  | .aggregate duplicates criteria, context =>
      duplicates.Present ((context.graph.records duplicates.object).filter fun record =>
        CriteriaHold criteria { context with object := duplicates.object, record })

def AllHold : List RuleNode → Context → Prop
  | [], _ => True
  | child :: rest, context => Holds child context ∧ AllHold rest context

def SomeHolds : List RuleNode → Context → Prop
  | [], _ => False
  | child :: rest, context => Holds child context ∨ SomeHolds rest context

def CriteriaHold : Option RuleNode → Context → Prop
  | none, _ => True
  | some criteria, context => Holds criteria context

end

theorem allHold_iff {children : List RuleNode} {context : Context} :
    AllHold children context ↔ ∀ child ∈ children, child.Holds context := by
  induction children with
  | nil => simp [AllHold]
  | cons child rest ih => rw [AllHold, ih, List.forall_mem_cons]

theorem someHolds_iff {children : List RuleNode} {context : Context} :
    SomeHolds children context ↔ ∃ child ∈ children, child.Holds context := by
  induction children with
  | nil => simp [SomeHolds]
  | cons child rest ih => rw [SomeHolds, ih, List.exists_mem_cons_iff]

end RuleNode

theorem Quantifier.holds_iff {quantifier : Quantifier} {count passing : Nat}
    (some : passing ≤ count) :
    quantifier.holds count passing = true ↔ quantifier.Met count passing := by
  cases quantifier <;> simp [Quantifier.holds, Quantifier.Met] <;> omega

theorem Quantifier.verdict_passed (quantifier : Quantifier) (graph : AccountGraph) (object : String)
    (sightings : List Sighting) :
    (quantifier.verdict graph object sightings).passed = true ↔
      quantifier.Met sightings.length (sightings.countP (·.passed)) := by
  rw [List.countP_eq_length_filter, ← Quantifier.holds_iff (List.length_filter_le ..)]
  unfold Quantifier.verdict
  simp only
  split
  · rename_i held
    simp [held]
  · rename_i failed
    simp [failed]

theorem Logic.verdict_passed (logic : Logic) (verdicts : List Verdict) :
    (logic.verdict verdicts).passed = true ↔
      match logic with
      | .and => ∀ verdict ∈ verdicts, verdict.passed = true
      | .or => ∃ verdict ∈ verdicts, verdict.passed = true := by
  cases logic with
  | and =>
      unfold Logic.verdict
      simp only
      split
      · rename_i held
        simpa using List.all_eq_true.mp held
      · rename_i failed
        simpa using failed
  | or => simp [Logic.verdict]

theorem Condition.verdict_passed (tested : Condition) (context : Context) :
    (tested.verdict context).passed = true ↔ (RuleNode.condition tested).Holds context := by
  rw [RuleNode.Holds, Condition.verdict]
  by_cases same : tested.object = context.object
  · simp [same]
  · simp [same]

theorem Record.evidence?_eq_some {record : Record} {field text : String} :
    record.evidence? field = some text ↔
      record.text? field = some text ∧ Text.blank text = false := by
  simp [Record.evidence?, Option.filter_eq_some_iff]

namespace Duplicates

variable {duplicates : Duplicates} {records : List GraphRecord} {text : String}

theorem mem_groups {group : List GraphRecord} :
    (text, group) ∈ duplicates.groups records ↔
      group ≠ [] ∧ Text.blank text = false ∧ group = duplicates.sharing records text := by
  have keyed : ((records.filterMap fun record =>
      (record.record.evidence? duplicates.field).map fun text => (text, record)).filter
        (·.1 == text)).map (·.2) =
      records.filter fun record => record.record.evidence? duplicates.field == some text := by
    have found := Table.lookup_group_filterMap records
      (fun record => record.record.evidence? duplicates.field) id text
    rw [Table.lookup_group, List.map_id] at found
    exact found
  rw [groups, Table.mem_group, keyed]
  refine and_congr_right fun filled => ?_
  cases blank : Text.blank text with
  | false =>
      have same : (records.filter fun record =>
          record.record.evidence? duplicates.field == some text) = duplicates.sharing records text := by
        refine List.filter_congr fun record _ => ?_
        rw [Bool.eq_iff_iff, beq_iff_eq, beq_iff_eq, Record.evidence?_eq_some]
        exact and_iff_left blank
      simp [same]
  | true =>
      have nothing : (records.filter fun record =>
          record.record.evidence? duplicates.field == some text) = [] := by
        refine List.filter_eq_nil_iff.mpr fun record _ told => ?_
        have shown := (Record.evidence?_eq_some.mp (beq_iff_eq.mp told)).2
        simp [blank] at shown
      simp [nothing, filled]

theorem tells_iff {field : String} :
    Tells records field text ↔ text ∈ records.filterMap (·.record.evidence? field) := by
  rw [Tells, List.mem_filterMap, and_comm]
  simp only [Record.evidence?_eq_some, ← and_assoc, exists_and_right]

theorem qualifies_iff :
    duplicates.qualifies records = true ↔ duplicates.minCount ≤ records.length ∧
      ∀ field, duplicates.distinctField = some field →
        ∃ first second, first ≠ second ∧ Tells records field first ∧ Tells records field second := by
  rw [qualifies, Bool.and_eq_true, decide_eq_true_iff]
  refine and_congr_right fun _ => ?_
  cases duplicates.distinctField with
  | none => simp
  | some field =>
      simp only [decide_eq_true_iff, two_le_length_distinct, Option.some.injEq, forall_eq', tells_iff]
      constructor
      · rintro ⟨first, told, second, also, different⟩
        exact ⟨first, second, different, told, also⟩
      · rintro ⟨first, second, different, told, also⟩
        exact ⟨first, told, second, also, different⟩

theorem verdict_passed (positive : 0 < duplicates.minCount) :
    (duplicates.verdict records).passed = true ↔ duplicates.Present records := by
  have found : (duplicates.verdict records).passed = true ↔
      ∃ text group, (text, group) ∈ duplicates.groups records ∧ duplicates.qualifies group = true ∧
        group ≠ [] := by
    simp [verdict]
  rw [found, Present]
  refine exists_congr fun text => ?_
  simp only [mem_groups, qualifies_iff]
  constructor
  · rintro ⟨_, ⟨-, shown, rfl⟩, ⟨enough, differ⟩, -⟩
    exact ⟨shown, enough, differ⟩
  · rintro ⟨shown, enough, differ⟩
    have filled : duplicates.sharing records text ≠ [] :=
      List.ne_nil_of_length_pos (Nat.lt_of_lt_of_le positive enough)
    exact ⟨_, ⟨filled, shown, rfl⟩, ⟨enough, differ⟩, filled⟩

end Duplicates

namespace RuleNode

theorem satisfies_eq_true {criteria : Option RuleNode} {context : Context}
    (agree : ∀ root, criteria = some root →
      ((root.verdict context).passed = true ↔ root.Holds context)) :
    satisfies criteria context = true ↔ CriteriaHold criteria context := by
  cases criteria with
  | none => simp [satisfies, CriteriaHold]
  | some root => exact agree root rfl

/-- In every context the verdict on a node is what the node says. -/
theorem verdict_passed {node : RuleNode} (checked : node.check = .ok ()) (context : Context) :
    (node.verdict context).passed = true ↔ node.Holds context := by
  induction node using induct generalizing context with
  | condition tested => exact tested.verdict_passed context
  | group logic children ih =>
      have agree : ∀ child ∈ children,
          ((child.verdict context).passed = true ↔ child.Holds context) :=
        fun child member => ih child member (check_group checked child member) context
      rw [verdict, verdicts_eq_map, Logic.verdict_passed]
      cases logic with
      | and =>
          rw [Holds, allHold_iff, List.forall_mem_map]
          exact forall₂_congr agree
      | or =>
          rw [Holds, someHolds_iff]
          simp only [List.mem_map, exists_exists_and_eq_and]
          exact exists_congr fun child => and_congr_right (agree child)
  | scope object quantifier children ih =>
      classical
      have agree (inner : Context) : (verdicts children inner).all (·.passed) = true ↔
          AllHold children inner := by
        rw [allHold_iff, verdicts_eq_map, List.all_map, List.all_eq_true]
        exact forall₂_congr fun child member =>
          ih child member (check_scope checked child member) inner
      rw [verdict, Quantifier.verdict_passed, Holds, List.length_map, List.countP_map]
      refine iff_of_eq (congrArg _ (List.countP_congr fun record _ => ?_))
      rw [decide_eq_true_iff]
      exact agree _
  | aggregate duplicates criteria ih =>
      classical
      obtain ⟨enough, sound⟩ := check_aggregate checked
      rw [verdict, Duplicates.verdict_passed (by omega), Holds]
      refine iff_of_eq (congrArg _ (List.filter_congr fun record _ => ?_))
      rw [Bool.eq_iff_iff, decide_eq_true_iff]
      exact satisfies_eq_true fun root same => ih root same (sound root same) _

/-- Of the four quantifiers, two are the negations of the others: the one always, the other as far as
there are records. -/
theorem scope_negations (object : String) (children : List RuleNode) (context : Context) :
    ((RuleNode.scope object .any children).verdict context).passed =
        !((RuleNode.scope object .none children).verdict context).passed ∧
      (context.graph.records object ≠ [] →
        ((RuleNode.scope object .notAll children).verdict context).passed =
          !((RuleNode.scope object .all children).verdict context).passed) := by
  let sightings := (context.graph.records object).map fun record =>
    Sighting.mk record (verdicts children { context with object, record })
  have passes (quantifier : Quantifier) :
      ((RuleNode.scope object quantifier children).verdict context).passed = true ↔
        quantifier.Met (context.graph.records object).length (sightings.countP (·.passed)) := by
    rw [verdict, Quantifier.verdict_passed, List.length_map]
  have opposite {first second : Quantifier}
      (apart : first.Met (context.graph.records object).length (sightings.countP (·.passed)) ↔
        ¬ second.Met (context.graph.records object).length (sightings.countP (·.passed))) :
      ((RuleNode.scope object first children).verdict context).passed =
        !((RuleNode.scope object second children).verdict context).passed := by
    rw [Bool.eq_iff_iff, Bool.not_eq_true', ← Bool.not_eq_true, passes, passes]
    exact apart
  have among : sightings.countP (·.passed) ≤ sightings.length := List.countP_le_length
  rw [List.length_map] at among
  refine ⟨opposite ?_, fun filled => opposite ?_⟩
  · simp only [Quantifier.Met]
    omega
  · have some : 0 < (context.graph.records object).length := List.length_pos_of_ne_nil filled
    simp only [Quantifier.Met]
    omega

end RuleNode

/-- A tree passes on an account just where it holds of it.  Of two scopes over the same records which
differ in their quantifiers alone, `any` passes where `none` does not, and where there are records
`notAll` passes where `all` does not. -/
theorem AlertDefinition.evaluate_holds (alert : AlertDefinition) {root : RuleNode}
    (advanced : alert.rule = .advanced root) (checked : alert.rule.check = .ok ())
    (graph : AccountGraph) :
    (∃ outcome, alert.evaluate graph = .ok outcome ∧
      (outcome.passed = true ↔ root.Holds ⟨graph, EntityType.account, graph.account⟩)) ∧
    ∀ object children context,
      ((RuleNode.scope object .any children).verdict context).passed =
          !((RuleNode.scope object .none children).verdict context).passed ∧
        (context.graph.records object ≠ [] →
          ((RuleNode.scope object .notAll children).verdict context).passed =
            !((RuleNode.scope object .all children).verdict context).passed) := by
  rw [advanced] at checked
  refine ⟨⟨Outcome.ofVerdict ((AlertRule.advanced root).verdict graph), ?_, ?_⟩,
    RuleNode.scope_negations⟩
  · simp only [evaluate, advanced, checked]
  · exact RuleNode.verdict_passed checked _

/-- Not all cases are closed, some case has a record of another type beside it which passes, and
among the cases which have a priority two of different status share it. -/
def unevenCases : RuleNode :=
  .group .and [
    .scope "Case" .notAll [.condition ⟨"Case", ⟨"Status", .equals, some "Closed"⟩⟩],
    .scope "Case" .any [.group .or [
      .condition ⟨"Case", ⟨"Status", .equals, some "Void"⟩⟩,
      .condition ⟨"Contact", ⟨"Email", .notBlank, none⟩⟩]],
    .aggregate ⟨"Case", "Priority", 2, some "Status"⟩
      (some (.condition ⟨"Case", ⟨"Priority", .notNull, none⟩⟩))]

def unevenCasesAlert : AlertDefinition :=
  ⟨"uneven", "Uneven cases", none, .advanced, .advanced unevenCases⟩

theorem evaluate_unevenCases :
    unevenCasesAlert.rule.check = .ok () ∧
      unevenCases.Holds ⟨urgentAccount, EntityType.account, urgentAccount.account⟩ := by
  have checked : unevenCasesAlert.rule.check = .ok () := by rfl
  obtain ⟨⟨outcome, evaluated, same⟩, -⟩ :=
    AlertDefinition.evaluate_holds unevenCasesAlert rfl checked urgentAccount
  have passed : (unevenCasesAlert.evaluate urgentAccount).toOption.any (·.passed) = true := by
    decide +kernel
  rw [evaluated] at passed
  exact ⟨checked, same.mp passed⟩

end Dossier
