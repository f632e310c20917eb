import Dossier.Proofs.Alert.Provenance

/-!
Failing tests among the evidence.

A test which fails is found along with its record, and most often it is dropped again, since whatever
it is part of fails with it.  It is kept where failing is what was asked for: directly below a scope
which is to hold of not all records, as evidence against a record of that scope.
-/

namespace Dossier

/-- An entry tells of a test which fails directly below a scope for not all records of the type, on
the record of this key, of which the scope's children do not all hold. -/
def FieldMatch.Refutes (root : RuleNode) (graph : AccountGraph) (object key : String)
    (field : FieldMatch) : Prop :=
  ∃ children filter record,
    (RuleNode.scope object .notAll children).Within root ∧
      RuleNode.condition ⟨object, filter⟩ ∈ children ∧
      record ∈ graph.records object ∧ record.key = key ∧ field = filter.fieldMatch record ∧
      ¬RuleNode.AllHold children ⟨graph, object, record⟩

theorem FieldMatch.Refutes.mono {node root : RuleNode} {graph : AccountGraph} {object key : String}
    {field : FieldMatch}
    (within : ∀ part : RuleNode, part.Within node → part.Within root)
    (refutes : field.Refutes node graph object key) : field.Refutes root graph object key := by
  obtain ⟨children, filter, record, inside, rest⟩ := refutes
  exact ⟨children, filter, record, within _ inside, rest⟩

namespace Match

/-- All tests which the match tells of passed, but for those which this condition allows to fail. -/
def FailsOnly (allowed : String → String → FieldMatch → Prop) (m : Match) : Prop :=
  ∀ field ∈ m.matchedFields, field.matched = false → allowed m.object m.recordKey field

variable {allowed : String → String → FieldMatch → Prop}

theorem FailsOnly.mono {more : String → String → FieldMatch → Prop}
    (among : ∀ object key field, allowed object key field → more object key field) {m : Match}
    (fails : m.FailsOnly allowed) : m.FailsOnly more :=
  fun field member failed => among _ _ field (fails field member failed)

/-- Merged matches are about one key, and what is allowed depends on no more of a match. -/
theorem FailsOnly.absorb {prior next : Match} (same : prior.key = next.key)
    (first : prior.FailsOnly allowed) (second : next.FailsOnly allowed) :
    (prior.absorb next).FailsOnly allowed := by
  obtain ⟨object, recordKey⟩ := Prod.mk.inj same
  intro field member failed
  rcases mem_addFields member with earlier | later
  · exact first field earlier failed
  · change allowed prior.object prior.recordKey field
    rw [object, recordKey]
    exact second field later failed

end Match

theorem Outcome.ofVerdict_failsOnly {allowed : String → String → FieldMatch → Prop}
    {verdict : Verdict}
    (fails : verdict.passed = true → ∀ m ∈ verdict.found, m.FailsOnly allowed) :
    ∀ m ∈ (Outcome.ofVerdict verdict).found, m.FailsOnly allowed := by
  cases passed : verdict.passed with
  | false =>
      rw [Outcome.ofVerdict_nothing passed]
      exact fun _ member => absurd member List.not_mem_nil
  | true =>
      rw [Outcome.ofVerdict_found passed]
      exact Match.forall_mem_dedup (fun _ _ => Match.FailsOnly.absorb) (fails passed)

section Found

variable {m : Match}

theorem Quantifier.passed_of_found {quantifier : Quantifier} {graph : AccountGraph} {object : String}
    {sightings : List Sighting} (found : m ∈ (quantifier.verdict graph object sightings).found) :
    (quantifier.verdict graph object sightings).passed = true := by
  unfold Quantifier.verdict at found ⊢
  simp only at found ⊢
  split at found
  · rename_i held
    rw [if_pos held]
  · contradiction

theorem Duplicates.passed_of_found {duplicates : Duplicates} {records : List GraphRecord}
    (found : m ∈ (duplicates.verdict records).found) :
    (duplicates.verdict records).passed = true := by
  have filled := List.isEmpty_eq_false_iff.mpr (List.ne_nil_of_mem found)
  exact congrArg (!·) filled

/-- The only nodes which find something and fail are tests of the record in context. -/
theorem RuleNode.found_of_failed {node : RuleNode} {context : Context}
    (failed : (node.verdict context).passed = false) (found : m ∈ (node.verdict context).found) :
    ∃ filter, node = .condition ⟨context.object, filter⟩ ∧
      m = .ofRecord context.object context.record [filter.fieldMatch context.record] := by
  have impossible : (node.verdict context).passed ≠ true := by simp [failed]
  cases node with
  | condition tested =>
      obtain ⟨record, rfl, ⟨-, -, passed⟩ | ⟨own, rfl, -⟩⟩ := Condition.mem_verdict found
      · exact absurd passed impossible
      · obtain ⟨object, filter⟩ := tested
        cases own
        exact ⟨filter, rfl, rfl⟩
  | group logic children => exact absurd (Logic.mem_verdict.mp found).1 impossible
  | scope object quantifier children => exact absurd (Quantifier.passed_of_found found) impossible
  | aggregate duplicates criteria => exact absurd (Duplicates.passed_of_found found) impossible

end Found

theorem Match.failsOnly_of_passed {allowed : String → String → FieldMatch → Prop} {m : Match}
    (passed : ∀ field ∈ m.matchedFields, field.matched = true) : m.FailsOnly allowed := by
  intro field member failed
  rw [passed field member] at failed
  contradiction

theorem Duplicates.found_passed {duplicates : Duplicates} {records : List GraphRecord} :
    ∀ m ∈ (duplicates.verdict records).found, ∀ field ∈ m.matchedFields, field.matched = true := by
  intro m found field member
  obtain ⟨text, record, -, rfl⟩ := Duplicates.mem_verdict found
  rcases List.mem_cons.mp member with rfl | told
  · rfl
  · obtain ⟨name, -, rfl⟩ := Option.map_eq_some_iff.mp (Option.mem_toList.mp told)
    rfl

theorem Condition.found_passed {tested : Condition} {context : Context}
    (passed : (tested.verdict context).passed = true) :
    ∀ m ∈ (tested.verdict context).found, ∀ field ∈ m.matchedFields, field.matched = true := by
  intro m found field member
  obtain ⟨record, rfl, ⟨-, test, -⟩ | ⟨-, -, same⟩⟩ := Condition.mem_verdict found
  · rw [List.mem_singleton.mp member]
    exact test
  · rw [List.mem_singleton.mp member]
    exact same.symm.trans passed

namespace RuleNode

/-- Of a record which passes, all children of the scope hold. -/
theorem all_passed_iff {children : List RuleNode}
    (checked : ∀ child ∈ children, child.check = .ok ()) (context : Context) :
    (verdicts children context).all (·.passed) = true ↔ AllHold children context := by
  rw [allHold_iff, verdicts_eq_map, List.all_map, List.all_eq_true]
  exact forall₂_congr fun child member => verdict_passed (checked child member) context

/-- Where a node passes, the failing tests among its evidence are evidence against all. -/
theorem verdict_failsOnly {node : RuleNode} (checked : node.check = .ok ()) (context : Context)
    (passed : (node.verdict context).passed = true) :
    ∀ m ∈ (node.verdict context).found, m.FailsOnly (FieldMatch.Refutes node context.graph) := by
  induction node using induct generalizing context with
  | condition tested =>
      exact fun m found => Match.failsOnly_of_passed (Condition.found_passed passed m found)
  | group logic children ih =>
      intro m found
      obtain ⟨child, member, held, there⟩ := mem_group found
      refine (ih child member (check_group checked child member) context held m there).mono ?_
      exact fun _ _ _ => .mono fun _ inside => .group member inside
  | scope object quantifier children ih =>
      intro m found
      rcases mem_scope found with ⟨record, listed, speaks, ⟨child, member, there⟩ | rfl⟩ | ⟨_, _, rfl⟩
      · have sound := check_scope checked
        cases held : (child.verdict { context with object, record }).passed with
        | true =>
            refine (ih child member (sound child member) _ held m there).mono ?_
            exact fun _ _ _ => .mono fun _ inside => .scope member inside
        | false =>
            -- A child which fails is a test of this record, and the record speaks for the scope
            -- by failing.
            obtain ⟨filter, rfl, rfl⟩ := found_of_failed held there
            have some : ¬AllHold children { context with object, record } := by
              intro all
              rw [verdict_passed (sound _ member) _ |>.mpr (allHold_iff.mp all _ member)] at held
              contradiction
            rcases speaks with whole | ⟨rfl, -⟩
            · exact absurd ((all_passed_iff sound _).mp whole) some
            · intro field shown _
              rw [List.mem_singleton.mp shown]
              exact ⟨children, filter, record, .root, member, listed, rfl, rfl, some⟩
      · exact Match.failsOnly_of_passed fun _ shown => absurd shown List.not_mem_nil
      · exact Match.failsOnly_of_passed fun _ shown => absurd shown List.not_mem_nil
  | aggregate duplicates criteria _ =>
      exact fun m found => Match.failsOnly_of_passed (Duplicates.found_passed m found)

end RuleNode

theorem FilterGroup.found_passed (groups : List FilterGroup) (graph : AccountGraph) :
    ∀ m ∈ (FilterGroup.verdict groups graph).found,
      ∀ field ∈ m.matchedFields, field.matched = true := by
  intro m found field member
  obtain ⟨object, -, record, satisfies, rfl⟩ := mem_found.mp found
  obtain ⟨filter, gathered, rfl⟩ := List.mem_map.mp member
  exact List.all_eq_true.mp (List.mem_filter.mp satisfies).2 filter gathered

/-- A sighting which fails is named under its record. -/
theorem Sighting.failure_named (object : String) (sighting : Sighting) :
    (object, sighting.record.key) ∈ (sighting.failure object).map Match.key := by
  unfold Sighting.failure
  split
  · rename_i named
    obtain ⟨m, member, same⟩ := List.any_eq_true.mp named
    exact List.mem_map.mpr ⟨m, member, eq_of_beq same⟩
  · exact List.mem_cons_self

/-- The summary replaces no evidence. -/
theorem Quantifier.mem_verdict_of_evidence {quantifier : Quantifier} {graph : AccountGraph}
    {object : String} {sightings : List Sighting} {m : Match}
    (passed : (quantifier.verdict graph object sightings).passed = true)
    (evident : m ∈ quantifier.evidence object sightings) :
    m ∈ (quantifier.verdict graph object sightings).found := by
  have filled := List.isEmpty_eq_false_iff.mpr (List.ne_nil_of_mem evident)
  unfold Quantifier.verdict at passed ⊢
  simp only at passed ⊢
  split
  · simpa [filled] using evident
  · rename_i failed
    rw [if_neg failed] at passed
    contradiction

/-- A scope for not all records which passes names every record of which its children do not all
hold. -/
theorem RuleNode.notAll_names {object : String} {children : List RuleNode}
    (checked : (RuleNode.scope object .notAll children).check = .ok ()) {context : Context}
    (passed : ((RuleNode.scope object .notAll children).verdict context).passed = true)
    {record : GraphRecord} (listed : record ∈ context.graph.records object)
    (fails : ¬AllHold children { context with object, record }) :
    (object, record.key) ∈
      ((RuleNode.scope object .notAll children).verdict context).found.map Match.key := by
  let sighting : Sighting := ⟨record, verdicts children { context with object, record }⟩
  obtain ⟨m, named, same⟩ := List.mem_map.mp (sighting.failure_named object)
  have failing : (!sighting.passed) = true := by
    rw [Bool.not_eq_true', Bool.eq_false_iff]
    exact fun whole => fails ((all_passed_iff (check_scope checked) _).mp whole)
  rw [verdict] at passed ⊢
  refine List.mem_map.mpr ⟨m, Quantifier.mem_verdict_of_evidence passed ?_, same⟩
  refine List.mem_flatMap.mpr ⟨sighting, List.mem_filter.mpr ⟨?_, failing⟩, named⟩
  exact List.mem_map_of_mem listed

/-- Failed tests are reported only as evidence of not all: each of them stands directly below a scope
for not all records of its type, and is told of a record on which the scope's children do not all
hold.  A rule without such scopes reports none, and a rule which is such a scope and passes names
every record that fails. -/
theorem AlertDefinition.evaluate_failsOnly (alert : AlertDefinition)
    (checked : alert.rule.check = .ok ()) (graph : AccountGraph) :
    ∃ outcome, alert.evaluate graph = .ok outcome ∧
      (∀ m ∈ outcome.found, m.FailsOnly fun object key field =>
        ∃ root, alert.rule = .advanced root ∧ field.Refutes root graph object key) ∧
      ((∀ root object children, alert.rule = .advanced root →
          ¬(RuleNode.scope object .notAll children).Within root) →
        ∀ m ∈ outcome.found, ∀ field ∈ m.matchedFields, field.matched = true) ∧
      ∀ object children, alert.rule = .advanced (.scope object .notAll children) →
        outcome.passed = true → ∀ record ∈ graph.records object,
          ¬RuleNode.AllHold children ⟨graph, object, record⟩ →
            (object, record.key) ∈ outcome.found.map Match.key := by
  have fails : (alert.rule.verdict graph).passed = true →
      ∀ m ∈ (alert.rule.verdict graph).found, m.FailsOnly fun object key field =>
        ∃ root, alert.rule = .advanced root ∧ field.Refutes root graph object key := by
    intro passed m found
    cases written : alert.rule with
    | simple groups =>
        rw [written] at found
        exact Match.failsOnly_of_passed (FilterGroup.found_passed groups graph m found)
    | advanced root =>
        rw [written] at checked passed found
        exact (RuleNode.verdict_failsOnly checked _ passed m found).mono
          fun _ _ _ refutes => ⟨root, rfl, refutes⟩
  have reported := Outcome.ofVerdict_failsOnly fails
  refine ⟨_, evaluate_of_check checked graph, reported, fun absent m found field member => ?_,
    fun object children written passed record listed some => ?_⟩
  · by_contra failed
    obtain ⟨root, written, children, -, -, inside, -⟩ :=
      reported m found field member (Bool.eq_false_iff.mpr failed)
    exact absent root m.object children written inside
  · rw [written] at checked passed ⊢
    rw [Outcome.ofVerdict_keys passed, mem_distinct]
    exact RuleNode.notAll_names checked passed listed some

/-- Not all cases are closed, of which one test tells and one group does not. -/
def unclosed : RuleNode :=
  .scope "Case" .notAll [
    .condition ⟨"Case", ⟨"Status", .equals, some "Closed"⟩⟩,
    .group .or [.condition ⟨"Case", ⟨"Status", .startsWith, some "Clo"⟩⟩]]

def unclosedAlert : AlertDefinition :=
  ⟨"unclosed", "Unclosed", none, .advanced, .advanced unclosed⟩

/-- The open case is named with the test which it fails.  A simple rule reports no such test. -/
theorem evaluate_failsOnly_unclosed :
    unclosedAlert.rule.check = .ok () ∧
      (∃ outcome, unclosedAlert.evaluate openAccount = .ok outcome ∧
        ("Case", "500") ∈ outcome.found.map Match.key ∧
        ∃ m ∈ outcome.found, ∃ field ∈ m.matchedFields, field.matched = false ∧
          field.Refutes unclosed openAccount m.object m.recordKey) ∧
      urgentCaseAlert.rule.check = .ok () ∧
      ∃ outcome, urgentCaseAlert.evaluate urgentAccount = .ok outcome ∧
        ∀ m ∈ outcome.found, ∀ field ∈ m.matchedFields, field.matched = true := by
  have checked : unclosedAlert.rule.check = .ok () := by rfl
  obtain ⟨outcome, evaluated, fails, -, names⟩ :=
    unclosedAlert.evaluate_failsOnly checked openAccount
  obtain ⟨simple, alsoEvaluated, -, passes, -⟩ :=
    urgentCaseAlert.evaluate_failsOnly rfl urgentAccount
  have told : (unclosedAlert.evaluate openAccount).toOption.map (fun outcome =>
      outcome.passed && outcome.found.any fun m => m.matchedFields.any fun field => !field.matched) =
        some true := by
    decide +kernel
  rw [evaluated] at told
  obtain ⟨passed, failing⟩ := Bool.and_eq_true_iff.mp (Option.some.inj told)
  obtain ⟨m, found, entry⟩ := List.any_eq_true.mp failing
  obtain ⟨field, member, failed⟩ := List.any_eq_true.mp entry
  rw [Bool.not_eq_true'] at failed
  obtain ⟨root, written, refutes⟩ := fails m found field member failed
  cases written
  refine ⟨checked, ⟨outcome, evaluated, ?_, m, found, field, member, failed, refutes⟩, rfl, simple,
    alsoEvaluated, passes fun root _ _ written => nomatch written⟩
  refine names "Case" _ rfl passed
    ⟨"500", ⟨[("Priority", .text "Low"), ("Status", .text "Open")]⟩, []⟩ List.mem_cons_self ?_
  rintro ⟨closed, -⟩
  rw [RuleNode.Holds, if_pos rfl] at closed
  exact absurd closed (by decide)

end Dossier
