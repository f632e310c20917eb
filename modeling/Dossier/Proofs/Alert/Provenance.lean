import Dossier.Proofs.Alert.Merging
import Dossier.Proofs.Alert.SimpleAsTree
import Dossier.Proofs.Alert.Tree
import Dossier.Proofs.Alert.Meaning

/-!
Where matches come from.

A match is about a record of the graph, and each of its entries is accounted for by a part of the
rule which speaks of that record's type and by the values of the record.  Every node of a tree finds
such matches only, and merging keeps them such, because on a graph with distinct keys two matches of
one key are about the same record.
-/

namespace Dossier

/-- The parts of a rule: the tests of its groups, or the nodes of its tree. -/
inductive AlertRule.Asks : AlertRule → RuleNode → Prop where
  | simple {groups : List FilterGroup} {group : FilterGroup} {filter : Filter}
      (member : group ∈ groups) (listed : filter ∈ group.filters) :
      Asks (.simple groups) (.condition ⟨group.object, filter⟩)
  | advanced {root node : RuleNode} (inside : node.Within root) : Asks (.advanced root) node

/-- An entry for a record of a type, by what it is accounted for: a test of that type, with its
result on the record, or an aggregate over it, with what the record has in the shared and in the
distinct field. -/
inductive FieldMatch.Explained (asks : RuleNode → Prop) (object : String) (record : GraphRecord) :
    FieldMatch → Prop where
  | tested {filter : Filter} (asked : asks (.condition ⟨object, filter⟩)) :
      Explained asks object record
        ⟨filter.field, filter.operator.name, filter.value, record.record.value filter.field,
          filter.operator.test (some (record.record.value filter.field)) filter.value⟩
  | shared {duplicates : Duplicates} {criteria : Option RuleNode} {text : String}
      (asked : asks (.aggregate duplicates criteria)) (named : duplicates.object = object)
      (told : record.record.text? duplicates.field = some text) :
      Explained asks object record ⟨duplicates.field, "duplicates", none, .text text, true⟩
  | distinct {duplicates : Duplicates} {criteria : Option RuleNode} {field : String}
      (asked : asks (.aggregate duplicates criteria)) (named : duplicates.object = object)
      (told : duplicates.distinctField = some field) :
      Explained asks object record ⟨field, "distinct", none, record.record.value field, true⟩

namespace Match

/-- A match which is about this record of its type, and says nothing of it without a reason.
Messages are for the account. -/
structure About (asks : RuleNode → Prop) (record : GraphRecord) (m : Match) : Prop where
  recordKey : m.recordKey = record.key
  recordId : m.recordId = record.id?
  explained : ∀ field ∈ m.matchedFields, field.Explained asks m.object record
  message : m.message ≠ none → m.object = EntityType.account

/-- A match about a record which is there. -/
def Grounded (asks : RuleNode → Prop) (graph : AccountGraph) (m : Match) : Prop :=
  ∃ record ∈ graph.records m.object, m.About asks record

end Match

theorem FieldMatch.Explained.mono {asks more : RuleNode → Prop} (among : ∀ node, asks node → more node)
    {object : String} {record : GraphRecord} {field : FieldMatch}
    (explained : field.Explained asks object record) : field.Explained more object record := by
  cases explained with
  | tested asked => exact .tested (among _ asked)
  | shared asked named told => exact .shared (among _ asked) named told
  | distinct asked named told => exact .distinct (among _ asked) named told

/-- An absent field is tested as null. -/
theorem Filter.fieldMatch_explained {asks : RuleNode → Prop} {object : String} {filter : Filter}
    (asked : asks (.condition ⟨object, filter⟩)) (record : GraphRecord) :
    (filter.fieldMatch record).Explained asks object record := by
  have same : filter.test record =
      filter.operator.test (some (record.record.value filter.field)) filter.value := by
    rw [Filter.test, Record.value]
    cases record.record.get? filter.field <;> rfl
  rw [Filter.fieldMatch, same]
  exact .tested asked

namespace Match

variable {asks more : RuleNode → Prop} {graph : AccountGraph} {object : String}
  {record : GraphRecord} {m : Match}

theorem Grounded.mono (among : ∀ node, asks node → more node) (grounded : m.Grounded asks graph) :
    m.Grounded more graph := by
  obtain ⟨record, inside, about⟩ := grounded
  exact ⟨record, inside, about.recordKey, about.recordId,
    fun field member => (about.explained field member).mono among, about.message⟩

theorem ofRecord_grounded (inside : record ∈ graph.records object) {fields : List FieldMatch}
    (explained : ∀ field ∈ fields, field.Explained asks object record) :
    (ofRecord object record fields).Grounded asks graph :=
  ⟨record, inside, rfl, rfl, explained, fun told => absurd rfl told⟩

theorem joinMessages_eq_none {prior next : Option String} :
    joinMessages prior next = none ↔ prior = none ∧ next = none := by
  cases prior with
  | none => cases next <;> simp [joinMessages]
  | some prior =>
      cases next with
      | none => simp [joinMessages]
      | some next =>
          rw [joinMessages]
          split <;> simp

theorem About.absorb {prior next : Match} (named : prior.object = next.object)
    (first : prior.About asks record) (second : next.About asks record) :
    (prior.absorb next).About asks record where
  recordKey := first.recordKey
  recordId := by
    rw [Match.absorb, first.recordId, second.recordId]
    cases record.id? <;> rfl
  explained := by
    intro field member
    rcases mem_addFields member with earlier | later
    · exact first.explained field earlier
    · have explained := second.explained field later
      rw [← named] at explained
      exact explained
  message := by
    intro told
    change joinMessages prior.message next.message ≠ none at told
    rw [ne_eq, joinMessages_eq_none, not_and_or] at told
    rcases told with earlier | later
    · exact first.message earlier
    · exact named.trans (second.message later)

/-- On a graph whose keys are distinct within each type, merged matches are about one record. -/
theorem Grounded.absorb (keyed : ∀ object, ((graph.records object).map (·.key)).Nodup)
    {prior next : Match} (same : prior.key = next.key) (first : prior.Grounded asks graph)
    (second : next.Grounded asks graph) : (prior.absorb next).Grounded asks graph := by
  obtain ⟨named, keys⟩ := Prod.mk.inj same
  obtain ⟨record, inside, about⟩ := first
  obtain ⟨other, otherInside, otherAbout⟩ := second
  rw [← named] at otherInside
  have one : other = record := by
    refine List.inj_on_of_nodup_map (keyed prior.object) otherInside inside ?_
    rw [← about.recordKey, ← otherAbout.recordKey, keys]
  subst one
  exact ⟨other, inside, about.absorb named otherAbout⟩

theorem dedup_grounded (keyed : ∀ object, ((graph.records object).map (·.key)).Nodup)
    {found : List Match} (grounded : ∀ m ∈ found, m.Grounded asks graph) :
    ∀ m ∈ dedup found, m.Grounded asks graph :=
  forall_mem_dedup (fun _ _ => Grounded.absorb keyed) grounded

end Match

theorem AccountGraph.mem_records_account {graph : AccountGraph} :
    graph.account ∈ graph.records EntityType.account := by
  simp [records]

theorem Quantifier.summary_grounded (quantifier : Quantifier) (asks : RuleNode → Prop)
    (graph : AccountGraph) (object : String) (count passing : Nat) :
    (quantifier.summary graph object count passing).Grounded asks graph :=
  ⟨graph.account, AccountGraph.mem_records_account, rfl, rfl,
    fun _ member => absurd member List.not_mem_nil, fun _ => rfl⟩

/-- A group which passes finds what its passing children find, and no other group finds anything. -/
theorem Logic.mem_verdict {logic : Logic} {verdicts : List Verdict} {m : Match} :
    m ∈ (logic.verdict verdicts).found ↔
      (logic.verdict verdicts).passed = true ∧
        ∃ verdict ∈ verdicts, verdict.passed = true ∧ m ∈ verdict.found := by
  cases logic with
  | and =>
      unfold Logic.verdict
      simp only
      split
      · rename_i held
        have passed := List.all_eq_true.mp held
        simp only [List.mem_flatMap, true_and]
        exact exists_congr fun verdict => and_congr_right fun member => by simp [passed verdict member]
      · simp
  | or =>
      simp only [Logic.verdict, List.mem_flatMap, List.mem_filter, and_assoc]
      refine ⟨fun found => ⟨?_, found⟩, And.right⟩
      obtain ⟨verdict, member, passed, -⟩ := found
      simpa using ⟨verdict, member, passed⟩

/-- A sighting speaks for a quantifier which holds by passing, or for `notAll` by failing. -/
def Sighting.SpeaksFor (quantifier : Quantifier) (sighting : Sighting) : Prop :=
  sighting.passed = true ∨ quantifier = .notAll ∧ sighting.passed = false

/-- A scope finds what its children find in records which speak for it, names records which fail, or
sums up. -/
theorem Quantifier.mem_verdict {quantifier : Quantifier} {graph : AccountGraph} {object : String}
    {sightings : List Sighting} {m : Match}
    (found : m ∈ (quantifier.verdict graph object sightings).found) :
    (∃ sighting ∈ sightings, sighting.SpeaksFor quantifier ∧
        (m ∈ sighting.found ∨ m = .ofRecord object sighting.record [])) ∨
      ∃ count passing, m = quantifier.summary graph object count passing := by
  have evident : m ∈ quantifier.evidence object sightings →
      ∃ sighting ∈ sightings, sighting.SpeaksFor quantifier ∧
        (m ∈ sighting.found ∨ m = .ofRecord object sighting.record []) := by
    have passing : m ∈ (sightings.filter (·.passed)).flatMap (·.found) →
        ∃ sighting ∈ sightings, sighting.SpeaksFor quantifier ∧
          (m ∈ sighting.found ∨ m = .ofRecord object sighting.record []) := by
      intro there
      obtain ⟨sighting, kept, told⟩ := List.mem_flatMap.mp there
      obtain ⟨member, passed⟩ := List.mem_filter.mp kept
      exact ⟨sighting, member, .inl passed, .inl told⟩
    cases quantifier with
    | any => exact passing
    | all => exact passing
    | none => exact fun there => absurd there List.not_mem_nil
    | notAll =>
        intro there
        obtain ⟨sighting, kept, told⟩ := List.mem_flatMap.mp there
        obtain ⟨member, failed⟩ := List.mem_filter.mp kept
        refine ⟨sighting, member, .inr ⟨rfl, by simpa using failed⟩, ?_⟩
        rw [Sighting.failure] at told
        split at told
        · exact .inl told
        · exact (List.mem_cons.mp told).symm
  simp only [Quantifier.verdict] at found
  split at found
  · split at found
    · exact .inr ⟨_, _, List.mem_singleton.mp found⟩
    · exact .inl (evident found)
  · contradiction

/-- Out of context a condition finds records which pass, and in context the record there. -/
theorem Condition.mem_verdict {tested : Condition} {context : Context} {m : Match}
    (found : m ∈ (tested.verdict context).found) :
    ∃ record, m = .ofRecord tested.object record [tested.filter.fieldMatch record] ∧
      (record ∈ context.graph.records tested.object ∧ tested.filter.test record = true ∧
          (tested.verdict context).passed = true ∨
        tested.object = context.object ∧ record = context.record ∧
          (tested.verdict context).passed = tested.filter.test record) := by
  unfold Condition.verdict at found ⊢
  split at found
  · rename_i same
    have own : tested.object = context.object := eq_of_beq same
    rw [if_pos same, own]
    exact ⟨context.record, List.mem_singleton.mp found, .inr ⟨rfl, rfl, rfl⟩⟩
  · rename_i other
    rw [if_neg other]
    obtain ⟨record, kept, rfl⟩ := List.mem_map.mp found
    obtain ⟨listed, test⟩ := List.mem_filter.mp kept
    refine ⟨record, rfl, .inl ⟨listed, test, ?_⟩⟩
    exact congrArg (!·) (List.isEmpty_eq_false_iff.mpr (List.ne_nil_of_mem kept))

/-- An aggregate finds records which share a text. -/
theorem Duplicates.mem_verdict {duplicates : Duplicates} {records : List GraphRecord} {m : Match}
    (found : m ∈ (duplicates.verdict records).found) :
    ∃ text, ∃ record ∈ duplicates.sharing records text, m = duplicates.recordMatch text record := by
  obtain ⟨⟨text, group⟩, kept, listed⟩ := List.mem_flatMap.mp found
  obtain ⟨record, member, rfl⟩ := List.mem_map.mp listed
  obtain ⟨-, -, rfl⟩ := Duplicates.mem_groups.mp (List.mem_filter.mp kept).1
  exact ⟨text, record, member, rfl⟩

namespace RuleNode

variable {children : List RuleNode} {context : Context} {m : Match}

/-- What a group finds is found by a child which passes. -/
theorem mem_group {logic : Logic}
    (found : m ∈ ((RuleNode.group logic children).verdict context).found) :
    ∃ child ∈ children,
      (child.verdict context).passed = true ∧ m ∈ (child.verdict context).found := by
  rw [verdict, verdicts_eq_map] at found
  obtain ⟨-, verdict, listed, passed, there⟩ := Logic.mem_verdict.mp found
  obtain ⟨child, member, rfl⟩ := List.mem_map.mp listed
  exact ⟨child, member, passed, there⟩

/-- What a scope finds is found by a child in a record which speaks for the scope, or is about that
record alone, or sums up. -/
theorem mem_scope {object : String} {quantifier : Quantifier}
    (found : m ∈ ((RuleNode.scope object quantifier children).verdict context).found) :
    (∃ record ∈ context.graph.records object,
      Sighting.SpeaksFor quantifier
          ⟨record, verdicts children { context with object, record }⟩ ∧
        ((∃ child ∈ children, m ∈ (child.verdict { context with object, record }).found) ∨
          m = .ofRecord object record [])) ∨
      ∃ count passing, m = quantifier.summary context.graph object count passing := by
  rw [verdict] at found
  rcases Quantifier.mem_verdict found with ⟨sighting, seen, speaks, told⟩ | summary
  · obtain ⟨record, listed, rfl⟩ := List.mem_map.mp seen
    refine .inl ⟨record, listed, speaks, told.imp_left fun told => ?_⟩
    rw [Sighting.found, verdicts_eq_map] at told
    obtain ⟨verdict, below, there⟩ := List.mem_flatMap.mp told
    obtain ⟨child, member, rfl⟩ := List.mem_map.mp below
    exact ⟨child, member, there⟩
  · exact .inr summary

/-- The evidence of a condition is what the condition tells of the record in context, or of records
which pass it. -/
theorem condition_grounded (tested : Condition) (context : Context)
    (inside : context.record ∈ context.graph.records context.object) :
    ∀ m ∈ (tested.verdict context).found,
      m.Grounded (·.Within (.condition tested)) context.graph := by
  intro m found
  obtain ⟨record, rfl, told⟩ := Condition.mem_verdict found
  have there : record ∈ context.graph.records tested.object := by
    rcases told with ⟨listed, -⟩ | ⟨own, rfl, -⟩
    · exact listed
    · rw [own]
      exact inside
  refine Match.ofRecord_grounded there (List.forall_mem_singleton.mpr ?_)
  refine Filter.fieldMatch_explained ?_ record
  exact .root

theorem aggregate_grounded (duplicates : Duplicates) (criteria : Option RuleNode)
    (graph : AccountGraph) {records : List GraphRecord}
    (inside : ∀ record ∈ records, record ∈ graph.records duplicates.object) :
    ∀ m ∈ (duplicates.verdict records).found,
      m.Grounded (·.Within (.aggregate duplicates criteria)) graph := by
  intro m found
  obtain ⟨text, record, member, rfl⟩ := Duplicates.mem_verdict found
  obtain ⟨among, told⟩ := List.mem_filter.mp member
  refine Match.ofRecord_grounded (inside record among) (List.forall_mem_cons.mpr ⟨?_, ?_⟩)
  · exact .shared Within.root rfl (eq_of_beq told)
  · intro field shown
    obtain ⟨name, asked, rfl⟩ := Option.map_eq_some_iff.mp (Option.mem_toList.mp shown)
    exact .distinct Within.root rfl asked

/-- Whatever a node finds in a context of the graph is about records of the graph, for reasons which
are within the node. -/
theorem verdict_grounded (node : RuleNode) (context : Context)
    (inside : context.record ∈ context.graph.records context.object) :
    ∀ m ∈ (node.verdict context).found, m.Grounded (·.Within node) context.graph := by
  induction node using induct generalizing context with
  | condition tested => exact condition_grounded tested context inside
  | group logic children ih =>
      intro m found
      obtain ⟨child, member, -, there⟩ := mem_group found
      exact (ih child member context inside m there).mono fun _ within => .group member within
  | scope object quantifier children ih =>
      intro m found
      rcases mem_scope found with ⟨record, there, -, ⟨child, member, told⟩ | rfl⟩ | ⟨count, passing, rfl⟩
      · have grounded := ih child member { context with object, record } there m told
        exact grounded.mono fun _ within => .scope member within
      · exact Match.ofRecord_grounded there fun _ member => absurd member List.not_mem_nil
      · exact quantifier.summary_grounded ..
  | aggregate duplicates criteria ih =>
      exact aggregate_grounded duplicates criteria context.graph fun record kept =>
        (List.mem_filter.mp kept).1

end RuleNode

/-- What the groups find is about records of the graph, for filters of the groups. -/
theorem FilterGroup.verdict_grounded (groups : List FilterGroup) (graph : AccountGraph) :
    ∀ m ∈ (FilterGroup.verdict groups graph).found,
      m.Grounded (AlertRule.Asks (.simple groups)) graph := by
  intro m found
  obtain ⟨object, -, record, satisfies, rfl⟩ := mem_found.mp found
  refine Match.ofRecord_grounded (List.mem_filter.mp satisfies).1 (List.forall_mem_map.mpr ?_)
  intro filter gathered
  obtain ⟨group, member, rfl, written⟩ := mem_filtersOf.mp gathered
  exact Filter.fieldMatch_explained (.simple member written) record

theorem AlertRule.verdict_grounded (rule : AlertRule) (graph : AccountGraph) :
    ∀ m ∈ (rule.verdict graph).found, m.Grounded rule.Asks graph := by
  cases rule with
  | simple groups => exact FilterGroup.verdict_grounded groups graph
  | advanced root =>
      intro m found
      refine (root.verdict_grounded _ AccountGraph.mem_records_account m found).mono ?_
      exact fun _ within => .advanced within

theorem Outcome.ofVerdict_found {verdict : Verdict} (passed : verdict.passed = true) :
    (Outcome.ofVerdict verdict).found = Match.dedup verdict.found :=
  if_pos passed

theorem Outcome.ofVerdict_nothing {verdict : Verdict} (failed : verdict.passed = false) :
    (Outcome.ofVerdict verdict).found = [] := by
  rw [Outcome.ofVerdict, if_neg (by simp [failed])]

/-- Where it passes, an outcome names what the verdict does, each of it once. -/
theorem Outcome.ofVerdict_keys {verdict : Verdict} (passed : verdict.passed = true) :
    (Outcome.ofVerdict verdict).found.map Match.key = distinct (verdict.found.map Match.key) := by
  rw [Outcome.ofVerdict_found passed, Match.map_key_dedup]

/-- The matches of an alert are about records of the graph, one for each record and none without a
reason in the rule; an alert which does not pass has none. -/
theorem AlertDefinition.evaluate_grounded (alert : AlertDefinition)
    (checked : alert.rule.check = .ok ()) (graph : AccountGraph)
    (keyed : ∀ object, ((graph.records object).map (·.key)).Nodup) :
    ∃ outcome, alert.evaluate graph = .ok outcome ∧
      (∀ m ∈ outcome.found, m.Grounded alert.rule.Asks graph) ∧
      (outcome.found.map Match.key).Nodup ∧
      (outcome.passed = false → outcome.found = []) := by
  have grounded := alert.rule.verdict_grounded graph
  refine ⟨Outcome.ofVerdict (alert.rule.verdict graph), by rw [evaluate, checked], ?_⟩
  simp only [Outcome.ofVerdict]
  cases (alert.rule.verdict graph).passed with
  | false => simp
  | true =>
      refine ⟨Match.dedup_grounded keyed grounded, ?_, by simp⟩
      rw [if_pos rfl, Match.map_key_dedup]
      exact nodup_distinct _

theorem AccountGraph.keyed_of_objects {graph : AccountGraph}
    (keyed : ∀ entry ∈ graph.objects, (entry.2.map (·.key)).Nodup) (object : String) :
    ((graph.records object).map (·.key)).Nodup := by
  rw [records]
  split
  · exact List.nodup_singleton _
  · cases found : graph.related.lookup object with
    | none => exact .nil
    | some records => exact keyed (object, records) (List.mem_cons_of_mem _ (Table.mem_of_lookup found))

/-- Not all cases are closed, no contact is without an address, and two cases of one priority differ
in their status. -/
def openCases : RuleNode :=
  .group .and [
    .scope "Case" .notAll [.condition ⟨"Case", ⟨"Status", .equals, some "Closed"⟩⟩],
    .scope "Contact" .none [.condition ⟨"Contact", ⟨"Email", .blank, none⟩⟩],
    .aggregate ⟨"Case", "Priority", 2, some "Status"⟩ none]

def openCasesAlert : AlertDefinition :=
  ⟨"open", "Open cases", none, .advanced, .advanced openCases⟩

def openAccount : AccountGraph :=
  AccountGraph.make "001" ⟨"001", Record.empty, []⟩ [
    ("Contact", [⟨"003", ⟨[("Email", .text "a@b.c")]⟩, []⟩]),
    ("Case", [
      ⟨"500", ⟨[("Priority", .text "Low"), ("Status", .text "Open")]⟩, []⟩,
      ⟨"501", ⟨[("Priority", .text "Low"), ("Status", .text "Closed")]⟩, []⟩])]

/-- The open case is found by two parts of the rule, the closed one and the account by one each. -/
theorem evaluate_openCases :
    openCasesAlert.rule.check = .ok () ∧
      (∀ object, ((openAccount.records object).map (·.key)).Nodup) ∧
      ∃ outcome, openCasesAlert.evaluate openAccount = .ok outcome ∧
        outcome.found.map Match.key = [("Case", "500"), ("Account", "001"), ("Case", "501")] ∧
        ∀ m ∈ outcome.found, m.Grounded openCasesAlert.rule.Asks openAccount := by
  have checked : openCasesAlert.rule.check = .ok () := by rfl
  have keyed : ∀ object, ((openAccount.records object).map (·.key)).Nodup :=
    AccountGraph.keyed_of_objects (by decide +kernel)
  obtain ⟨outcome, evaluated, grounded, -⟩ :=
    openCasesAlert.evaluate_grounded checked openAccount keyed
  have keys : (openCasesAlert.evaluate openAccount).toOption.map
      (fun outcome => outcome.found.map Match.key) =
        some [("Case", "500"), ("Account", "001"), ("Case", "501")] := by
    decide +kernel
  rw [evaluated] at keys
  exact ⟨checked, keyed, outcome, evaluated, Option.some.inj keys, grounded⟩

end Dossier
