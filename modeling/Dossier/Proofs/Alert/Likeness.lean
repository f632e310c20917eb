import Dossier.Proofs.Alert.Merging
import Dossier.Proofs.Alert.Provenance
import Dossier.Proofs.Matched

/-!
Verdicts on graphs which are alike.

A rule reads the fields which its parts refer to, and no more of a record than its key beside them.
Whatever else the records of two graphs have, and in whatever order they come, the rule passes on
both or on none of them, and what it finds is about records of the same keys.
-/

namespace Dossier

/-- A part of a rule reads a field of the records of a type. -/
def RuleNode.Reads (object field : String) : RuleNode → Prop
  | .condition tested => tested.object = object ∧ tested.filter.field = field
  | .aggregate duplicates _ =>
      duplicates.object = object ∧
        (duplicates.field = field ∨ duplicates.distinctField = some field)
  | .group _ _ | .scope _ _ _ => False

/-- Some part of the rule reads the field. -/
def AlertRule.Reads (rule : AlertRule) (object field : String) : Prop :=
  ∃ part, rule.Asks part ∧ part.Reads object field

/-- Records of one key which have the same in every shared field. -/
structure GraphRecord.Alike (shared : String → Prop) (record other : GraphRecord) : Prop where
  key : record.key = other.key
  get? : ∀ field, shared field → record.record.get? field = other.record.get? field

/-- Graphs of which, up to their order, the records of every type are alike. -/
structure AccountGraph.Alike (shared : String → String → Prop) (graph other : AccountGraph) :
    Prop where
  account : graph.account.Alike (shared EntityType.account) other.account
  records : ∀ object,
    Matched (GraphRecord.Alike (shared object)) (graph.records object) (other.records object)

structure Context.Alike (shared : String → String → Prop) (context other : Context) : Prop where
  graph : context.graph.Alike shared other.graph
  object : context.object = other.object
  record : context.record.Alike (shared context.object) other.record

/-- Matches about the same records. -/
def Match.SameKeys (found others : List Match) : Prop :=
  ∀ key, key ∈ found.map Match.key ↔ key ∈ others.map Match.key

structure Verdict.Alike (verdict other : Verdict) : Prop where
  passed : verdict.passed = other.passed
  found : Match.SameKeys verdict.found other.found

namespace Match.SameKeys

variable {found others : List Match}

theorem isEmpty_eq (same : SameKeys found others) : found.isEmpty = others.isEmpty := by
  have nothing : ∀ listed : List Match,
      listed.isEmpty = true ↔ ∀ key, key ∉ listed.map Match.key := by
    intro listed
    rw [List.isEmpty_iff, ← List.eq_nil_iff_forall_not_mem, List.map_eq_nil_iff]
  rw [Bool.eq_iff_iff, nothing, nothing]
  exact forall_congr' fun key => not_congr (same key)

theorem any_eq (same : SameKeys found others) (key : String × String) :
    (found.any fun m => m.key == key) = others.any fun m => m.key == key := by
  have listed : ∀ listed : List Match,
      (listed.any fun m => m.key == key) = true ↔ key ∈ listed.map Match.key := by
    simp
  rw [Bool.eq_iff_iff, listed, listed]
  exact same key

theorem flatMap {α β : Type} {related : α → β → Prop} {items : List α} {more : List β}
    {f : α → List Match} {g : β → List Match} (matched : Matched related items more)
    (each : ∀ item other, related item other → SameKeys (f item) (g other)) :
    SameKeys (items.flatMap f) (more.flatMap g) := by
  intro key
  simp only [List.map_flatMap, List.mem_flatMap]
  constructor
  · rintro ⟨item, member, there⟩
    obtain ⟨other, also, same⟩ := matched.mem_left member
    exact ⟨other, also, (each item other same key).mp there⟩
  · rintro ⟨other, member, there⟩
    obtain ⟨item, also, same⟩ := matched.mem_right member
    exact ⟨item, also, (each item other same key).mpr there⟩

end Match.SameKeys

namespace GraphRecord.Alike

variable {shared : String → Prop} {record other : GraphRecord}

theorem mono (alike : record.Alike shared other) {fewer : String → Prop}
    (narrows : ∀ field, fewer field → shared field) : record.Alike fewer other :=
  ⟨alike.key, fun field read => alike.get? field (narrows field read)⟩

theorem text?_eq (alike : record.Alike shared other) {field : String} (read : shared field) :
    record.record.text? field = other.record.text? field := by
  rw [Record.text?, Record.text?, alike.get? field read]

theorem test_eq (alike : record.Alike shared other) {filter : Filter} (read : shared filter.field) :
    filter.test record = filter.test other := by
  rw [Filter.test, Filter.test, alike.get? filter.field read]

theorem ofRecord_key (alike : record.Alike shared other) (object : String)
    (fields more : List FieldMatch) :
    (Match.ofRecord object record fields).key = (Match.ofRecord object other more).key :=
  congrArg (object, ·) alike.key

end GraphRecord.Alike

variable {shared : String → String → Prop}

theorem AccountGraph.Alike.mono {graph other : AccountGraph} (alike : graph.Alike shared other)
    {fewer : String → String → Prop}
    (narrows : ∀ object field, fewer object field → shared object field) :
    graph.Alike fewer other where
  account := GraphRecord.Alike.mono alike.account (narrows EntityType.account)
  records object := (alike.records object).imp fun _ _ same =>
    GraphRecord.Alike.mono same (narrows object)

/-- Of records which are alike, a match each. -/
theorem Match.sameKeys_map {related : String → Prop} {records others : List GraphRecord}
    (matched : Matched (GraphRecord.Alike related) records others) (object : String)
    (fields more : GraphRecord → List FieldMatch) :
    Match.SameKeys (records.map fun record => Match.ofRecord object record (fields record))
      (others.map fun record => Match.ofRecord object record (more record)) := by
  intro key
  simp only [List.map_map, List.mem_map, Function.comp_apply]
  constructor
  · rintro ⟨record, member, rfl⟩
    obtain ⟨other, there, alike⟩ := matched.mem_left member
    exact ⟨other, there, (alike.ofRecord_key object _ _).symm⟩
  · rintro ⟨other, member, rfl⟩
    obtain ⟨record, there, alike⟩ := matched.mem_right member
    exact ⟨record, there, alike.ofRecord_key object _ _⟩

theorem Condition.verdict_alike {tested : Condition} {context other : Context}
    (alike : context.Alike shared other) (read : shared tested.object tested.filter.field) :
    (tested.verdict context).Alike (tested.verdict other) := by
  unfold Condition.verdict
  rw [← alike.object]
  by_cases own : tested.object = context.object
  · have known : context.record.Alike (shared tested.object) other.record := own ▸ alike.record
    simp only [own, BEq.rfl, if_true]
    refine ⟨known.test_eq read, fun key => ?_⟩
    simp [known.ofRecord_key context.object _ [tested.filter.fieldMatch other.record]]
  · have passing : Matched (GraphRecord.Alike (shared tested.object))
        ((context.graph.records tested.object).filter tested.filter.test)
        ((other.graph.records tested.object).filter tested.filter.test) :=
      (alike.graph.records tested.object).filter fun _ _ same => same.test_eq read
    have found := Match.sameKeys_map passing tested.object
      (fun record => [tested.filter.fieldMatch record])
      fun record => [tested.filter.fieldMatch record]
    simp only [beq_iff_eq, own, if_false]
    refine ⟨?_, found⟩
    exact congrArg (!·) passing.isEmpty_eq

theorem Logic.verdict_alike (logic : Logic) {verdicts others : List Verdict}
    (alike : List.Forall₂ Verdict.Alike verdicts others) :
    (logic.verdict verdicts).Alike (logic.verdict others) := by
  have matched := Matched.of_forall₂ alike
  have passed : ∀ verdict other : Verdict, verdict.Alike other → verdict.passed = other.passed :=
    fun _ _ same => same.passed
  cases logic with
  | and =>
      unfold Logic.verdict
      simp only [matched.all_eq passed]
      split
      · exact ⟨rfl, .flatMap matched fun _ _ same => same.found⟩
      · exact ⟨rfl, fun _ => .rfl⟩
  | or =>
      have passing := matched.filter passed
      exact ⟨congrArg (!·) passing.isEmpty_eq, .flatMap passing fun _ _ same => same.found⟩

/-- Sightings of records of one key, to the same effect. -/
structure Sighting.Alike (sighting other : Sighting) : Prop where
  key : sighting.record.key = other.record.key
  passed : sighting.passed = other.passed
  found : Match.SameKeys sighting.found other.found

theorem Sighting.Alike.failure {sighting other : Sighting} (alike : sighting.Alike other)
    (object : String) : Match.SameKeys (sighting.failure object) (other.failure object) := by
  unfold Sighting.failure
  rw [← alike.key, alike.found.any_eq]
  split
  · exact alike.found
  · intro key
    have named : (Match.ofRecord object sighting.record []).key =
        (Match.ofRecord object other.record []).key := congrArg (object, ·) alike.key
    rw [List.map_cons, List.map_cons, List.mem_cons, List.mem_cons, named, alike.found key]

namespace Quantifier

theorem evidence_alike (quantifier : Quantifier) (object : String)
    {sightings others : List Sighting} (matched : Matched Sighting.Alike sightings others) :
    Match.SameKeys (quantifier.evidence object sightings) (quantifier.evidence object others) := by
  have passing : Matched Sighting.Alike (sightings.filter (·.passed)) (others.filter (·.passed)) :=
    matched.filter fun _ _ same => same.passed
  have failing : Matched Sighting.Alike (sightings.filter fun sighting => !sighting.passed)
      (others.filter fun sighting => !sighting.passed) :=
    matched.filter fun _ _ same => congrArg (!·) same.passed
  cases quantifier with
  | any => exact .flatMap passing fun _ _ same => same.found
  | all => exact .flatMap passing fun _ _ same => same.found
  | none => exact fun _ => .rfl
  | notAll => exact .flatMap failing fun _ _ same => same.failure object

theorem verdict_alike (quantifier : Quantifier) {graph other : AccountGraph}
    (account : graph.account.key = other.account.key) (object : String)
    {sightings others : List Sighting} (matched : Matched Sighting.Alike sightings others) :
    (quantifier.verdict graph object sightings).Alike (quantifier.verdict other object others) := by
  have passing : Matched Sighting.Alike (sightings.filter (·.passed)) (others.filter (·.passed)) :=
    matched.filter fun _ _ same => same.passed
  have evidence := quantifier.evidence_alike object matched
  unfold Quantifier.verdict
  simp only [matched.length_eq, passing.length_eq, evidence.isEmpty_eq]
  split
  · refine ⟨rfl, ?_⟩
    simp only
    split
    · intro key
      have named : ∀ count passing, (quantifier.summary graph object count passing).key =
          (quantifier.summary other object count passing).key :=
        fun _ _ => congrArg (EntityType.account, ·) account
      simp [named]
    · exact evidence
  · exact ⟨rfl, fun _ => .rfl⟩

end Quantifier

namespace Duplicates

variable {duplicates : Duplicates} {read : String → Prop} {records others : List GraphRecord}

theorem mem_found {key : String × String} :
    key ∈ (duplicates.verdict records).found.map Match.key ↔
      ∃ text, Text.blank text = false ∧
        duplicates.qualifies (duplicates.sharing records text) = true ∧
          ∃ record ∈ duplicates.sharing records text, (duplicates.object, record.key) = key := by
  simp only [verdict, List.map_flatMap, List.mem_flatMap, List.mem_filter, List.map_map,
    List.mem_map, Function.comp_apply, Prod.exists, mem_groups]
  refine exists_congr fun text => ?_
  constructor
  · rintro ⟨_, ⟨⟨-, shown, rfl⟩, enough⟩, record, member, rfl⟩
    exact ⟨shown, enough, record, member, rfl⟩
  · rintro ⟨shown, enough, record, member, rfl⟩
    exact ⟨_, ⟨⟨List.ne_nil_of_mem member, shown, rfl⟩, enough⟩, record, member, rfl⟩

section Matched

variable (matched : Matched (GraphRecord.Alike read) records others)

include matched

theorem sharing_matched (field : read duplicates.field) (text : String) :
    Matched (GraphRecord.Alike read) (duplicates.sharing records text)
      (duplicates.sharing others text) :=
  matched.filter fun _ _ alike => by rw [alike.text?_eq field]

theorem tells_congr {field : String} (known : read field) (text : String) :
    Tells records field text ↔ Tells others field text := by
  refine and_congr_right fun _ => ?_
  constructor
  · rintro ⟨record, member, told⟩
    obtain ⟨other, there, alike⟩ := matched.mem_left member
    exact ⟨other, there, alike.text?_eq known ▸ told⟩
  · rintro ⟨other, member, told⟩
    obtain ⟨record, there, alike⟩ := matched.mem_right member
    exact ⟨record, there, (alike.text?_eq known).trans told⟩

theorem qualifies_eq (distinctField : ∀ field, duplicates.distinctField = some field → read field) :
    duplicates.qualifies records = duplicates.qualifies others := by
  rw [Bool.eq_iff_iff, qualifies_iff, qualifies_iff, matched.length_eq]
  refine and_congr_right fun _ => forall₂_congr fun field asked => ?_
  simp only [tells_congr matched (distinctField field asked)]

theorem verdict_alike (field : read duplicates.field)
    (distinctField : ∀ field, duplicates.distinctField = some field → read field) :
    (duplicates.verdict records).Alike (duplicates.verdict others) := by
  have found : Match.SameKeys (duplicates.verdict records).found (duplicates.verdict others).found := by
    intro key
    rw [mem_found, mem_found]
    refine exists_congr fun text => and_congr_right fun _ => ?_
    have sharing := sharing_matched matched field text
    rw [qualifies_eq sharing distinctField]
    refine and_congr_right fun _ => ?_
    constructor
    · rintro ⟨record, member, rfl⟩
      obtain ⟨other, there, alike⟩ := sharing.mem_left member
      exact ⟨other, there, by rw [alike.key]⟩
    · rintro ⟨other, member, rfl⟩
      obtain ⟨record, there, alike⟩ := sharing.mem_right member
      exact ⟨record, there, by rw [alike.key]⟩
  exact ⟨congrArg (!·) found.isEmpty_eq, found⟩

end Matched

end Duplicates

namespace RuleNode

theorem verdicts_alike {children : List RuleNode} {context other : Context}
    (each : ∀ child ∈ children, (child.verdict context).Alike (child.verdict other)) :
    List.Forall₂ Verdict.Alike (verdicts children context) (verdicts children other) := by
  rw [verdicts_eq_map, verdicts_eq_map, List.forall₂_map_left_iff, List.forall₂_map_right_iff,
    List.forall₂_same]
  exact each

theorem sighting_alike {record other : GraphRecord} (key : record.key = other.key)
    {verdicts others : List Verdict} (alike : List.Forall₂ Verdict.Alike verdicts others) :
    Sighting.Alike ⟨record, verdicts⟩ ⟨other, others⟩ := by
  have matched := Matched.of_forall₂ alike
  refine ⟨key, matched.all_eq fun _ _ same => same.passed, ?_⟩
  exact .flatMap matched fun _ _ same => same.found

/-- In contexts which are alike, the verdicts on a node are alike. -/
theorem verdict_alike {node : RuleNode} {context other : Context} (alike : context.Alike shared other)
    (read : ∀ part : RuleNode, part.Within node → ∀ object field, part.Reads object field →
      shared object field) :
    (node.verdict context).Alike (node.verdict other) := by
  induction node using induct generalizing context other with
  | condition tested =>
      exact Condition.verdict_alike alike (read _ .root _ _ ⟨rfl, rfl⟩)
  | group logic children ih =>
      rw [verdict, verdict]
      refine logic.verdict_alike (verdicts_alike fun child member => ?_)
      exact ih child member alike fun part inside => read part (.group member inside)
  | scope object quantifier children ih =>
      rw [verdict, verdict]
      refine quantifier.verdict_alike alike.graph.account.key object
        ((alike.graph.records object).map fun record twin same => ?_)
      refine sighting_alike same.key (verdicts_alike fun child member => ?_)
      exact ih child member ⟨alike.graph, rfl, same⟩ fun part inside =>
        read part (.scope member inside)
  | aggregate duplicates criteria ih =>
      have own := read _ .root duplicates.object
      rw [verdict, verdict]
      refine Duplicates.verdict_alike ((alike.graph.records duplicates.object).filter
        fun record twin same => ?_) (own _ ⟨rfl, .inl rfl⟩) fun field asked =>
          own field ⟨rfl, .inr asked⟩
      cases criteria with
      | none => rfl
      | some root =>
          have placed : Context.Alike shared { context with object := duplicates.object, record }
              { other with object := duplicates.object, record := twin } :=
            ⟨alike.graph, rfl, same⟩
          refine (ih root rfl placed fun part inside => ?_).passed
          exact read part (.criteria inside)

end RuleNode

namespace FilterGroup

theorem satisfying_matched {graph other : AccountGraph} (alike : graph.Alike shared other)
    {object : String} {filters : List Filter} (read : ∀ filter ∈ filters, shared object filter.field) :
    Matched (GraphRecord.Alike (shared object)) (satisfying graph object filters)
      (satisfying other object filters) := by
  refine (alike.records object).filter fun record twin same => ?_
  rw [Bool.eq_iff_iff, List.all_eq_true, List.all_eq_true]
  exact forall₂_congr fun filter member => by rw [same.test_eq (read filter member)]

theorem verdict_alike {groups : List FilterGroup} {graph other : AccountGraph}
    (alike : graph.Alike shared other)
    (read : ∀ group ∈ groups, ∀ filter ∈ group.filters, shared group.object filter.field) :
    (FilterGroup.verdict groups graph).Alike (FilterGroup.verdict groups other) := by
  let evidence (graph : AccountGraph) (object : String) : List Match :=
    (satisfying graph object (filtersOf groups object)).map fun record =>
      Match.ofRecord object record ((filtersOf groups object).map (·.fieldMatch record))
  have matched : Matched (fun object twin => Match.SameKeys (evidence graph object)
      (evidence other twin)) (objects groups) (objects groups) := by
    refine Matched.of_forall₂ (List.forall₂_same.mpr fun object _ => ?_)
    refine Match.sameKeys_map (satisfying_matched alike fun filter gathered => ?_) object _ _
    obtain ⟨group, member, rfl, listed⟩ := mem_filtersOf.mp gathered
    exact read group member filter listed
  have shown : ∀ graph : AccountGraph, FilterGroup.verdict groups graph =
      ⟨!(objects groups).isEmpty && (objects groups).all fun object => !(evidence graph object).isEmpty,
        (objects groups).flatMap (evidence graph)⟩ := by
    intro graph
    simp only [FilterGroup.verdict, byObject_eq, List.map_map, List.isEmpty_map, List.all_map]
    rfl
  have found : ((objects groups).all fun object => !(evidence graph object).isEmpty) =
      (objects groups).all fun object => !(evidence other object).isEmpty :=
    matched.all_eq fun _ _ same => congrArg (!·) same.isEmpty_eq
  rw [shown, shown, found]
  exact ⟨rfl, .flatMap matched fun _ _ same => same⟩

end FilterGroup

theorem AlertRule.verdict_alike {rule : AlertRule} {graph other : AccountGraph}
    (alike : graph.Alike shared other)
    (read : ∀ object field, rule.Reads object field → shared object field) :
    (rule.verdict graph).Alike (rule.verdict other) := by
  cases rule with
  | simple groups =>
      refine FilterGroup.verdict_alike alike fun group member filter listed => ?_
      exact read _ _ ⟨_, .simple member listed, rfl, rfl⟩
  | advanced root =>
      refine RuleNode.verdict_alike ⟨alike, rfl, alike.account⟩ fun part inside object field reads => ?_
      exact read _ _ ⟨part, .advanced inside, reads⟩

structure Outcome.Alike (outcome other : Outcome) : Prop where
  passed : outcome.passed = other.passed
  found : Match.SameKeys outcome.found other.found

theorem Outcome.ofVerdict_alike {verdict other : Verdict} (alike : verdict.Alike other) :
    (Outcome.ofVerdict verdict).Alike (Outcome.ofVerdict other) := by
  refine ⟨alike.passed, ?_⟩
  unfold Outcome.ofVerdict
  rw [alike.passed]
  split
  · intro key
    rw [Match.map_key_dedup, Match.map_key_dedup, mem_distinct, mem_distinct]
    exact alike.found key
  · exact fun _ => .rfl

/-- An outcome has one match for each record that it names. -/
theorem Outcome.found_unique (verdict : Verdict) :
    ((Outcome.ofVerdict verdict).found.map Match.key).Nodup := by
  cases passed : verdict.passed with
  | false =>
      rw [Outcome.ofVerdict_nothing passed]
      exact .nil
  | true =>
      rw [Outcome.ofVerdict_keys passed]
      exact nodup_distinct _

/-- Graphs of one account which list the records of each type in whatever order. -/
structure AccountGraph.Reordered (graph other : AccountGraph) : Prop where
  account : graph.account = other.account
  records : ∀ object, (graph.records object).Perm (other.records object)

/-- Whatever of a record is read, it is the same on a graph and on one in another order. -/
theorem AccountGraph.Reordered.alike {graph other : AccountGraph} (reordered : graph.Reordered other)
    (shared : String → String → Prop) : graph.Alike shared other where
  account := ⟨congrArg _ reordered.account, fun _ _ => by rw [reordered.account]⟩
  records object := .of_perm (reordered.records object) fun _ => ⟨rfl, fun _ _ => rfl⟩

/-- The order of records does not matter: an alert passes on both graphs or on none of them, and its
matches name the same records, each of them once. -/
theorem AlertDefinition.evaluate_reordered (alert : AlertDefinition)
    (checked : alert.rule.check = .ok ()) {graph other : AccountGraph}
    (reordered : graph.Reordered other) :
    ∃ outcome twin, alert.evaluate graph = .ok outcome ∧ alert.evaluate other = .ok twin ∧
      outcome.passed = twin.passed ∧
      (outcome.found.map Match.key).Perm (twin.found.map Match.key) := by
  have alike : (Outcome.ofVerdict (alert.rule.verdict graph)).Alike
      (Outcome.ofVerdict (alert.rule.verdict other)) :=
    Outcome.ofVerdict_alike
      (AlertRule.verdict_alike (reordered.alike fun _ _ => True) fun _ _ _ => trivial)
  refine ⟨_, _, evaluate_of_check checked graph, evaluate_of_check checked other, alike.passed, ?_⟩
  exact (List.perm_ext_iff_of_nodup (Outcome.found_unique _) (Outcome.found_unique _)).mpr
    alike.found

/-- Two cases of one priority differ in their status, and no contact is without an address. -/
def sharedPriority : RuleNode :=
  .group .and [
    .aggregate ⟨"Case", "Priority", 2, some "Status"⟩ none,
    .scope "Contact" .none [.condition ⟨"Contact", ⟨"Email", .blank, none⟩⟩]]

def sharedPriorityAlert : AlertDefinition :=
  ⟨"shared", "Shared priority", none, .advanced, .advanced sharedPriority⟩

/-- The open account, whose types and cases come the other way round. -/
def openAccountReversed : AccountGraph :=
  AccountGraph.make "001" ⟨"001", Record.empty, []⟩ [
    ("Case", [
      ⟨"501", ⟨[("Priority", .text "Low"), ("Status", .text "Closed")]⟩, []⟩,
      ⟨"500", ⟨[("Priority", .text "Low"), ("Status", .text "Open")]⟩, []⟩]),
    ("Contact", [⟨"003", ⟨[("Email", .text "a@b.c")]⟩, []⟩])]

theorem openAccount_reordered : openAccount.Reordered openAccountReversed := by
  refine ⟨rfl, fun object => ?_⟩
  by_cases cases : object = "Case"
  · subst cases
    exact .swap _ _ []
  · have same : openAccount.records object = openAccountReversed.records object := by
      have other : (object == "Case") = false := beq_false_of_ne cases
      simp [AccountGraph.records, openAccount, openAccountReversed, AccountGraph.make, Table.put,
        EntityType.account, List.lookup_cons, other]
    rw [same]

/-- The cases are named in the order in which they come. -/
theorem evaluate_reordered_sharedPriority :
    sharedPriorityAlert.rule.check = .ok () ∧ openAccount.Reordered openAccountReversed ∧
      ∃ outcome twin, sharedPriorityAlert.evaluate openAccount = .ok outcome ∧
        sharedPriorityAlert.evaluate openAccountReversed = .ok twin ∧
        outcome.found.map Match.key = [("Case", "500"), ("Case", "501"), ("Account", "001")] ∧
        twin.found.map Match.key = [("Case", "501"), ("Case", "500"), ("Account", "001")] ∧
        (outcome.found.map Match.key).Perm (twin.found.map Match.key) := by
  have checked : sharedPriorityAlert.rule.check = .ok () := by rfl
  obtain ⟨outcome, twin, evaluated, again, -, perm⟩ :=
    sharedPriorityAlert.evaluate_reordered checked openAccount_reordered
  have keys : (sharedPriorityAlert.evaluate openAccount).toOption.map
      (fun outcome => outcome.found.map Match.key) =
        some [("Case", "500"), ("Case", "501"), ("Account", "001")] := by
    decide +kernel
  have reversed : (sharedPriorityAlert.evaluate openAccountReversed).toOption.map
      (fun outcome => outcome.found.map Match.key) =
        some [("Case", "501"), ("Case", "500"), ("Account", "001")] := by
    decide +kernel
  rw [evaluated] at keys
  rw [again] at reversed
  exact ⟨checked, openAccount_reordered, outcome, twin, evaluated, again, Option.some.inj keys,
    Option.some.inj reversed, perm⟩

end Dossier
