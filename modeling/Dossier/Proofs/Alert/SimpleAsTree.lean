import Mathlib.Data.List.Flatten
import Dossier.Alert.Evaluate
import Dossier.Proofs.Alert.Checking
import Dossier.Proofs.Alert.Merging
import Dossier.Proofs.Table

/-!
Simple rules as trees.

A simple rule asks of every object for a record which passes all filters on that object.  As a tree
this is a conjunction of scopes, and both evaluators give the same outcome.  They do not find the
same matches on the way: the one finds all fields of a record at once, and the other finds them one
by one, so that it is merging which makes them agree.
-/

namespace Dossier

namespace Operator

theorem name_injective {first second : Operator} (same : first.name = second.name) :
    first = second := by
  have read := ofName?_name first
  rw [same, ofName?_name] at read
  exact (Option.some.inj read).symm

end Operator

namespace Filter

theorem fieldMatch_differs {first second : Filter} (different : first ≠ second)
    (record : GraphRecord) : (second.fieldMatch record == first.fieldMatch record) = false := by
  rw [Bool.eq_false_iff]
  intro same
  apply different
  change FieldMatch.same _ _ = true at same
  simp only [FieldMatch.same, fieldMatch, Bool.and_eq_true, beq_iff_eq] at same
  obtain ⟨⟨⟨⟨field, operator⟩, value⟩, _⟩, _⟩ := same
  cases first
  cases second
  simp only [Filter.mk.injEq]
  exact ⟨field.symm, (Operator.name_injective operator).symm, value.symm⟩

theorem fieldMatches_differ {filters : List Filter} (unique : filters.Nodup) (record : GraphRecord) :
    (filters.map (·.fieldMatch record)).Pairwise fun field other => (other == field) = false := by
  rw [List.pairwise_map]
  exact unique.imp fun different => fieldMatch_differs different record

end Filter

namespace FilterGroup

/-- The objects which groups are about, in order of first appearance. -/
def objects (groups : List FilterGroup) : List String :=
  distinct (groups.map (·.object))

/-- The filters which are gathered for an object. -/
def filtersOf (groups : List FilterGroup) (object : String) : List Filter :=
  (groups.filter (·.object == object)).flatMap (·.filters)

/-- Some record of the object passes all of the filters. -/
def scopeOf (object : String) (filters : List Filter) : RuleNode :=
  .scope object .any (filters.map fun filter => .condition ⟨object, filter⟩)

/-- The tree which asks for the same as the groups. -/
def asTree (groups : List FilterGroup) : RuleNode :=
  .group .and ((objects groups).map fun object => scopeOf object (filtersOf groups object))

theorem byObject_eq (groups : List FilterGroup) :
    byObject groups = (objects groups).map fun object => (object, filtersOf groups object) :=
  Table.gather_eq FilterGroup.object FilterGroup.filters groups

theorem mem_objects {groups : List FilterGroup} {object : String} :
    object ∈ objects groups ↔ ∃ group ∈ groups, group.object = object := by
  simp [objects]

theorem mem_filtersOf {groups : List FilterGroup} {object : String} {filter : Filter} :
    filter ∈ filtersOf groups object ↔
      ∃ group ∈ groups, group.object = object ∧ filter ∈ group.filters := by
  simp [filtersOf, and_assoc]

theorem objects_ne_nil {groups : List FilterGroup} (some : groups ≠ []) : objects groups ≠ [] := by
  obtain ⟨group, member⟩ := List.exists_mem_of_ne_nil groups some
  exact List.ne_nil_of_mem (mem_objects.mpr ⟨group, member, rfl⟩)

theorem filtersOf_ne_nil {groups : List FilterGroup} (filled : ∀ group ∈ groups, group.filters ≠ [])
    {object : String} (about : object ∈ objects groups) : filtersOf groups object ≠ [] := by
  obtain ⟨group, member, same⟩ := mem_objects.mp about
  obtain ⟨filter, inside⟩ := List.exists_mem_of_ne_nil _ (filled group member)
  exact List.ne_nil_of_mem (mem_filtersOf.mpr ⟨group, member, same, inside⟩)

theorem check_asTree {groups : List FilterGroup}
    (checked : (AlertRule.simple groups).check = .ok ()) :
    (AlertRule.advanced (asTree groups)).check = .ok () := by
  obtain ⟨_, sound⟩ := AlertRule.check_simple_eq_ok.mp checked
  refine RuleNode.checkAll_eq_ok.mpr fun scope member => ?_
  obtain ⟨object, _, rfl⟩ := List.mem_map.mp member
  refine RuleNode.checkScoped_eq_ok.mpr fun child member => ?_
  obtain ⟨filter, gathered, rfl⟩ := List.mem_map.mp member
  obtain ⟨group, inside, rfl, listed⟩ := mem_filtersOf.mp gathered
  exact ⟨trivial, sound group inside filter listed⟩

end FilterGroup

namespace RuleNode

theorem verdicts_eq_map (nodes : List RuleNode) (context : Context) :
    verdicts nodes context = nodes.map (·.verdict context) := by
  induction nodes with
  | nil => rfl
  | cons node rest ih => rw [verdicts, ih, List.map_cons]

end RuleNode

theorem Condition.verdict_inScope (graph : AccountGraph) (object : String) (record : GraphRecord)
    (filter : Filter) :
    (Condition.mk object filter).verdict ⟨graph, object, record⟩ =
      ⟨filter.test record, [Match.ofRecord object record [filter.fieldMatch record]]⟩ := by
  simp [verdict]

namespace FilterGroup

variable (graph : AccountGraph) (object : String) (filters : List Filter)

/-- What a tree finds in one record: every field on its own. -/
def fieldByField (record : GraphRecord) : List Match :=
  (filters.map (·.fieldMatch record)).map fun field => Match.ofRecord object record [field]

/-- What the groups find in one record: all fields at once. -/
def atOnce (record : GraphRecord) : Match :=
  Match.ofRecord object record (filters.map (·.fieldMatch record))

/-- A record as the scope sees it. -/
def sighting (record : GraphRecord) : Sighting :=
  ⟨record, filters.map fun filter =>
    ⟨filter.test record, [Match.ofRecord object record [filter.fieldMatch record]]⟩⟩

theorem sighting_passed (record : GraphRecord) :
    (sighting object filters record).passed = filters.all (·.test record) := by
  simp only [Sighting.passed, sighting, List.all_map, Function.comp_def]

theorem sighting_found (record : GraphRecord) :
    (sighting object filters record).found = fieldByField object filters record := by
  simp only [Sighting.found, sighting, fieldByField, List.map_eq_flatMap, List.flatMap_assoc,
    List.flatMap_cons, List.flatMap_nil, List.append_nil]

theorem verdict_scopeOf (context : Context) :
    (scopeOf object filters).verdict context =
      Quantifier.any.verdict context.graph object
        ((context.graph.records object).map (sighting object filters)) := by
  simp only [scopeOf, RuleNode.verdict, RuleNode.verdicts_eq_map, List.map_map, Function.comp_def,
    Condition.verdict_inScope]
  rfl

theorem passing_sightings :
    ((graph.records object).map (sighting object filters)).filter (·.passed) =
      (satisfying graph object filters).map (sighting object filters) := by
  rw [List.filter_map]
  congr 1
  exact List.filter_congr fun record _ => sighting_passed object filters record

theorem verdict_scopeOf_any (filled : filters ≠ []) (context : Context) :
    (scopeOf object filters).verdict context =
      ⟨!(satisfying context.graph object filters).isEmpty,
        (satisfying context.graph object filters).flatMap (fieldByField object filters)⟩ := by
  have found : ((satisfying context.graph object filters).map (sighting object filters)).flatMap
      (·.found) =
      (satisfying context.graph object filters).flatMap (fieldByField object filters) := by
    rw [List.flatMap_map]
    exact List.flatMap_congr fun record _ => sighting_found object filters record
  rw [verdict_scopeOf, Quantifier.verdict]
  simp only [Quantifier.holds, Quantifier.evidence, passing_sightings, found, List.length_map]
  cases passing : satisfying context.graph object filters with
  | nil => simp
  | cons record rest =>
      obtain ⟨filter, others, rfl⟩ := List.exists_cons_of_ne_nil filled
      simp [fieldByField]

theorem foldl_merge_fieldByField (filled : filters ≠ []) (unique : filters.Nodup)
    (found : List Match) (record : GraphRecord) :
    (fieldByField object filters record).foldl Match.merge found =
      Match.merge found (atOnce object filters record) := by
  obtain ⟨filter, others, rfl⟩ := List.exists_cons_of_ne_nil filled
  exact Match.foldl_merge_fields object record found [filter.fieldMatch record]
    (others.map (Filter.fieldMatch · record)) (Filter.fieldMatches_differ unique record)

theorem foldl_merge_records (filled : filters ≠ []) (unique : filters.Nodup)
    (found : List Match) (records : List GraphRecord) :
    (records.flatMap (fieldByField object filters)).foldl Match.merge found =
      (records.map (atOnce object filters)).foldl Match.merge found := by
  rw [List.foldl_flatMap, List.foldl_map]
  refine List.foldl_ext _ _ found fun found record _ => ?_
  exact foldl_merge_fieldByField object filters filled unique found record

variable (groups : List FilterGroup)

theorem found_eq :
    (FilterGroup.verdict groups graph).found = (objects groups).flatMap fun object =>
      (satisfying graph object (filtersOf groups object)).map
        (atOnce object (filtersOf groups object)) := by
  simp only [FilterGroup.verdict, byObject_eq, List.map_map, List.flatMap_def]
  rfl

variable {graph groups} in
/-- What is found is one of the records which pass all filters on their object, with all of them. -/
theorem mem_found {m : Match} :
    m ∈ (FilterGroup.verdict groups graph).found ↔
      ∃ object ∈ objects groups, ∃ record ∈ satisfying graph object (filtersOf groups object),
        m = atOnce object (filtersOf groups object) record := by
  simp only [found_eq, List.mem_flatMap, List.mem_map, eq_comm]

variable {graph groups} in
theorem verdict_passed :
    (FilterGroup.verdict groups graph).passed = true ↔
      objects groups ≠ [] ∧
        ∀ object ∈ objects groups, satisfying graph object (filtersOf groups object) ≠ [] := by
  simp [FilterGroup.verdict, byObject_eq]

theorem verdict_eq (some : groups ≠ []) :
    FilterGroup.verdict groups graph =
      ⟨(objects groups).all fun object =>
          !(satisfying graph object (filtersOf groups object)).isEmpty,
        (objects groups).flatMap fun object =>
          (satisfying graph object (filtersOf groups object)).map
            (atOnce object (filtersOf groups object))⟩ := by
  have about : (objects groups).isEmpty = false := by
    simpa using objects_ne_nil some
  simp only [FilterGroup.verdict, byObject_eq, List.isEmpty_map, about, Bool.not_false,
    Bool.true_and, List.map_map, List.all_map, Function.comp_def, List.flatMap_def]
  rfl

theorem verdict_asTree (filled : ∀ group ∈ groups, group.filters ≠ []) (context : Context) :
    (asTree groups).verdict context =
      if (objects groups).all fun object =>
          !(satisfying context.graph object (filtersOf groups object)).isEmpty then
        ⟨true, (objects groups).flatMap fun object =>
          (satisfying context.graph object (filtersOf groups object)).flatMap
            (fieldByField object (filtersOf groups object))⟩
      else ⟨false, []⟩ := by
  have scopes : ((objects groups).map fun object => scopeOf object (filtersOf groups object)).map
      (·.verdict context) =
      (objects groups).map fun object =>
        ⟨!(satisfying context.graph object (filtersOf groups object)).isEmpty,
          (satisfying context.graph object (filtersOf groups object)).flatMap
            (fieldByField object (filtersOf groups object))⟩ := by
    rw [List.map_map]
    refine List.map_congr_left fun object about => ?_
    exact verdict_scopeOf_any object _ (filtersOf_ne_nil filled about) context
  simp only [asTree, RuleNode.verdict, RuleNode.verdicts_eq_map, scopes, Logic.verdict,
    List.all_map, Function.comp_def, List.flatMap_map]

/-- Both evaluators come to the same outcome, and to the same list of merged matches. -/
theorem outcome_asTree (some : groups ≠ []) (filled : ∀ group ∈ groups, group.filters ≠ [])
    (unique : ∀ object, (filtersOf groups object).Nodup) :
    Outcome.ofVerdict ((AlertRule.advanced (asTree groups)).verdict graph) =
      Outcome.ofVerdict ((AlertRule.simple groups).verdict graph) := by
  have merged : Match.dedup ((objects groups).flatMap fun object =>
        (satisfying graph object (filtersOf groups object)).flatMap
          (fieldByField object (filtersOf groups object))) =
      Match.dedup ((objects groups).flatMap fun object =>
        (satisfying graph object (filtersOf groups object)).map
          (atOnce object (filtersOf groups object))) := by
    rw [Match.dedup, Match.dedup, List.foldl_flatMap, List.foldl_flatMap]
    refine List.foldl_ext _ _ [] fun found object about => ?_
    exact foldl_merge_records object _ (filtersOf_ne_nil filled about) (unique object) found _
  simp only [AlertRule.verdict, verdict_asTree groups filled, verdict_eq graph groups some]
  cases (objects groups).all fun object =>
      !(satisfying graph object (filtersOf groups object)).isEmpty with
  | true => simp only [if_true, Outcome.ofVerdict, merged]
  | false => rfl

end FilterGroup

/-- A simple rule and its tree give the same outcome on every account: both pass or neither does,
with the same matches and fields in the same order. -/
theorem AlertDefinition.evaluate_asTree (alert : AlertDefinition) {groups : List FilterGroup}
    (simple : alert.rule = .simple groups) (checked : alert.rule.check = .ok ())
    (filled : ∀ group ∈ groups, group.filters ≠ [])
    (unique : ∀ object, (FilterGroup.filtersOf groups object).Nodup) (graph : AccountGraph) :
    ∃ outcome, alert.evaluate graph = .ok outcome ∧
      ({ alert with mode := .advanced, rule := .advanced (FilterGroup.asTree groups) } :
        AlertDefinition).evaluate graph = .ok outcome := by
  rw [simple] at checked
  obtain ⟨some, _⟩ := AlertRule.check_simple_eq_ok.mp checked
  refine ⟨Outcome.ofVerdict ((AlertRule.simple groups).verdict graph), ?_, ?_⟩
  · simp only [evaluate, simple, checked]
  · simp only [evaluate, FilterGroup.check_asTree checked,
      FilterGroup.outcome_asTree graph groups some filled unique]

/-- Filters on one object from two groups, with a filter on another object between them. -/
def urgentCase : List FilterGroup := [
  ⟨"Case", [⟨"Status", .equals, some "Open"⟩]⟩,
  ⟨"Contact", [⟨"Email", .notBlank, none⟩]⟩,
  ⟨"Case", [⟨"Priority", .notNull, none⟩]⟩]

def urgentCaseAlert : AlertDefinition :=
  ⟨"urgent", "Urgent case", none, .simple, .simple urgentCase⟩

/-- Two of the cases have the same key, and the last one is closed. -/
def urgentAccount : AccountGraph :=
  AccountGraph.make "001" ⟨"001", Record.empty, []⟩ [
    ("Contact", [⟨"003", ⟨[("Email", .text "a@b.c")]⟩, []⟩]),
    ("Case", [
      ⟨"500", ⟨[("Priority", .text "High"), ("Status", .text "Open")]⟩, []⟩,
      ⟨"500", ⟨[("Priority", .text "Low"), ("Status", .text "Open")]⟩, []⟩,
      ⟨"501", ⟨[("Priority", .text "Low"), ("Status", .text "Closed")]⟩, []⟩])]

theorem evaluate_urgentCase :
    urgentCaseAlert.rule.check = .ok () ∧
      ∃ outcome, urgentCaseAlert.evaluate urgentAccount = .ok outcome ∧
        ({ urgentCaseAlert with
            mode := .advanced, rule := .advanced (FilterGroup.asTree urgentCase) } :
          AlertDefinition).evaluate urgentAccount = .ok outcome := by
  have checked : urgentCaseAlert.rule.check = .ok () := by rfl
  have unique : (urgentCase.flatMap (·.filters)).Nodup := by decide
  refine ⟨checked, AlertDefinition.evaluate_asTree urgentCaseAlert rfl checked (by decide)
    (fun object => unique.sublist ?_) urgentAccount⟩
  exact List.filter_sublist.flatMap FilterGroup.filters

end Dossier
