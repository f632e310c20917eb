import Dossier.Proofs.Alert.Merged
import Dossier.Proofs.Alert.Provenance
import Dossier.Proofs.Alert.Sanitize.Supply

/-!
Evidence told twice.

Merging adds an entry to a match only if it is not there yet, and no node of a tree tells the same
twice of a record.  A simple rule tells all filters on an object at once, one entry for each as they
are written: where a filter is written twice, its entry is there twice and merging leaves it so.
-/

namespace Dossier

/-- No two entries of the match are equal. -/
def Match.Unrepeated (m : Match) : Prop :=
  m.matchedFields.Pairwise fun field other => (other == field) = false

instance (m : Match) : Decidable m.Unrepeated :=
  inferInstanceAs (Decidable (List.Pairwise _ _))

/-- No filter is written twice on one object.  Trees have no filters which are told at once. -/
def AlertRule.FiltersDiffer : AlertRule → Prop
  | .simple groups => ∀ object, (FilterGroup.filtersOf groups object).Nodup
  | .advanced _ => True

namespace Match

theorem addFields_unrepeated {fields : List FieldMatch} (more : List FieldMatch)
    (different : fields.Pairwise fun field other => (other == field) = false) :
    (addFields fields more).Pairwise fun field other => (other == field) = false := by
  induction more using List.reverseRecOn with
  | nil => exact different
  | append_singleton more last ih =>
      rw [addFields_concat]
      split
      · exact ih
      · rename_i new
        rw [List.contains_eq_any_beq, List.any_eq_true, not_exists] at new
        refine List.pairwise_append.mpr ⟨ih, List.pairwise_singleton _ _, fun field member => ?_⟩
        refine List.forall_mem_singleton.mpr (Bool.eq_false_iff.mpr fun same => ?_)
        exact new field ⟨member, same⟩

/-- Merging never repeats an entry. -/
theorem Unrepeated.absorb {prior next : Match} (first : prior.Unrepeated) :
    (prior.absorb next).Unrepeated :=
  addFields_unrepeated next.matchedFields first

end Match

theorem Duplicates.recordMatch_unrepeated (duplicates : Duplicates) (text : String)
    (record : GraphRecord) : (duplicates.recordMatch text record).Unrepeated := by
  refine List.pairwise_cons.mpr ⟨fun field shown => ?_, ?_⟩
  · obtain ⟨name, -, rfl⟩ := Option.map_eq_some_iff.mp (Option.mem_toList.mp shown)
    change FieldMatch.same _ _ = false
    simp [FieldMatch.same]
  · cases duplicates.distinctField with
    | none => exact .nil
    | some field => exact List.pairwise_singleton _ _

/-- What a tree finds is told entry by entry, or by an aggregate under names of its own. -/
theorem RuleNode.found_unrepeated (node : RuleNode) (context : Context) :
    ∀ m ∈ (node.verdict context).found, m.Unrepeated := by
  induction node using induct generalizing context with
  | condition tested =>
      intro m found
      obtain ⟨record, rfl, -⟩ := Condition.mem_verdict found
      exact List.pairwise_singleton _ _
  | group logic children ih =>
      intro m found
      obtain ⟨child, member, -, there⟩ := mem_group found
      exact ih child member context m there
  | scope object quantifier children ih =>
      intro m found
      rcases mem_scope found with ⟨record, -, -, ⟨child, member, there⟩ | rfl⟩ | ⟨_, _, rfl⟩
      · exact ih child member _ m there
      · exact List.Pairwise.nil
      · exact List.Pairwise.nil
  | aggregate duplicates criteria _ =>
      intro m found
      obtain ⟨text, record, -, rfl⟩ := Duplicates.mem_verdict found
      exact duplicates.recordMatch_unrepeated text record

theorem Filter.nodup_of_differ {filters : List Filter} {record : GraphRecord}
    (different : (filters.map (·.fieldMatch record)).Pairwise
      fun field other => (other == field) = false) : filters.Nodup := by
  rw [List.pairwise_map] at different
  refine different.imp fun {first second} apart same => ?_
  rw [same, BEq.rfl] at apart
  contradiction

namespace FilterGroup

variable {groups : List FilterGroup} {graph : AccountGraph}

theorem found_unrepeated (differ : ∀ object, (filtersOf groups object).Nodup) :
    ∀ m ∈ (FilterGroup.verdict groups graph).found, m.Unrepeated := by
  intro m found
  obtain ⟨object, -, record, -, rfl⟩ := mem_found.mp found
  exact Filter.fieldMatches_differ (differ object) record

/-- A filter which is written twice is told twice of every record that passes, after merging as
before: the first match of a record keeps its entries. -/
theorem nodup_of_unrepeated (passed : (FilterGroup.verdict groups graph).passed = true)
    (unrepeated : ∀ m ∈ Match.dedup (FilterGroup.verdict groups graph).found, m.Unrepeated)
    (object : String) : (filtersOf groups object).Nodup := by
  by_cases about : object ∈ objects groups
  · obtain ⟨record, satisfies⟩ :=
      List.exists_mem_of_ne_nil _ ((verdict_passed.mp passed).2 object about)
    have found : atOnce object (filtersOf groups object) record ∈
        (FilterGroup.verdict groups graph).found := mem_found.mpr ⟨object, about, record, satisfies, rfl⟩
    obtain ⟨m, merged, same, -⟩ := Match.dedup_keeps found
    obtain ⟨first, later, parts, rfl⟩ := Match.mem_dedup merged
    -- The first match of the record's key keeps its entries, and it is about the same object, so
    -- that they are the entries of the same filters.
    obtain ⟨other, -, twin, -, rfl⟩ := mem_found.mp (Match.mem_parts parts List.mem_cons_self).1
    rw [Match.foldl_absorb_key] at same
    obtain rfl : other = object := (Prod.mk.inj same).1
    have kept := unrepeated _ merged
    rw [Match.Unrepeated, Match.foldl_absorb_fields, Match.addFields_eq, List.pairwise_append]
      at kept
    exact Filter.nodup_of_differ kept.1
  · have nothing : filtersOf groups object = [] := by
      refine List.eq_nil_iff_forall_not_mem.mpr fun filter listed => about ?_
      obtain ⟨group, member, named, -⟩ := mem_filtersOf.mp listed
      exact mem_objects.mpr ⟨group, member, named⟩
    rw [nothing]
    exact .nil

end FilterGroup

theorem AlertRule.unrepeated_iff {rule : AlertRule} {graph : AccountGraph}
    (passed : (rule.verdict graph).passed = true) :
    (∀ m ∈ Match.dedup (rule.verdict graph).found, m.Unrepeated) ↔ rule.FiltersDiffer := by
  have merged (each : ∀ m ∈ (rule.verdict graph).found, m.Unrepeated) :
      ∀ m ∈ Match.dedup (rule.verdict graph).found, m.Unrepeated :=
    Match.forall_mem_dedup (fun _ _ _ first _ => first.absorb) each
  cases rule with
  | simple groups =>
      exact ⟨FilterGroup.nodup_of_unrepeated passed,
        fun differ => merged (FilterGroup.found_unrepeated differ)⟩
  | advanced root => exact iff_of_true (merged (root.found_unrepeated _)) trivial

/-- An alert which triggers tells nothing twice of a record just where no filter of its rule is
written twice on one object.  A tree never does, and an alert which does not pass tells nothing. -/
theorem AlertDefinition.evaluate_unrepeated (alert : AlertDefinition)
    (checked : alert.rule.check = .ok ()) (graph : AccountGraph) :
    ∃ outcome, alert.evaluate graph = .ok outcome ∧
      (outcome.passed = true →
        ((∀ m ∈ outcome.found, m.Unrepeated) ↔ alert.rule.FiltersDiffer)) ∧
      (outcome.passed = false → outcome.found = []) := by
  refine ⟨_, evaluate_of_check checked graph, fun passed => ?_, Outcome.ofVerdict_nothing⟩
  rw [Outcome.ofVerdict_found passed]
  exact AlertRule.unrepeated_iff passed

/-- A scope which makes the same test twice of its records. -/
def twiceOpen : RuleNode :=
  .scope "Case" .any [.condition ⟨"Case", ⟨"Status", .equals, some "Open"⟩⟩,
    .condition ⟨"Case", ⟨"Status", .equals, some "Open"⟩⟩]

def twiceOpenAlert : AlertDefinition :=
  ⟨"twice", "Open twice", none, .advanced, .advanced twiceOpen⟩

/-- The tree tells of its test once.  The filters of the simple rule differ. -/
theorem evaluate_unrepeated_twiceOpen :
    twiceOpenAlert.rule.check = .ok () ∧
      (∃ outcome, twiceOpenAlert.evaluate openAccount = .ok outcome ∧ outcome.passed = true ∧
        ∀ m ∈ outcome.found, m.Unrepeated) ∧
      urgentCaseAlert.rule.check = .ok () ∧
      ∃ outcome, urgentCaseAlert.evaluate urgentAccount = .ok outcome ∧ outcome.passed = true ∧
        ∀ m ∈ outcome.found, m.Unrepeated := by
  have differ : urgentCaseAlert.rule.FiltersDiffer := fun object =>
    (show (urgentCase.flatMap (·.filters)).Nodup by decide).sublist
      (List.filter_sublist.flatMap FilterGroup.filters)
  obtain ⟨tree, evaluated, once, -⟩ := twiceOpenAlert.evaluate_unrepeated rfl openAccount
  obtain ⟨simple, alsoEvaluated, alsoOnce, -⟩ :=
    urgentCaseAlert.evaluate_unrepeated rfl urgentAccount
  have passed : (twiceOpenAlert.evaluate openAccount).toOption.any (·.passed) = true := by
    decide +kernel
  have alsoPassed : (urgentCaseAlert.evaluate urgentAccount).toOption.any (·.passed) = true := by
    decide +kernel
  rw [evaluated] at passed
  rw [alsoEvaluated] at alsoPassed
  exact ⟨rfl, ⟨tree, evaluated, passed, (once passed).mpr trivial⟩, rfl, simple, alsoEvaluated,
    alsoPassed, (alsoOnce alsoPassed).mpr differ⟩

/-- A document with a simple alert, one of whose filters is written twice. -/
def twiceWritten : Json :=
  let filter : Json := .object [("field", .text "Status"), ("operator", .text "equals"),
    ("value", .text "Open")]
  .array [.object [("id", .text "open"), ("label", .text "Open cases"), ("rule", .array [
    .object [("object", .text "Case"), ("filters", .array [filter, filter])]])]]

/-- The sanitizer keeps the filter twice, and the open case has its entry twice. -/
theorem evaluate_repeats :
    ∃ alert ∈ (sanitizeAlerts Sanitize.numbered twiceWritten).alerts,
      (∀ object, ((openAccount.records object).map (·.key)).Nodup) ∧
        ∃ outcome, alert.evaluate openAccount = .ok outcome ∧
          ∃ m ∈ outcome.found, m.key = ("Case", "500") ∧ ¬m.Unrepeated := by
  have keyed : ∀ object, ((openAccount.records object).map (·.key)).Nodup :=
    AccountGraph.keyed_of_objects (by decide +kernel)
  have repeats : ((sanitizeAlerts Sanitize.numbered twiceWritten).alerts.any fun alert =>
      (alert.evaluate openAccount).toOption.any fun outcome =>
        outcome.found.any fun m => m.key == ("Case", "500") && !decide m.Unrepeated) = true := by
    decide +kernel
  obtain ⟨alert, listed, told⟩ := List.any_eq_true.mp repeats
  cases evaluated : alert.evaluate openAccount with
  | error error =>
      rw [evaluated] at told
      contradiction
  | ok outcome =>
      rw [evaluated] at told
      obtain ⟨m, found, twice⟩ := List.any_eq_true.mp told
      obtain ⟨named, twice⟩ := Bool.and_eq_true_iff.mp twice
      exact ⟨alert, listed, keyed, outcome, evaluated, m, found, eq_of_beq named,
        by simpa using twice⟩

end Dossier
