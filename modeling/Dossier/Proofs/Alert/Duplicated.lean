import Dossier.Proofs.Alert.Meaning
import Dossier.Proofs.Alert.Merged
import Dossier.Proofs.Alert.Provenance

/-!
Which duplicates are named.

Of the records of which the criteria hold, those are named which share their text with enough others.
They come text by text, and what is asked for beyond the text decides of all records of a text at
once: asking for more takes whole groups away and leaves the others as they are.
-/

namespace Dossier

namespace Duplicates

open Classical in
/-- The records of the type of which the criteria hold. -/
noncomputable def candidates (duplicates : Duplicates) (criteria : Option RuleNode)
    (graph : AccountGraph) : List GraphRecord :=
  (graph.records duplicates.object).filter fun record =>
    RuleNode.CriteriaHold criteria ⟨graph, duplicates.object, record⟩

/-- The text is not blank, enough of the records share it, and if another field is asked for, two
different texts of it are found among them. -/
def Shared (duplicates : Duplicates) (records : List GraphRecord) (text : String) : Prop :=
  Text.blank text = false ∧
    duplicates.minCount ≤ (duplicates.sharing records text).length ∧
    ∀ field, duplicates.distinctField = some field →
      ∃ first second, first ≠ second ∧ Tells (duplicates.sharing records text) field first ∧
        Tells (duplicates.sharing records text) field second

/-- Asks for the same texts, of as many records or more and of another field or of none. -/
structure Stricter (strict lax : Duplicates) : Prop where
  object : strict.object = lax.object
  field : strict.field = lax.field
  minCount : lax.minCount ≤ strict.minCount
  distinctField : ∀ field, lax.distinctField = some field → strict.distinctField = some field

variable {duplicates strict : Duplicates} {records : List GraphRecord} {text : String}

theorem shared_iff :
    duplicates.Shared records text ↔
      Text.blank text = false ∧ duplicates.qualifies (duplicates.sharing records text) = true :=
  and_congr_right fun _ => qualifies_iff.symm

instance : DecidablePred (duplicates.Shared records) := fun _ => decidable_of_iff' _ shared_iff

/-- The texts which records share, in the order in which they first come. -/
def sharedTexts (duplicates : Duplicates) (records : List GraphRecord) : List String :=
  (distinct (records.filterMap (·.record.text? duplicates.field))).filter
    (duplicates.Shared records ·)

/-- The keys of the records which share a text. -/
def sharingKeys (duplicates : Duplicates) (records : List GraphRecord) (text : String) :
    List (String × String) :=
  (duplicates.sharing records text).map fun record => (duplicates.object, record.key)

theorem mem_sharing {record : GraphRecord} :
    record ∈ duplicates.sharing records text ↔
      record ∈ records ∧ record.record.text? duplicates.field = some text := by
  rw [sharing, List.mem_filter, beq_iff_eq]

theorem mem_sharedTexts :
    text ∈ duplicates.sharedTexts records ↔
      (∃ record ∈ records, record.record.text? duplicates.field = some text) ∧
        duplicates.Shared records text := by
  rw [sharedTexts, List.mem_filter, mem_distinct, List.mem_filterMap, decide_eq_true_iff]

theorem sharedTexts_unique : (duplicates.sharedTexts records).Nodup :=
  (nodup_distinct _).filter _

theorem groups_eq (duplicates : Duplicates) (records : List GraphRecord) :
    duplicates.groups records =
      ((distinct (records.filterMap (·.record.text? duplicates.field))).filter
        (!Text.blank ·)).map fun text => (text, duplicates.sharing records text) := by
  have texts : (duplicates.groups records).map (·.1) =
      (distinct (records.filterMap (·.record.text? duplicates.field))).filter (!Text.blank ·) := by
    rw [groups, Table.group_eq_gather, Table.gather_eq, List.map_map, List.map_filterMap,
      ← distinct_filter, List.filter_filterMap]
    simp [Record.evidence?, Function.comp_def]
  have each : ∀ group ∈ duplicates.groups records,
      group = (group.1, duplicates.sharing records group.1) := by
    rintro ⟨text, group⟩ member
    rw [(mem_groups.mp member).2.2]
  rw [← texts, List.map_map]
  exact (List.map_id _).symm.trans (List.map_congr_left each)

/-- The records which share a text are found text by text. -/
theorem found_eq (duplicates : Duplicates) (records : List GraphRecord) :
    (duplicates.verdict records).found = (duplicates.sharedTexts records).flatMap fun text =>
      (duplicates.sharing records text).map (duplicates.recordMatch text) := by
  have kept : ((distinct (records.filterMap (·.record.text? duplicates.field))).filter
      (!Text.blank ·)).filter (fun text =>
        duplicates.qualifies (duplicates.sharing records text)) =
      duplicates.sharedTexts records := by
    rw [List.filter_filter, sharedTexts]
    refine List.filter_congr fun text _ => ?_
    rw [Bool.eq_iff_iff, decide_eq_true_iff, shared_iff, Bool.and_comm, Bool.and_eq_true,
      Bool.not_eq_true']
  rw [← kept, verdict, groups_eq, List.filter_map, List.flatMap_map]
  rfl

theorem found_keys (duplicates : Duplicates) (records : List GraphRecord) :
    (duplicates.verdict records).found.map Match.key =
      (duplicates.sharedTexts records).flatMap (duplicates.sharingKeys records) := by
  rw [found_eq, List.map_flatMap]
  refine List.flatMap_congr fun text _ => ?_
  rw [List.map_map]
  rfl

/-- No record is found twice, since it has one text of the field. -/
theorem found_unique (keyed : (records.map (·.key)).Nodup) :
    ((duplicates.verdict records).found.map Match.key).Nodup := by
  rw [found_keys, List.nodup_flatMap]
  constructor
  · intro text _
    have among : ((duplicates.sharing records text).map (·.key)).Nodup :=
      keyed.sublist (List.filter_sublist.map _)
    have paired : duplicates.sharingKeys records text =
        ((duplicates.sharing records text).map (·.key)).map (duplicates.object, ·) := by
      rw [List.map_map]
      rfl
    rw [paired]
    exact among.map fun _ _ same => (Prod.mk.inj same).2
  · refine sharedTexts_unique.pairwise_of_forall_ne fun text _ other _ different => ?_
    intro key first second
    obtain ⟨record, shares, rfl⟩ := List.mem_map.mp first
    obtain ⟨twin, also, same⟩ := List.mem_map.mp second
    obtain ⟨listed, told⟩ := mem_sharing.mp shares
    obtain ⟨there, retold⟩ := mem_sharing.mp also
    cases List.inj_on_of_nodup_map keyed there listed (Prod.mk.inj same).2
    rw [told] at retold
    exact different (Option.some.inj retold)

/-- A record is named if it shares its text, whatever other records there are. -/
theorem mem_found_keys {all : List GraphRecord} (keyed : (all.map (·.key)).Nodup)
    (among : records ⊆ all) {record : GraphRecord} (listed : record ∈ all) :
    (duplicates.object, record.key) ∈ (duplicates.verdict records).found.map Match.key ↔
      record ∈ records ∧ ∃ text, record.record.text? duplicates.field = some text ∧
        duplicates.Shared records text := by
  rw [found_keys, List.mem_flatMap]
  constructor
  · rintro ⟨text, shared, member⟩
    obtain ⟨twin, shares, same⟩ := List.mem_map.mp member
    obtain ⟨there, told⟩ := mem_sharing.mp shares
    cases List.inj_on_of_nodup_map keyed (among there) listed (Prod.mk.inj same).2
    exact ⟨there, text, told, (mem_sharedTexts.mp shared).2⟩
  · rintro ⟨there, text, told, shared⟩
    exact ⟨text, mem_sharedTexts.mpr ⟨⟨record, there, told⟩, shared⟩,
      List.mem_map_of_mem (mem_sharing.mpr ⟨there, told⟩)⟩

namespace Stricter

variable {lax : Duplicates} (stricter : strict.Stricter lax)

include stricter

theorem candidates_eq (criteria : Option RuleNode) (graph : AccountGraph) :
    strict.candidates criteria graph = lax.candidates criteria graph := by
  rw [candidates, candidates, stricter.object]

theorem sharing_eq : strict.sharing records text = lax.sharing records text := by
  rw [sharing, sharing, stricter.field]

theorem sharingKeys_eq : strict.sharingKeys records = lax.sharingKeys records := by
  funext text
  rw [sharingKeys, sharingKeys, stricter.sharing_eq, stricter.object]

theorem shared (shares : strict.Shared records text) : lax.Shared records text := by
  obtain ⟨shown, enough, differ⟩ := shares
  rw [stricter.sharing_eq] at enough differ
  exact ⟨shown, Nat.le_trans stricter.minCount enough,
    fun field asked => differ field (stricter.distinctField field asked)⟩

theorem sharedTexts_sublist : (strict.sharedTexts records).Sublist (lax.sharedTexts records) := by
  rw [sharedTexts, sharedTexts, stricter.field]
  refine List.monotone_filter_right _ fun text shares => ?_
  rw [decide_eq_true_iff] at shares ⊢
  exact stricter.shared shares

theorem check {criteria : Option RuleNode}
    (checked : (RuleNode.aggregate lax criteria).check = .ok ()) :
    (RuleNode.aggregate strict criteria).check = .ok () := by
  obtain ⟨enough, sound⟩ := RuleNode.check_aggregate checked
  exact RuleNode.check_aggregate_eq_ok.mpr ⟨Nat.le_trans enough stricter.minCount, sound⟩

end Stricter

theorem mem_candidates {criteria : Option RuleNode} {graph : AccountGraph} {record : GraphRecord} :
    record ∈ duplicates.candidates criteria graph ↔
      record ∈ graph.records duplicates.object ∧
        RuleNode.CriteriaHold criteria ⟨graph, duplicates.object, record⟩ := by
  classical
  rw [candidates, List.mem_filter, decide_eq_true_iff]

/-- Records are looked at where the criteria hold. -/
theorem verdict_candidates {criteria : Option RuleNode}
    (checked : (RuleNode.aggregate duplicates criteria).check = .ok ()) (context : Context) :
    (RuleNode.aggregate duplicates criteria).verdict context =
      duplicates.verdict (duplicates.candidates criteria context.graph) := by
  classical
  obtain ⟨-, sound⟩ := RuleNode.check_aggregate checked
  rw [RuleNode.verdict, candidates]
  refine congrArg _ (List.filter_congr fun record _ => ?_)
  rw [Bool.eq_iff_iff, decide_eq_true_iff]
  exact RuleNode.satisfies_eq_true fun root same => RuleNode.verdict_passed (sound root same) _

end Duplicates

/-- The outcome of a verdict whose matches are of records of their own, and which passes on account
of them, has these matches. -/
theorem Outcome.ofVerdict_of_unique {verdict : Verdict}
    (passes : verdict.passed = !verdict.found.isEmpty)
    (unique : (verdict.found.map Match.key).Nodup) :
    (Outcome.ofVerdict verdict).found = verdict.found := by
  rw [Outcome.ofVerdict, Match.dedup_of_unique unique, passes]
  cases verdict.found <;> rfl

theorem AlertDefinition.evaluate_aggregate {alert : AlertDefinition} {duplicates : Duplicates}
    {criteria : Option RuleNode} (advanced : alert.rule = .advanced (.aggregate duplicates criteria))
    (checked : (RuleNode.aggregate duplicates criteria).check = .ok ()) {graph : AccountGraph}
    (keyed : ((graph.records duplicates.object).map (·.key)).Nodup) :
    ∃ outcome, alert.evaluate graph = .ok outcome ∧
      outcome.found = (duplicates.verdict (duplicates.candidates criteria graph)).found := by
  refine ⟨_, evaluate_of_check (by rw [advanced]; exact checked) graph, ?_⟩
  rw [advanced, AlertRule.verdict, Duplicates.verdict_candidates checked]
  exact Outcome.ofVerdict_of_unique rfl
    (Duplicates.found_unique (keyed.sublist (List.filter_sublist.map _)))

/-- Cases of one priority, of those which have a status. -/
def priorities (distinctField : Option String) : AlertDefinition :=
  ⟨"priorities", "Priorities", none, .advanced, .advanced
    (.aggregate ⟨"Case", "Priority", 2, distinctField⟩
      (some (.condition ⟨"Case", ⟨"Status", .notBlank, none⟩⟩)))⟩

/-- Cases of two priorities in turn, one without a priority and one without a status. -/
def triageAccount : AccountGraph :=
  let triaged (key priority status : String) : GraphRecord :=
    ⟨key, ⟨[("Priority", .text priority), ("Status", .text status)]⟩, []⟩
  AccountGraph.make "001" ⟨"001", Record.empty, []⟩ [
    ("Case", [triaged "500" "Low" "Open", triaged "501" "High" "Open", triaged "502" " " "Open",
      triaged "503" "Low" "Closed", triaged "504" "High" "Open", triaged "505" "Low" ""])]

end Dossier
