import Dossier.Proofs.Alert.Sanitize.Supply
import Dossier.Proofs.Alert.Sanitize.Written

/-!
Sanitizing twice is sanitizing once.

Well-formed nodes, rules and definitions are read back from what is written of them, without a
defect, so that a batch with identifiers of its own is left as it is.
-/

namespace Dossier.Sanitize

section Node

variable {location : Location} {members : Members} {nodes : List RuleNode}

theorem children_written
    (written : members.lookup "children" = some (.array (RuleNode.toItems nodes)))
    (sound : ∀ node ∈ nodes, ∀ place, Sanitize.node place node.toJson = .sound node) :
    children location (walked members) =
      nodes.mapIdx fun index node => ((location.property "children").item index, .sound node) := by
  have walks : (walk (.array (RuleNode.toItems nodes))).items =
      nodes.map fun node place => Sanitize.node place node.toJson := by
    simp [walk_array, RuleNode.toItems_eq_map, Function.comp_def]
  rw [children, walked_lookup, written]
  simp only [Option.map_some, Option.getD_some, walks]
  refine List.ext_getElem (by simp) fun index inside _ => ?_
  simp only [List.getElem_mapIdx, List.getElem_map]
  rw [sound _ (List.getElem_mem _)]

theorem scopeChild_sound {node : RuleNode} (fits : node.FitsScope) (place : Location) :
    scopeChild place (.sound node) = .sound node := by
  rw [scopeChild, Cleaned.sound_bind]
  cases node with
  | condition condition => rfl
  | group logic nodes => rfl
  | scope object quantifier nodes => exact fits.elim
  | aggregate duplicates criteria => exact fits.elim

theorem collected_written {kind : String}
    (written : members.lookup "children" = some (.array (RuleNode.toItems nodes)))
    (filled : nodes ≠ [])
    (sound : ∀ node ∈ nodes, ∀ place, Sanitize.node place node.toJson = .sound node) :
    Cleaned.collectSome location kind ((children location (walked members)).map (·.2)) =
      .sound nodes := by
  have each : (children location (walked members)).map (·.2) = nodes.map .sound := by
    rw [children_written written sound]
    exact List.ext_getElem (by simp) (by simp)
  rw [each, Cleaned.collectSome_sound location kind filled]

theorem scoped_written {kind : String}
    (written : members.lookup "children" = some (.array (RuleNode.toItems nodes)))
    (filled : nodes ≠ []) (fit : ∀ node ∈ nodes, node.FitsScope)
    (sound : ∀ node ∈ nodes, ∀ place, Sanitize.node place node.toJson = .sound node) :
    Cleaned.collectSome location kind
      ((children location (walked members)).map fun (place, child) => scopeChild place child) =
        .sound nodes := by
  have each : (children location (walked members)).map
      (fun (place, child) => scopeChild place child) = nodes.map .sound := by
    rw [children_written written sound]
    refine List.ext_getElem (by simp) fun index inside _ => ?_
    simp only [List.getElem_map, List.getElem_mapIdx]
    exact scopeChild_sound (fit _ (List.getElem_mem _)) _
  rw [each, Cleaned.collectSome_sound location kind filled]

theorem criteria_written {criteria : Option RuleNode}
    (written : members.lookup "criteria" = criteria.map RuleNode.toJson)
    (sound : ∀ node, criteria = some node → ∀ place, Sanitize.node place node.toJson = .sound node) :
    Sanitize.criteria location (walked members) = .sound criteria := by
  rw [Sanitize.criteria, walked_lookup, written]
  cases criteria with
  | none => rfl
  | some root =>
      have read := sound root rfl (location.property "criteria")
      obtain ⟨parts, form⟩ := root.toJson_object
      simp only [Option.map_some, form] at read ⊢
      rw [← Sanitize.node, read, Cleaned.sound_bind]

theorem operation_written
    (written : members.lookup "operation" = some (.text Duplicates.operation)) :
    keyword location "operation" "operation" ()
      (fun word => if word == Duplicates.operation then some () else none) members = .sound () :=
  keyword_written written operation_not_blank (by rw [normalized_operation]; rfl)

theorem minCount_written (count : Nat) (enough : 2 ≤ count)
    (written : members.lookup "minCount" = some (.integer count)) : minCount members = count := by
  rw [minCount, written]
  exact Nat.max_eq_left enough

theorem text_written {property : String} {text : Option String}
    (written : members.lookup property = text.map .text)
    (tidy : ∀ given, text = some given → Text.Tidy given) :
    (members.lookup property >>= nonBlank?) = text := by
  rw [written]
  cases text with
  | none => rfl
  | some given => exact (tidy given rfl).trimmed?

end Node

theorem node_written {node : RuleNode} (sound : node.WellFormed) (location : Location) :
    Sanitize.node location node.toJson = .sound node := by
  induction sound generalizing location with
  | @condition condition sound =>
      obtain ⟨object, filter⟩ := condition
      rw [RuleNode.toJson, node_object]
      simp only [nodeOfMembers, walked_values]
      rw [kind_written .condition rfl, Cleaned.sound_bind]
      simp only
      rw [name_written object rfl sound.object, Cleaned.sound_bind,
        filter_written (holds_condition _ _ filter) sound.filter, Cleaned.sound_bind]
      rfl
  | @group logic children filled sound ih =>
      rw [RuleNode.toJson, node_object]
      simp only [nodeOfMembers, walked_values]
      rw [kind_written .group rfl, Cleaned.sound_bind]
      simp only
      rw [keyword_written rfl (logic_not_blank logic) (ofName?_logic logic), Cleaned.sound_bind,
        collected_written rfl filled ih, Cleaned.sound_bind]
      rfl
  | @scope object quantifier children named filled fit sound ih =>
      rw [RuleNode.toJson, node_object]
      simp only [nodeOfMembers, walked_values]
      rw [kind_written .scope rfl, Cleaned.sound_bind]
      simp only
      rw [name_written object rfl named, Cleaned.sound_bind,
        keyword_written rfl (quantifier_not_blank quantifier) (ofName?_quantifier quantifier),
        Cleaned.sound_bind, scoped_written rfl filled fit ih, Cleaned.sound_bind]
      rfl
  | @aggregate duplicates criteria duplicated sound ih =>
      obtain ⟨object, field, count, distinct⟩ := duplicates
      rw [RuleNode.toJson, node_object]
      simp only [nodeOfMembers, walked_values]
      rw [kind_written .aggregate rfl, Cleaned.sound_bind]
      simp only
      rw [operation_written rfl, Cleaned.sound_bind,
        name_written object rfl duplicated.object, Cleaned.sound_bind,
        name_written field rfl duplicated.field, Cleaned.sound_bind,
        minCount_written count duplicated.minCount rfl,
        text_written (by cases distinct <;> cases criteria <;> rfl) duplicated.distinctField,
        criteria_written (by cases distinct <;> cases criteria <;> rfl) ih, Cleaned.sound_bind]
      rfl

theorem writtenRule_written {location : Location} {members : Members} {rule : AlertRule}
    (written : members.lookup "rule" = some rule.toJson) (sound : rule.WellFormed) :
    writtenRule location members = .sound rule := by
  cases sound with
  | @simple groups filled sound =>
      rw [writtenRule, written, AlertRule.toJson]
      simp only
      rw [filterGroups_written sound, Cleaned.nonEmpty_sound filled, Cleaned.map_sound]
  | @advanced root sound =>
      have read := node_written sound (location.property "rule")
      obtain ⟨parts, form⟩ := root.toJson_object
      rw [writtenRule, written, AlertRule.toJson]
      rw [form] at read ⊢
      simp only
      rw [read, Cleaned.map_sound]

/-- A well-formed definition is read back from what is written of it, up to its mode, which is that
of its rule. -/
theorem draft_written {alert : AlertDefinition} (sound : alert.WellFormed)
    (named : Text.Tidy alert.id) (location : Location) :
    draft location alert.toJson =
      .sound ⟨some alert.id, alert.label, alert.description, alert.rule⟩ := by
  obtain ⟨members, form, id, label, description, -, rule⟩ := alert.toJson_object
  have identified : (members.lookup "id" >>= nonBlank?) = some alert.id :=
    text_written id (by simpa using named)
  have labelled : (members.lookup "label" >>= nonBlank?) = some alert.label :=
    text_written label (by simpa using sound.label)
  have described : (members.lookup "description" >>= nonBlank?) = alert.description :=
    text_written description sound.description
  have ruled : writtenRule location members = .sound alert.rule :=
    writtenRule_written rule sound.rule
  rw [form, draft, object, Cleaned.sound_bind]
  simp only
  rw [identified, labelled, described, Cleaned.ofOption_some, Cleaned.sound_bind, Sanitize.rule,
    ruled, Cleaned.needed_sound, Cleaned.sound_bind]
  rfl

/-- Alerts which have identifiers of their own go through without a defect and without a call of the
supply. -/
theorem alertsFrom_written {fresh : Nat → String} {index next : Nat}
    {before alerts : List AlertDefinition} (sound : ∀ alert ∈ alerts, alert.WellFormed)
    (identified : Identified (before ++ alerts)) :
    alertsFrom fresh index next before (alerts.map AlertDefinition.toJson) =
      ⟨before ++ alerts, []⟩ := by
  induction alerts generalizing index next before with
  | nil => simp [alertsFrom]
  | cons alert rest ih =>
      obtain ⟨first, others⟩ := List.forall_mem_cons.mp sound
      have named := identified.named alert (by simp)
      have kept : identify fresh before next (Location.root.item index)
          ⟨some alert.id, alert.label, alert.description, alert.rule⟩ = (alert, [], next) := by
        have free := not_inUse_of_unique identified.unique
        simp only [identify, free, Bool.false_eq_true, if_false, Draft.withId, ← first.mode]
      have identifiedLater : Identified ((before ++ [alert]) ++ rest) := by
        rw [List.append_assoc]
        exact identified
      rw [List.map_cons, alertsFrom, draft_written first named]
      simp only [Cleaned.sound_value]
      rw [kept]
      simp only [ih others identifiedLater]
      simp [Cleaned.sound]

end Dossier.Sanitize

namespace Dossier

/-- What the sanitizer emits is left as it is, and nothing in it is a defect, whatever the supply of
the second time. -/
theorem sanitizeAlerts_idempotent {fresh : Nat → String} {document : Json}
    (supply : Sanitize.FreshFor fresh document) (later : Nat → String) :
    sanitizeAlerts later
      (.array ((sanitizeAlerts fresh document).alerts.map AlertDefinition.toJson)) =
        ⟨(sanitizeAlerts fresh document).alerts, []⟩ := by
  have sound := Sanitize.sanitizeAlerts_wellFormed fresh document
  have identified := Sanitize.sanitizeAlerts_identified supply
  exact Sanitize.alertsFrom_written sound (List.nil_append _ ▸ identified)

theorem sanitizeAlerts_idempotent_watchlist :
    Sanitize.FreshFor Sanitize.numbered Sanitize.watchlist ∧
      (sanitizeAlerts Sanitize.numbered Sanitize.watchlist).alerts.length = 3 ∧
      sanitizeAlerts (fun _ => "")
        (.array ((sanitizeAlerts Sanitize.numbered Sanitize.watchlist).alerts.map
          AlertDefinition.toJson)) =
        ⟨(sanitizeAlerts Sanitize.numbered Sanitize.watchlist).alerts, []⟩ := by
  have supply : Sanitize.FreshFor Sanitize.numbered Sanitize.watchlist := by decide +kernel
  exact ⟨supply, by decide +kernel, sanitizeAlerts_idempotent supply fun _ => ""⟩

end Dossier
