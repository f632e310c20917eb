import Dossier.Proofs.Alert.Likeness
import Dossier.Proofs.Payload.Annotation
import Dossier.Proofs.Run.Exploring

/-!
What accounts trigger whose graphs are alike.

Alerts which read nothing but shared fields are triggered by both accounts or by none, in the same
order, and they hit records of the same keys.
-/

namespace Dossier

/-- The same alert, with matches of the same records. -/
structure Triggered.Alike (alert other : Triggered) : Prop where
  id : alert.id = other.id
  found : Match.SameKeys alert.found other.found

variable {shared : String → String → Prop} {graph other : AccountGraph}

/-- Triggered alerts which are alike hit the same records. -/
theorem RecordPayload.hits_alike {triggered others : List Triggered}
    (alike : List.Forall₂ Triggered.Alike triggered others) (object key : String) :
    hits object key triggered = hits object key others := by
  have ids : (triggered.filter fun alert => alert.found.any (·.key == (object, key))).map (·.id) =
      (others.filter fun alert => alert.found.any (·.key == (object, key))).map (·.id) := by
    refine map_eq_of_forall₂ (List.rel_filter (fun alert other same => ?_) alike)
      fun _ _ same => same.id
    exact iff_of_eq (congrArg (· = true) (same.found.any_eq (object, key)))
  rw [hits, hits, ids]

namespace Run

theorem triggered_id {alert : AlertDefinition} :
    ∀ found ∈ triggered [alert] graph, found.id = alert.id := by
  intro found member
  cases evaluated : alert.evaluate graph with
  | error error => simp [triggered_of_error evaluated] at member
  | ok outcome =>
      rw [triggered_of_ok evaluated] at member
      split at member
      · rw [List.mem_singleton.mp member]
        rfl
      · contradiction

theorem triggered_alike_singleton {alert : AlertDefinition} (alike : graph.Alike shared other)
    (read : ∀ object field, alert.rule.Reads object field → shared object field) :
    List.Forall₂ Triggered.Alike (triggered [alert] graph) (triggered [alert] other) := by
  cases checked : alert.rule.check with
  | error error =>
      rw [triggered_of_error (AlertDefinition.evaluate_of_error checked graph),
        triggered_of_error (AlertDefinition.evaluate_of_error checked other)]
      exact .nil
  | ok _ =>
      have evaluated : ∀ graph : AccountGraph,
          alert.evaluate graph = .ok (Outcome.ofVerdict (alert.rule.verdict graph)) := by
        intro graph
        rw [AlertDefinition.evaluate, checked]
      have same := Outcome.ofVerdict_alike (AlertRule.verdict_alike alike read)
      rw [triggered_of_ok (evaluated graph), triggered_of_ok (evaluated other), same.passed]
      split
      · exact .cons ⟨rfl, same.found⟩ .nil
      · exact .nil

/-- Of the alerts with these identifiers, the same are triggered. -/
theorem triggered_alike (alike : graph.Alike shared other) {chosen : String → Bool}
    {alerts : List AlertDefinition}
    (read : ∀ alert ∈ alerts, chosen alert.id = true →
      ∀ object field, alert.rule.Reads object field → shared object field) :
    List.Forall₂ Triggered.Alike ((triggered alerts graph).filter (chosen ·.id))
      ((triggered alerts other).filter (chosen ·.id)) := by
  induction alerts with
  | nil => exact .nil
  | cons alert rest ih =>
      obtain ⟨own, later⟩ := List.forall_mem_cons.mp read
      rw [← List.singleton_append, triggered_append, triggered_append, List.filter_append,
        List.filter_append]
      refine List.rel_append ?_ (ih later)
      cases kept : chosen alert.id with
      | true =>
          have whole : ∀ graph : AccountGraph,
              (triggered [alert] graph).filter (chosen ·.id) = triggered [alert] graph :=
            fun graph => List.filter_eq_self.mpr fun found member => triggered_id found member ▸ kept
          rw [whole, whole]
          exact triggered_alike_singleton alike (own kept)
      | false =>
          have nothing : ∀ graph : AccountGraph,
              (triggered [alert] graph).filter (chosen ·.id) = [] := by
            refine fun graph => List.filter_eq_nil_iff.mpr fun found member => ?_
            rw [triggered_id found member, kept]
            exact Bool.false_ne_true
          rw [nothing, nothing]
          exact .nil

theorem exploreAccount_id (layout : Layout) (resolver : Resolver) (alerts : List AlertDefinition)
    (accountId : String) : (exploreAccount layout resolver alerts accountId).id = accountId :=
  AccountPayload.attachAlerts_id _ _

theorem exploreAccount_alertIds (layout : Layout) (resolver : Resolver)
    (alerts : List AlertDefinition) (accountId : String) :
    (exploreAccount layout resolver alerts accountId).alertIds =
      (triggered alerts (resolver.resolve accountId)).map (·.id) :=
  AccountPayload.attachAlerts_alertIds rfl _

/-- Of every displayed type, the records of the graph are rendered and annotated. -/
theorem exploreAccount_records {layout : Layout} {resolver : Resolver} {accountId : String}
    (addressed : Addressed (layout.render (resolver.resolve accountId)).related)
    (alerts : List AlertDefinition) {object : ObjectLayout} (visible : object ∈ layout.visible) :
    (exploreAccount layout resolver alerts accountId).records object.key =
      ((resolver.resolve accountId).records object.key).map fun record =>
        (object.render record).noteAll object.key
          (triggered alerts (resolver.resolve accountId)) := by
  have rendered : (layout.render (resolver.resolve accountId)).related.lookup object.key =
      some (((resolver.resolve accountId).records object.key).map object.render) :=
    Table.lookup_of_mem addressed.types (List.mem_map_of_mem visible)
  rw [AccountPayload.records, exploreAccount, AccountPayload.attachAlerts_related addressed,
    AccountPayload.lookup_mapRecords, rendered, Option.map_some, Option.getD_some, List.map_map]
  rfl

theorem exploreAccount_types {layout : Layout} {resolver : Resolver} {accountId : String}
    (addressed : Addressed (layout.render (resolver.resolve accountId)).related)
    (alerts : List AlertDefinition) :
    (exploreAccount layout resolver alerts accountId).related.map (·.1) =
      layout.visible.map (·.key) := by
  rw [exploreAccount, AccountPayload.attachAlerts_related addressed,
    AccountPayload.mapRecords_types, Layout.render, List.map_map]
  rfl

end Run

end Dossier
