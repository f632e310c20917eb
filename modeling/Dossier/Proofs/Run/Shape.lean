import Dossier.Proofs.Fetch.Returns
import Dossier.Proofs.Graph.Belonging
import Dossier.Proofs.Payload.Rendering
import Dossier.Proofs.Run.Arranged

/-!
The shape of a result.

Whoever reads a result puts the types which it names together with what it counts of them and with what
each account has of them.  All three go by one list of types, and of every type in it an account has
the records of its graph, with the fields of the type.
-/

namespace Dossier

/-- Those of the fields of a type which the store is known to have; all of them, where the type was
not planned for. -/
def Fetched.usable (fetched : Fetched) (object : String) (fields : List String) : List String :=
  match fetched.plans.lookup object with
  | some plan => fields.filter plan.hasField
  | none => fields

/-- What an account displays of its graph: all types on display, and of each of them the records one by
one as they are rendered, before alerts are attached to them and after. -/
structure AccountPayload.Displays (payload : AccountPayload) (config : Config) (fetched : Fetched)
    (graph : AccountGraph) (triggered : List Triggered) : Prop where
  attached : payload = ((Layout.make config fetched.plans).render graph).attachAlerts triggered
  types : payload.related.map (·.1) = config.shown
  rendered : ∀ object ∈ config.shown, List.Forall₂ (fun record shown => shown.Renders record
      (fetched.usable object (config.displayFields object))
      (fetched.usable object (config.registry.linkFields object)))
    (graph.records object) (((Layout.make config fetched.plans).render graph).records object)
  remains : ((Layout.make config fetched.plans).render graph).Remains payload

namespace Layout

variable {config : Config} {fetched : Fetched}
  (planned : ∀ entry ∈ fetched.plans, ∃ available,
    entry.2 = ObjectPlan.make config entry.1 available)

include planned

/-- The fields of a layout are those of the configuration which can be used. -/
theorem ofObject_fields (key : String) (hidden : Bool) :
    (ofObject config fetched.plans key hidden).displayFields =
        fetched.usable key (config.displayFields key) ∧
      (ofObject config fetched.plans key hidden).linkFields =
        fetched.usable key (config.registry.linkFields key) := by
  unfold ofObject Fetched.usable
  cases found : fetched.plans.lookup key with
  | none => exact ⟨rfl, rfl⟩
  | some plan =>
      obtain ⟨available, rfl⟩ : ∃ available, plan = ObjectPlan.make config key available :=
        planned _ (Table.mem_of_lookup found)
      exact ⟨rfl, rfl⟩

theorem ofObject_linkFields_unique (key : String) (hidden : Bool) :
    (ofObject config fetched.plans key hidden).linkFields.Nodup := by
  have unique : (config.registry.linkFields key).Nodup := by
    unfold Registry.linkFields
    split
    · exact .nil
    · exact nodup_distinct _
  rw [(ofObject_fields planned key hidden).2, Fetched.usable]
  split
  · exact unique.filter _
  · exact unique

theorem render_displays (graph : AccountGraph) (triggered : List Triggered) :
    (((make config fetched.plans).render graph).attachAlerts triggered).Displays config fetched graph
      triggered := by
  have remains := AccountPayload.Remains.attachAlerts ((make config fetched.plans).render graph)
    triggered
  have types : ((make config fetched.plans).render graph).related.map (·.1) = config.shown := by
    rw [render, List.map_map]
    exact visible_keys
  refine ⟨rfl, remains.types.trans types, fun object listed => ?_, remains⟩
  have keys : (make config fetched.plans).visible.map (·.key) = config.shown := visible_keys
  obtain ⟨layout, visible, rfl⟩ := List.mem_map.mp (keys ▸ listed)
  have records : ((make config fetched.plans).render graph).records layout.key =
      (graph.records layout.key).map layout.render := by
    rw [AccountPayload.records, render,
      lookup_of_visible (fun layout => (graph.records layout.key).map layout.render) visible]
    rfl
  rw [records, List.forall₂_map_right_iff, List.forall₂_same]
  intro record _
  obtain ⟨key, hidden, rfl⟩ := mem_visible layout visible
  obtain ⟨display, link⟩ := ofObject_fields planned key hidden
  have unique : (Record.idField :: (ofObject config fetched.plans key hidden).displayFields).Nodup :=
    ofObject_displayFields (fun entry member => ⟨config, entry.1, planned entry member⟩) key hidden
  have shown := ObjectLayout.render_renders unique (ofObject_linkFields_unique planned key hidden) record
  rw [display, link] at shown
  rwa [ofObject_key]

end Layout

/-- All of a result goes by one list of types. -/
structure RunResult.Shaped (result : RunResult) (config : Config) (fetched : Fetched)
    (alerts : List AlertDefinition) (accountIds : List String) : Prop where
  objects : result.data.objects.map (·.key) = config.shown
  summary : result.data.summary.map (·.1) = config.shown
  accounts : List.Forall₂ (fun accountId payload => payload.id = accountId ∧
      payload.Displays config fetched ((fetched.resolver config.registry).resolve accountId)
        (Run.triggered alerts ((fetched.resolver config.registry).resolve accountId)))
    accountIds result.data.accounts

theorem Run.explore_shaped {config : Config} {fetched : Fetched}
    (planned : ∀ entry ∈ fetched.plans, ∃ available,
      entry.2 = ObjectPlan.make config entry.1 available)
    (alerts : List AlertDefinition) :
    (explore config alerts fetched).Shaped config fetched alerts fetched.accountIds where
  objects := by
    simp only [explore, Layout.views, List.map_map]
    exact Layout.visible_keys
  summary := by
    simp only [explore, Layout.summary, List.map_map]
    exact Layout.visible_keys
  accounts := by
    rw [explore, List.forall₂_map_right_iff, List.forall₂_same]
    exact fun accountId _ => ⟨exploreAccount_id _ _ _ _, Layout.render_displays planned _ _⟩

/-- With a valid registry every linked type is listed once, whatever the operator lists; and a run with
an account goes by the visible ones of that list in all that it displays. -/
theorem run_shaped {config : Config} (valid : config.registry.validate = .ok ()) :
    config.Listing ∧ ∀ {σ : Type} (store : Store σ) (alerts : List AlertDefinition)
      (candidates : List String) (timeout : Duration) (state : σ) (result : RunResult),
      AccountId.sanitize candidates ≠ [] →
      (run store config alerts candidates timeout state).1 = .ok result →
        ∃ fetched, (fetch store config (AccountId.sanitize candidates) FieldCache.empty state).1 =
            .ok fetched ∧
          result.Shaped config fetched alerts (AccountId.sanitize candidates) := by
  refine ⟨Config.listing (Registry.validate_eq_ok.mp valid), ?_⟩
  intro σ store alerts candidates timeout state result some ran
  obtain ⟨-, fetched, succeeded, rfl⟩ := (run_eq_ok some).mp ran
  have shaped := Run.explore_shaped (fetch_plans succeeded) alerts
  rw [fetch_accountIds succeeded] at shaped
  exact ⟨fetched, succeeded, shaped⟩

/-- Types are mentioned twice, or are none which an account is linked to. -/
def untidy : Config :=
  Config.empty.arranging [⟨"Case", false⟩, ⟨"Nothing", false⟩, ⟨"Account", true⟩, ⟨"Contact", true⟩,
    ⟨"Case", true⟩, ⟨"Contact", false⟩]

/-- The first mention of a type counts: cases come first, and contacts are hidden. -/
theorem run_shaped_untidy :
    untidy.registry.validate = .ok () ∧ untidy.Listing ∧ untidy.mentioned = ["Case", "Contact"] ∧
      AccountId.sanitize ["001000000000001"] ≠ [] ∧
      ∃ result fetched,
        (run frontDesk.store untidy [answerable] ["001000000000001"] Run.defaultTimeout ()).1 =
          .ok result ∧
        result.Shaped untidy fetched [answerable] (AccountId.sanitize ["001000000000001"]) ∧
        result.data.summary.take 2 = [("Case", 1), ("BillingProfile__c", 0)] ∧
        result.data.accounts.map (fun payload => (payload.records "Case").map fun record =>
          record.fields.map fun field => (field.name, field.hidden)) =
            [[[("Id", false), ("Status", false), ("AccountId", true)]]] := by
  have valid : untidy.registry.validate = .ok () := by decide +kernel
  have some : AccountId.sanitize ["001000000000001"] ≠ [] := by decide +kernel
  obtain ⟨result, ran, told⟩ := @Fixture.succeeds _ _
    (run frontDesk.store untidy [answerable] ["001000000000001"] Run.defaultTimeout ()).1
    (fun result => result.data.summary.take 2 == [("Case", 1), ("BillingProfile__c", 0)] &&
      result.data.accounts.map (fun payload => (payload.records "Case").map fun record =>
        record.fields.map fun field => (field.name, field.hidden)) ==
          [[[("Id", false), ("Status", false), ("AccountId", true)]]]) (by decide +kernel)
  obtain ⟨counted, displayed⟩ := Bool.and_eq_true_iff.mp told
  obtain ⟨listing, runs⟩ := run_shaped valid
  obtain ⟨fetched, -, shaped⟩ := runs frontDesk.store [answerable] ["001000000000001"]
    Run.defaultTimeout () result some ran
  exact ⟨valid, listing, by decide +kernel, some, result, fetched, ran, shaped, eq_of_beq counted,
    eq_of_beq displayed⟩

end Dossier
