import Dossier.Proofs.Fetch.Configured
import Dossier.Proofs.Graph.Belonging
import Dossier.Proofs.Layout
import Dossier.Proofs.Run.Likeness
import Dossier.Proofs.Store.Fixture

/-!
Runs which differ in the types that they show.

Which types are shown, and in which order, is read by the layout and by nothing before it.  Annotating
looks for the record of a match type by type, so that a type which is shown is annotated in the same
way whatever stands beside it, and a match of a type which is not shown annotates nothing.
-/

namespace Dossier

/-- The configuration with other settings of which types are shown and in which order. -/
def Config.arranging (config : Config) (objects : List ObjectVisibility) : Config :=
  { config with objects }

/-- Payloads of one account which agree on everything but on types which are not shown in both. -/
structure AccountPayload.AgreesOn (shown : String → Prop) (payload other : AccountPayload) :
    Prop where
  id : payload.id = other.id
  recordKey : payload.recordKey = other.recordKey
  fields : payload.fields = other.fields
  alerts : payload.alerts = other.alerts
  alertDetails : payload.alertDetails = other.alertDetails
  related : ∀ object, shown object → ∃ records,
    payload.related.lookup object = some records ∧ other.related.lookup object = some records

namespace AccountPayload.AgreesOn

variable {shown : String → Prop} {payload other : AccountPayload}

theorem annotate (agrees : payload.AgreesOn shown other) (alert : Triggered) (m : Match) :
    (payload.annotate alert m).AgreesOn shown (other.annotate alert m) := by
  unfold AccountPayload.annotate
  rw [agrees.recordKey]
  split
  · exact ⟨agrees.id, rfl, by rw [agrees.fields], agrees.alerts,
      by rw [agrees.alertDetails], agrees.related⟩
  · refine ⟨agrees.id, rfl, agrees.fields, agrees.alerts, agrees.alertDetails, ?_⟩
    intro object visible
    obtain ⟨records, own, also⟩ := agrees.related object visible
    simp only [lookup_updateFirst, own, also]
    split
    · exact ⟨_, rfl, rfl⟩
    · exact ⟨_, rfl, rfl⟩

theorem attachAlerts (agrees : payload.AgreesOn shown other) (triggered : List Triggered) :
    (payload.attachAlerts triggered).AgreesOn shown (other.attachAlerts triggered) := by
  have annotated := List.foldl_rel (l := triggered)
    (f := fun payload alert => alert.found.foldl (AccountPayload.annotate alert) payload)
    (g := fun payload alert => alert.found.foldl (AccountPayload.annotate alert) payload)
    agrees fun alert _ payload other agrees =>
      List.foldl_rel agrees fun m _ _ _ agrees => agrees.annotate alert m
  unfold AccountPayload.attachAlerts
  split
  · exact annotated
  · exact { annotated with alerts := rfl }

end AccountPayload.AgreesOn

namespace Config

variable (config : Config) (objects : List ObjectVisibility)

theorem arranging_fetchesAlike : (config.arranging objects).FetchesAlike config where
  registry := rfl
  displayFields _ := rfl
  linkPaths _ := rfl

/-- The type is shown in both arrangements. -/
def ShowsBoth (object : String) : Prop :=
  config.Shows object ∧ (config.arranging objects).Shows object

/-- A type is laid out in the same way wherever it stands. -/
theorem render_agreesOn (plans : List (String × ObjectPlan)) (graph : AccountGraph) :
    ((Layout.make config plans).render graph).AgreesOn (config.ShowsBoth objects)
      ((Layout.make (config.arranging objects) plans).render graph) where
  id := rfl
  recordKey := rfl
  fields := rfl
  alerts := rfl
  alertDetails := rfl
  related _ shown := ⟨_, Layout.lookup_visible _ shown.1, Layout.lookup_visible _ shown.2⟩

end Config

/-- Results which agree on everything but on types which are not shown in both. -/
structure RunResult.AgreesOn (shown : String → Prop) (result other : RunResult) : Prop where
  accountIds : result.accountIds = other.accountIds
  missingAccountIds : result.missingAccountIds = other.missingAccountIds
  accounts : List.Forall₂ (AccountPayload.AgreesOn shown) result.data.accounts other.data.accounts
  summary : ∀ object, shown object →
    result.data.summary.lookup object = other.data.summary.lookup object
  alerts : result.data.alerts = other.data.alerts
  warnings : result.data.warnings = other.data.warnings

namespace Run

variable (config : Config) (objects : List ObjectVisibility) (alerts : List AlertDefinition)

theorem nothing_agreesOn :
    (nothing config alerts).AgreesOn (config.ShowsBoth objects)
      (nothing (config.arranging objects) alerts) where
  accountIds := rfl
  missingAccountIds := rfl
  accounts := .nil
  summary _ _ := rfl
  alerts := rfl
  warnings := rfl

theorem explore_agreesOn (fetched : Fetched) :
    (explore config alerts fetched).AgreesOn (config.ShowsBoth objects)
      (explore (config.arranging objects) alerts fetched) where
  accountIds := rfl
  missingAccountIds := rfl
  accounts := by
    simp only [explore, List.forall₂_map_left_iff, List.forall₂_map_right_iff, List.forall₂_same]
    exact fun accountId _ => (config.render_agreesOn objects _ _).attachAlerts _
  summary _ shown := by
    simp only [explore, Layout.summary]
    rw [Layout.lookup_visible _ shown.1, Layout.lookup_visible _ shown.2]
    rfl
  alerts := rfl
  warnings := rfl

end Run

variable {σ : Type} {store : Store σ} {answers : Answers}

/-- Hiding types or putting them in another order does not change what is explored.  Both runs fail
with one error, or they agree on everything but on types which one of them does not show; and every
account lists all that it triggers, with matches of types which are shown and of types which are not. -/
theorem run_arranging (gives : store.Gives answers) (config : Config)
    (objects : List ObjectVisibility) (alerts : List AlertDefinition) (candidates : List String)
    (timeout : Duration) (state later : σ) :
    (∃ error, (run store config alerts candidates timeout state).1 = .error error ∧
      (run store (config.arranging objects) alerts candidates timeout later).1 = .error error) ∨
    ∃ result other, (run store config alerts candidates timeout state).1 = .ok result ∧
      (run store (config.arranging objects) alerts candidates timeout later).1 = .ok other ∧
      result.AgreesOn (config.ShowsBoth objects) other ∧
      ∀ payload ∈ other.data.accounts, ∃ fetched,
        (fetch store config (AccountId.sanitize candidates) FieldCache.empty state).1 = .ok fetched ∧
        payload.alerts.getD [] =
          Run.triggered alerts ((fetched.resolver config.registry).resolve payload.id) := by
  cases asked : (AccountId.sanitize candidates).isEmpty with
  | true =>
      simp only [run, asked, if_true]
      exact .inr ⟨_, _, rfl, rfl, Run.nothing_agreesOn config objects alerts, by simp [Run.nothing]⟩
  | false =>
      cases responsive : store.responsive with
      | false =>
          simp only [run, asked, responsive, Bool.not_false, Bool.false_eq_true, if_false, if_true]
          exact .inl ⟨_, rfl, rfl⟩
      | true =>
          have same : (fetch store (config.arranging objects) (AccountId.sanitize candidates)
              FieldCache.empty later).1 =
                (fetch store config (AccountId.sanitize candidates) FieldCache.empty state).1 := by
            rw [fetch_congr (config.arranging_fetchesAlike objects)]
            exact gives.fetch_eq config _ _ later state
          rw [run_of_responsive asked responsive, run_of_responsive asked responsive, same]
          cases (fetch store config (AccountId.sanitize candidates) FieldCache.empty state).1 with
          | error error => exact .inl ⟨_, rfl, rfl⟩
          | ok fetched =>
              refine .inr ⟨_, _, rfl, rfl, Run.explore_agreesOn config objects alerts fetched, ?_⟩
              intro payload member
              obtain ⟨accountId, -, rfl⟩ := List.mem_map.mp member
              refine ⟨fetched, rfl, ?_⟩
              rw [Run.exploreAccount_id]
              exact AccountPayload.attachAlerts_alerts rfl _

/-- An account with a contact and an open case. -/
def frontDesk : Fixture where
  org := "fixture"
  described := []
  rows := [
    (EntityType.account, [.object [("Id", .text "001000000000001"), ("Name", .text "Doe")]]),
    (EntityType.contact, [.object [("Id", .text "003000000000001"),
      ("AccountId", .text "001000000000001"), ("Email", .text "a@b.c")]]),
    ("Case", [.object [("Id", .text "500000000000001"), ("AccountId", .text "001000000000001"),
      ("Status", .text "Open")]])]

/-- An open case, and a contact who can be written to. -/
def answerable : AlertDefinition :=
  ⟨"answerable", "Answerable", none, .simple, .simple [
    ⟨"Case", [⟨"Status", .equals, some "Open"⟩]⟩, ⟨"Contact", [⟨"Email", .notBlank, none⟩]⟩]⟩

/-- Contacts come first, and cases are hidden. -/
def casesHidden : List ObjectVisibility := [⟨"Contact", false⟩, ⟨"Case", true⟩]

/-- Where cases are hidden they are not counted, and their match stays. -/
theorem run_arranging_casesHidden :
    frontDesk.store.Gives frontDesk.answers ∧ Config.empty.ShowsBoth casesHidden "Contact" ∧
      ∃ result other,
        (run frontDesk.store Config.empty [answerable] ["001000000000001"] Run.defaultTimeout
          ()).1 = .ok result ∧
        (run frontDesk.store (Config.empty.arranging casesHidden) [answerable] ["001000000000001"]
          Run.defaultTimeout ()).1 = .ok other ∧
        result.AgreesOn (Config.empty.ShowsBoth casesHidden) other ∧
        result.data.summary.lookup "Case" = some 1 ∧ other.data.summary.lookup "Case" = none ∧
        other.data.accounts.map (fun payload => (payload.alerts.getD []).map fun alert =>
          alert.found.map Match.key) =
            [[[("Case", "500000000000001"), ("Contact", "003000000000001")]]] := by
  obtain ⟨told, ran, counted⟩ := @Fixture.succeeds _ _
    (run frontDesk.store Config.empty [answerable] ["001000000000001"] Run.defaultTimeout ()).1
    (fun result => result.data.summary.lookup "Case" == some 1) (by decide +kernel)
  obtain ⟨hidden, alsoRan, shown⟩ := @Fixture.succeeds _ _
    (run frontDesk.store (Config.empty.arranging casesHidden) [answerable] ["001000000000001"]
      Run.defaultTimeout ()).1
    (fun result => result.data.summary.lookup "Case" == none &&
      result.data.accounts.map (fun payload => (payload.alerts.getD []).map fun alert =>
        alert.found.map Match.key) ==
          [[[("Case", "500000000000001"), ("Contact", "003000000000001")]]]) (by decide +kernel)
  obtain ⟨uncounted, listed⟩ := Bool.and_eq_true_iff.mp shown
  have both : Config.empty.ShowsBoth casesHidden "Contact" := by
    refine ⟨⟨by decide +kernel, fun _ set => nomatch set⟩, by decide +kernel, fun view set => ?_⟩
    cases Option.some.inj set
    rfl
  refine ⟨frontDesk.gives, both, told, hidden, ran, alsoRan, ?_, eq_of_beq counted,
    eq_of_beq uncounted, eq_of_beq listed⟩
  rcases run_arranging frontDesk.gives Config.empty casesHidden [answerable] ["001000000000001"]
    Run.defaultTimeout () () with ⟨error, failed, -⟩ | ⟨result, other, first, second, agrees, -⟩
  · rw [ran] at failed
    cases failed
  · cases Except.ok.inj (ran.symm.trans first)
    cases Except.ok.inj (alsoRan.symm.trans second)
    exact agrees

end Dossier
