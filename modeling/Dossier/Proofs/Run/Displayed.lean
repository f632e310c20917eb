import Dossier.Proofs.Alert.Sanitize.Supply
import Dossier.Proofs.Graph.Likeness
import Dossier.Proofs.Join.Pools
import Dossier.Proofs.Run.Likeness

/-!
Runs which differ in the fields they display.

What is displayed is queried, and what is not queried reads as absent.  Displaying other fields leaves
the records of an account in their places, and it leaves alone every alert which reads none of the
fields that one run queries and the other one does not.
-/

namespace Dossier

/-- The configuration with other fields to display. -/
def Config.displaying (config : Config) (fields : List (String × List String)) : Config :=
  { config with fields }

namespace Fixture

variable (fixture : Fixture) (config : Config) (fields : List (String × List String))

/-- A field is queried in both configurations, or in neither. -/
def Indifferent (object field : String) : Prop :=
  fixture.Queries config object field ↔ fixture.Queries (config.displaying fields) object field

variable {fixture config fields} {object field : String}

/-- Identifiers and link fields are queried wherever they are known. -/
theorem queries_link
    (link : field = Record.idField ∨ field ∈ config.registry.linkFields object) :
    fixture.Queries config object field ↔
      (∃ available, fixture.answers.describe object = .ok available) ∧
        (field = Record.idField ∨ fixture.knows object field = true) := by
  constructor
  · rintro ⟨plan, planned, queried⟩
    obtain ⟨available, described, -⟩ := Answers.plan_eq_ok.mp planned
    exact ⟨⟨available, described⟩, ((mem_plan planned).mp queried).imp_right And.left⟩
  · rintro ⟨⟨available, described⟩, known⟩
    have planned : fixture.answers.plan object config =
        .ok (ObjectPlan.make config object available) :=
      Answers.plan_eq_ok.mpr ⟨available, described, rfl⟩
    refine (queries_iff planned field).mpr ((mem_plan planned).mpr ?_)
    rcases link with own | link
    · exact .inl own
    · exact known.imp_right fun known => ⟨known, .inl link⟩

theorem indifferent_link
    (link : field = Record.idField ∨ field ∈ config.registry.linkFields object) :
    fixture.Indifferent config fields object field := by
  have also : field = Record.idField ∨ field ∈ (config.displaying fields).registry.linkFields object :=
    link
  exact (queries_link link).trans (queries_link also).symm

theorem not_queries_empty : ¬fixture.Queries config object "" := by
  rintro ⟨plan, planned, queried⟩
  obtain ⟨available, -, rfl⟩ := Answers.plan_eq_ok.mp planned
  exact ObjectPlan.queryFields_named queried rfl

/-- An empty field links nothing, since no store is queried for it. -/
theorem indifferent_named (link : field ≠ "" → field ∈ config.registry.linkFields object) :
    fixture.Indifferent config fields object field := by
  by_cases empty : field = ""
  · rw [empty]
    exact iff_of_false not_queries_empty not_queries_empty
  · exact indifferent_link (.inr (link empty))

section Valid

variable (valid : config.registry.Valid)

include valid

theorem indifferent_followed (follows : config.registry.Follows object field) :
    fixture.Indifferent config fields object field :=
  indifferent_named (valid.mem_linkFields_of_follows follows)

theorem linksShared : config.registry.LinksShared (fixture.Indifferent config fields) :=
  .of_follows (fun _ => indifferent_link (.inl rfl)) (indifferent_followed valid)

end Valid

/-- What is shown of a row differs in no field which both configurations or neither of them query. -/
theorem shown_alike (object : String) (row : Row) :
    (fixture.shown config object row).Alike (fixture.Indifferent config fields object)
      (fixture.shown (config.displaying fields) object row) := by
  intro field same
  cases described : fixture.answers.describe object with
  | error error =>
      have unplanned : ∀ config : Config, fixture.answers.plan object config = .error error := by
        intro config
        rw [Answers.plan, described]
        rfl
      rw [shown, shown, unplanned, unplanned]
  | ok available =>
      have planned : ∀ config : Config, fixture.answers.plan object config =
          .ok (ObjectPlan.make config object available) :=
        fun config => Answers.plan_eq_ok.mpr ⟨available, described, rfl⟩
      have asked := (queries_iff (planned config) field).symm.trans
        (same.trans (queries_iff (planned (config.displaying fields)) field))
      rw [shown_eq (planned config), shown_eq (planned (config.displaying fields)), project_get?,
        project_get?]
      simp only [asked]

theorem shown_alike_map (object : String) (rows : List Row) :
    List.Forall₂ (Record.Alike (fixture.Indifferent config fields object))
      (rows.map (fixture.shown config object))
      (rows.map (fixture.shown (config.displaying fields) object)) := by
  rw [List.forall₂_map_left_iff, List.forall₂_map_right_iff, List.forall₂_same]
  exact fun row _ => shown_alike object row

section Fetched

variable (valid : config.registry.Valid) {accountIds : List String}

include valid

theorem contacts_alike {type : EntityType} (member : type ∈ config.registry.objects)
    (through : (∃ field, type.link = .contactReference field) ∨
      ∃ contactField individualField, type.link = .contactPoint contactField individualField) :
    List.Forall₂ (Record.Alike (fixture.Indifferent config fields EntityType.contact))
      (fixture.contacts config accountIds)
      (fixture.contacts (config.displaying fields) accountIds) := by
  obtain ⟨field, contact, listed, named, direct⟩ := valid.contact_direct member through
  have rows : ∀ config : Config, config.registry.Valid → contact ∈ config.registry.objects →
      fixture.contacts config accountIds =
        (fixture.rowsBy EntityType.contact field accountIds).map
          (fixture.shown config EntityType.contact) :=
    fun config valid listed => (Answers.survey_contacts valid listed named direct).trans
      (typeYield_shown .optional)
  rw [rows config valid listed, rows (config.displaying fields) valid listed]
  exact shown_alike_map EntityType.contact _

/-- Which rows are fetched does not depend on what is displayed. -/
theorem fetchedRows_displaying {type : EntityType} (member : type ∈ config.registry.objects) :
    fixture.fetchedRows (config.displaying fields) accountIds type =
      fixture.fetchedRows config accountIds type := by
  -- The contacts through which a type is fetched differ in what is displayed of them, but in none of
  -- the fields which refer to the type: these are link fields.
  cases link : type.link with
  | root | direct _ => simp only [fetchedRows, link]
  | contactReference field =>
      have alike : List.Forall₂ (Record.Alike (fixture.Indifferent config fields EntityType.contact))
          (fixture.contacts config accountIds)
          (fixture.contacts (config.displaying fields) accountIds) :=
        contacts_alike valid member (.inl ⟨field, link⟩)
      simp only [fetchedRows, link]
      rw [Fetching.distinctValues_alike alike (indifferent_followed valid (.reference member link))]
  | contactPoint contactField individualField =>
      have alike : List.Forall₂ (Record.Alike (fixture.Indifferent config fields EntityType.contact))
          (fixture.contacts config accountIds)
          (fixture.contacts (config.displaying fields) accountIds) :=
        contacts_alike valid member (.inr ⟨contactField, individualField, link⟩)
      have owners := Fetching.owners_alike (linksShared valid) alike
      have paths : (config.displaying fields).registry = config.registry := rfl
      simp only [fetchedRows, link, paths]
      rw [owners]
      rfl

theorem fetched_alike {fetched other : Fetched}
    (succeeded : (fetch fixture.store config accountIds FieldCache.empty ()).1 = .ok fetched)
    (otherSucceeded : (fetch fixture.store (config.displaying fields) accountIds
      FieldCache.empty ()).1 = .ok other) :
    fetched.Alike (fixture.Indifferent config fields) other := by
  have validOther : (config.displaying fields).registry.Valid := valid
  constructor
  · intro object
    by_cases listed : object ∈ config.registry.objects.map (·.name)
    · obtain ⟨type, member, rfl⟩ := List.mem_map.mp listed
      rw [(pool_eq valid succeeded member).1, (pool_eq validOther otherSucceeded member).1,
        fetchedRows_displaying valid member]
      exact shown_alike_map type.name _
    · rw [(pool_unlisted valid succeeded listed).1, (pool_unlisted validOther otherSucceeded listed).1]
      exact .nil
  · intro object
    by_cases listed : object ∈ config.registry.objects.map (·.name)
    · obtain ⟨type, member, rfl⟩ := List.mem_map.mp listed
      exact (pool_eq valid succeeded member).2.trans (pool_eq validOther otherSucceeded member).2.symm
    · exact (pool_unlisted valid succeeded listed).2.trans
        (pool_unlisted validOther otherSucceeded listed).2.symm

theorem indifferent_fetched {fetched : Fetched}
    (succeeded : (fetch fixture.store config accountIds FieldCache.empty ()).1 = .ok fetched)
    (object : String) :
    ∀ source ∈ fetched.sources object, fixture.Indifferent config fields object source.field :=
  fun source active =>
    indifferent_followed valid ((fetched_within valid succeeded).sources object source active)

end Fetched

end Fixture

/-- Choosing what to display does not change what triggers, for alerts which read only fields that
both configurations query, or neither of them. -/
theorem run_displaying {fixture : Fixture} {config : Config}
    (valid : config.registry.validate = .ok ()) (fields : List (String × List String))
    {alerts : List AlertDefinition} {candidates : List String} {timeout : Duration}
    {result other : RunResult}
    (ran : (run fixture.store config alerts candidates timeout ()).1 = .ok result)
    (otherRan : (run fixture.store (config.displaying fields) alerts candidates timeout ()).1 =
      .ok other)
    (chosen : String → Bool)
    (reads : ∀ alert ∈ alerts, chosen alert.id = true → ∀ object field,
      alert.rule.Reads object field → fixture.Indifferent config fields object field) :
    List.Forall₂ (fun payload twin => payload.id = twin.id ∧
        payload.alertIds.filter chosen = twin.alertIds.filter chosen)
      result.data.accounts other.data.accounts := by
  have sound := Registry.validate_eq_ok.mp valid
  by_cases asked : AccountId.sanitize candidates = []
  · have nothing : ∀ config : Config,
        (run fixture.store config alerts candidates timeout ()).1 = .ok (Run.nothing config alerts) := by
      intro config
      simp only [run, asked, List.isEmpty_nil, if_true]
    cases (nothing config).symm.trans ran
    cases (nothing (config.displaying fields)).symm.trans otherRan
    exact .nil
  · obtain ⟨-, fetched, succeeded, rfl⟩ := (run_eq_ok asked).mp ran
    obtain ⟨-, twin, otherSucceeded, rfl⟩ := (run_eq_ok asked).mp otherRan
    have alike := Fixture.fetched_alike sound succeeded otherSucceeded
    have graphs : ∀ accountId, ((fetched.resolver config.registry).resolve accountId).Alike
        (fixture.Indifferent config fields) ((twin.resolver config.registry).resolve accountId) :=
      alike.resolve (Fixture.linksShared sound) sound.unique (fun _ linked => sound.linked_ne_account linked)
        (Fixture.indifferent_fetched sound succeeded)
    have accounts : fetched.accountIds = twin.accountIds :=
      (fetch_accountIds succeeded).trans (fetch_accountIds otherSucceeded).symm
    simp only [Run.explore, List.forall₂_map_left_iff, List.forall₂_map_right_iff, ← accounts,
      List.forall₂_same]
    intro accountId _
    refine ⟨by rw [Run.exploreAccount_id, Run.exploreAccount_id], ?_⟩
    have triggered := Run.triggered_alike (graphs accountId) reads
    rw [Run.exploreAccount_alertIds, Run.exploreAccount_alertIds, List.filter_map, List.filter_map]
    exact map_eq_of_forall₂ triggered fun _ _ same => same.id

/-- Accounts and their cases. -/
def helpDesk : Registry :=
  ⟨[⟨EntityType.account, "Account", [], .root, []⟩,
    ⟨"Case", "Case", [], .direct "AccountId", []⟩]⟩

/-- An account with one open case. -/
def openCase : Fixture where
  org := "fixture"
  described := []
  rows := [
    (EntityType.account, [.object [("Id", .text "001000000000001")]]),
    ("Case", [.object [("Id", .text "500000000000001"), ("AccountId", .text "001000000000001"),
      ("Status", .text "Open"), ("Subject", .text "Printer")]])]

/-- Cases are shown by their subjects.  They are watched for their status, which is not queried
therefore, and for the account that they link to. -/
def subjects : Config where
  fields := [("Case", ["Subject"])]
  objects := []
  contactPointLinks := []
  alerts := .array [
    .object [("id", .text "open"), ("label", .text "Open"), ("filters", .array [
      .object [("object", .text "Case"), ("field", .text "Status"), ("operator", .text "equals"),
        ("value", .text "Open")]])],
    .object [("id", .text "linked"), ("label", .text "Linked"), ("filters", .array [
      .object [("object", .text "Case"), ("field", .text "AccountId"),
        ("operator", .text "not_blank")]])]]
  override := some helpDesk

/-- An alert on a field which only one of two configurations displays is triggered in one run. -/
theorem run_displaying_openCase :
    subjects.registry.validate = .ok () ∧ ∃ result other,
      (run openCase.store subjects (subjects.loadAlerts Sanitize.numbered) ["001000000000001"]
        Run.defaultTimeout ()).1 = .ok result ∧
      (run openCase.store (subjects.displaying [("Case", ["Status"])])
        (subjects.loadAlerts Sanitize.numbered) ["001000000000001"] Run.defaultTimeout ()).1 =
          .ok other ∧
      result.data.accounts.map (·.alertIds) = [["linked"]] ∧
      other.data.accounts.map (·.alertIds) = [["open", "linked"]] := by
  obtain ⟨result, ran, triggered⟩ := @Fixture.succeeds _ _
    (run openCase.store subjects (subjects.loadAlerts Sanitize.numbered) ["001000000000001"]
      Run.defaultTimeout ()).1 (fun result => result.data.accounts.map (·.alertIds) == [["linked"]])
    (by decide +kernel)
  obtain ⟨other, otherRan, otherTriggered⟩ := @Fixture.succeeds _ _
    (run openCase.store (subjects.displaying [("Case", ["Status"])])
      (subjects.loadAlerts Sanitize.numbered) ["001000000000001"] Run.defaultTimeout ()).1
    (fun result => result.data.accounts.map (·.alertIds) == [["open", "linked"]]) (by decide +kernel)
  exact ⟨by decide +kernel, result, other, ran, otherRan, eq_of_beq triggered,
    eq_of_beq otherTriggered⟩

/-- The link of the cases is read in both runs, so that the alert on it is triggered in both. -/
theorem run_displaying_linkedCase :
    ∃ result other,
      (run openCase.store subjects (subjects.loadAlerts Sanitize.numbered) ["001000000000001"]
        Run.defaultTimeout ()).1 = .ok result ∧
      (run openCase.store (subjects.displaying [("Case", ["Status"])])
        (subjects.loadAlerts Sanitize.numbered) ["001000000000001"] Run.defaultTimeout ()).1 =
          .ok other ∧
      result.data.accounts.map (·.alertIds) ≠ [[]] ∧
      List.Forall₂ (fun payload twin => payload.id = twin.id ∧
        payload.alertIds.filter (· == "linked") = twin.alertIds.filter (· == "linked"))
          result.data.accounts other.data.accounts := by
  obtain ⟨result, ran, triggered⟩ := @Fixture.succeeds _ _
    (run openCase.store subjects (subjects.loadAlerts Sanitize.numbered) ["001000000000001"]
      Run.defaultTimeout ()).1 (fun result => result.data.accounts.map (·.alertIds) == [["linked"]])
    (by decide +kernel)
  obtain ⟨other, otherRan, -⟩ := @Fixture.succeeds _ _
    (run openCase.store (subjects.displaying [("Case", ["Status"])])
      (subjects.loadAlerts Sanitize.numbered) ["001000000000001"] Run.defaultTimeout ()).1
    (fun _ => true) (by decide +kernel)
  refine ⟨result, other, ran, otherRan, by rw [eq_of_beq triggered]; decide, ?_⟩
  refine run_displaying (by decide +kernel) [("Case", ["Status"])] ran otherRan (· == "linked") ?_
  have loaded : subjects.loadAlerts Sanitize.numbered =
      [⟨"open", "Open", none, .simple, .simple [⟨"Case", [⟨"Status", .equals, some "Open"⟩]⟩]⟩,
        ⟨"linked", "Linked", none, .simple, .simple [⟨"Case", [⟨"AccountId", .notBlank, none⟩]⟩]⟩] :=
    rfl
  intro alert member named object field ⟨part, asks, reads⟩
  rw [loaded] at member
  simp only [List.mem_cons, List.not_mem_nil, or_false] at member
  rcases member with rfl | rfl
  · exact absurd named (by decide)
  · cases asks with
    | simple grouped listed =>
        cases List.mem_singleton.mp grouped
        cases List.mem_singleton.mp listed
        obtain ⟨rfl, rfl⟩ := reads
        exact Fixture.indifferent_link (.inr (by decide +kernel))

end Dossier
