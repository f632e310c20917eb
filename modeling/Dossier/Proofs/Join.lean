import Dossier.Proofs.Join.Resolved

/-!
Accounts have what the join gives them.

Whatever the fixture holds, an account is resolved with the rows of each type which belong to it.
What stands in fields which the store does not know, what is reached through degraded contacts and
what shares no more than an empty reference with them does not belong to it.
-/

namespace Dossier.Fixture

variable {fixture : Fixture} {config : Config} {accountIds : List String} {fetched : Fetched}

theorem shows_project (fields : List String) (rows : List Row) :
    List.Forall₂ (Shows fields) rows (rows.map (project fields)) := by
  rw [List.forall₂_map_right_iff, List.forall₂_same]
  exact fun row _ => project_get? fields row

/-- Fetching and resolving are one join: of every type which is not degraded, an account has the rows
which belong to it, each of them once and as far as its fields are queried. -/
theorem resolve_joins (sound : fixture.Sound config.registry)
    (validated : config.registry.validate = .ok ()) (named : config.registry.Named)
    (unique : accountIds.Nodup) (filled : ∀ id ∈ accountIds, id ≠ "")
    (succeeded : (fetch fixture.store config accountIds FieldCache.empty ()).1 = .ok fetched)
    {account : String} (requested : account ∈ accountIds) {type : EntityType}
    (linked : type ∈ config.registry.linked) (kept : fetched.warnings.contains type.name = false) :
    ∃ plan, ∃ rows : List Row, fetched.plans.lookup type.name = some plan ∧
      rows.Perm (fixture.joined config (fetched.warnings.contains EntityType.contact) account type) ∧
      (∀ field, type.link = .direct field →
        rows = fixture.joined config (fetched.warnings.contains EntityType.contact) account type) ∧
      List.Forall₂ (Shows plan.queryFields) rows
        ((((Resolver.make config.registry fetched.records fetched.linkSources).resolve
          account).records type.name).map (·.record)) := by
  have valid := Registry.validate_eq_ok.mp validated
  have accountFilled := filled account requested
  cases link : type.link with
  | root => exact absurd link (Registry.mem_linked.mp linked).2
  | direct field =>
      obtain ⟨plan, planned, whole⟩ := resolve_direct sound valid named unique succeeded requested
        accountFilled linked kept link
      have ours : fixture.joined config (fetched.warnings.contains EntityType.contact) account type =
          (fixture.rowsOf type.name).filter fun row =>
            fixture.text? type.name field row == some account := by
        refine List.filter_congr fun row _ => ?_
        rw [belongs, link]
      refine ⟨plan, _, planned, .of_eq ours.symm, fun _ _ => ours.symm, ?_⟩
      rw [whole]
      exact shows_project ..
  | contactReference field =>
      obtain ⟨plan, rows, planned, exact, whole⟩ := resolve_referenced sound valid named unique
        succeeded requested accountFilled linked kept link
      refine ⟨plan, rows, planned, exact.trans (.of_eq ?_), by simp, ?_⟩
      · refine List.filter_congr fun row _ => ?_
        rw [belongs, link]
      · rw [whole]
        exact shows_project ..
  | contactPoint contactField individualField =>
      obtain ⟨plan, rows, planned, exact, whole⟩ := resolve_contactPoint sound valid named unique
        succeeded requested accountFilled linked kept link
      refine ⟨plan, rows, planned, exact.trans (.of_eq ?_), by simp, ?_⟩
      · refine List.filter_congr fun row _ => ?_
        rw [belongs, link]
      · rw [whole]
        exact shows_project ..

/-- The first account has the two contact points of its contact and of the individual. -/
theorem resolve_joins_households :
    ∃ fetched plan, ∃ rows : List Row,
      (fetch (households []).store Config.empty ["001", "002"] FieldCache.empty ()).1 = .ok fetched ∧
      fetched.plans.lookup "ContactPointEmail" = some plan ∧
      rows.Perm (((households []).rowsOf "ContactPointEmail").take 2) ∧
      List.Forall₂ (Shows plan.queryFields) rows
        ((((Resolver.make Config.empty.registry fetched.records fetched.linkSources).resolve
          "001").records "ContactPointEmail").map (·.record)) := by
  have passed : (fetch (households []).store Config.empty ["001", "002"] FieldCache.empty
      ()).1.toOption.any (fun fetched => !fetched.warnings.contains EntityType.contact &&
        !fetched.warnings.contains "ContactPointEmail") = true := by
    decide +kernel
  obtain ⟨fetched, succeeded, kept⟩ := succeeds passed
  rw [Bool.and_eq_true, Bool.not_eq_true', Bool.not_eq_true'] at kept
  have sound : (households []).Sound Config.empty.registry := by decide +kernel
  have linked : ⟨"ContactPointEmail", "Contact Point Email", [],
      .contactPoint (some "Contact__c") (some "ParentId"),
      ["EmailAddress", "IsPrimary", "UsageType", "Status__c"]⟩ ∈ Config.empty.registry.linked := by
    decide +kernel
  obtain ⟨plan, rows, planned, exact, -, shown⟩ := resolve_joins sound rfl (by decide +kernel)
    (by decide) (by decide) succeeded (List.mem_cons_self) linked kept.2
  rw [kept.1] at exact
  exact ⟨fetched, plan, rows, succeeded, planned, exact, shown⟩

/-- The fixture is sound, and after a fetch without a warning of a type an account has none of its
records. -/
def Lacks (fixture : Fixture) (account object : String) : Prop :=
  fixture.Sound Config.empty.registry ∧
    ∃ fetched, (fetch fixture.store Config.empty ["001", "002"] FieldCache.empty ()).1 = .ok fetched ∧
      fetched.warnings.contains object = false ∧
      ((Resolver.make Config.empty.registry fetched.records fetched.linkSources).resolve
        account).records object = []

theorem lacks_of_check {fixture : Fixture} {account object : String}
    (sound : fixture.Sound Config.empty.registry)
    (passed : (fetch fixture.store Config.empty ["001", "002"] FieldCache.empty
      ()).1.toOption.any (fun fetched => !fetched.warnings.contains object &&
        (((Resolver.make Config.empty.registry fetched.records fetched.linkSources).resolve
          account).records object).isEmpty) = true) : fixture.Lacks account object := by
  obtain ⟨fetched, succeeded, checked⟩ := succeeds passed
  rw [Bool.and_eq_true, Bool.not_eq_true', List.isEmpty_iff] at checked
  exact ⟨sound, fetched, succeeded, checked⟩

/-- A contact of the first account refers to an individual, which the account lacks where the store
does not know the reference, or the account of contacts.  A contact of the second account and a
contact point have the same reference, which is empty: the account lacks the contact point. -/
theorem lacks_unknown_or_empty :
    Config.empty.registry.validate = .ok () ∧ Config.empty.registry.Named ∧
    (∃ contact ∈ (households []).rowsOf EntityType.contact, contact.text? "AccountId" = some "001" ∧
      ∃ individual ∈ (households []).rowsOf EntityType.individual,
        individual.text? Record.idField = contact.text? "IndividualId") ∧
    (households [(EntityType.contact, ["AccountId", "Id"])]).Lacks "001" EntityType.individual ∧
    (households [(EntityType.contact, ["Id"])]).Lacks "001" EntityType.individual ∧
    (∃ contact ∈ (households []).rowsOf EntityType.contact, contact.text? "AccountId" = some "002" ∧
      ∃ email ∈ (households []).rowsOf "ContactPointEmail",
        email.text? "ParentId" = contact.text? "IndividualId") ∧
    (households []).Lacks "002" "ContactPointEmail" := by
  exact ⟨rfl, by decide +kernel, by decide, lacks_of_check (by decide +kernel) (by decide +kernel),
    lacks_of_check (by decide +kernel) (by decide +kernel), by decide,
    lacks_of_check (by decide +kernel) (by decide +kernel)⟩

end Dossier.Fixture
