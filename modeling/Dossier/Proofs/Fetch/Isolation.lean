import Dossier.Proofs.Fetch.Settling
import Dossier.Proofs.Graph.Isolation
import Dossier.Proofs.Store.Fixture

/-!
Degrading a type is of no concern to the others.

Of two steady stores which answer alike but for one type, the second one may not know that type.
What a fetch finds of all other types is the same, as long as nobody is reached through that type:
it is neither the accounts nor the contacts.
-/

namespace Dossier

variable {σ τ : Type}

namespace Answers

open Fetching (Yield recordsOf)

/-- Answers which differ in nothing but one type. -/
structure AgreeBut (answers others : Answers) (object : String) : Prop where
  describe : ∀ other, other ≠ object → others.describe other = answers.describe other
  query : ∀ query : Query, query.object ≠ object → others.query query = answers.query query

variable {answers others : Answers} {config : Config} {removed : String}

section Agree

variable (agree : answers.AgreeBut others removed) {object : String} (other : object ≠ removed)

include agree other

theorem selectChunks_agree (fields : List String) (idField : String) (chunks : List (List String)) :
    others.selectChunks object fields idField chunks =
      answers.selectChunks object fields idField chunks := by
  induction chunks with
  | nil => rfl
  | cons chunk rest ih => rw [selectChunks, selectChunks, ih, agree.query ⟨object, _, _, _⟩ other]

theorem selectPaths_agree {plan : ObjectPlan} (named : plan.object = object)
    (owners : LinkPath → List String) (pool : List Record) (sources : List LinkSource) :
    others.selectPaths plan owners pool sources = answers.selectPaths plan owners pool sources := by
  induction sources generalizing pool with
  | nil => rfl
  | cons source rest ih =>
      simp only [selectPaths, select, named, selectChunks_agree agree other, ih]

theorem typeYield_agree (need : Fetching.Need) (idField : String) (ids : List String) :
    others.typeYield config need object idField ids =
      answers.typeYield config need object idField ids := by
  simp only [typeYield, plan, agree.describe object other, select, selectChunks_agree agree other]

theorem pointYield_agree (contactField individualField : Option String)
    (owners : LinkPath → List String) :
    others.pointYield config object contactField individualField owners =
      answers.pointYield config object contactField individualField owners := by
  unfold pointYield
  have planned : others.plan object config = answers.plan object config := by
    rw [plan, plan, agree.describe object other]
  rw [planned]
  cases told : answers.plan object config with
  | error error => rfl
  | ok plan => simp only [selectPaths_agree agree other (plan_object told)]

omit other in
theorem directYield_agree (accountIds : List String) (type : EntityType)
    (other : type.name ≠ removed) :
    others.directYield config accountIds type = answers.directYield config accountIds type := by
  unfold directYield
  split
  · rw [typeYield_agree agree other]
  · rfl

omit other in
theorem referencedYield_agree (contacts : List Record) (type : EntityType)
    (other : type.name ≠ removed) :
    others.referencedYield config contacts type = answers.referencedYield config contacts type := by
  unfold referencedYield
  split
  · rw [typeYield_agree agree other]
  · rfl

omit other in
theorem contactPointYield_agree (contacts : List Record) (type : EntityType)
    (other : type.name ≠ removed) :
    others.contactPointYield config contacts type =
      answers.contactPointYield config contacts type := by
  unfold contactPointYield
  split
  · rw [pointYield_agree agree other]
  · rfl

end Agree

section Survey

variable (config) (accountIds : List String)

theorem recordsOf_filter {parts : List Fetching.Part} {object : String} (other : object ≠ removed) :
    recordsOf (parts.filter (·.object != removed)) object = recordsOf parts object := by
  have same : (parts.filter (·.object != removed)).find? (·.object == object) =
      parts.find? (·.object == object) := by
    rw [List.find?_filter]
    congr 1
    funext part
    by_cases named : part.object = object
    · simp [named, other]
    · simp [named]
  rw [recordsOf, recordsOf, same]

variable (agree : answers.AgreeBut others removed) (notAccount : EntityType.account ≠ removed)
  (notContact : EntityType.contact ≠ removed)

include agree notAccount

theorem accounts_agree :
    (others.survey config accountIds).accounts = (answers.survey config accountIds).accounts :=
  typeYield_agree agree notAccount ..

omit notAccount in
theorem direct_agree :
    (others.survey config accountIds).direct.filter (·.part.object != removed) =
      (answers.survey config accountIds).direct.filter (·.part.object != removed) := by
  exact Table.filter_filterMap_congr (directYield_agree agree accountIds)
    (fun _ _ found => (directYield_link found).1) (fun _ _ found => (directYield_link found).1) _

include notContact

/-- Both stores have the same contacts to reach others through. -/
theorem contacts_agree :
    (others.survey config accountIds).contacts = (answers.survey config accountIds).contacts := by
  have accounts := accounts_agree config accountIds agree notAccount
  have direct := direct_agree config accountIds agree
  have parts : (((others.survey config accountIds).accounts ::
        (others.survey config accountIds).direct).map (·.part)).filter (·.object != removed) =
      (((answers.survey config accountIds).accounts ::
        (answers.survey config accountIds).direct).map (·.part)).filter (·.object != removed) := by
    rw [List.filter_map, List.filter_map]
    refine congrArg (List.map Yield.part) ?_
    simp only [Function.comp_def, List.filter_cons, direct, accounts]
  -- Among the parts which are the same are those of contacts.
  have found := congrArg (recordsOf · EntityType.contact) parts
  simp only [recordsOf_filter notContact] at found
  exact found

theorem survey_agree :
    (others.survey config accountIds).yields.filter (·.part.object != removed) =
      (answers.survey config accountIds).yields.filter (·.part.object != removed) := by
  have contacts := contacts_agree config accountIds agree notAccount notContact
  have referenced : (others.survey config accountIds).referenced.filter (·.part.object != removed) =
      (answers.survey config accountIds).referenced.filter (·.part.object != removed) := by
    change (List.filterMap (others.referencedYield config (others.survey config accountIds).contacts)
      _).filter _ = _
    rw [contacts]
    exact Table.filter_filterMap_congr (referencedYield_agree agree _)
      (fun _ _ found => (referencedYield_link found).1)
      (fun _ _ found => (referencedYield_link found).1) _
  have points : (others.survey config accountIds).points.filter (·.part.object != removed) =
      (answers.survey config accountIds).points.filter (·.part.object != removed) := by
    change (List.filterMap (others.contactPointYield config (others.survey config accountIds).contacts)
      _).filter _ = _
    rw [contacts]
    exact Table.filter_filterMap_congr (contactPointYield_agree agree _)
      (fun _ _ found => (contactPointYield_link found).1)
      (fun _ _ found => (contactPointYield_link found).1) _
  simp only [Survey.yields, List.filter_append, List.filter_cons, referenced, points,
    accounts_agree config accountIds agree notAccount, direct_agree config accountIds agree]

end Survey

end Answers

/-- Two fetches which found the same of all types but one. -/
structure Fetched.SameBut (removed : String) (fetched other : Fetched) : Prop where
  missing : other.missingAccountIds = fetched.missingAccountIds
  records : other.records.filter (·.1 != removed) = fetched.records.filter (·.1 != removed)
  plans : other.plans.filter (·.1 != removed) = fetched.plans.filter (·.1 != removed)
  linkSources : other.linkSources.filter (·.1 != removed) =
    fetched.linkSources.filter (·.1 != removed)
  warnings : other.warnings.without removed = fetched.warnings.without removed

namespace Fetching

variable {removed : String}

theorem foldl_warn_without (config : Config) (yields : List Yield) (before : Warnings) :
    (yields.foldl (Yield.warn config) before).without removed =
      (yields.filter (·.part.object != removed)).foldl (Yield.warn config)
        (before.without removed) := by
  induction yields generalizing before with
  | nil => rfl
  | cons yield rest ih =>
      rw [List.foldl_cons, ih, List.filter_cons]
      by_cases own : yield.part.object = removed
      · have same : (yield.warn config before).without removed = before.without removed := by
          unfold Yield.warn Fetching.warn
          split
          · rfl
          · rw [Warnings.without_insert, if_pos own]
        simp [own, same]
      · have same : (yield.warn config before).without removed =
            yield.warn config (before.without removed) := by
          unfold Yield.warn Fetching.warn
          split
          · rfl
          · rw [Warnings.without_insert, if_neg own]
        simp [own, same]

theorem filter_known {β : Type} (known : Part → Option β) (parts : List Part) :
    (parts.filterMap fun part => (known part).map fun value => (part.object, value)).filter
        (·.1 != removed) =
      (parts.filter (·.object != removed)).filterMap fun part =>
        (known part).map fun value => (part.object, value) := by
  rw [List.filter_filterMap, List.filterMap_filter]
  refine List.filterMap_congr fun part _ => ?_
  cases known part with
  | none => simp
  | some value => by_cases own : part.object = removed <;> simp [own]

theorem ofParts_sameBut (config : Config) {yields others : List Yield}
    (same : others.filter (·.part.object != removed) = yields.filter (·.part.object != removed))
    (accountIds missing : List String) (before : Warnings) :
    Fetched.SameBut removed
      (.ofParts accountIds missing (yields.map (·.part)) (yields.foldl (Yield.warn config) before))
      (.ofParts accountIds missing (others.map (·.part)) (others.foldl (Yield.warn config) before)) := by
  have parts : (others.map (·.part)).filter (·.object != removed) =
      (yields.map (·.part)).filter (·.object != removed) := by
    rw [List.filter_map, List.filter_map]
    exact congrArg (List.map Yield.part) same
  constructor
  · rfl
  · have listed (parts : List Part) : (parts.map fun part => (part.object, part.records)).filter
        (·.1 != removed) = (parts.filter (·.object != removed)).map fun part =>
          (part.object, part.records) := List.filter_map ..
    rw [Fetched.ofParts, Fetched.ofParts, listed, listed, parts]
  · rw [Fetched.ofParts, Fetched.ofParts, filter_known, filter_known, parts]
  · rw [Fetched.ofParts, Fetched.ofParts, filter_known, filter_known, parts]
  · rw [Fetched.ofParts, Fetched.ofParts, foldl_warn_without, foldl_warn_without, same]

end Fetching

theorem Fetched.SameBut.resolve {removed : String} {fetched other : Fetched}
    (same : fetched.SameBut removed other) {registry : Registry} (valid : registry.Valid)
    (notAccount : removed ≠ EntityType.account) (notContact : removed ≠ EntityType.contact)
    (accountId : String) {object : String} (apart : object ≠ removed) :
    ((Resolver.make registry other.records other.linkSources).resolve accountId).records object =
      ((Resolver.make registry fetched.records fetched.linkSources).resolve accountId).records
        object :=
  Resolver.resolve_apart valid.unique notAccount.symm notContact.symm
    (fun _ => Table.lookup_of_filter_eq same.records)
    (fun _ => Table.lookup_of_filter_eq same.linkSources) accountId apart

/-- A fetch survives recoverable failures of a type, and finds the same of all others. -/
theorem fetch_isolated {store : Store σ} {impaired : Store τ} {answers others : Answers}
    (gives : store.Gives answers) (impairedGives : impaired.Gives others) {removed : String}
    (notAccount : removed ≠ EntityType.account) (notContact : removed ≠ EntityType.contact)
    (agree : answers.AgreeBut others removed)
    (mild : ∀ error, others.Fails removed error → error.isRecoverable = true) {config : Config}
    (validated : config.registry.validate = .ok ()) {accountIds : List String} {state : σ}
    {fetched : Fetched}
    (succeeded : (fetch store config accountIds FieldCache.empty state).1 = .ok fetched)
    (impairedState : τ) :
    ∃ other, (fetch impaired config accountIds FieldCache.empty impairedState).1 = .ok other ∧
      fetched.SameBut removed other ∧
      ∀ accountId object, object ≠ removed →
        ((Resolver.make config.registry other.records other.linkSources).resolve accountId).records
            object =
          ((Resolver.make config.registry fetched.records fetched.linkSources).resolve
            accountId).records object := by
  have valid := Registry.validate_eq_ok.mp validated
  have same := Answers.survey_agree config accountIds agree notAccount.symm notContact.symm
  have accounts := Answers.accounts_agree config accountIds agree notAccount.symm
  rw [fetch_steady gives valid (FieldCache.truthful_empty _ _)] at succeeded
  cases settled : Fetching.settleAll config (answers.survey config accountIds).yields
      Warnings.empty with
  | error error =>
      rw [settled] at succeeded
      contradiction
  | ok found =>
      have spared := Fetching.spared_of_settleAll settled
      have impairedSpared : ∀ yield ∈ (others.survey config accountIds).yields,
          yield.fatal? = none := by
        intro yield member
        -- A yield of the type is harmless by itself, any other one is among those which went through.
        by_cases own : yield.part.object = removed
        · exact (Answers.survey_spare member (own ▸ notAccount)).spared (own ▸ mild)
        · have kept : yield ∈ (others.survey config accountIds).yields.filter
              (·.part.object != removed) := List.mem_filter.mpr ⟨member, by simpa using own⟩
          rw [same] at kept
          exact spared yield (List.mem_filter.mp kept).1
      rw [Fetching.settleAll_of_spared spared] at succeeded
      cases succeeded
      rw [fetch_steady impairedGives valid (FieldCache.truthful_empty _ _),
        Fetching.settleAll_of_spared impairedSpared, accounts]
      have alike := Fetching.ofParts_sameBut config same accountIds
        (Fetching.missing accountIds (answers.survey config accountIds).accounts.part.records)
        Warnings.empty
      exact ⟨_, rfl, alike, fun accountId object apart =>
        alike.resolve valid notAccount notContact accountId apart⟩

namespace Fixture

/-- A fixture fails only for types and fields which it does not have. -/
theorem recoverable_of_fails {fixture : Fixture} {object : String} {error : StoreError}
    (failed : fixture.answers.Fails object error) : error.isRecoverable = true := by
  have undescribed : ∀ object error, fixture.fieldsOf object = .error error →
      error.isRecoverable = true := by
    intro object error failed
    unfold fieldsOf at failed
    split at failed
    · contradiction
    · contradiction
    · cases failed
      rfl
  rcases failed with described | ⟨query, -, answered⟩
  · exact undescribed object error described
  · change fixture.select query = .error error at answered
    unfold select at answered
    split at answered
    · rename_i described
      cases answered
      exact undescribed _ _ described
    · split at answered
      · cases answered
        rfl
      · contradiction

variable (fixture : Fixture) (removed : String)

/-- The fixture without a type, which does not exist then. -/
def without : Fixture where
  org := fixture.org
  described := fixture.described.filter (·.1 != removed)
  rows := fixture.rows.filter (·.1 != removed)

theorem without_agree : fixture.answers.AgreeBut (fixture.without removed).answers removed := by
  have fields : ∀ object, object ≠ removed →
      (fixture.without removed).fieldsOf object = fixture.fieldsOf object := by
    intro object other
    simp only [fieldsOf, without, Table.lookup_filter_ne _ other]
  constructor
  · exact fields
  · intro query other
    change (fixture.without removed).select query = fixture.select query
    have rows : (fixture.without removed).rows.lookup query.object =
        fixture.rows.lookup query.object := Table.lookup_filter_ne _ other
    simp only [select, fields query.object other, rows]

theorem without_mild (error : StoreError)
    (failed : (fixture.without removed).answers.Fails removed error) :
    error.isRecoverable = true :=
  recoverable_of_fails failed

end Fixture

/-- Contact points of individuals are found without the individuals. -/
theorem fetch_isolated_individual :
    ∃ fetched other, (fetch (Fixture.households []).store Config.empty ["001", "002"]
        FieldCache.empty ()).1 = .ok fetched ∧
      (fetch ((Fixture.households []).without EntityType.individual).store Config.empty
        ["001", "002"] FieldCache.empty ()).1 = .ok other ∧
      fetched.SameBut EntityType.individual other ∧
      other.warnings.contains EntityType.individual = true := by
  have passed : (fetch (Fixture.households []).store Config.empty ["001", "002"] FieldCache.empty
      ()).1.toOption.any (fun _ => true) = true := by
    decide +kernel
  have degraded : (fetch ((Fixture.households []).without EntityType.individual).store Config.empty
      ["001", "002"] FieldCache.empty ()).1.toOption.any
        (·.warnings.contains EntityType.individual) = true := by
    decide +kernel
  obtain ⟨fetched, succeeded, -⟩ := Fixture.succeeds passed
  obtain ⟨found, survived, warned⟩ := Fixture.succeeds degraded
  have notAccount : EntityType.individual ≠ EntityType.account := by decide
  have notContact : EntityType.individual ≠ EntityType.contact := by decide
  obtain ⟨other, reached, same, -⟩ := fetch_isolated (Fixture.gives _) (Fixture.gives _)
    notAccount notContact (Fixture.without_agree _ _) (Fixture.without_mild _ _) rfl succeeded ()
  obtain rfl := Except.ok.inj (survived.symm.trans reached)
  exact ⟨fetched, found, succeeded, survived, same, warned⟩

end Dossier
