import Dossier.Proofs.Fetch.Followed
import Dossier.Proofs.Fetch.Isolation
import Dossier.Proofs.Join.Resolved
import Dossier.Proofs.Join.Selection

/-!
The pools of a fetch from a fixture, as rows.

Every type of a valid registry is fetched once.  Its pool consists of shown rows, and which rows these
are depends on the links of the registry and on the accounts.
-/

namespace Dossier.Fixture

variable (fixture : Fixture) (config : Config) (accountIds : List String)

/-- The contacts which were fetched. -/
def contacts : List Record :=
  (fixture.answers.survey config accountIds).contacts

/-- The rows of a type which are fetched. -/
def fetchedRows (type : EntityType) : List Row :=
  match type.link with
  | .root => fixture.rowsBy type.name Record.idField accountIds
  | .direct field => fixture.rowsBy type.name field accountIds
  | .contactReference field =>
      fixture.rowsBy type.name Record.idField
        (Fetching.distinctValues (fixture.contacts config accountIds) field)
  | .contactPoint contactField individualField =>
      fixture.reachedRows type.name
        (Fetching.owners config.registry (fixture.contacts config accountIds)) []
        (fixture.sourcesOf config type.name contactField individualField)

/-- The sources by which a type is fetched. -/
def fetchedSources (type : EntityType) : List LinkSource :=
  match type.link with
  | .contactPoint contactField individualField =>
      fixture.sourcesOf config type.name contactField individualField
  | _ => []

/-- The fields of a type which the store knows. -/
def available (object : String) : List String :=
  (fixture.fieldsOf object).toOption.getD []

variable {fixture config accountIds} {fetched : Fetched}

/-- A type was fetched, and once: the yield is that of its rows. -/
structure Yields (fixture : Fixture) (config : Config) (accountIds : List String) (type : EntityType)
    (yield : Fetching.Yield) : Prop where
  member : yield ∈ (fixture.answers.survey config accountIds).yields
  named : yield.part.object = type.name
  only : ∀ other ∈ (fixture.answers.survey config accountIds).yields,
    other.part.object = type.name → other = yield
  records : yield.part.records =
    (fixture.fetchedRows config accountIds type).map (fixture.shown config type.name)
  sources : yield.part.linkSources.getD [] = fixture.fetchedSources config type
  plan : yield.part.plan = (fixture.answers.plan type.name config).toOption

theorem accounts_yields (valid : config.registry.Valid) {type : EntityType}
    (named : type.name = EntityType.account) (root : type.link = .root) :
    fixture.Yields config accountIds type
      (fixture.answers.typeYield config .required EntityType.account Record.idField accountIds) := by
  constructor
  · exact List.mem_append_left _ (List.mem_append_left _ List.mem_cons_self)
  · rw [Answers.typeYield_object, named]
  · intro other there same
    have linked : ∀ owner ∈ config.registry.linked, other.part.object ≠ owner.name :=
      fun owner member isOwner => valid.linked_ne_account member
        (isOwner.symm.trans (same.trans named))
    simp only [Answers.Survey.yields, Answers.survey, List.mem_append, List.mem_cons,
      List.mem_filterMap] at there
    rcases there with ((rfl | ⟨owner, member, found⟩) | ⟨owner, member, found⟩) |
      ⟨owner, member, found⟩
    · rfl
    · exact absurd (Answers.directYield_link found).1 (linked owner member)
    · exact absurd (Answers.referencedYield_link found).1 (linked owner member)
    · exact absurd (Answers.contactPointYield_link found).1 (linked owner member)
  · rw [typeYield_shown, fetchedRows, root, named]
  · rw [Answers.typeYield_linkSources, fetchedSources, root]
    rfl
  · rw [Answers.typeYield_plan, named]

theorem yieldOf?_yields (valid : config.registry.Valid) {type : EntityType}
    (linked : type ∈ config.registry.linked) {yield : Fetching.Yield}
    (found : fixture.answers.yieldOf? config accountIds type = some yield)
    (named : yield.part.object = type.name)
    (records : yield.part.records =
      (fixture.fetchedRows config accountIds type).map (fixture.shown config type.name))
    (sources : yield.part.linkSources.getD [] = fixture.fetchedSources config type)
    (plan : yield.part.plan = (fixture.answers.plan type.name config).toOption) :
    fixture.Yields config accountIds type yield := by
  refine ⟨Answers.mem_yields linked found, named, fun other there same => ?_, records, sources, plan⟩
  have also := Answers.yields_only valid linked there same
  exact Option.some.inj (also.symm.trans found)

/-- Every type of a valid registry is fetched. -/
theorem exists_yields (valid : config.registry.Valid) {type : EntityType}
    (member : type ∈ config.registry.objects) :
    ∃ yield, fixture.Yields config accountIds type yield := by
  cases link : type.link with
  | root =>
      have listed : type.name ∈ config.registry.roots :=
        List.mem_map_of_mem (List.mem_filter.mpr ⟨member, by simp [EntityType.isLinked, link]⟩)
      rw [valid.roots, List.mem_singleton] at listed
      exact ⟨_, accounts_yields valid listed link⟩
  | direct field =>
      have linked : type ∈ config.registry.linked := Registry.mem_linked.mpr ⟨member, by simp [link]⟩
      refine ⟨fixture.answers.typeYield config .optional type.name field accountIds,
        yieldOf?_yields valid linked ?_ (Answers.typeYield_object ..) ?_ ?_
          (Answers.typeYield_plan ..)⟩
      · simp [Answers.yieldOf?, Answers.directYield, link]
      · rw [typeYield_shown, fetchedRows, link]
      · rw [Answers.typeYield_linkSources, fetchedSources, link]
        rfl
  | contactReference field =>
      have linked : type ∈ config.registry.linked := Registry.mem_linked.mpr ⟨member, by simp [link]⟩
      refine ⟨fixture.answers.typeYield config .optional type.name Record.idField
        (Fetching.distinctValues (fixture.contacts config accountIds) field),
        yieldOf?_yields valid linked ?_ (Answers.typeYield_object ..) ?_ ?_
          (Answers.typeYield_plan ..)⟩
      · simp [Answers.yieldOf?, Answers.directYield, Answers.referencedYield, link, contacts]
      · rw [typeYield_shown, fetchedRows, link]
      · rw [Answers.typeYield_linkSources, fetchedSources, link]
        rfl
  | contactPoint contactField individualField =>
      have linked : type ∈ config.registry.linked := Registry.mem_linked.mpr ⟨member, by simp [link]⟩
      obtain ⟨records, sources⟩ := @pointYield_shown fixture config type.name contactField
        individualField (Fetching.owners config.registry (fixture.contacts config accountIds))
      refine ⟨fixture.answers.pointYield config type.name contactField individualField
        (Fetching.owners config.registry (fixture.contacts config accountIds)),
        yieldOf?_yields valid linked ?_ (Answers.pointYield_object ..) ?_ ?_
          (Answers.pointYield_plan ..)⟩
      · simp [Answers.yieldOf?, Answers.directYield, Answers.referencedYield,
          Answers.contactPointYield, link, contacts]
      · rw [records, fetchedRows, link]
      · rw [sources, fetchedSources, link]
        rfl

/-- Nothing is fetched but types of the registry. -/
theorem object_mem_of_mem_yields (valid : config.registry.Valid) {yield : Fetching.Yield}
    (member : yield ∈ (fixture.answers.survey config accountIds).yields) :
    yield.part.object ∈ config.registry.objects.map (·.name) := by
  have listed : ∀ owner ∈ config.registry.linked, owner.name ∈ config.registry.objects.map (·.name) :=
    fun owner linked => List.mem_map_of_mem (Registry.mem_linked.mp linked).1
  simp only [Answers.Survey.yields, Answers.survey, List.mem_append, List.mem_cons,
    List.mem_filterMap] at member
  rcases member with ((rfl | ⟨owner, linked, found⟩) | ⟨owner, linked, found⟩) |
    ⟨owner, linked, found⟩
  · obtain ⟨type, listed, named, -⟩ := valid.account
    rw [Answers.typeYield_object, ← named]
    exact List.mem_map_of_mem listed
  · exact (Answers.directYield_link found).1 ▸ listed owner linked
  · exact (Answers.referencedYield_link found).1 ▸ listed owner linked
  · exact (Answers.contactPointYield_link found).1 ▸ listed owner linked

/-- Only the accounts are required.  A fixture fails for what it does not have, so that any other type
is degraded at most. -/
theorem fetch_of_accounts (valid : config.registry.Valid)
    (kept : (fixture.answers.typeYield config .required EntityType.account Record.idField
      accountIds).failure = none) :
    ∃ fetched, (fetch fixture.store config accountIds FieldCache.empty ()).1 = .ok fetched := by
  obtain ⟨type, -, named, root⟩ := valid.account
  have spared : ∀ yield ∈ (fixture.answers.survey config accountIds).yields,
      yield.fatal? = none := by
    intro yield member
    by_cases account : yield.part.object = EntityType.account
    · have yields : fixture.Yields config accountIds type _ := accounts_yields valid named root
      rw [yields.only yield member (account.trans named.symm)]
      unfold Fetching.Yield.fatal?
      rw [kept]
      rfl
    · exact (Answers.survey_spare member account).spared fun _ failed => recoverable_of_fails failed
  rw [fetch_steady fixture.gives valid (FieldCache.truthful_empty fixture.org fixture.answers),
    Fetching.settleAll_of_spared spared]
  exact ⟨_, rfl⟩

section Fetch

variable (valid : config.registry.Valid)
  (succeeded : (fetch fixture.store config accountIds FieldCache.empty ()).1 = .ok fetched)

include valid succeeded

theorem fetched_yields {type : EntityType} (member : type ∈ config.registry.objects) :
    ∃ yield, fixture.Yields config accountIds type yield ∧
      fetched.records.lookup type.name = some yield.part.records ∧
        fetched.linkSources.lookup type.name = yield.part.linkSources ∧
          fetched.plans.lookup type.name = yield.part.plan := by
  obtain ⟨missing, whole, -⟩ := fetch_found fixture.gives valid
    (FieldCache.truthful_empty fixture.org fixture.answers) succeeded
  have once : ∃ yield, fixture.Yields config accountIds type yield := exists_yields valid member
  obtain ⟨yield, yields⟩ := once
  have listed := List.mem_map_of_mem (f := (·.part)) yields.member
  have sole : ∀ other ∈ (fixture.answers.survey config accountIds).yields.map (·.part),
      other.object = yield.part.object → other = yield.part :=
    List.forall_mem_map.mpr fun other there same =>
      congrArg (·.part) (yields.only other there (same.trans yields.named))
  refine ⟨yield, yields, ?_, ?_, ?_⟩
  all_goals rw [whole, ← yields.named]
  · exact Fetched.lookup_records listed sole ..
  · exact Fetched.lookup_parts listed sole (·.linkSources)
  · exact Fetched.lookup_parts listed sole (·.plan)

theorem pool_eq {type : EntityType} (member : type ∈ config.registry.objects) :
    fetched.pool type.name =
        (fixture.fetchedRows config accountIds type).map (fixture.shown config type.name) ∧
      fetched.sources type.name = fixture.fetchedSources config type := by
  obtain ⟨yield, yields, records, sources, -⟩ := fetched_yields valid succeeded member
  exact ⟨by rw [Fetched.pool, records, ← yields.records]; rfl,
    by rw [Fetched.sources, sources, yields.sources]⟩

theorem plan_eq {type : EntityType} (member : type ∈ config.registry.objects) :
    fetched.plans.lookup type.name = (fixture.answers.plan type.name config).toOption := by
  obtain ⟨yield, yields, -, -, plan⟩ := fetched_yields valid succeeded member
  exact plan.trans yields.plan

omit succeeded in
theorem unlisted_parts {object : String} (unlisted : object ∉ config.registry.objects.map (·.name))
    {β : Type} (known : Fetching.Part → Option β) :
    (((fixture.answers.survey config accountIds).yields.map (·.part)).filterMap fun part =>
      (known part).map fun value => (part.object, value)).lookup object = none := by
  refine Table.lookup_eq_none fun listed => ?_
  obtain ⟨entry, there, named⟩ := List.mem_map.mp listed
  obtain ⟨part, member, given⟩ := List.mem_filterMap.mp there
  obtain ⟨value, -, rfl⟩ := Option.map_eq_some_iff.mp given
  obtain ⟨yield, found, rfl⟩ := List.mem_map.mp member
  exact unlisted (named ▸ object_mem_of_mem_yields valid found)

theorem pool_unlisted {object : String} (unlisted : object ∉ config.registry.objects.map (·.name)) :
    fetched.pool object = [] ∧ fetched.sources object = [] := by
  obtain ⟨missing, whole, -⟩ := fetch_found fixture.gives valid
    (FieldCache.truthful_empty fixture.org fixture.answers) succeeded
  have records : fetched.records.lookup object = none := by
    rw [whole, Fetched.ofParts, ← List.filterMap_eq_map']
    exact unlisted_parts valid unlisted fun part => some part.records
  have sources : fetched.linkSources.lookup object = none := by
    rw [whole]
    exact unlisted_parts valid unlisted (·.linkSources)
  exact ⟨by rw [Fetched.pool, records]; rfl, by rw [Fetched.sources, sources]; rfl⟩

omit valid succeeded in
theorem mem_available {object field : String} :
    field ∈ fixture.available object ↔ fixture.knows object field = true := by
  unfold available knows
  cases fixture.fieldsOf object <;> simp [Except.toOption]

omit valid succeeded in
theorem shown_available {object : String} {row : Row} {field : String}
    (present : (fixture.shown config object row).get? field ≠ none) :
    field = Record.idField ∨ field ≠ "" ∧ field ∈ fixture.available object := by
  cases planned : fixture.answers.plan object config with
  | error error =>
      rw [shown, planned] at present
      exact absurd rfl present
  | ok plan =>
      rw [shown_eq planned, project_get?] at present
      have queried : field ∈ plan.queryFields := by
        by_contra unasked
        exact present (if_neg unasked)
      rcases (mem_plan planned).mp queried with own | ⟨known, -⟩
      · exact .inl own
      · obtain ⟨available, -, rfl⟩ := Answers.plan_eq_ok.mp planned
        exact .inr ⟨ObjectPlan.queryFields_named queried, mem_available.mpr known⟩

omit valid succeeded in
theorem follows_of_source {type : EntityType} (member : type ∈ config.registry.objects)
    {source : LinkSource} (active : source ∈ fixture.fetchedSources config type) :
    config.registry.Follows type.name source.field := by
  cases link : type.link with
  | contactPoint contactField individualField =>
      simp only [fetchedSources, link] at active
      have given := (mem_sourcesOf.mp active).2.1
      refine .contactPoint member link ?_
      cases path : source.path with
      | contact => exact .inl (by rwa [path] at given)
      | individual => exact .inr (by rwa [path] at given)
  | root | direct _ | contactReference _ => simp [fetchedSources, link] at active

/-- What is fetched is within what the store knows. -/
theorem fetched_within : fetched.Within config.registry fixture.available := by
  constructor
  all_goals intro object
  all_goals by_cases listed : object ∈ config.registry.objects.map (·.name)
  · obtain ⟨type, member, rfl⟩ := List.mem_map.mp listed
    rw [(pool_eq valid succeeded member).1]
    exact List.forall_mem_map.mpr fun row _ field => shown_available
  · rw [(pool_unlisted valid succeeded listed).1]
    simp
  · obtain ⟨type, member, rfl⟩ := List.mem_map.mp listed
    rw [(pool_eq valid succeeded member).2]
    exact fun source active => follows_of_source member active
  · rw [(pool_unlisted valid succeeded listed).2]
    simp

end Fetch

end Dossier.Fixture
