import Dossier.Proofs.Graph.Likeness
import Dossier.Proofs.Join.Pools

/-!
What one account of a batch has.

The accounts of a batch share their pools.  A record of a pool which belongs to one of them is a row
which would have been fetched for this account alone, or with any other accounts: who else is asked
for changes the pools, but not what of them belongs to the account.
-/

namespace Dossier.Fixture

variable (fixture : Fixture) (config : Config) (accountIds : List String)

/-- A row of a type is fetched for the sake of the accounts. -/
def Wanted (type : EntityType) (row : Row) : Prop :=
  fixture.knows type.name Record.idField = true ∧
    match type.link with
    | .root => ∃ id ∈ accountIds, row.text? Record.idField = some id
    | .direct field =>
        fixture.knows type.name field = true ∧ ∃ id ∈ accountIds, row.text? field = some id
    | .contactReference field =>
        ∃ id ∈ Fetching.distinctValues (fixture.contacts config accountIds) field,
          row.text? Record.idField = some id
    | .contactPoint _ _ =>
        Reached (Fetching.owners config.registry (fixture.contacts config accountIds))
          (fixture.fetchedSources config type) row

variable {fixture config accountIds} {object : String}

theorem mem_rowsBy {idField : String} {ids : List String} {row : Row} :
    row ∈ fixture.rowsBy object idField ids ↔ row ∈ fixture.rowsOf object ∧
      fixture.knows object Record.idField = true ∧ fixture.knows object idField = true ∧
        ∃ id ∈ ids, row.text? idField = some id := by
  unfold rowsBy
  split
  · rename_i known
    rw [Bool.and_eq_true] at known
    rw [Fetching.mem_chunked, Fetching.flatten_chunksOf (by decide)]
    simp [known]
  · rename_i unknown
    rw [Bool.and_eq_true] at unknown
    simp only [List.not_mem_nil, false_iff]
    exact fun ⟨_, knowsId, known, _⟩ => unknown ⟨knowsId, known⟩

theorem rowsBy_nodup (distinct : (fixture.rowsOf object).Nodup) {idField : String}
    {ids : List String} (unique : ids.Nodup) : (fixture.rowsBy object idField ids).Nodup := by
  unfold rowsBy
  split
  · refine Fetching.nodup_chunked distinct ?_
    rwa [Fetching.flatten_chunksOf (by decide)]
  · exact .nil

/-- What a contact point has been reached by is what it is shown of, each row once. -/
theorem exists_reached (sound : fixture.Sound config.registry) {owners : LinkPath → List String}
    {sources : List LinkSource}
    (active : ∀ source ∈ sources, fixture.knows object source.field = true) :
    ∃ rows : List Row, rows.Nodup ∧
      (∀ row, row ∈ rows ↔ row ∈ fixture.rowsOf object ∧
        fixture.knows object Record.idField = true ∧ Reached owners sources row) ∧
      (fixture.reachedRows object owners [] sources).map (fixture.shown config object) =
        rows.map (fixture.shown config object) := by
  cases knowsId : fixture.knows object Record.idField with
  | false => exact ⟨[], .nil, by simp, by rw [reachedRows_unknown knowsId]⟩
  | true =>
      obtain ⟨plan, planned⟩ := @planned_of_knows fixture config object _ knowsId
      have shown : fixture.shown config object = project plan.queryFields := funext (shown_eq planned)
      have answered := @selectPaths_shown fixture config object plan planned owners _ knowsId active []
      obtain ⟨rows, distinct, members, same⟩ :=
        selectPaths_rows sound planned (by simp) .nil answered
      refine ⟨rows, distinct, fun row => ?_, shown ▸ same⟩
      rw [members]
      simp

section Sound

variable (sound : fixture.Sound config.registry) (unique : accountIds.Nodup)

include sound unique

/-- The rows which are fetched of a type are those which are wanted, each of them once. -/
theorem exists_rows {type : EntityType} :
    ∃ rows : List Row, rows.Nodup ∧
      (∀ row, row ∈ rows ↔
        row ∈ fixture.rowsOf type.name ∧ fixture.Wanted config accountIds type row) ∧
      (fixture.fetchedRows config accountIds type).map (fixture.shown config type.name) =
        rows.map (fixture.shown config type.name) := by
  have distinct := sound.nodup type.name
  cases link : type.link with
  | root =>
      refine ⟨_, rowsBy_nodup distinct unique, fun row => ?_, by rw [fetchedRows, link]⟩
      rw [mem_rowsBy, Wanted, link]
      simp only [and_self_left]
  | direct field =>
      refine ⟨_, rowsBy_nodup distinct unique, fun row => ?_, by rw [fetchedRows, link]⟩
      rw [mem_rowsBy, Wanted, link]
  | contactReference field =>
      refine ⟨_, rowsBy_nodup distinct (nodup_distinct _), fun row => ?_, by rw [fetchedRows, link]; rfl⟩
      rw [mem_rowsBy, Wanted, link]
      simp only [and_self_left]
      rfl
  | contactPoint contactField individualField =>
      have active : ∀ source ∈ fixture.sourcesOf config type.name contactField individualField,
          fixture.knows type.name source.field = true := fun _ active => (mem_sourcesOf.mp active).2.2
      obtain ⟨rows, once, members, same⟩ := @exists_reached fixture config type.name sound
        (Fetching.owners config.registry (fixture.contacts config accountIds)) _ active
      refine ⟨rows, once, fun row => ?_, by rw [fetchedRows, link]; exact same⟩
      rw [members, Wanted, link, fetchedSources, link]

end Sound

/-- What a shown field tells is what stands in the row. -/
theorem text?_of_shown {row : Row} {field text : String}
    (told : (fixture.shown config object row).text? field = some text) :
    row.text? field = some text := by
  cases planned : fixture.answers.plan object config with
  | error error =>
      rw [shown, planned] at told
      contradiction
  | ok plan =>
      rw [shown_eq planned, Record.text?, project_get?] at told
      split at told
      · unfold Row.shown? at told
        unfold Row.text?
        cases found : row.lookup field with
        | none => simp [found, Json.stringify?] at told
        | some json =>
            cases json with
            | scalar value => simpa [found] using told
            | array items => simp [found] at told
            | object members => simp [found] at told
      · contradiction

theorem text?_of_shown_id? {row : Row} {id : String}
    (identified : (fixture.shown config object row).id? = some id) :
    row.text? Record.idField = some id :=
  text?_of_shown (Record.reference?_eq_some.mp (Record.reference?_of_id? identified)).1

theorem shown_identified {row : Row} {id : String}
    (knowsId : fixture.knows object Record.idField = true) (identified : row.Identified id) :
    (fixture.shown config object row).id? = some id := by
  obtain ⟨plan, planned⟩ := @planned_of_knows fixture config object _ knowsId
  rw [shown_eq planned, plan_id? planned identified]

section Pool

variable (valid : config.registry.Valid) (sound : fixture.Sound config.registry)
  (unique : accountIds.Nodup) {fetched : Fetched}
  (succeeded : (fetch fixture.store config accountIds FieldCache.empty ()).1 = .ok fetched)
  {type : EntityType} (member : type ∈ config.registry.objects)

include valid sound unique succeeded member

theorem mem_pool {record : Record} :
    record ∈ fetched.pool type.name ↔ ∃ row ∈ fixture.rowsOf type.name,
      fixture.Wanted config accountIds type row ∧ fixture.shown config type.name row = record := by
  obtain ⟨rows, -, members, same⟩ := @exists_rows fixture config accountIds sound unique type
  rw [(pool_eq valid succeeded member).1, same, List.mem_map]
  simp only [members, and_assoc]

theorem pool_identified : ∀ record ∈ fetched.pool type.name, ∃ id, record.id? = some id := by
  intro record there
  obtain ⟨row, inside, wanted, rfl⟩ := (mem_pool valid sound unique succeeded member).mp there
  obtain ⟨id, identified⟩ := sound.identified type.name row inside
  exact ⟨id, shown_identified wanted.1 identified⟩

theorem pool_unique : ((fetched.pool type.name).map (·.id?)).Nodup := by
  obtain ⟨rows, distinct, members, same⟩ := @exists_rows fixture config accountIds sound unique type
  rw [(pool_eq valid succeeded member).1, same, List.map_map]
  refine List.Nodup.map_on (fun row listed other otherListed ids => ?_) distinct
  obtain ⟨inside, wanted⟩ := (members row).mp listed
  obtain ⟨otherInside, -⟩ := (members other).mp otherListed
  obtain ⟨id, identified⟩ := sound.identified type.name row inside
  obtain ⟨otherId, otherIdentified⟩ := sound.identified type.name other otherInside
  simp only [Function.comp_apply, shown_identified wanted.1 identified,
    shown_identified wanted.1 otherIdentified] at ids
  refine sound.same inside otherInside ?_
  rw [identified.text?, otherIdentified.text?, ids]

end Pool

theorem mem_distinctValues {contacts : List Record} {contact : Record} {field text : String}
    (member : contact ∈ contacts) (refers : contact.Refers field text) :
    text ∈ Fetching.distinctValues contacts field :=
  mem_distinct.mpr (List.mem_filterMap.mpr ⟨contact, member, Record.reference?_eq_some.mpr refers⟩)

/-- Whom a contact owns by a path is asked for on its behalf. -/
theorem mem_owners_of_owner {registry : Registry} {contacts : List Record} {contact : Record}
    (member : contact ∈ contacts) {owner : String} {path : LinkPath}
    (owned : registry.Owner contact owner path) : owner ∈ Fetching.owners registry contacts path := by
  cases path with
  | contact =>
      exact mem_distinctValues member
        (Record.reference?_eq_some.mp (Record.reference?_of_id? owned))
  | individual =>
      obtain ⟨⟨_, _, _, _, _⟩, field, found, rfl, refers⟩ := owned
      simp only [Fetching.owners, found]
      exact mem_distinctValues member refers

theorem first_of_unique {records : List Record} (unique : (records.map (·.id?)).Nodup)
    {record : Record} {index : Nat} (place : records[index]? = some record) {id : String}
    (identified : record.id? = some id) : Pool.First records id index := by
  have inside : index < (records.map (·.id?)).length := by
    rw [List.length_map]
    exact (List.getElem?_eq_some_iff.mp place).1
  refine ⟨⟨record, place, identified⟩, fun earlier less other found same => ?_⟩
  have equal : (records.map (·.id?))[index]? = (records.map (·.id?))[earlier]? := by
    rw [List.getElem?_map, List.getElem?_map, place, found, Option.map_some, Option.map_some, same,
      identified]
  exact Nat.ne_of_gt less ((List.getElem?_inj inside unique).mp equal)

/-- Of one fixture, the records of one list of accounts were fetched. -/
structure Fetches (fixture : Fixture) (config : Config) (accountIds : List String)
    (fetched : Fetched) : Prop where
  unique : accountIds.Nodup
  succeeded : (fetch fixture.store config accountIds FieldCache.empty ()).1 = .ok fetched

section Transfer

variable (valid : config.registry.Valid) (sound : fixture.Sound config.registry)
  {others : List String} {fetched other : Fetched}
  (here : fixture.Fetches config accountIds fetched) (there : fixture.Fetches config others other)
  {accountId : String}

include valid here

theorem contact_fetched {contact : Record}
    (mine : fetched.HasContact config.registry accountId contact) :
    contact ∈ fixture.contacts config accountIds := by
  obtain ⟨member, type, field, found, link, -⟩ := mine
  obtain ⟨listed, named⟩ := Registry.mem_of_get? found
  have survey : fixture.contacts config accountIds = _ :=
    Answers.survey_contacts valid listed named link
  rw [← named, (pool_eq valid here.succeeded listed).1, fetchedRows, link, named] at member
  rw [survey, typeYield_shown]
  exact member

include sound there

/-- An account has its contacts whoever else is asked for. -/
theorem hasContact_other (asked : accountId ∈ others) {contact : Record}
    (mine : fetched.HasContact config.registry accountId contact) :
    other.HasContact config.registry accountId contact := by
  obtain ⟨member, type, field, found, link, refers⟩ := mine
  obtain ⟨listed, named⟩ := Registry.mem_of_get? found
  refine ⟨?_, type, field, found, link, refers⟩
  rw [← named] at member ⊢
  obtain ⟨row, inside, wanted, rfl⟩ :=
    (mem_pool valid sound here.unique here.succeeded listed).mp member
  refine (mem_pool valid sound there.unique there.succeeded listed).mpr ⟨row, inside, ?_, rfl⟩
  rw [Wanted, link] at wanted ⊢
  exact ⟨wanted.1, wanted.2.1, accountId, asked, text?_of_shown refers.1⟩

theorem leads_other (asked : accountId ∈ others) {source : LinkSource} {record : Record}
    (leads : fetched.Leads config.registry accountId source record) :
    other.Leads config.registry accountId source record := by
  obtain ⟨owner, given, contact, mine, owned⟩ := leads
  exact ⟨owner, given, contact, hasContact_other valid sound here there asked mine, owned⟩

variable {type : EntityType} (member : type ∈ config.registry.objects)

include member

omit sound in
theorem sources_other : fetched.sources type.name = other.sources type.name :=
  (pool_eq valid here.succeeded member).2.trans (pool_eq valid there.succeeded member).2.symm

/-- A row which belongs to the account is wanted for its sake. -/
theorem wanted_other (asked : accountId ∈ others) {row : Row} {index : Nat}
    (wanted : fixture.Wanted config accountIds type row)
    (place : (fetched.pool type.name)[index]? = some (fixture.shown config type.name row))
    (belongs : fetched.Belongs config.registry accountId type (fixture.shown config type.name row)
      index) : fixture.Wanted config others type row := by
  have contactOf : ∀ contact, fetched.HasContact config.registry accountId contact →
      contact ∈ fixture.contacts config others := fun contact mine =>
    contact_fetched valid there (hasContact_other valid sound here there asked mine)
  refine ⟨wanted.1, ?_⟩
  have known := wanted.2
  unfold Fetched.Belongs at belongs
  cases link : type.link with
  | root => simp [link] at belongs
  | direct field =>
      simp only [link] at known belongs ⊢
      exact ⟨known.1, accountId, asked, text?_of_shown belongs.1⟩
  | contactReference field =>
      simp only [link] at belongs ⊢
      obtain ⟨id, ⟨⟨record, found, identified⟩, -⟩, contact, mine, refers⟩ := belongs
      cases Option.some.inj (found.symm.trans place)
      exact ⟨id, mem_distinctValues (contactOf contact mine) refers, text?_of_shown_id? identified⟩
  | contactPoint contactField individualField =>
      simp only [link] at belongs ⊢
      obtain ⟨source, active, owner, given, contact, mine, owned⟩ := belongs
      rw [(pool_eq valid here.succeeded member).2] at active
      exact ⟨source, active, owner, mem_owners_of_owner (contactOf contact mine) owned,
        text?_of_shown given⟩

/-- A record which belongs to the account is fetched with any others, and belongs to it then. -/
theorem belongs_other (asked : accountId ∈ others) {record : Record} {index : Nat}
    (place : (fetched.pool type.name)[index]? = some record)
    (belongs : fetched.Belongs config.registry accountId type record index) :
    ∃ otherIndex, (other.pool type.name)[otherIndex]? = some record ∧
      other.Belongs config.registry accountId type record otherIndex := by
  obtain ⟨row, inside, wanted, rfl⟩ := (mem_pool valid sound here.unique here.succeeded member).mp
    (List.mem_of_getElem? place)
  have still := wanted_other valid sound here there member asked wanted place belongs
  have listed := (mem_pool valid sound there.unique there.succeeded member).mpr
    ⟨row, inside, still, rfl⟩
  obtain ⟨otherIndex, found⟩ := List.getElem?_of_mem listed
  refine ⟨otherIndex, found, ?_⟩
  unfold Fetched.Belongs at belongs ⊢
  cases link : type.link with
  | root => simp [link] at belongs
  | direct field =>
      simp only [link] at belongs ⊢
      exact belongs
  | contactReference field =>
      simp only [link] at belongs ⊢
      obtain ⟨id, ⟨⟨record, same, identified⟩, -⟩, contact, mine, refers⟩ := belongs
      cases Option.some.inj (same.symm.trans place)
      -- Wherever the record stands in the other pool, no record before it has its identifier.
      have once := pool_unique valid sound there.unique there.succeeded member
      exact ⟨id, first_of_unique once found identified, contact,
        hasContact_other valid sound here there asked mine, refers⟩
  | contactPoint contactField individualField =>
      simp only [link] at belongs ⊢
      obtain ⟨source, active, leads⟩ := belongs
      rw [sources_other valid here there member] at active
      exact ⟨source, active, leads_other valid sound here there asked leads⟩

section Both

variable (asked : accountId ∈ accountIds) (askedThere : accountId ∈ others)

include asked askedThere

open Classical in
theorem leading_other (record : Record) :
    fetched.leading config.registry accountId type record =
      other.leading config.registry accountId type record := by
  unfold Fetched.leading
  split
  · rw [sources_other valid here there member]
    refine congrArg distinct (List.filter_congr fun source _ => ?_)
    rw [Bool.eq_iff_iff, decide_eq_true_iff, decide_eq_true_iff]
    exact ⟨leads_other valid sound here there askedThere, leads_other valid sound there here asked⟩
  · rfl

theorem mem_belonging_other {record : GraphRecord}
    (listed : record ∈ fetched.belonging config.registry accountId type) :
    record ∈ other.belonging config.registry accountId type := by
  obtain ⟨index, own, place, belongs, rfl⟩ := Fetched.mem_belonging.mp listed
  obtain ⟨otherIndex, found, also⟩ :=
    belongs_other valid sound here there member askedThere place belongs
  obtain ⟨id, identified⟩ := pool_identified valid sound here.unique here.succeeded member own
    (List.mem_of_getElem? place)
  refine Fetched.mem_belonging.mpr ⟨otherIndex, own, found, also, ?_⟩
  simp only [Pool.keyOf_of_id? identified, leading_other valid sound here there member asked askedThere]

end Both

omit there in
theorem belonging_unique :
    ((fetched.belonging config.registry accountId type).map (·.record.id?)).Nodup := by
  have once := pool_unique valid sound here.unique here.succeeded member
  have kept : ((fetched.belonging config.registry accountId type).map (·.record)).Sublist
      (fetched.pool type.name) := Fetched.belonging_sublist type
  have ids := (kept.map (·.id?)).nodup once
  rw [List.map_map] at ids
  exact ids

omit there in
theorem belonging_keys :
    ((fetched.belonging config.registry accountId type).map (·.key)).Nodup := by
  have named : ((fetched.belonging config.registry accountId type).map (·.key)).map some =
      (fetched.belonging config.registry accountId type).map (·.record.id?) := by
    rw [List.map_map]
    refine List.map_congr_left fun record listed => ?_
    obtain ⟨index, own, place, -, rfl⟩ := Fetched.mem_belonging.mp listed
    obtain ⟨id, identified⟩ := pool_identified valid sound here.unique here.succeeded member own
      (List.mem_of_getElem? place)
    rw [Function.comp_apply, Pool.keyOf_of_id? identified, identified]
  exact List.Nodup.of_map some (named ▸ belonging_unique valid sound here member)

/-- An account has the same records whoever else is asked for, up to their order. -/
theorem belonging_perm (asked : accountId ∈ accountIds) (askedThere : accountId ∈ others) :
    (fetched.belonging config.registry accountId type).Perm
      (other.belonging config.registry accountId type) := by
  refine (List.perm_ext_iff_of_nodup (belonging_unique valid sound here member).of_map
    (belonging_unique valid sound there member).of_map).mpr fun record => ?_
  exact ⟨mem_belonging_other valid sound here there member asked askedThere,
    mem_belonging_other valid sound there here member askedThere asked⟩

end Transfer

section Account

variable (valid : config.registry.Valid) (sound : fixture.Sound config.registry)
  {others : List String} {fetched other : Fetched}
  (here : fixture.Fetches config accountIds fetched) (there : fixture.Fetches config others other)
  {accountId : String}

theorem accountRecord_of_unique (once : ((fetched.pool EntityType.account).map (·.id?)).Nodup)
    {record : Record} (member : record ∈ fetched.pool EntityType.account)
    (identified : record.id? = some accountId) :
    fetched.accountRecord accountId = ⟨accountId, record, []⟩ := by
  obtain ⟨first, listed, named, stands⟩ := Fetched.accountRecord_of_mem member identified
  have same : first = record :=
    List.inj_on_of_nodup_map once listed member (named.trans identified.symm)
  rw [stands, same]

include valid

include sound here

theorem account_unique : ((fetched.pool EntityType.account).map (·.id?)).Nodup := by
  obtain ⟨type, member, named, -⟩ := valid.account
  exact named ▸ pool_unique valid sound here.unique here.succeeded member

include there

/-- The account itself is fetched whenever it is asked for. -/
theorem mem_account_other (askedThere : accountId ∈ others) {record : Record}
    (member : record ∈ fetched.pool EntityType.account) (identified : record.id? = some accountId) :
    record ∈ other.pool EntityType.account := by
  obtain ⟨type, listed, named, link⟩ := valid.account
  rw [← named] at member ⊢
  obtain ⟨row, inside, wanted, rfl⟩ :=
    (mem_pool valid sound here.unique here.succeeded listed).mp member
  refine (mem_pool valid sound there.unique there.succeeded listed).mpr ⟨row, inside, ?_, rfl⟩
  rw [Wanted, link] at wanted ⊢
  exact ⟨wanted.1, accountId, askedThere, text?_of_shown_id? identified⟩

variable (asked : accountId ∈ accountIds) (askedThere : accountId ∈ others)

include asked askedThere

theorem accountRecord_other :
    fetched.accountRecord accountId = other.accountRecord accountId := by
  by_cases known : ∃ record ∈ fetched.pool EntityType.account, record.id? = some accountId
  · obtain ⟨record, member, identified⟩ := known
    have also := mem_account_other valid sound here there askedThere member identified
    rw [accountRecord_of_unique (account_unique valid sound here) member identified,
      accountRecord_of_unique (account_unique valid sound there) also identified]
  · have absent : ∀ record ∈ fetched.pool EntityType.account, record.id? ≠ some accountId :=
      fun record member identified => known ⟨record, member, identified⟩
    have absentThere : ∀ record ∈ other.pool EntityType.account, record.id? ≠ some accountId :=
      fun record member identified =>
        absent record (mem_account_other valid sound there here asked member identified) identified
    rw [Fetched.accountRecord_of_not_mem absent, Fetched.accountRecord_of_not_mem absentThere]

/-- Whoever else is asked for, the graphs of an account have the same records. -/
theorem resolve_other :
    ((fetched.resolver config.registry).resolve accountId).Alike (fun _ _ => True)
      ((other.resolver config.registry).resolve accountId) := by
  have others := fun type linked => @Registry.Valid.linked_ne_account _ valid type linked
  have same : ∀ record : GraphRecord, record.Alike (fun _ => True) record :=
    fun _ => ⟨rfl, fun _ _ => rfl⟩
  have account : (fetched.accountRecord accountId).Alike (fun _ => True)
      (other.accountRecord accountId) := by
    rw [accountRecord_other valid sound here there asked askedThere]
    exact same _
  rw [Fetched.resolve_eq valid.unique others, Fetched.resolve_eq valid.unique others]
  refine ⟨account, fun object => ?_⟩
  by_cases root : object = EntityType.account
  · subst root
    exact Matched.of_forall₂ (.cons account .nil)
  · by_cases listed : object ∈ config.registry.linked.map (·.name)
    · obtain ⟨type, linked, rfl⟩ := List.mem_map.mp listed
      rw [Fetched.accountGraph_records valid.unique others linked,
        Fetched.accountGraph_records valid.unique others linked]
      exact Matched.of_perm (belonging_perm valid sound here there (Registry.mem_linked.mp linked).1
        asked askedThere) same
    · rw [Fetched.accountGraph_records_unlinked root listed,
        Fetched.accountGraph_records_unlinked root listed]
      exact Matched.of_forall₂ .nil

end Account

end Dossier.Fixture
