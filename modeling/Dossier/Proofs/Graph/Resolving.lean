import Dossier.Graph.Resolver
import Dossier.Proofs.Table

/-!
Resolving is filtering.

Whatever the indices of a pool are good for, the records which are found through them are those of
the pool that meet a condition on their own fields, in pool order.
-/

namespace Dossier

theorem Record.reference?_of_id? {record : Record} {id : String} (identified : record.id? = some id) :
    record.reference? Record.idField = some id := by
  unfold Record.id? at identified
  split at identified
  · rename_i given
    split at identified
    · contradiction
    · rename_i filled
      cases identified
      rw [Record.reference?, Record.text?, given]
      simpa [Json.stringify?, Option.filter_some] using filled
  · contradiction

namespace Pool

variable {pool : Pool}

def records (pool : Pool) : List Record := pool.entries.map (·.2)

theorem records_ofRecords (object : String) (records : List Record) :
    (ofRecords object records).records = records := by
  refine List.ext_getElem (by simp [Pool.records, ofRecords]) fun index inside _ => ?_
  simp [Pool.records, ofRecords]

theorem lookup_indexBy (pool : Pool) (field text : String) :
    ((pool.indexBy field).lookup text).getD [] =
      (pool.entries.zipIdx.filter fun entry => entry.1.2.reference? field == some text).map (·.2) := by
  exact Table.lookup_group_filterMap pool.entries.zipIdx (fun entry => entry.1.2.reference? field)
    (·.2) text

theorem mem_indexBy {pool : Pool} {field text : String} {entry : String × Record} {index : Nat}
    (member : (entry, index) ∈ pool.entries.zipIdx) :
    index ∈ ((pool.indexBy field).lookup text).getD [] ↔ entry.2.reference? field = some text := by
  rw [lookup_indexBy, List.mem_map]
  constructor
  · rintro ⟨⟨other, _⟩, kept, rfl⟩
    obtain ⟨found, given⟩ := List.mem_filter.mp kept
    rw [List.mem_zipIdx_iff_getElem?] at member found
    cases Option.some.inj (member.symm.trans found)
    simpa using given
  · intro given
    exact ⟨(entry, index), List.mem_filter.mpr ⟨member, by simp [given]⟩, rfl⟩

theorem lookup_indexBy_records (pool : Pool) (field text : String) :
    (((pool.indexBy field).lookup text).getD []).filterMap (fun index => (pool.get? index).map (·.2)) =
      pool.records.filter fun record => record.reference? field == some text := by
  have found := Table.filterMap_getElem?_zipIdx pool.entries
    fun entry => entry.2.reference? field == some text
  rw [← List.map_filterMap, lookup_indexBy]
  change List.map _ (List.filterMap (fun index => pool.entries[index]?) _) = _
  rw [found, records, List.filter_map]
  rfl

/-- Where no two records have one identifier, the first record of an identifier is its only one. -/
theorem find?_eq_some {pool : Pool} (unique : (pool.records.map (·.id?)).Nodup)
    {entry : String × Record} {index : Nat} (member : (entry, index) ∈ pool.entries.zipIdx)
    {id : String} : pool.find? id = some index ↔ entry.2.id? = some id := by
  obtain ⟨inside, there⟩ := List.getElem?_eq_some_iff.mp (List.mem_zipIdx_iff_getElem?.mp member)
  rw [find?, List.findIdx?_eq_some_iff_getElem]
  constructor
  · rintro ⟨_, same, _⟩
    rw [there] at same
    exact eq_of_beq same
  · intro same
    refine ⟨inside, by simp [there, same], fun earlier before => ?_⟩
    intro also
    have ids : (pool.records.map (·.id?))[earlier]? = (pool.records.map (·.id?))[index]? := by
      simp [records, there, same, Nat.lt_trans before inside, inside, eq_of_beq also]
    have inRange : earlier < (pool.records.map (·.id?)).length := by
      simpa [records] using Nat.lt_trans before inside
    exact Nat.ne_of_lt before ((List.getElem?_inj inRange unique).mp ids)

end Pool

theorem Pools.pool_ofFetched (records : List (String × List Record)) (object : String) :
    (Pools.ofRecords records).pool object =
      Pool.ofRecords object ((records.lookup object).getD []) := by
  have pooled : (Pools.ofRecords records).lookup object = _ :=
    Table.lookup_map_snd records Pool.ofRecords object
  rw [pool, pooled]
  cases records.lookup object <;> rfl

theorem Pools.pool_ofRecords {records : List (String × List Record)} {object : String}
    {found : List Record} (listed : records.lookup object = some found) :
    ((Pools.ofRecords records).pool object).records = found := by
  rw [pool_ofFetched, listed]
  exact Pool.records_ofRecords object found

theorem AccountGraph.records_make {entries : List (String × List GraphRecord)}
    (unique : (entries.map (·.1)).Nodup) {object : String} (other : object ≠ EntityType.account)
    (accountId : String) (account : GraphRecord) :
    (make accountId account entries).records object = (entries.lookup object).getD [] := by
  have kept := (List.filter_sublist (p := (·.1 != EntityType.account))).map Prod.fst |>.nodup unique
  rw [AccountGraph.records, make, Table.foldl_put (by simpa using kept)]
  simp [other, Table.lookup_filter_ne entries other]

namespace Resolver

variable {resolver : Resolver} {object : String}

theorem collect_eq {found : List Nat} {keep : Record → Bool}
    (fits : ∀ entry index, (entry, index) ∈ (resolver.pools.pool object).entries.zipIdx →
      found.contains index = keep entry.2) (sources : Nat → List LinkSource) :
    resolver.collect object sources found =
      ((resolver.pools.pool object).entries.zipIdx.filter fun entry => keep entry.1.2).map
        fun entry => ⟨entry.1.1, entry.1.2, sources entry.2⟩ := by
  rw [collect, ← List.filterMap_eq_map', List.filterMap_filter]
  refine List.filterMap_congr fun entry member => ?_
  rw [← fits entry.1 entry.2 member]

theorem collect_records {found : List Nat} {keep : Record → Bool}
    (fits : ∀ entry index, (entry, index) ∈ (resolver.pools.pool object).entries.zipIdx →
      found.contains index = keep entry.2) (sources : Nat → List LinkSource) :
    (resolver.collect object sources found).map (·.record) =
      (resolver.pools.pool object).records.filter keep := by
  rw [collect_eq fits, List.map_map]
  change (List.filter ((fun entry : String × Record => keep entry.2) ∘ Prod.fst) _).map
    ((·.2) ∘ Prod.fst) = _
  rw [← List.map_map, ← List.filter_map, List.zipIdx_map_fst, Pool.records, List.filter_map]
  rfl

theorem contacts_eq {registry : Registry} {records : List (String × List Record)}
    {linkSources : List (String × List LinkSource)} {contact : EntityType} {field : String}
    (found : registry.get? EntityType.contact = some contact) (direct : contact.link = .direct field)
    (accountId : String) :
    (make registry records linkSources).contacts accountId =
      ((Pools.ofRecords records).pool EntityType.contact).records.filter fun record =>
        record.reference? field == some accountId := by
  obtain ⟨name, label, required, link, defaults⟩ := contact
  cases direct
  rw [contacts, make]
  simp only [found]
  exact Pool.lookup_indexBy_records _ _ _

section Related

variable {accountId : String} {contacts : List Record}

theorem related_direct (field : String) :
    (resolver.related accountId contacts object
      (.direct ((resolver.pools.pool object).indexBy field))).map (·.record) =
      (resolver.pools.pool object).records.filter fun record =>
        record.reference? field == some accountId := by
  rw [related]
  refine collect_records (fun entry index member => ?_) _
  rw [Index.lookupAll, List.flatMap_cons, List.flatMap_nil, List.append_nil, Bool.eq_iff_iff,
    List.contains_iff_mem, Pool.mem_indexBy member, beq_iff_eq]

@[simp] theorem mem_references {text field : String} :
    text ∈ references contacts field ↔
      ∃ contact ∈ contacts, contact.reference? field = some text := by
  rw [references, mem_distinct, List.mem_filterMap]

/-- Where no two records have one identifier, the records whose identifier a contact refers to. -/
theorem related_reference (unique : ((resolver.pools.pool object).records.map (·.id?)).Nodup)
    (field : String) :
    (resolver.related accountId contacts object (.contactReference field)).map (·.record) =
      (resolver.pools.pool object).records.filter fun record =>
        record.id?.any (references contacts field).contains := by
  rw [related]
  refine collect_records (fun entry index member => ?_) _
  rw [Bool.eq_iff_iff, List.contains_iff_mem, List.mem_filterMap, Option.any_eq_true]
  constructor
  · rintro ⟨text, referred, found⟩
    exact ⟨text, (Pool.find?_eq_some unique member).mp found, List.contains_iff_mem.mpr referred⟩
  · rintro ⟨text, same, referred⟩
    exact ⟨text, List.contains_iff_mem.mp referred, (Pool.find?_eq_some unique member).mpr same⟩

theorem related_contactPoint (sources : List LinkSource) :
    (resolver.related accountId contacts object (.contactPoint (sources.map fun source =>
      (source, (resolver.pools.pool object).indexBy source.field)))).map (·.record) =
      (resolver.pools.pool object).records.filter fun record =>
        sources.any fun source =>
          (record.reference? source.field).any (resolver.owners contacts source.path).contains := by
  rw [related]
  refine collect_records (fun entry index member => ?_) _
  rw [Bool.eq_iff_iff, List.contains_iff_mem, List.any_eq_true, List.mem_flatMap]
  simp only [List.map_map, List.mem_map, Function.comp_apply, exists_exists_and_eq_and,
    Index.lookupAll, List.mem_flatMap, Pool.mem_indexBy member, Option.any_eq_true,
    List.contains_iff_mem]
  constructor
  · rintro ⟨source, active, text, owner, given⟩
    exact ⟨source, active, text, given, owner⟩
  · rintro ⟨source, active, text, given, owner⟩
    exact ⟨source, active, text, owner, given⟩

end Related

section Resolve

variable {registry : Registry} {records : List (String × List Record)}
  {linkSources : List (String × List LinkSource)}

theorem route?_fst {pools : Pools} {type : EntityType} {entry : String × Route}
    (routed : route? pools linkSources type = some entry) : entry.1 = type.name := by
  unfold route? at routed
  split at routed
  · contradiction
  all_goals
    cases routed
    rfl

theorem routes_unique (unique : (registry.objects.map (·.name)).Nodup) (pools : Pools) :
    ((registry.objects.filterMap (route? pools linkSources)).map (·.1)).Nodup := by
  refine List.pairwise_map.mpr (List.pairwise_filterMap.mpr ?_)
  refine (List.pairwise_map.mp unique).imp fun different entry routed other alsoRouted => ?_
  rw [route?_fst routed, route?_fst alsoRouted]
  exact different

/-- Where every type has one name, its records are those which its route finds. -/
theorem records_resolve (unique : (registry.objects.map (·.name)).Nodup) (accountId : String)
    (other : object ≠ EntityType.account) :
    ((make registry records linkSources).resolve accountId).records object =
      (((make registry records linkSources).routes.lookup object).map
        ((make registry records linkSources).related accountId
          ((make registry records linkSources).contacts accountId) object)).getD [] := by
  have keys : ((make registry records linkSources).routes.map (·.1)).Nodup := routes_unique unique _
  rw [resolve, AccountGraph.records_make ?_ other]
  · exact congrArg (Option.getD · []) (Table.lookup_map_snd _ _ object)
  · rw [List.map_map]
    exact keys

theorem resolve_records (unique : (registry.objects.map (·.name)).Nodup) {type : EntityType}
    (member : type ∈ registry.objects) (other : type.name ≠ EntityType.account) {route : Route}
    (routed : route? (Pools.ofRecords records) linkSources type = some (type.name, route))
    (accountId : String) :
    ((make registry records linkSources).resolve accountId).records type.name =
      (make registry records linkSources).related accountId
        ((make registry records linkSources).contacts accountId) type.name route := by
  have listed : (type.name, route) ∈ (make registry records linkSources).routes :=
    List.mem_filterMap.mpr ⟨type, member, routed⟩
  have keys : ((make registry records linkSources).routes.map (·.1)).Nodup := routes_unique unique _
  rw [records_resolve unique accountId other, Table.lookup_of_mem keys listed]
  rfl

end Resolve

end Resolver

end Dossier
