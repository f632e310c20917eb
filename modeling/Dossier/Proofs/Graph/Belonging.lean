import Dossier.Fetch.Basic
import Dossier.Proofs.Graph.Resolving
import Dossier.Proofs.Registry

/-!
Which fetched records belong to an account.

This is what resolving is for, said without keys, indices and look-ups: a record belongs to an
account for what stands in its own fields and in those of the account's contacts.  A graph holds the
records which belong to its account, as they stand in their pools.
-/

namespace Dossier

namespace Record

/-- A field refers to the text which it holds, unless that is empty. -/
def Refers (record : Record) (field text : String) : Prop :=
  record.text? field = some text ∧ text ≠ ""

theorem reference?_eq_some {record : Record} {field text : String} :
    record.reference? field = some text ↔ record.Refers field text := by
  simp [reference?, Refers, Option.filter_eq_some_iff]

end Record

/-- Of the records with this identifier, the one at the index is the first. -/
def Pool.First (records : List Record) (id : String) (index : Nat) : Prop :=
  (∃ record, records[index]? = some record ∧ record.id? = some id) ∧
    ∀ earlier < index, ∀ record, records[earlier]? = some record → record.id? ≠ some id

namespace Registry

/-- By a path, a contact is an owner itself, or refers to one. -/
def Owner (registry : Registry) (contact : Record) (owner : String) : LinkPath → Prop
  | .contact => contact.id? = some owner
  | .individual => ∃ type field, registry.get? EntityType.individual = some type ∧
      type.link = .contactReference field ∧ contact.Refers field owner

end Registry

namespace Fetched

variable (fetched : Fetched) (registry : Registry) (accountId : String)

/-- What was fetched of a type. -/
def pool (object : String) : List Record :=
  (fetched.records.lookup object).getD []

/-- The sources by which contact points of a type were fetched. -/
def sources (object : String) : List LinkSource :=
  (fetched.linkSources.lookup object).getD []

/-- Contacts belong to an account by a field of their own, if they are linked in this way. -/
def HasContact (contact : Record) : Prop :=
  contact ∈ fetched.pool EntityType.contact ∧
    ∃ type field, registry.get? EntityType.contact = some type ∧ type.link = .direct field ∧
      contact.Refers field accountId

/-- The field of the source holds an owner which the account has by the path of the source. -/
def Leads (source : LinkSource) (record : Record) : Prop :=
  ∃ owner, record.text? source.field = some owner ∧
    ∃ contact, fetched.HasContact registry accountId contact ∧
      registry.Owner contact owner source.path

/-- Does the record at the index of a pool belong to the account? -/
def Belongs (type : EntityType) (record : Record) (index : Nat) : Prop :=
  match type.link with
  | .root => False
  | .direct field => record.Refers field accountId
  | .contactReference field => ∃ id, Pool.First (fetched.pool type.name) id index ∧
      ∃ contact, fetched.HasContact registry accountId contact ∧ contact.Refers field id
  | .contactPoint _ _ =>
      ∃ source ∈ fetched.sources type.name, fetched.Leads registry accountId source record

open Classical in
/-- The sources which lead to a contact point; other types are not reached by sources. -/
noncomputable def leading (type : EntityType) (record : Record) : List LinkSource :=
  match type.link with
  | .contactPoint _ _ =>
      distinct ((fetched.sources type.name).filter fun source =>
        fetched.Leads registry accountId source record)
  | _ => []

open Classical in
/-- The records of a type which belong to the account, each one where it stands in its pool. -/
noncomputable def belonging (type : EntityType) : List GraphRecord :=
  ((fetched.pool type.name).zipIdx.filter fun entry =>
      fetched.Belongs registry accountId type entry.1 entry.2).map fun entry =>
    ⟨Pool.keyOf type.name entry.2 entry.1, entry.1, fetched.leading registry accountId type entry.1⟩

/-- The first account with the identifier, or a record without fields. -/
def accountRecord : GraphRecord :=
  match (fetched.pool EntityType.account).zipIdx.find? fun entry => entry.1.id? == some accountId with
  | some (record, index) => ⟨Pool.keyOf EntityType.account index record, record, []⟩
  | none => ⟨EntityType.account ++ ":0", Record.empty, []⟩

/-- The resolver over what was fetched. -/
abbrev resolver : Resolver :=
  .make registry fetched.records fetched.linkSources

end Fetched

namespace Pool

theorem keyOf_of_id? {record : Record} {id : String} (identified : record.id? = some id)
    (object : String) (index : Nat) : keyOf object index record = id := by
  rw [keyOf, identified]

theorem zipIdx_entries (object : String) (records : List Record) :
    (ofRecords object records).entries.zipIdx =
      records.zipIdx.map fun entry => ((keyOf object entry.2 entry.1, entry.1), entry.2) := by
  refine List.ext_getElem? fun index => ?_
  simp [ofRecords, List.getElem?_zipIdx, Option.map_map, Function.comp_def]

theorem find?_ofRecords {object id : String} {records : List Record} {index : Nat} :
    (ofRecords object records).find? id = some index ↔ First records id index := by
  have entry : ∀ index : Nat, ((ofRecords object records).entries[index]?).map (·.2) = records[index]? := by
    intro index
    simp [ofRecords, Option.map_map, Function.comp_def]
  rw [find?, List.findIdx?_eq_some_iff_getElem, First]
  simp only [beq_iff_eq, ← entry]
  constructor
  · rintro ⟨inside, found, before⟩
    refine ⟨⟨_, by rw [List.getElem?_eq_getElem inside]; rfl, found⟩, fun earlier less record there => ?_⟩
    rw [List.getElem?_eq_getElem (Nat.lt_trans less inside), Option.map_some, Option.some.injEq] at there
    rw [← there]
    exact before earlier less
  · rintro ⟨⟨record, there, found⟩, before⟩
    obtain ⟨whole, listed, rfl⟩ := Option.map_eq_some_iff.mp there
    obtain ⟨inside, rfl⟩ := List.getElem?_eq_some_iff.mp listed
    refine ⟨inside, found, fun earlier less => before earlier less _ ?_⟩
    rw [List.getElem?_eq_getElem (Nat.lt_trans less inside)]
    rfl

theorem find?_bind_get? (pool : Pool) (id : String) :
    (pool.find? id >>= pool.get?) = pool.entries.find? fun entry => entry.2.id? == some id := by
  cases found : pool.find? id with
  | none =>
      rw [find?, List.findIdx?_eq_none_iff] at found
      exact (List.find?_eq_none.mpr fun entry member => by simp [found entry member]).symm
  | some index =>
      rw [find?, List.findIdx?_eq_some_iff_getElem] at found
      obtain ⟨inside, same, before⟩ := found
      have there : pool.entries.find? (fun entry => entry.2.id? == some id) =
          some pool.entries[index] :=
        List.find?_eq_some_iff_getElem.mpr ⟨same, index, inside, rfl, fun earlier less => by
          simpa using before earlier less⟩
      rw [there]
      exact List.getElem?_eq_getElem inside

end Pool

/-- Linked types are those which have a route. -/
theorem Resolver.route?_isSome {pools : Pools} {linkSources : List (String × List LinkSource)}
    {type : EntityType} : (route? pools linkSources type).isSome ↔ type.isLinked := by
  cases link : type.link <;> simp [route?, EntityType.isLinked, link]

namespace Fetched

variable {fetched : Fetched} {registry : Registry} {accountId : String}

theorem resolver_pool (object : String) :
    (fetched.resolver registry).pools.pool object = Pool.ofRecords object (fetched.pool object) :=
  Pools.pool_ofFetched fetched.records object

theorem mem_zipIdx_entries {object : String} {entry : Record × Nat}
    (member : entry ∈ (fetched.pool object).zipIdx) :
    ((Pool.keyOf object entry.2 entry.1, entry.1), entry.2) ∈
      ((fetched.resolver registry).pools.pool object).entries.zipIdx := by
  rw [resolver_pool, Pool.zipIdx_entries]
  exact List.mem_map_of_mem member

variable {type : EntityType}

open Classical in
/-- What is collected from a pool belongs to the account, if that is so of each index. -/
theorem collect_eq_belonging {found : List Nat} {sources : Nat → List LinkSource}
    (fits : ∀ entry ∈ (fetched.pool type.name).zipIdx,
      entry.2 ∈ found ↔ fetched.Belongs registry accountId type entry.1 entry.2)
    (led : ∀ entry ∈ (fetched.pool type.name).zipIdx,
      sources entry.2 = fetched.leading registry accountId type entry.1) :
    (fetched.resolver registry).collect type.name sources found =
      fetched.belonging registry accountId type := by
  rw [Resolver.collect, resolver_pool, Pool.zipIdx_entries, List.filterMap_map, belonging,
    ← List.filterMap_eq_map', List.filterMap_filter]
  refine List.filterMap_congr fun entry member => ?_
  have kept : found.contains entry.2 =
      decide (fetched.Belongs registry accountId type entry.1 entry.2) := by
    rw [Bool.eq_iff_iff, List.contains_iff_mem, decide_eq_true_iff]
    exact fits entry member
  simp only [Function.comp_apply, kept, led entry member]

theorem mem_contacts {contact : Record} :
    contact ∈ (fetched.resolver registry).contacts accountId ↔
      fetched.HasContact registry accountId contact := by
  unfold HasContact
  cases found : registry.get? EntityType.contact with
  | none => simp [Resolver.contacts, Resolver.make, found]
  | some type =>
      cases link : type.link with
      | direct field =>
          rw [Resolver.contacts_eq found link, List.mem_filter, beq_iff_eq, Record.reference?_eq_some,
            Pools.pool_ofFetched, Pool.records_ofRecords]
          simp [pool, link]
      | root | contactReference _ | contactPoint _ _ =>
          obtain ⟨name, label, required, _, defaults⟩ := type
          cases link
          simp [Resolver.contacts, Resolver.make, found]

theorem individualField_eq_some {field : String} :
    (fetched.resolver registry).individualField = some field ↔
      ∃ type, registry.get? EntityType.individual = some type ∧ type.link = .contactReference field := by
  cases found : registry.get? EntityType.individual with
  | none => simp [Resolver.make, found]
  | some type =>
      obtain ⟨name, label, required, link, defaults⟩ := type
      cases link <;> simp [Resolver.make, found]

/-- The resolver looks for the owners which the account has. -/
theorem mem_owners {path : LinkPath} {owner : String} :
    owner ∈ (fetched.resolver registry).owners
        ((fetched.resolver registry).contacts accountId) path ↔
      ∃ contact, fetched.HasContact registry accountId contact ∧ registry.Owner contact owner path := by
  cases path with
  | contact =>
      simp only [Resolver.owners, mem_distinct, List.mem_filterMap, mem_contacts, Registry.Owner]
  | individual =>
      have referred : owner ∈ (fetched.resolver registry).owners
          ((fetched.resolver registry).contacts accountId) .individual ↔
            ∃ field, (fetched.resolver registry).individualField = some field ∧
              ∃ contact, fetched.HasContact registry accountId contact ∧
                contact.Refers field owner := by
        rw [Resolver.owners]
        cases (fetched.resolver registry).individualField with
        | none => simp
        | some field => simp [Resolver.mem_references, mem_contacts, Record.reference?_eq_some]
      rw [referred]
      simp only [individualField_eq_some, Registry.Owner]
      constructor
      · rintro ⟨field, ⟨type, found, link⟩, contact, mine, refers⟩
        exact ⟨contact, mine, type, field, found, link, refers⟩
      · rintro ⟨contact, mine, type, field, found, link, refers⟩
        exact ⟨field, ⟨type, found, link⟩, contact, mine, refers⟩

theorem owner_ne_empty {contact : Record} {owner : String} {path : LinkPath}
    (owned : registry.Owner contact owner path) : owner ≠ "" := by
  cases path with
  | contact =>
      have filled := Record.reference?_eq_some.mp (Record.reference?_of_id? owned)
      exact filled.2
  | individual =>
      obtain ⟨_, _, _, _, refers⟩ := owned
      exact refers.2

/-- A source leads to the records which its index has under an owner. -/
theorem mem_lookupAll {object : String} {source : LinkSource} {entry : Record × Nat}
    (member : entry ∈ (fetched.pool object).zipIdx) :
    entry.2 ∈ Index.lookupAll (((fetched.resolver registry).pools.pool object).indexBy source.field)
        ((fetched.resolver registry).owners ((fetched.resolver registry).contacts accountId)
          source.path) ↔
      fetched.Leads registry accountId source entry.1 := by
  simp only [Index.lookupAll, List.mem_flatMap, Pool.mem_indexBy (mem_zipIdx_entries member),
    mem_owners, Leads,
    Record.reference?_eq_some, Record.Refers]
  constructor
  · rintro ⟨owner, owned, given, -⟩
    exact ⟨owner, given, owned⟩
  · rintro ⟨owner, given, contact, mine, owned⟩
    exact ⟨owner, ⟨contact, mine, owned⟩, given, owner_ne_empty owned⟩

variable {route : Route}

open Classical in
/-- Of every type which is routed, the account has the records which belong to it. -/
theorem related_eq_belonging
    (routed : Resolver.route? (fetched.resolver registry).pools fetched.linkSources type =
      some (type.name, route)) :
    (fetched.resolver registry).related accountId ((fetched.resolver registry).contacts accountId)
      type.name route = fetched.belonging registry accountId type := by
  unfold Resolver.route? at routed
  cases link : type.link with
  | root => simp [link] at routed
  | direct field =>
      simp only [link, Option.some.injEq, Prod.mk.injEq, true_and] at routed
      subst routed
      rw [Resolver.related]
      refine collect_eq_belonging (fun entry member => ?_) fun entry _ => ?_
      · rw [Index.lookupAll, List.flatMap_singleton, Pool.mem_indexBy (mem_zipIdx_entries member),
          Record.reference?_eq_some]
        simp only [Belongs, link]
      · simp only [leading, link]
  | contactReference field =>
      simp only [link, Option.some.injEq, Prod.mk.injEq, true_and] at routed
      subst routed
      rw [Resolver.related, resolver_pool]
      refine collect_eq_belonging (fun entry member => ?_) fun entry _ => ?_
      · simp only [List.mem_filterMap, Pool.find?_ofRecords, Resolver.mem_references, mem_contacts,
          Record.reference?_eq_some, Belongs, link]
        exact exists_congr fun id => and_comm
      · simp only [leading, link]
  | contactPoint contactField individualField =>
      simp only [link, Option.some.injEq, Prod.mk.injEq, true_and] at routed
      subst routed
      rw [Resolver.related]
      refine collect_eq_belonging (fun entry member => ?_) fun entry member => ?_
      · simp only [List.mem_flatMap, List.map_map, List.mem_map, Function.comp_apply,
          exists_exists_and_eq_and, mem_lookupAll member, Belongs, link]
        exact Iff.rfl
      · simp only [leading, link, List.filter_map, List.map_map]
        refine congrArg distinct ((List.map_id' _).trans (List.filter_congr fun source _ => ?_))
        rw [Bool.eq_iff_iff, decide_eq_true_iff, ← mem_lookupAll member]
        exact List.contains_iff_mem

/-- The graph of an account: its own record, and of every linked type what belongs to it. -/
noncomputable def accountGraph (fetched : Fetched) (registry : Registry) (accountId : String) :
    AccountGraph where
  accountId := accountId
  account := fetched.accountRecord accountId
  related := registry.linked.map fun type => (type.name, fetched.belonging registry accountId type)

theorem accountGraph_names :
    (fetched.accountGraph registry accountId).related.map (·.1) = registry.linked.map (·.name) := by
  rw [accountGraph, List.map_map]
  rfl

theorem linked_unique (unique : (registry.objects.map (·.name)).Nodup) :
    ((fetched.accountGraph registry accountId).related.map (·.1)).Nodup := by
  rw [accountGraph_names]
  exact (List.filter_sublist.map EntityType.name).nodup unique

theorem resolver_account :
    (fetched.resolver registry).account accountId = fetched.accountRecord accountId := by
  have first : ((Pool.ofRecords EntityType.account (fetched.pool EntityType.account)).find?
      accountId >>= (Pool.ofRecords EntityType.account (fetched.pool EntityType.account)).get?) =
        ((fetched.pool EntityType.account).zipIdx.find? fun entry =>
          entry.1.id? == some accountId).map fun entry =>
            (Pool.keyOf EntityType.account entry.2 entry.1, entry.1) := by
    rw [Pool.find?_bind_get?, Pool.ofRecords, List.mapIdx_eq_zipIdx_map, List.find?_map]
    rfl
  rw [Resolver.account, resolver_pool, accountRecord]
  simp only [first]
  cases (fetched.pool EntityType.account).zipIdx.find? fun entry =>
    entry.1.id? == some accountId <;> rfl

theorem resolve_account :
    ((fetched.resolver registry).resolve accountId).account = fetched.accountRecord accountId :=
  resolver_account

/-- The first record with the identifier of an account stands for it, under the identifier. -/
theorem accountRecord_of_mem {record : Record} (member : record ∈ fetched.pool EntityType.account)
    (identified : record.id? = some accountId) :
    ∃ first ∈ fetched.pool EntityType.account, first.id? = some accountId ∧
      fetched.accountRecord accountId = ⟨accountId, first, []⟩ := by
  unfold accountRecord
  split
  · rename_i first index found
    have named : first.id? = some accountId := by simpa using List.find?_some found
    have place := List.mem_zipIdx_iff_getElem?.mp (List.mem_of_find?_eq_some found)
    exact ⟨first, List.mem_of_getElem? place, named, by rw [Pool.keyOf_of_id? named]⟩
  · rename_i absent
    obtain ⟨index, place⟩ := List.getElem?_of_mem member
    have unequal := List.find?_eq_none.mp absent (record, index)
      (List.mem_zipIdx_iff_getElem?.mpr place)
    simp [identified] at unequal

theorem accountRecord_of_not_mem
    (absent : ∀ record ∈ fetched.pool EntityType.account, record.id? ≠ some accountId) :
    fetched.accountRecord accountId = ⟨EntityType.account ++ ":0", Record.empty, []⟩ := by
  unfold accountRecord
  split
  · rename_i own index found
    have named : own.id? = some accountId := by simpa using List.find?_some found
    have place := List.mem_zipIdx_iff_getElem?.mp (List.mem_of_find?_eq_some found)
    exact absurd named (absent own (List.mem_of_getElem? place))
  · rfl

/-- The routes lead, in registry order, to what belongs to the account. -/
theorem routes_related :
    ((fetched.resolver registry).routes.map fun (object, route) =>
      (object, (fetched.resolver registry).related accountId
        ((fetched.resolver registry).contacts accountId) object route)) =
      registry.linked.map fun type => (type.name, fetched.belonging registry accountId type) := by
  have routes : (fetched.resolver registry).routes = registry.objects.filterMap
    (Resolver.route? (fetched.resolver registry).pools fetched.linkSources) := rfl
  rw [routes, Registry.linked, List.map_filterMap, ← List.filterMap_eq_map', List.filterMap_filter]
  refine List.filterMap_congr fun type _ => ?_
  have linked : (Resolver.route? (fetched.resolver registry).pools fetched.linkSources type).isSome ↔
      type.isLinked := Resolver.route?_isSome
  cases routed : Resolver.route? (fetched.resolver registry).pools fetched.linkSources type with
  | none =>
      have unlinked : ¬type.isLinked := fun reached => by simpa [routed] using linked.mpr reached
      rw [if_neg unlinked]
      rfl
  | some entry =>
      obtain ⟨object, route⟩ := entry
      cases Resolver.route?_fst routed
      have reached : type.isLinked := linked.mp (by rw [routed]; rfl)
      rw [if_pos reached]
      exact congrArg (fun found => some (type.name, found)) (related_eq_belonging routed)

/-- Resolving by indices is filtering the pools. -/
theorem resolve_eq (unique : (registry.objects.map (·.name)).Nodup)
    (others : ∀ type ∈ registry.linked, type.name ≠ EntityType.account) :
    (fetched.resolver registry).resolve accountId = fetched.accountGraph registry accountId := by
  have kept : (fetched.accountGraph registry accountId).related.filter
      (·.1 != EntityType.account) = (fetched.accountGraph registry accountId).related := by
    refine List.filter_eq_self.mpr fun entry member => ?_
    obtain ⟨type, linked, rfl⟩ := List.mem_map.mp member
    exact bne_iff_ne.mpr (others type linked)
  have put : (fetched.accountGraph registry accountId).related.foldl
      (fun objects entry => Table.put entry.1 entry.2 objects) [] =
        (fetched.accountGraph registry accountId).related :=
    Table.foldl_put (linked_unique unique)
  rw [Resolver.resolve, routes_related, resolver_account, AccountGraph.make]
  exact congrArg (AccountGraph.mk accountId (fetched.accountRecord accountId))
    ((congrArg (List.foldl _ []) kept).trans put)

theorem accountGraph_records (unique : (registry.objects.map (·.name)).Nodup)
    (others : ∀ type ∈ registry.linked, type.name ≠ EntityType.account)
    (linked : type ∈ registry.linked) :
    (fetched.accountGraph registry accountId).records type.name =
      fetched.belonging registry accountId type := by
  have listed : (type.name, fetched.belonging registry accountId type) ∈
      (fetched.accountGraph registry accountId).related :=
    List.mem_map.mpr ⟨type, linked, rfl⟩
  have other : (type.name == EntityType.account) = false := beq_false_of_ne (others type linked)
  rw [AccountGraph.records, other, Table.lookup_of_mem (linked_unique unique) listed]
  rfl

/-- Of a linked type of a valid registry an account has the records which belong to it. -/
theorem records_eq_belonging (valid : registry.Valid) (linked : type ∈ registry.linked) :
    ((fetched.resolver registry).resolve accountId).records type.name =
      fetched.belonging registry accountId type := by
  have others : ∀ other ∈ registry.linked, other.name ≠ EntityType.account :=
    fun _ listed => valid.linked_ne_account listed
  rw [resolve_eq valid.unique others, accountGraph_records valid.unique others linked]

theorem accountGraph_records_unlinked {object : String} (other : object ≠ EntityType.account)
    (unlinked : object ∉ registry.linked.map (·.name)) :
    (fetched.accountGraph registry accountId).records object = [] := by
  have absent : (fetched.accountGraph registry accountId).related.lookup object = none := by
    refine Table.lookup_eq_none ?_
    rw [accountGraph_names]
    exact unlinked
  rw [AccountGraph.records, if_neg (by simpa using other), absent]
  rfl

open Classical in
theorem mem_belonging {type : EntityType} {found : GraphRecord} :
    found ∈ fetched.belonging registry accountId type ↔ ∃ index record,
      (fetched.pool type.name)[index]? = some record ∧
        fetched.Belongs registry accountId type record index ∧
          found = ⟨Pool.keyOf type.name index record, record,
            fetched.leading registry accountId type record⟩ := by
  simp only [belonging, List.mem_map, List.mem_filter, decide_eq_true_iff,
    List.mem_zipIdx_iff_getElem?]
  constructor
  · rintro ⟨⟨record, index⟩, ⟨place, belongs⟩, rfl⟩
    exact ⟨index, record, place, belongs, rfl⟩
  · rintro ⟨index, record, place, belongs, rfl⟩
    exact ⟨(record, index), ⟨place, belongs⟩, rfl⟩

open Classical in
theorem belonging_sublist (type : EntityType) :
    ((fetched.belonging registry accountId type).map (·.record)).Sublist
      (fetched.pool type.name) := by
  have kept := (List.filter_sublist (l := (fetched.pool type.name).zipIdx) (p := fun entry =>
    decide (fetched.Belongs registry accountId type entry.1 entry.2))).map Prod.fst
  rw [List.zipIdx_map_fst] at kept
  rw [belonging, List.map_map]
  exact kept

theorem leading_nodup (type : EntityType) (record : Record) :
    (fetched.leading registry accountId type record).Nodup := by
  rw [leading]
  split
  · exact nodup_distinct _
  · exact .nil

/-- Resolving is exact.  The graph of an account has its own record, then the linked types in
registry order.  Of a type it has the records which belong to the account, each of them once and in
pool order, with the sources which lead to it, none of them twice. -/
theorem resolve_exact (fetched : Fetched) (registry : Registry) (accountId : String)
    (unique : (registry.objects.map (·.name)).Nodup)
    (others : ∀ type ∈ registry.linked, type.name ≠ EntityType.account) :
    let graph := (Resolver.make registry fetched.records fetched.linkSources).resolve accountId
    graph.accountId = accountId ∧
      graph.records EntityType.account = [fetched.accountRecord accountId] ∧
      graph.objects.map (·.1) = EntityType.account :: registry.linked.map (·.name) ∧
      ∀ type ∈ registry.linked,
        graph.records type.name = fetched.belonging registry accountId type ∧
          ((graph.records type.name).map (·.record)).Sublist (fetched.pool type.name) ∧
            ∀ record ∈ graph.records type.name,
              record.linkSources = fetched.leading registry accountId type record.record ∧
                record.linkSources.Nodup := by
  intro graph
  have exact : graph = fetched.accountGraph registry accountId := resolve_eq unique others
  have names : graph.objects.map (·.1) = EntityType.account :: registry.linked.map (·.name) := by
    rw [exact, AccountGraph.objects, List.map_cons, accountGraph_names]
  have found : ∀ type ∈ registry.linked,
      graph.records type.name = fetched.belonging registry accountId type := by
    intro type linked
    exact (congrArg (·.records type.name) exact).trans (accountGraph_records unique others linked)
  refine ⟨by rw [exact]; rfl, by rw [exact]; rfl, names, fun type linked => ?_⟩
  rw [found type linked]
  refine ⟨rfl, belonging_sublist type, fun record member => ?_⟩
  have led : record.linkSources = fetched.leading registry accountId type record.record := by
    obtain ⟨entry, -, rfl⟩ := List.mem_map.mp member
    rfl
  exact ⟨led, led ▸ leading_nodup type record.record⟩

/-- Contacts and their individuals, who own emails. -/
def kin : Registry :=
  ⟨[⟨EntityType.account, "Account", [], .root, []⟩,
    ⟨EntityType.contact, "Contact", [], .direct "AccountId", []⟩,
    ⟨EntityType.individual, "Individual", [], .contactReference "Person", []⟩,
    ⟨"Email", "Email", [], .contactPoint (some "Contact") (some "Owner"), []⟩]⟩

/-- An individual is there twice, an email belongs to a contact and to its individual, and the contact
of another account refers to nothing, as does an email. -/
def twins : Fetched where
  accountIds := ["001"]
  missingAccountIds := ["001"]
  records := [(EntityType.contact,
      [.ofFields [("Id", .text "c1"), ("AccountId", .text "001"), ("Person", .text "i1")],
        .ofFields [("Id", .text "c2"), ("AccountId", .text "002"), ("Person", .text "")]]),
    (EntityType.individual, [.ofFields [("Id", .text "i1")], .ofFields [("Id", .text "i1")]]),
    ("Email", [.ofFields [("Owner", .text "")], .ofFields [("Contact", .text "c1"),
      ("Owner", .text "i1")]])]
  plans := []
  linkSources := [("Email", [⟨.contact, "Contact"⟩, ⟨.individual, "Owner"⟩])]
  warnings := Warnings.empty

theorem resolve_exact_twins :
    kin.linked.map (fun type => (twins.belonging kin "001" type).map fun record =>
      (record.key, record.linkSources)) =
        [[("c1", [])], [("i1", [])],
          [("Email:1", [⟨.contact, "Contact"⟩, ⟨.individual, "Owner"⟩])]] := by
  obtain ⟨-, -, -, exact⟩ := resolve_exact twins kin "001" (by decide) (by decide)
  have resolved : ∀ type ∈ kin.linked, ((twins.belonging kin "001" type).map fun record =>
      (record.key, record.linkSources)) =
        (((twins.resolver kin).resolve "001").records type.name).map fun record =>
          (record.key, record.linkSources) := by
    intro type linked
    rw [(exact type linked).1]
  rw [List.map_congr_left resolved]
  decide +kernel

end Fetched

end Dossier
