import Dossier.Proofs.Graph.Belonging
import Dossier.Proofs.Location

/-!
What keys tell of records.

A record is named by its identifier, or by the place where it stands in its pool.  Where no identifier
is given twice and none looks like such a place, keys and places tell records apart alike, in the graph
of one account and across the graphs of all.
-/

namespace Dossier

/-- No two records of a type have one identifier, and none has one which looks like a place. -/
structure Fetched.Distinguished (fetched : Fetched) : Prop where
  ids : ∀ object, ((fetched.pool object).filterMap (·.id?)).Nodup
  unnumbered : ∀ object, ∀ record ∈ fetched.pool object, ∀ number : Nat,
    record.id? ≠ some (object ++ ":" ++ toString number)

/-- It is enough that no identifier begins like a place. -/
theorem Fetched.Distinguished.of_records {fetched : Fetched}
    (apart : ∀ entry ∈ fetched.records, (entry.2.filterMap (·.id?)).Nodup ∧
      ∀ id ∈ entry.2.filterMap (·.id?), ¬(entry.1 ++ ":").toList <+: id.toList) :
    fetched.Distinguished := by
  have pooled : ∀ object, fetched.pool object = [] ∨
      (object, fetched.pool object) ∈ fetched.records := by
    intro object
    rw [pool]
    cases found : fetched.records.lookup object with
    | none => exact .inl rfl
    | some records => exact .inr (Table.mem_of_lookup found)
  constructor
  · intro object
    rcases pooled object with empty | listed
    · rw [empty]
      exact .nil
    · exact (apart _ listed).1
  · intro object record member number identified
    rcases pooled object with empty | listed
    · rw [empty] at member
      contradiction
    · refine (apart _ listed).2 _ (List.mem_filterMap.mpr ⟨record, member, identified⟩) ?_
      exact ⟨(toString number).toList, String.toList_append.symm⟩

namespace Pool

variable {object : String} {records : List Record}

theorem index_of_id? (unique : (records.filterMap (·.id?)).Nodup) {id : String}
    {index other : Nat} {record twin : Record} (place : records[index]? = some record)
    (otherPlace : records[other]? = some twin) (identified : record.id? = some id)
    (also : twin.id? = some id) : index = other := by
  have apart := List.pairwise_iff_getElem.mp (List.pairwise_filterMap.mp unique)
  obtain ⟨inside, rfl⟩ := List.getElem?_eq_some_iff.mp place
  obtain ⟨otherInside, rfl⟩ := List.getElem?_eq_some_iff.mp otherPlace
  rcases Nat.lt_trichotomy index other with before | same | after
  · exact absurd rfl (apart index other inside otherInside before id identified id also)
  · exact same
  · exact absurd rfl (apart other index otherInside inside after id also id identified)

/-- Two records of a pool have one key only if they stand in one place. -/
theorem keyOf_inj (unique : (records.filterMap (·.id?)).Nodup)
    (unnumbered : ∀ record ∈ records, ∀ number : Nat,
      record.id? ≠ some (object ++ ":" ++ toString number))
    {index other : Nat} {record twin : Record} (place : records[index]? = some record)
    (otherPlace : records[other]? = some twin) :
    keyOf object index record = keyOf object other twin ↔ index = other := by
  constructor
  · intro same
    unfold keyOf at same
    -- Of two records only one of which has an identifier, this would look like the place of the other.
    cases identified : record.id? with
    | some id =>
        cases also : twin.id? with
        | some otherId =>
            simp only [identified, also] at same
            exact index_of_id? unique place otherPlace identified (same ▸ also)
        | none =>
            simp only [identified, also] at same
            exact absurd (same ▸ identified) (unnumbered record (List.mem_of_getElem? place) other)
    | none =>
        cases also : twin.id? with
        | some otherId =>
            simp only [identified, also] at same
            exact absurd (same ▸ also) (unnumbered twin (List.mem_of_getElem? otherPlace) index)
        | none =>
            simp only [identified, also] at same
            exact Step.item_token_injective ((String.append_right_inj _).mp same)
  · rintro rfl
    cases place.symm.trans otherPlace
    rfl

end Pool

namespace Fetched

variable (fetched : Fetched) (registry : Registry) (accountId : String)

open Classical in
/-- The places of the records which belong to an account, in the pool of their type. -/
noncomputable def places (type : EntityType) : List Nat :=
  ((fetched.pool type.name).zipIdx.filter fun entry =>
    fetched.Belongs registry accountId type entry.1 entry.2).map (·.2)

/-- The place of an account in the pool of accounts, where it has one. -/
def place? : Option Nat :=
  (fetched.pool EntityType.account).findIdx? (·.id? == some accountId)

/-- The places of what an account has of a type.  Of the type of accounts it has itself. -/
noncomputable def standing (type : EntityType) : List (Option Nat) :=
  if type.name = EntityType.account then [fetched.place? accountId]
  else (fetched.places registry accountId type).map some

/-- The record at the place in the pool of the type; without a place, a record of no fields. -/
def StandsAt (object : String) (record : GraphRecord) : Option Nat → Prop
  | some index => (fetched.pool object)[index]? = some record.record
  | none => record.record = Record.empty

variable {fetched registry accountId}

open Classical in
theorem places_belonging (type : EntityType) :
    List.Forall₂ (fun place record => (fetched.pool type.name)[place]? = some record.record ∧
        record.key = Pool.keyOf type.name place record.record)
      (fetched.places registry accountId type) (fetched.belonging registry accountId type) := by
  rw [places, belonging, List.forall₂_map_left_iff, List.forall₂_map_right_iff, List.forall₂_same]
  intro entry member
  exact ⟨List.mem_zipIdx_iff_getElem?.mp (List.mem_filter.mp member).1, rfl⟩

theorem places_ascending (type : EntityType) :
    (fetched.places registry accountId type).Pairwise (· < ·) := by
  have kept : (fetched.places registry accountId type).Sublist
      ((fetched.pool type.name).zipIdx.map (·.2)) := List.filter_sublist.map _
  rw [List.zipIdx_map_snd] at kept
  exact (List.pairwise_lt_range' 1).sublist kept

/-- Records of a type which belong to whatever accounts have one key only if they have one place. -/
theorem keys_places (distinguished : fetched.Distinguished) {type : EntityType} {other : String}
    {one two : Nat × GraphRecord}
    (mine : one ∈ (fetched.places registry accountId type).zip
      (fetched.belonging registry accountId type))
    (theirs : two ∈ (fetched.places registry other type).zip (fetched.belonging registry other type)) :
    one.2.key = two.2.key ↔ one.1 = two.1 := by
  obtain ⟨place, key⟩ := (List.forall₂_iff_zip.mp (places_belonging type)).2 mine
  obtain ⟨otherPlace, otherKey⟩ := (List.forall₂_iff_zip.mp (places_belonging type)).2 theirs
  rw [key, otherKey]
  exact Pool.keyOf_inj (distinguished.ids _) (distinguished.unnumbered _) place otherPlace

open Classical in
theorem belonging_keys_unique (distinguished : fetched.Distinguished) (type : EntityType) :
    ((fetched.belonging registry accountId type).map (·.key)).Nodup := by
  have ascending : (fetched.places registry accountId type).Pairwise (· < ·) := places_ascending type
  have apart := List.Nodup.of_map Prod.snd (ascending.imp Nat.ne_of_lt)
  rw [belonging, List.map_map]
  refine List.Nodup.map_on (fun one mine two theirs same => ?_) apart
  have place := List.mem_zipIdx_iff_getElem?.mp (List.mem_filter.mp mine).1
  have otherPlace := List.mem_zipIdx_iff_getElem?.mp (List.mem_filter.mp theirs).1
  have index := (Pool.keyOf_inj (distinguished.ids _) (distinguished.unnumbered _) place
    otherPlace).mp same
  rw [← index, place, Option.some.injEq] at otherPlace
  exact Prod.ext otherPlace index

theorem records_of_linked (unique : (registry.objects.map (·.name)).Nodup) {type : EntityType}
    (linked : type ∈ registry.linked) (other : type.name ≠ EntityType.account) :
    ((fetched.resolver registry).resolve accountId).records type.name =
      fetched.belonging registry accountId type := by
  obtain ⟨member, reached⟩ := List.mem_filter.mp linked
  have isRouted : (Resolver.route? (fetched.resolver registry).pools fetched.linkSources
      type).isSome := Resolver.route?_isSome.mpr reached
  obtain ⟨⟨name, route⟩, routed⟩ := Option.isSome_iff_exists.mp isRouted
  cases Resolver.route?_fst routed
  rw [Resolver.resolve_records unique member other routed]
  exact related_eq_belonging routed

theorem records_of_unlinked (unique : (registry.objects.map (·.name)).Nodup) {object : String}
    (other : object ≠ EntityType.account) (unlinked : object ∉ registry.linked.map (·.name)) :
    ((fetched.resolver registry).resolve accountId).records object = [] := by
  have unrouted : (fetched.resolver registry).routes.lookup object = none := by
    refine Table.lookup_eq_none fun routed => unlinked ?_
    obtain ⟨entry, listed, rfl⟩ := List.mem_map.mp routed
    obtain ⟨type, member, found⟩ := List.mem_filterMap.mp listed
    rw [Resolver.route?_fst found]
    have reached := Resolver.route?_isSome.mp (Option.isSome_of_eq_some found)
    exact List.mem_map_of_mem (List.mem_filter.mpr ⟨member, reached⟩)
  rw [Resolver.records_resolve unique accountId other, unrouted]
  rfl

/-- A graph has one record of each key. -/
theorem resolve_keys_unique (unique : (registry.objects.map (·.name)).Nodup)
    (distinguished : fetched.Distinguished) (accountId object : String) :
    ((((fetched.resolver registry).resolve accountId).records object).map (·.key)).Nodup := by
  by_cases account : object = EntityType.account
  · rw [AccountGraph.records, if_pos (beq_iff_eq.mpr account)]
    exact List.nodup_singleton _
  · by_cases listed : object ∈ registry.linked.map (·.name)
    · obtain ⟨type, linked, rfl⟩ := List.mem_map.mp listed
      rw [records_of_linked unique linked account]
      exact belonging_keys_unique distinguished type
    · rw [records_of_unlinked unique account listed]
      exact .nil

/-- The record of an account stands where the account has its place.  One without a place has a record
of no fields. -/
theorem accountRecord_place (distinguished : fetched.Distinguished) (accountId : String) :
    (∃ index record, fetched.place? accountId = some index ∧
      (fetched.pool EntityType.account)[index]? = some record ∧ record.id? = some accountId ∧
      fetched.accountRecord accountId = ⟨accountId, record, []⟩) ∨
    fetched.place? accountId = none ∧
      fetched.accountRecord accountId = ⟨EntityType.account ++ ":0", Record.empty, []⟩ := by
  cases found : fetched.place? accountId with
  | some index =>
      obtain ⟨inside, named, -⟩ := List.findIdx?_eq_some_iff_getElem.mp found
      have identified := eq_of_beq named
      have place := List.getElem?_eq_getElem inside
      obtain ⟨first, member, also, stands⟩ :=
        accountRecord_of_mem (List.mem_of_getElem? place) identified
      obtain ⟨other, there⟩ := List.getElem?_of_mem member
      cases Pool.index_of_id? (distinguished.ids _) place there identified also
      exact .inl ⟨index, first, rfl, there, also, stands⟩
  | none =>
      have absent := List.findIdx?_eq_none_iff.mp found
      refine .inr ⟨rfl, accountRecord_of_not_mem fun record member identified => ?_⟩
      have different := absent record member
      simp [identified] at different

theorem accountRecord_keys (distinguished : fetched.Distinguished) (accountId other : String) :
    (fetched.accountRecord accountId).key = (fetched.accountRecord other).key ↔
      fetched.place? accountId = fetched.place? other := by
  have numbered : ∀ record ∈ fetched.pool EntityType.account,
      record.id? ≠ some (EntityType.account ++ ":0") := fun record member =>
    distinguished.unnumbered EntityType.account record member 0
  rcases accountRecord_place distinguished accountId with
    ⟨index, record, here, place, identified, stands⟩ | ⟨nowhere, stands⟩
  · rcases accountRecord_place distinguished other with
      ⟨otherIndex, twin, there, otherPlace, also, standsToo⟩ | ⟨nowhere, standsToo⟩
    · rw [stands, standsToo, here, there, Option.some.injEq]
      constructor
      · rintro rfl
        exact Pool.index_of_id? (distinguished.ids _) place otherPlace identified also
      · rintro rfl
        cases place.symm.trans otherPlace
        exact Option.some.inj (identified.symm.trans also)
    · rw [stands, standsToo, here, nowhere]
      refine iff_of_false (fun same => ?_) nofun
      exact numbered record (List.mem_of_getElem? place) (identified.trans (congrArg some same))
  · rcases accountRecord_place distinguished other with
      ⟨otherIndex, twin, there, otherPlace, also, standsToo⟩ | ⟨nowhereToo, standsToo⟩
    · rw [stands, standsToo, nowhere, there]
      refine iff_of_false (fun same => ?_) nofun
      exact numbered twin (List.mem_of_getElem? otherPlace) (also.trans (congrArg some same.symm))
    · rw [stands, standsToo, nowhere, nowhereToo]
      exact iff_of_true rfl rfl

theorem account_standsAt (distinguished : fetched.Distinguished) (accountId : String) :
    fetched.StandsAt EntityType.account
      ((fetched.resolver registry).resolve accountId).account (fetched.place? accountId) := by
  rw [resolve_account]
  rcases accountRecord_place distinguished accountId with
    ⟨index, record, here, place, -, stands⟩ | ⟨nowhere, stands⟩
  · rw [stands, here]
    exact place
  · rw [stands, nowhere]
    rfl

/-- Keys identify records: within the graph of an account, and for all accounts at once by the places
where the records stand. -/
structure Identifies (fetched : Fetched) (registry : Registry) : Prop where
  unique : ∀ accountId object,
    ((((fetched.resolver registry).resolve accountId).records object).map (·.key)).Nodup
  places : ∀ type ∈ registry.linked, ∀ accountId,
    List.Forall₂ (fun place record => fetched.StandsAt type.name record place)
      (fetched.standing registry accountId type)
      (((fetched.resolver registry).resolve accountId).records type.name)
  keys : ∀ type ∈ registry.linked, ∀ accountId other,
    ∀ one ∈ (fetched.standing registry accountId type).zip
      (((fetched.resolver registry).resolve accountId).records type.name),
    ∀ two ∈ (fetched.standing registry other type).zip
      (((fetched.resolver registry).resolve other).records type.name),
    one.2.key = two.2.key ↔ one.1 = two.1
  account : ∀ accountId, fetched.StandsAt EntityType.account
    ((fetched.resolver registry).resolve accountId).account (fetched.place? accountId)
  accountKeys : ∀ accountId other, ((fetched.resolver registry).resolve accountId).account.key =
      ((fetched.resolver registry).resolve other).account.key ↔
    fetched.place? accountId = fetched.place? other

theorem Distinguished.identifies (distinguished : fetched.Distinguished)
    (unique : (registry.objects.map (·.name)).Nodup) : fetched.Identifies registry where
  unique := resolve_keys_unique unique distinguished
  places type linked accountId := by
    by_cases account : type.name = EntityType.account
    · rw [standing, if_pos account, account]
      exact .cons (account_standsAt distinguished accountId) .nil
    · rw [standing, if_neg account, records_of_linked unique linked account,
        List.forall₂_map_left_iff]
      exact (places_belonging type).imp fun _ _ placed => placed.1
  keys type linked accountId other one mine two theirs := by
    by_cases account : type.name = EntityType.account
    · rw [standing, if_pos account, account] at mine theirs
      rw [List.mem_singleton.mp mine, List.mem_singleton.mp theirs]
      simp only [resolve_account]
      exact accountRecord_keys distinguished accountId other
    · rw [standing, if_neg account, records_of_linked unique linked account, List.zip_map_left,
        List.mem_map] at mine theirs
      obtain ⟨one, mine, rfl⟩ := mine
      obtain ⟨two, theirs, rfl⟩ := theirs
      exact (keys_places distinguished mine theirs).trans (Option.some_inj).symm
  account := account_standsAt distinguished
  accountKeys accountId other := by
    rw [resolve_account, resolve_account]
    exact accountRecord_keys distinguished accountId other

end Fetched

end Dossier
