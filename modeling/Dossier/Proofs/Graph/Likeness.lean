import Dossier.Proofs.Alert.Likeness
import Dossier.Proofs.Graph.Belonging

/-!
Graphs of what was fetched alike.

Resolving reads the identifiers of records and the fields which link them.  Where these are the same,
an account has the same of the pools, at the same places and by the same sources, whatever other
fields were fetched.
-/

namespace Dossier

/-- Records which have the same in every shared field. -/
def Record.Alike (shared : String → Prop) (record other : Record) : Prop :=
  ∀ field, shared field → record.get? field = other.get? field

namespace Record.Alike

variable {shared : String → Prop} {record other : Record}

theorem symm (alike : record.Alike shared other) : other.Alike shared record :=
  fun field read => (alike field read).symm

theorem text?_eq (alike : record.Alike shared other) {field : String} (read : shared field) :
    record.text? field = other.text? field := by
  rw [text?, text?, alike field read]

theorem refers_iff (alike : record.Alike shared other) {field : String} (read : shared field)
    (text : String) : record.Refers field text ↔ other.Refers field text := by
  rw [Refers, Refers, alike.text?_eq read]

theorem id?_eq (alike : record.Alike shared other) (read : shared idField) :
    record.id? = other.id? := by
  rw [id?, id?, alike idField read]

end Record.Alike

/-- Identifiers and the fields which link records are shared. -/
structure Registry.LinksShared (registry : Registry) (shared : String → String → Prop) : Prop where
  id : ∀ object, shared object Record.idField
  direct : ∀ type ∈ registry.objects, ∀ field, type.link = .direct field → shared type.name field
  reference : ∀ type ∈ registry.objects, ∀ field, type.link = .contactReference field →
    shared EntityType.contact field

theorem Registry.LinksShared.of_follows {registry : Registry} {shared : String → String → Prop}
    (id : ∀ object, shared object Record.idField)
    (follows : ∀ {object field}, registry.Follows object field → shared object field) :
    registry.LinksShared shared where
  id := id
  direct _ member _ link := follows (.direct member link)
  reference _ member _ link := follows (.reference member link)

namespace Fetching

variable {contacts twins : List Record}

/-- What contacts refer to by a shared field. -/
theorem distinctValues_alike {shared : String → Prop} {field : String}
    (alike : List.Forall₂ (Record.Alike shared) contacts twins) (read : shared field) :
    distinctValues contacts field = distinctValues twins field := by
  refine congrArg distinct ?_
  induction alike with
  | nil => rfl
  | cons same _ ih =>
      rw [List.filterMap_cons, List.filterMap_cons, ih, Record.reference?, Record.reference?,
        same.text?_eq read]

theorem owners_alike {shared : String → String → Prop} {registry : Registry}
    (links : registry.LinksShared shared)
    (alike : List.Forall₂ (Record.Alike (shared EntityType.contact)) contacts twins) :
    owners registry contacts = owners registry twins := by
  funext path
  cases path with
  | contact => exact distinctValues_alike alike (links.id EntityType.contact)
  | individual =>
      simp only [owners]
      split
      · rename_i found
        exact distinctValues_alike alike (links.reference _ (Registry.mem_of_get? found).1 _ rfl)
      · rfl

end Fetching

/-- The same was fetched, as far as the fields are shared. -/
structure Fetched.Alike (shared : String → String → Prop) (fetched other : Fetched) : Prop where
  pools : ∀ object,
    List.Forall₂ (Record.Alike (shared object)) (fetched.pool object) (other.pool object)
  sources : ∀ object, fetched.sources object = other.sources object

theorem Pool.first_congr {records others : List Record}
    (ids : records.map (·.id?) = others.map (·.id?)) (id : String) (index : Nat) :
    First records id index ↔ First others id index := by
  have named : ∀ records : List Record, First records id index ↔
      (records.map (·.id?))[index]? = some (some id) ∧
        ∀ earlier < index, (records.map (·.id?))[earlier]? ≠ some (some id) := by
    intro records
    simp [First, List.getElem?_map]
  rw [named, named, ids]

theorem forall₂_zipIdx {α : Type} {related : α → α → Prop} {items others : List α}
    (matched : List.Forall₂ related items others) (start : Nat) :
    List.Forall₂ (fun item other => related item.1 other.1 ∧ item.2 = other.2)
      (items.zipIdx start) (others.zipIdx start) := by
  induction matched generalizing start with
  | nil => exact .nil
  | cons first _ ih => exact .cons ⟨first, rfl⟩ (ih (start + 1))

theorem forall₂_find? {α β : Type} {related : α → β → Prop} {items : List α} {others : List β}
    (matched : List.Forall₂ related items others) {p : α → Bool} {q : β → Bool}
    (agree : ∀ item other, related item other → p item = q other) :
    Option.Rel related (items.find? p) (others.find? q) := by
  induction matched with
  | nil => exact .none
  | @cons item other _ _ first _ ih =>
      rw [List.find?_cons, List.find?_cons, agree item other first]
      cases q other with
      | true => exact .some first
      | false => exact ih

namespace Fetched

variable {shared : String → String → Prop} {fetched other : Fetched} {registry : Registry}
  {accountId : String}

theorem Alike.symm (alike : fetched.Alike shared other) : other.Alike shared fetched where
  pools object := (alike.pools object).flip.imp fun _ _ same => Record.Alike.symm same
  sources object := (alike.sources object).symm

theorem Alike.ids_eq (alike : fetched.Alike shared other) (links : registry.LinksShared shared)
    (object : String) :
    (fetched.pool object).map (·.id?) = (other.pool object).map (·.id?) :=
  map_eq_of_forall₂ (alike.pools object) fun _ _ same => same.id?_eq (links.id object)

theorem Alike.hasContact (alike : fetched.Alike shared other) (links : registry.LinksShared shared)
    {contact : Record} (mine : fetched.HasContact registry accountId contact) :
    ∃ twin, contact.Alike (shared EntityType.contact) twin ∧
      other.HasContact registry accountId twin := by
  obtain ⟨member, type, field, found, link, refers⟩ := mine
  obtain ⟨twin, there, same⟩ := (Matched.of_forall₂ (alike.pools EntityType.contact)).mem_left member
  obtain ⟨listed, named⟩ := Registry.mem_of_get? found
  have read : shared EntityType.contact field := named ▸ links.direct type listed field link
  exact ⟨twin, same, there, type, field, found, link, (same.refers_iff read accountId).mp refers⟩

/-- What some contact of the account refers to by a shared field. -/
theorem Alike.referred (alike : fetched.Alike shared other) (links : registry.LinksShared shared)
    {holds : Record → Prop}
    (kept : ∀ contact twin : Record, contact.Alike (shared EntityType.contact) twin →
      holds contact → holds twin)
    (told : ∃ contact, fetched.HasContact registry accountId contact ∧ holds contact) :
    ∃ contact, other.HasContact registry accountId contact ∧ holds contact := by
  obtain ⟨contact, mine, said⟩ := told
  obtain ⟨twin, same, also⟩ := alike.hasContact links mine
  exact ⟨twin, also, kept contact twin same said⟩

theorem owner_of_alike (links : registry.LinksShared shared) {contact twin : Record}
    (same : contact.Alike (shared EntityType.contact) twin) {owner : String} {path : LinkPath}
    (owned : registry.Owner contact owner path) : registry.Owner twin owner path := by
  cases path with
  | contact => exact (same.id?_eq (links.id EntityType.contact)).symm.trans owned
  | individual =>
      obtain ⟨type, field, found, link, refers⟩ := owned
      have read := links.reference type (Registry.mem_of_get? found).1 field link
      exact ⟨type, field, found, link, (same.refers_iff read owner).mp refers⟩

theorem Alike.leads (alike : fetched.Alike shared other) (links : registry.LinksShared shared)
    {object : String} {source : LinkSource} (read : shared object source.field)
    {record twin : Record} (same : record.Alike (shared object) twin)
    (leads : fetched.Leads registry accountId source record) :
    other.Leads registry accountId source twin := by
  obtain ⟨owner, given, told⟩ := leads
  refine ⟨owner, (same.text?_eq read).symm.trans given, ?_⟩
  exact alike.referred links (fun _ _ like => owner_of_alike links like) told

section Belonging

variable {type : EntityType} (member : type ∈ registry.objects)
  (read : ∀ source ∈ fetched.sources type.name, shared type.name source.field)

include member read

theorem Alike.belongs (alike : fetched.Alike shared other) (links : registry.LinksShared shared)
    {record twin : Record} (same : record.Alike (shared type.name) twin) {index : Nat}
    (belongs : fetched.Belongs registry accountId type record index) :
    other.Belongs registry accountId type twin index := by
  unfold Belongs at belongs ⊢
  cases link : type.link with
  | root => simp [link] at belongs
  | direct field =>
      simp only [link] at belongs ⊢
      exact (same.refers_iff (links.direct type member field link) accountId).mp belongs
  | contactReference field =>
      simp only [link] at belongs ⊢
      obtain ⟨id, first, told⟩ := belongs
      refine ⟨id, (Pool.first_congr (alike.ids_eq links type.name) id index).mp first, ?_⟩
      have shown := links.reference type member field link
      exact alike.referred links (fun _ _ like => (like.refers_iff shown id).mp) told
  | contactPoint contactField individualField =>
      simp only [link] at belongs ⊢
      obtain ⟨source, active, leads⟩ := belongs
      refine ⟨source, alike.sources type.name ▸ active, ?_⟩
      exact alike.leads links (read source active) same leads

theorem Alike.belongs_iff (alike : fetched.Alike shared other) (links : registry.LinksShared shared)
    {record twin : Record} (same : record.Alike (shared type.name) twin) (index : Nat) :
    fetched.Belongs registry accountId type record index ↔
      other.Belongs registry accountId type twin index := by
  constructor
  · exact alike.belongs member read links same
  · have readOther : ∀ source ∈ other.sources type.name, shared type.name source.field :=
      alike.sources type.name ▸ read
    exact alike.symm.belongs member readOther links (Record.Alike.symm same)

open Classical in
/-- Records which belong to the account stand at the same places. -/
theorem Alike.belonging (alike : fetched.Alike shared other) (links : registry.LinksShared shared) :
    List.Forall₂ (GraphRecord.Alike (shared type.name)) (fetched.belonging registry accountId type)
      (other.belonging registry accountId type) := by
  have placed := forall₂_zipIdx (alike.pools type.name) 0
  unfold Fetched.belonging
  rw [List.forall₂_map_left_iff, List.forall₂_map_right_iff]
  refine (List.rel_filter ?_ placed).imp fun entry twin ⟨same, place⟩ => ⟨?_, same⟩
  · rintro entry twin ⟨same, place⟩
    have belongs : fetched.Belongs registry accountId type entry.1 entry.2 ↔
        other.Belongs registry accountId type twin.1 entry.2 :=
      alike.belongs_iff member read links same entry.2
    simp only [decide_eq_true_iff, ← place, belongs]
  · have named : entry.1.id? = twin.1.id? := same.id?_eq (links.id type.name)
    simp only [Pool.keyOf, named, place]

end Belonging

theorem Alike.accountRecord (alike : fetched.Alike shared other) (links : registry.LinksShared shared) :
    (fetched.accountRecord accountId).Alike (shared EntityType.account)
      (other.accountRecord accountId) := by
  have found := forall₂_find? (forall₂_zipIdx (alike.pools EntityType.account) 0)
    (p := fun entry => entry.1.id? == some accountId) (q := fun entry => entry.1.id? == some accountId)
    fun entry twin ⟨same, _⟩ => by rw [same.id?_eq (links.id EntityType.account)]
  unfold Fetched.accountRecord
  generalize (fetched.pool EntityType.account).zipIdx.find? _ = own at found ⊢
  generalize (other.pool EntityType.account).zipIdx.find? _ = twins at found ⊢
  cases found with
  | none => exact ⟨rfl, fun _ _ => rfl⟩
  | @some entry twin placed =>
      obtain ⟨same, place⟩ := placed
      have named : entry.1.id? = twin.1.id? := same.id?_eq (links.id EntityType.account)
      exact ⟨by simp only [Pool.keyOf, named, place], same⟩

/-- What was fetched alike is resolved to graphs which are alike. -/
theorem Alike.resolve (alike : fetched.Alike shared other) (links : registry.LinksShared shared)
    (unique : (registry.objects.map (·.name)).Nodup)
    (others : ∀ type ∈ registry.linked, type.name ≠ EntityType.account)
    (read : ∀ object, ∀ source ∈ fetched.sources object, shared object source.field)
    (accountId : String) :
    ((fetched.resolver registry).resolve accountId).Alike shared
      ((other.resolver registry).resolve accountId) := by
  rw [resolve_eq unique others, resolve_eq unique others]
  have account : (fetched.accountRecord accountId).Alike (shared EntityType.account)
      (other.accountRecord accountId) := alike.accountRecord links
  refine ⟨account, fun object => ?_⟩
  by_cases root : object = EntityType.account
  · subst root
    exact Matched.of_forall₂ (.cons account .nil)
  · by_cases listed : object ∈ registry.linked.map (·.name)
    · obtain ⟨type, linked, rfl⟩ := List.mem_map.mp listed
      rw [accountGraph_records unique others linked, accountGraph_records unique others linked]
      exact Matched.of_forall₂
        (alike.belonging (Registry.mem_linked.mp linked).1 (read type.name) links)
    · rw [accountGraph_records_unlinked root listed, accountGraph_records_unlinked root listed]
      exact Matched.of_forall₂ .nil

end Fetched

end Dossier
