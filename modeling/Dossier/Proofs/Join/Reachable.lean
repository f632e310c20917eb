import Dossier.AccountId
import Dossier.Proofs.Join.Batch

/-!
Which types can be reached.

A valid registry may still have types of which no account ever has a record, whatever the store holds.
An empty field is never followed.  And contact points may be reached through individuals alone, while
no contact refers to an individual.  All other types can be reached: in a store where everything has
the same identifier and all links hold it, everything belongs to one account.
-/

namespace Dossier

namespace Registry

variable (registry : Registry)

/-- Contacts hold their account in a field which can be followed. -/
def LinksContacts : Prop :=
  ∃ contact field, registry.get? EntityType.contact = some contact ∧
    contact.link = .direct field ∧ field ≠ ""

/-- Contacts refer to individuals by a field which can be followed. -/
def LinksIndividuals : Prop :=
  ∃ type field, registry.get? EntityType.individual = some type ∧
    type.link = .contactReference field ∧ field ≠ ""

/-- There is a way from accounts to the records of a type which can be followed to its end. -/
def LeadsTo (type : EntityType) : Prop :=
  match type.link with
  | .root => False
  | .direct field => field ≠ ""
  | .contactReference field => registry.LinksContacts ∧ field ≠ ""
  | .contactPoint contactField individualField =>
      registry.LinksContacts ∧
        ((∃ field, contactField = some field ∧ field ≠ "") ∨
          registry.LinksIndividuals ∧ ∃ field, individualField = some field ∧ field ≠ "")

/-- The fields of a type by which records are linked: its identifier, and its link fields. -/
def keyFields (name : String) : List String :=
  distinct (Record.idField :: registry.linkFields name)

theorem mem_keyFields {registry : Registry} {name field : String} :
    field ∈ registry.keyFields name ↔ field = Record.idField ∨ field ∈ registry.linkFields name := by
  rw [keyFields, mem_distinct, List.mem_cons]

end Registry

/-- The store describes all types of the registry, with all link fields. -/
def Fixture.Describes (fixture : Fixture) (registry : Registry) : Prop :=
  ∀ type ∈ registry.objects, ∃ fields, fixture.described.lookup type.name = some fields ∧
    ∀ field ∈ registry.linkFields type.name, field ∈ fields

/-- In some store which describes all link fields an account has a record of the type, which is not
degraded, by whatever paths there are. -/
def Registry.Reachable (registry : Registry) (type : EntityType) : Prop :=
  ∃ (fixture : Fixture) (config : Config) (account : String) (fetched : Fetched),
    fixture.Describes registry ∧ config.registry = registry ∧ config.contactPointLinks = [] ∧
    AccountId.isIdentifier account = true ∧
    (fetch fixture.store config [account] FieldCache.empty ()).1 = .ok fetched ∧
    fetched.warnings.contains type.name = false ∧
    ((Resolver.make registry fetched.records fetched.linkSources).resolve account).records
      type.name ≠ []

namespace Fixture

section Unreachable

variable {fixture : Fixture} {config : Config} {accountIds : List String} {fetched : Fetched}
  (valid : config.registry.Valid)
  (succeeded : (fetch fixture.store config accountIds FieldCache.empty ()).1 = .ok fetched)

include valid succeeded

/-- Nothing is fetched of a field without a name, even where the store has it. -/
theorem pool_text?_named {type : EntityType} (member : type ∈ config.registry.objects)
    {record : Record} (pooled : record ∈ fetched.pool type.name) {field text : String}
    (told : record.text? field = some text) : field ≠ "" := by
  rw [(pool_eq valid succeeded member).1] at pooled
  obtain ⟨row, -, rfl⟩ := List.mem_map.mp pooled
  cases planned : fixture.answers.plan type.name config with
  | error error =>
      rw [shown, planned] at told
      contradiction
  | ok plan =>
      rw [shown_eq planned, Record.text?, project_get?] at told
      split at told
      · rename_i queried
        obtain ⟨available, -, rfl⟩ := Answers.plan_eq_ok.mp planned
        exact ObjectPlan.queryFields_named queried
      · contradiction

/-- Whoever has a contact has it, and whatever the contact refers to, by fields with names. -/
theorem hasContact_named {account : String} {contact : Record}
    (mine : fetched.HasContact config.registry account contact) :
    config.registry.LinksContacts ∧
      ∀ field text, contact.text? field = some text → field ≠ "" := by
  obtain ⟨pooled, type, field, found, link, refers⟩ := mine
  obtain ⟨member, called⟩ := Registry.mem_of_get? found
  rw [← called] at pooled
  have named {field text : String} (told : contact.text? field = some text) : field ≠ "" :=
    pool_text?_named valid succeeded member pooled told
  exact ⟨⟨type, field, found, link, named refers.1⟩, fun _ _ told => named told⟩

/-- What belongs to an account is of a type which can be reached. -/
theorem leadsTo_of_belongs {type : EntityType} (member : type ∈ config.registry.objects)
    {account : String} {record : Record} {index : Nat} (pooled : record ∈ fetched.pool type.name)
    (belongs : fetched.Belongs config.registry account type record index) :
    config.registry.LeadsTo type := by
  unfold Fetched.Belongs at belongs
  unfold Registry.LeadsTo
  cases link : type.link with
  | root => simp [link] at belongs
  | direct field =>
      simp only [link] at belongs ⊢
      exact pool_text?_named valid succeeded member pooled belongs.1
  | contactReference field =>
      simp only [link] at belongs ⊢
      obtain ⟨id, -, contact, mine, refers⟩ := belongs
      obtain ⟨contacts, named⟩ := hasContact_named valid succeeded mine
      exact ⟨contacts, named field id refers.1⟩
  | contactPoint contactField individualField =>
      simp only [link] at belongs ⊢
      obtain ⟨source, active, owner, told, contact, mine, owned⟩ := belongs
      obtain ⟨contacts, named⟩ := hasContact_named valid succeeded mine
      have filled := pool_text?_named valid succeeded member pooled told
      rw [(pool_eq valid succeeded member).2, fetchedSources, link] at active
      obtain ⟨-, given, -⟩ := mem_sourcesOf.mp active
      refine ⟨contacts, ?_⟩
      cases path : source.path with
      | contact =>
          rw [path] at given
          exact .inl ⟨source.field, given, filled⟩
      | individual =>
          rw [path] at given owned
          obtain ⟨individual, reference, found, refersBy, refers⟩ := owned
          exact .inr ⟨⟨individual, reference, found, refersBy, named reference owner refers.1⟩,
            source.field, given, filled⟩

end Unreachable

/-- A row in which the identifier and all link fields of a type hold the same text. -/
def uniformRow (registry : Registry) (text name : String) : Row :=
  (registry.keyFields name).map fun field => (field, .text text)

/-- A store with one such row of each type. -/
def uniform (registry : Registry) (text : String) : Fixture where
  org := "fixture"
  described := (registry.objects.map (·.name)).map fun name =>
    (name, sortNames (registry.keyFields name))
  rows := (registry.objects.map (·.name)).map fun name =>
    (name, [.object (uniformRow registry text name)])

/-- Where no paths are selected, all that have a field are taken. -/
theorem mem_linkPaths {config : Config} (unselected : config.contactPointLinks = [])
    {type : EntityType} {object : String} (found : config.registry.get? object = some type)
    {contactField individualField : Option String}
    (link : type.link = .contactPoint contactField individualField) {path : LinkPath} :
    path ∈ config.linkPaths object ↔
      ∃ field, pathField contactField individualField path = some field := by
  obtain ⟨name, label, required, _, defaults⟩ := type
  subst link
  cases path with
  | contact =>
      simp [Config.linkPaths, found, unselected, LinkPath.all, pathField, Option.isSome_iff_exists]
  | individual =>
      simp [Config.linkPaths, found, unselected, LinkPath.all, pathField, Option.isSome_iff_exists]

/-- The registry is all that is configured. -/
def plain (registry : Registry) : Config :=
  { Config.empty with override := some registry }

section Uniform

variable {registry : Registry} {text : String} {type : EntityType}

theorem uniformRow_lookup {name field : String} {json : Json} :
    (uniformRow registry text name).lookup field = some json ↔
      field ∈ registry.keyFields name ∧ json = .text text := by
  rw [uniformRow, Table.lookup_map]
  split
  · rename_i key
    simp [List.contains_iff_mem.mp key, eq_comm]
  · rename_i other
    have absent : field ∉ registry.keyFields name := fun key => other (List.contains_iff_mem.mpr key)
    simp [absent]

theorem uniformRow_text? {name field : String} (key : field ∈ registry.keyFields name) :
    (uniformRow registry text name).text? field = some text := by
  rw [Row.text?, uniformRow_lookup.mpr ⟨key, rfl⟩]
  rfl

theorem uniform_rowsOf (object : String) :
    (uniform registry text).rowsOf object =
      if object ∈ registry.objects.map (·.name) then [uniformRow registry text object] else [] := by
  rw [rowsOf, uniform, Table.lookup_map]
  simp only [List.contains_iff_mem]
  split <;> rfl

theorem uniform_described (member : type ∈ registry.objects) :
    (uniform registry text).described.lookup type.name =
      some (sortNames (registry.keyFields type.name)) := by
  have listed : type.name ∈ registry.objects.map (·.name) := List.mem_map_of_mem member
  rw [uniform, Table.lookup_map, if_pos (List.contains_iff_mem.mpr listed)]

theorem uniform_describes : (uniform registry text).Describes registry := by
  intro type member
  refine ⟨_, uniform_described member, fun field link => ?_⟩
  exact Table.mem_sortNames.mpr (Registry.mem_keyFields.mpr (.inr link))

theorem uniform_knows (member : type ∈ registry.objects) {field : String}
    (key : field ∈ registry.keyFields type.name) :
    (uniform registry text).knows type.name field = true := by
  have described : (uniform registry text).fieldsOf type.name =
      .ok (sortNames (registry.keyFields type.name)) := by
    rw [fieldsOf, uniform_described member]
  rw [knows, described]
  exact List.contains_iff_mem.mpr (Table.mem_sortNames.mpr key)

theorem uniform_sound (filled : text ≠ "") : (uniform registry text).Sound registry := by
  have only {object : String} {row : Row} (inside : row ∈ (uniform registry text).rowsOf object) :
      row = uniformRow registry text object := by
    rw [uniform_rowsOf] at inside
    split at inside
    · exact List.mem_singleton.mp inside
    · contradiction
  constructor
  · intro object row inside
    rw [only inside]
    exact ⟨text, uniformRow_lookup.mpr ⟨Registry.mem_keyFields.mpr (.inl rfl), rfl⟩, filled⟩
  · intro object
    rw [uniform_rowsOf]
    split
    · exact List.nodup_singleton _
    · exact .nil
  · intro object row inside field _ json found
    rw [only inside] at found
    exact ⟨.text text, (uniformRow_lookup.mp found).2⟩

end Uniform

/-- What is fetched of the row of a type. -/
def uniformRecord (registry : Registry) (account name : String) : Record :=
  (uniform registry account).shown (plain registry) name (uniformRow registry account name)

section Reached

variable {registry : Registry} (valid : registry.Valid) {account : String} {type : EntityType}
  (member : type ∈ registry.objects)

theorem own_keyFields (valid : registry.Valid) (member : type ∈ registry.objects) {field : String}
    (own : field ∈ Registry.ownLinkFields type.link) (named : field ≠ "") :
    field ∈ registry.keyFields type.name :=
  Registry.mem_keyFields.mpr (.inr (valid.own_linkFields member own named))

theorem reference_keyFields {contact : EntityType}
    (found : registry.get? EntityType.contact = some contact) (member : type ∈ registry.objects)
    {field : String} (link : type.link = .contactReference field) (named : field ≠ "") :
    field ∈ registry.keyFields EntityType.contact :=
  Registry.mem_keyFields.mpr (.inr (Registry.reference_linkFields found
    (Registry.mem_referenceFields.mpr ⟨type, member, link⟩) named))

theorem id_keyFields (name : String) : Record.idField ∈ registry.keyFields name :=
  Registry.mem_keyFields.mpr (.inl rfl)

theorem uniformRecord_text? (member : type ∈ registry.objects) {field : String}
    (key : field ∈ registry.keyFields type.name) :
    (uniformRecord registry account type.name).text? field = some account := by
  have scalar : (uniformRow registry account type.name).Scalar field := fun json found =>
    ⟨.text account, (uniformRow_lookup.mp found).2⟩
  have kept : (uniformRecord registry account type.name).text? field =
      (uniformRow registry account type.name).text? field :=
    shown_text? (uniform_knows member key) (Registry.mem_keyFields.mp key) scalar
  exact kept.trans (uniformRow_text? key)

theorem uniformRecord_id? (member : type ∈ registry.objects) (filled : account ≠ "") :
    (uniformRecord registry account type.name).id? = some account :=
  shown_identified (uniform_knows member (id_keyFields _))
    ⟨uniformRow_lookup.mpr ⟨id_keyFields _, rfl⟩, filled⟩

include valid

theorem plain_valid : (plain registry).registry.Valid :=
  valid

theorem uniform_fetched :
    ∃ fetched, (fetch (uniform registry account).store (plain registry) [account] FieldCache.empty
      ()).1 = .ok fetched := by
  obtain ⟨root, listed, named, -⟩ := valid.account
  have knowsId : (uniform registry account).knows EntityType.account Record.idField = true :=
    named ▸ uniform_knows listed (id_keyFields _)
  exact fetch_of_accounts (plain_valid valid) (typeYield_kept .required knowsId knowsId)

variable {fetched : Fetched}
  (succeeded : (fetch (uniform registry account).store (plain registry) [account] FieldCache.empty
    ()).1 = .ok fetched) (filled : account ≠ "")

include succeeded filled

theorem uniform_pooled (member : type ∈ registry.objects)
    (wanted : (uniform registry account).Wanted (plain registry) [account] type
      (uniformRow registry account type.name)) :
    uniformRecord registry account type.name ∈ fetched.pool type.name := by
  have listed : type.name ∈ registry.objects.map (·.name) := List.mem_map_of_mem member
  have inside : uniformRow registry account type.name ∈
      (uniform registry account).rowsOf type.name := by
    rw [uniform_rowsOf, if_pos listed]
    exact List.mem_singleton_self _
  exact (mem_pool (plain_valid valid) (uniform_sound filled) (List.nodup_singleton _) succeeded
    member).mpr ⟨_, inside, wanted, rfl⟩

theorem uniform_direct (member : type ∈ registry.objects) {field : String}
    (link : type.link = .direct field) (named : field ≠ "") :
    uniformRecord registry account type.name ∈ fetched.pool type.name ∧
      (uniformRecord registry account type.name).Refers field account := by
  have key : field ∈ registry.keyFields type.name :=
    own_keyFields valid member (by simp [link, Registry.ownLinkFields]) named
  refine ⟨uniform_pooled valid succeeded filled member ?_, uniformRecord_text? member key, filled⟩
  rw [Wanted, link]
  exact ⟨uniform_knows member (id_keyFields _), uniform_knows member key, account,
    List.mem_singleton_self _, uniformRow_text? key⟩

/-- The account has a contact with whom it shares its identifier, as does all that the contact refers
to. -/
theorem uniform_contact (contacts : registry.LinksContacts) :
    ∃ contact, fetched.HasContact registry account contact ∧ contact.id? = some account ∧
      ∀ type ∈ registry.objects, ∀ field, type.link = .contactReference field → field ≠ "" →
        contact.Refers field account := by
  obtain ⟨contact, field, found, link, named⟩ := contacts
  obtain ⟨member, called⟩ := Registry.mem_of_get? found
  obtain ⟨pooled, refers⟩ := uniform_direct valid succeeded filled member link named
  refine ⟨uniformRecord registry account contact.name, ⟨called ▸ pooled, contact, field, found, link,
    refers⟩, uniformRecord_id? member filled, fun type listed reference refersBy referenceNamed => ?_⟩
  refine ⟨uniformRecord_text? member ?_, filled⟩
  rw [called]
  exact reference_keyFields found listed refersBy referenceNamed

theorem uniform_referenced (contacts : registry.LinksContacts) (member : type ∈ registry.objects)
    {field : String} (link : type.link = .contactReference field) (named : field ≠ "") :
    uniformRecord registry account type.name ∈ fetched.pool type.name ∧
      ∃ contact, fetched.HasContact registry account contact ∧ contact.Refers field account := by
  obtain ⟨contact, mine, -, refers⟩ := uniform_contact valid succeeded filled contacts
  have own := refers type member field link named
  have listed := contact_fetched (plain_valid valid) ⟨List.nodup_singleton _, succeeded⟩ mine
  refine ⟨uniform_pooled valid succeeded filled member ?_, contact, mine, own⟩
  rw [Wanted, link]
  exact ⟨uniform_knows member (id_keyFields _), account, mem_distinctValues listed own,
    uniformRow_text? (id_keyFields _)⟩

/-- A path which can be followed leads from a contact to the contact point. -/
theorem uniform_point (path : LinkPath) (member : type ∈ registry.objects)
    {contactField individualField : Option String}
    (link : type.link = .contactPoint contactField individualField) {field : String}
    (given : pathField contactField individualField path = some field) (named : field ≠ "")
    {contact : Record} (mine : fetched.HasContact registry account contact)
    (owned : registry.Owner contact account path) :
    uniformRecord registry account type.name ∈ fetched.pool type.name ∧
      ∃ source ∈ fetched.sources type.name, fetched.Leads registry account source
        (uniformRecord registry account type.name) := by
  have key : field ∈ registry.keyFields type.name :=
    own_keyFields valid member (by rw [link]; exact mem_of_pathField given) named
  have active : (⟨path, field⟩ : LinkSource) ∈
      (uniform registry account).fetchedSources (plain registry) type := by
    rw [fetchedSources, link]
    have offered : path ∈ (plain registry).linkPaths type.name :=
      (mem_linkPaths rfl ((plain_valid valid).get? member) link).mpr ⟨field, given⟩
    exact mem_sourcesOf.mpr ⟨offered, given, uniform_knows member key⟩
  have listed := contact_fetched (plain_valid valid) ⟨List.nodup_singleton _, succeeded⟩ mine
  refine ⟨uniform_pooled valid succeeded filled member ?_, ⟨path, field⟩, ?_, account,
    uniformRecord_text? member key, contact, mine, owned⟩
  · rw [Wanted, link]
    exact ⟨uniform_knows member (id_keyFields _), ⟨path, field⟩, active, account,
      mem_owners_of_owner listed owned, uniformRow_text? key⟩
  · rw [(pool_eq (plain_valid valid) succeeded member).2]
    exact active

/-- Contacts own contact points themselves or through the individuals to whom they refer. -/
theorem uniform_points (member : type ∈ registry.objects)
    {contactField individualField : Option String}
    (link : type.link = .contactPoint contactField individualField)
    (leads : registry.LeadsTo type) :
    uniformRecord registry account type.name ∈ fetched.pool type.name ∧
      ∃ source ∈ fetched.sources type.name, fetched.Leads registry account source
        (uniformRecord registry account type.name) := by
  simp only [Registry.LeadsTo, link] at leads
  obtain ⟨contacts, ways⟩ := leads
  obtain ⟨contact, mine, identified, refers⟩ := uniform_contact valid succeeded filled contacts
  rcases ways with
    ⟨field, given, named⟩ | ⟨⟨individual, reference, found, refersBy, referenceNamed⟩, field, given,
      named⟩
  · exact uniform_point valid succeeded filled .contact member link given named mine identified
  · have own : contact.Refers reference account :=
      refers individual (Registry.mem_of_get? found).1 reference refersBy referenceNamed
    exact uniform_point valid succeeded filled .individual member link given named mine
      ⟨individual, reference, found, refersBy, own⟩

/-- Of every type to which a way leads, the account has a record. -/
theorem uniform_belongs (member : type ∈ registry.objects) (leads : registry.LeadsTo type) :
    ∃ index, (fetched.pool type.name)[index]? = some (uniformRecord registry account type.name) ∧
      fetched.Belongs registry account type (uniformRecord registry account type.name) index := by
  unfold Fetched.Belongs
  cases link : type.link with
  | root => simp [Registry.LeadsTo, link] at leads
  | direct field =>
      simp only [Registry.LeadsTo, link] at leads
      obtain ⟨pooled, refers⟩ := uniform_direct valid succeeded filled member link leads
      obtain ⟨index, place⟩ := List.getElem?_of_mem pooled
      exact ⟨index, place, refers⟩
  | contactReference field =>
      simp only [Registry.LeadsTo, link] at leads
      obtain ⟨pooled, contact, mine, own⟩ :=
        uniform_referenced valid succeeded filled leads.1 member link leads.2
      obtain ⟨index, place⟩ := List.getElem?_of_mem pooled
      have once : ((fetched.pool type.name).map (·.id?)).Nodup :=
        pool_unique (plain_valid valid) (uniform_sound filled) (List.nodup_singleton _) succeeded member
      exact ⟨index, place, account, first_of_unique once place (uniformRecord_id? member filled),
        contact, mine, own⟩
  | contactPoint contactField individualField =>
      obtain ⟨pooled, led⟩ := uniform_points valid succeeded filled member link leads
      obtain ⟨index, place⟩ := List.getElem?_of_mem pooled
      exact ⟨index, place, led⟩

omit filled in
/-- A type to which a way leads is not degraded: the store knows every field by which it is asked
for. -/
theorem uniform_kept (linked : type ∈ registry.linked) (leads : registry.LeadsTo type) :
    fetched.warnings.contains type.name = false := by
  have member := (Registry.mem_linked.mp linked).1
  have knowsId : (uniform registry account).knows type.name Record.idField = true :=
    uniform_knows member (id_keyFields type.name)
  obtain ⟨yield, found, named, kept⟩ : ∃ yield, (uniform registry account).answers.yieldOf?
      (plain registry) [account] type = some yield ∧ yield.part.object = type.name ∧
        yield.failure = none := by
    unfold Registry.LeadsTo at leads
    cases link : type.link with
    | root => simp [link] at leads
    | direct field =>
        simp only [link] at leads
        refine ⟨(uniform registry account).answers.typeYield (plain registry) .optional type.name
          field [account], ?_, Answers.typeYield_object .., typeYield_kept .optional knowsId ?_⟩
        · simp [Answers.yieldOf?, Answers.directYield, link]
        · exact uniform_knows member
            (own_keyFields valid member (by simp [link, Registry.ownLinkFields]) leads)
    | contactReference field =>
        refine ⟨(uniform registry account).answers.typeYield (plain registry) .optional type.name
          Record.idField (Fetching.distinctValues
            ((uniform registry account).contacts (plain registry) [account]) field), ?_,
          Answers.typeYield_object .., typeYield_kept .optional knowsId knowsId⟩
        simp [Answers.yieldOf?, Answers.directYield, Answers.referencedYield, link, contacts]
    | contactPoint contactField individualField =>
        refine ⟨(uniform registry account).answers.pointYield (plain registry) type.name contactField
          individualField (Fetching.owners (plain registry).registry
            ((uniform registry account).contacts (plain registry) [account])), ?_,
          Answers.pointYield_object .., pointYield_kept _ _ _ knowsId⟩
        simp [Answers.yieldOf?, Answers.directYield, Answers.referencedYield,
          Answers.contactPointYield, link, contacts]
  have warned := (fetch_tells (plain_valid valid) succeeded linked found named).warned
  rw [named] at warned
  exact Bool.eq_false_iff.mpr fun told => warned.mp told kept

end Reached

end Fixture

namespace Registry

variable {registry : Registry} {type : EntityType}

/-- Some account has a record of the type just where one that was fetched belongs to it. -/
theorem Valid.records_ne_nil (valid : registry.Valid) (linked : type ∈ registry.linked)
    {fetched : Fetched} {account : String} :
    ((Resolver.make registry fetched.records fetched.linkSources).resolve account).records
        type.name ≠ [] ↔
      ∃ index record, (fetched.pool type.name)[index]? = some record ∧
        fetched.Belongs registry account type record index := by
  rw [Fetched.records_eq_belonging valid linked]
  constructor
  · intro some
    obtain ⟨found, member⟩ := List.exists_mem_of_ne_nil _ some
    obtain ⟨index, record, place, belongs, -⟩ := Fetched.mem_belonging.mp member
    exact ⟨index, record, place, belongs⟩
  · rintro ⟨index, record, place, belongs⟩
    exact List.ne_nil_of_mem (Fetched.mem_belonging.mpr ⟨index, record, place, belongs, rfl⟩)

theorem Valid.leadsTo (valid : registry.Valid) (linked : type ∈ registry.linked)
    (reachable : registry.Reachable type) : registry.LeadsTo type := by
  obtain ⟨fixture, config, account, fetched, -, rfl, -, -, succeeded, -, found⟩ := reachable
  obtain ⟨index, record, place, belongs⟩ := (valid.records_ne_nil linked).mp found
  exact Fixture.leadsTo_of_belongs valid succeeded (mem_linked.mp linked).1
    (List.mem_of_getElem? place) belongs

theorem Valid.reachable (valid : registry.Valid) (linked : type ∈ registry.linked)
    (leads : registry.LeadsTo type) : registry.Reachable type := by
  let account := "001000000000001"
  have filled : account ≠ "" := by decide
  obtain ⟨fetched, succeeded⟩ := @Fixture.uniform_fetched registry valid account
  refine ⟨Fixture.uniform registry account, Fixture.plain registry, account, fetched,
    Fixture.uniform_describes, rfl, rfl, by decide, succeeded,
    Fixture.uniform_kept valid succeeded linked leads, (valid.records_ne_nil linked).mpr ?_⟩
  obtain ⟨index, place, belongs⟩ :=
    Fixture.uniform_belongs valid succeeded filled (mem_linked.mp linked).1 leads
  exact ⟨index, _, place, belongs⟩

/-- A linked type of a valid registry can be reached just where a way leads to it: its own fields have
names, and if it is reached through contacts, accounts lead to contacts, and either contacts or the
individuals to whom contacts refer lead to it. -/
theorem reachable_iff (validated : registry.validate = .ok ()) (linked : type ∈ registry.linked) :
    registry.Reachable type ↔ registry.LeadsTo type :=
  ⟨(validate_eq_ok.mp validated).leadsTo linked, (validate_eq_ok.mp validated).reachable linked⟩

def emails (contactField : Option String) : EntityType :=
  ⟨"ContactPointEmail", "Email", [], .contactPoint contactField (some "ParentId"), []⟩

/-- Contacts name their individuals, but these are of no type. -/
def mailing (contactField : Option String) : Registry :=
  ⟨[⟨EntityType.account, "Account", [], .root, []⟩,
    ⟨EntityType.contact, "Contact", ["IndividualId"], .direct "AccountId", []⟩,
    emails contactField]⟩

/-- Where emails name their contacts, some account has one. -/
theorem reachable_emails :
    (mailing (some "Contact__c")).validate = .ok () ∧
      emails (some "Contact__c") ∈ (mailing (some "Contact__c")).linked ∧
      (mailing (some "Contact__c")).Reachable (emails (some "Contact__c")) := by
  have linked : emails (some "Contact__c") ∈ (mailing (some "Contact__c")).linked := by decide
  refine ⟨rfl, linked, (reachable_iff rfl linked).mpr ⟨?_, .inl ⟨"Contact__c", rfl, by decide⟩⟩⟩
  exact ⟨_, "AccountId", rfl, rfl, by decide⟩

/-- Where they name individuals only, no account ever has one: the registry is valid all the same. -/
theorem unreachable_emails :
    (mailing none).validate = .ok () ∧ emails none ∈ (mailing none).linked ∧
      ¬(mailing none).Reachable (emails none) := by
  have validated : (mailing none).validate = .ok () := rfl
  have linked : emails none ∈ (mailing none).linked := by decide
  refine ⟨validated, linked, fun reachable => ?_⟩
  obtain ⟨-, ⟨field, given, -⟩ | ⟨⟨individual, -, found, -, -⟩, -⟩⟩ :=
    (validate_eq_ok.mp validated).leadsTo linked reachable
  · contradiction
  · contradiction

end Registry

end Dossier
