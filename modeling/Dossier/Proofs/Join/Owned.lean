import Dossier.Proofs.Run.Batch

/-!
Who owns the contact points which are fetched.

Contact points are fetched for contacts and for the individuals to whom they refer.  Fetching reads
the identifiers of contacts as texts, whatever they are, and resolving takes texts only for
identifiers: a contact whose identifier is a number has its contact points fetched, but owns none.
All others are in the graph of an account which was asked for.
-/

namespace Dossier.Fixture

variable {fixture : Fixture} {config : Config} {accountIds : List String} {fetched : Fetched}

theorem mem_addNewRows {pool more : List Row} {row : Row} (member : row ∈ addNewRows pool more) :
    row ∈ pool ∨ row ∈ more := by
  induction more generalizing pool with
  | nil => exact .inl member
  | cons first rest ih =>
      have next : row ∈ addNewRows (addNewRows pool [first]) rest := member
      have one {row : Row} (member : row ∈ addNewRows pool [first]) : row ∈ pool ∨ row = first := by
        simp only [addNewRows, List.foldl_cons, List.foldl_nil] at member
        split at member
        · split at member
          · exact .inl member
          · simpa using member
        · simpa using member
      rcases ih next with earlier | later
      · rcases one earlier with before | rfl
        · exact .inl before
        · exact .inr List.mem_cons_self
      · exact .inr (List.mem_cons_of_mem _ later)

/-- Whatever is fetched of a contact point is reached by a path, even where rows have no identifiers
of their own. -/
theorem reached_of_mem {object : String} {owners : LinkPath → List String} {pool : List Row}
    {sources : List LinkSource} {row : Row}
    (member : row ∈ fixture.reachedRows object owners pool sources) :
    row ∈ pool ∨ row ∈ fixture.rowsOf object ∧ Reached owners sources row := by
  induction sources generalizing pool with
  | nil => exact .inl member
  | cons source rest ih =>
      rcases ih member with earlier | ⟨inside, later⟩
      · rcases mem_addNewRows earlier with before | new
        · exact .inl before
        · obtain ⟨inside, -, -, owned⟩ := mem_rowsBy.mp new
          exact .inr ⟨inside, reached_cons.mpr (.inl owned)⟩
      · exact .inr ⟨inside, reached_cons.mpr (.inr later)⟩

/-- For whomever contact points are asked, a contact is the owner or refers to it, unless it has no
identifier to own them by. -/
theorem owner_of_mem_owners {registry : Registry} {contacts : List Record} {path : LinkPath}
    {owner : String} (asked : owner ∈ Fetching.owners registry contacts path) :
    ∃ contact ∈ contacts, registry.Owner contact owner path ∨
      path = .contact ∧ contact.id? = none ∧ contact.Refers Record.idField owner := by
  cases path with
  | contact =>
      obtain ⟨contact, member, given⟩ := List.mem_filterMap.mp (mem_distinct.mp asked)
      refine ⟨contact, member, ?_⟩
      have refers := Record.reference?_eq_some.mp given
      cases identified : contact.id? with
      | none => exact .inr ⟨rfl, rfl, refers⟩
      | some id =>
          have same : id = owner := by
            have also := Record.reference?_of_id? identified
            rw [given] at also
            exact (Option.some.inj also).symm
          exact .inl (identified.trans (congrArg some same))
  | individual =>
      simp only [Fetching.owners] at asked
      split at asked
      · rename_i name label required field defaults found
        obtain ⟨contact, member, given⟩ := List.mem_filterMap.mp (mem_distinct.mp asked)
        exact ⟨contact, member, .inl ⟨_, field, found, rfl, Record.reference?_eq_some.mp given⟩⟩
      · contradiction

/-- The fields by which rows are linked hold scalars. -/
def Linkable (fixture : Fixture) (registry : Registry) : Prop :=
  ∀ object, ∀ row ∈ fixture.rowsOf object, ∀ field ∈ registry.linkFields object, row.Scalar field

theorem linkable_iff {registry : Registry} :
    fixture.Linkable registry ↔ ∀ object ∈ fixture.rows.map (·.1),
      ∀ row ∈ fixture.rowsOf object, ∀ field ∈ registry.linkFields object, row.Scalar field := by
  refine ⟨fun linkable object _ => linkable object, fun listed object => ?_⟩
  by_cases inside : object ∈ fixture.rows.map (·.1)
  · exact listed object inside
  · simp [rowsOf_unlisted inside]

instance (registry : Registry) : Decidable (fixture.Linkable registry) :=
  decidable_of_iff _ linkable_iff.symm

section Owned

variable (valid : config.registry.Valid) (named : config.registry.Named)
  (linkable : fixture.Linkable config.registry) (filled : ∀ id ∈ accountIds, id ≠ "")
  (succeeded : (fetch fixture.store config accountIds FieldCache.empty ()).1 = .ok fetched)
  {type : EntityType} (member : type ∈ config.registry.objects)
  {contactField individualField : Option String}
  (link : type.link = .contactPoint contactField individualField)

include valid named linkable filled succeeded member link

/-- The contacts for which contact points are asked belong to accounts which were asked for. -/
theorem exists_hasContact {contact : Record} (listed : contact ∈ fixture.contacts config accountIds) :
    ∃ account ∈ accountIds, fetched.HasContact config.registry account contact := by
  obtain ⟨field, contacts, inside, called, direct⟩ :=
    valid.contact_direct member (.inr ⟨contactField, individualField, link⟩)
  have pooled : fetched.pool EntityType.contact =
      (fixture.rowsBy EntityType.contact field accountIds).map
        (fixture.shown config EntityType.contact) := by
    rw [← called, (pool_eq valid succeeded inside).1, fetchedRows, direct]
  have survey : fixture.contacts config accountIds = _ :=
    Answers.survey_contacts valid inside called direct
  rw [survey, typeYield_shown, ← pooled] at listed
  have shownRow := listed
  rw [pooled] at shownRow
  obtain ⟨row, selected, rfl⟩ := List.mem_map.mp shownRow
  obtain ⟨own, -, known, account, asked, given⟩ := mem_rowsBy.mp selected
  have linked : field ∈ config.registry.linkFields EntityType.contact :=
    called ▸ named.own_linkFields valid inside (by simp [direct, Registry.ownLinkFields])
  have told : (fixture.shown config EntityType.contact row).text? field = some account :=
    (shown_text? known (.inr linked) (linkable _ row own field linked)).trans given
  exact ⟨account, asked, listed, contacts, field, valid.get?_contact inside called, direct, told,
    filled account asked⟩

/-- A contact point which is fetched belongs to an account, or was fetched for a contact which owns
nothing. -/
theorem belongs_or_unidentified {index : Nat} {record : Record}
    (place : (fetched.pool type.name)[index]? = some record) :
    (∃ account ∈ accountIds, fetched.Belongs config.registry account type record index) ∨
      ∃ contact ∈ fetched.pool EntityType.contact, contact.id? = none ∧
        ∃ source ∈ fetched.sources type.name, source.path = .contact ∧
          ∃ text, contact.Refers Record.idField text ∧ record.text? source.field = some text := by
  obtain ⟨pooled, active⟩ := pool_eq valid succeeded member
  have fetchedRecord := List.mem_of_getElem? place
  rw [pooled, fetchedRows, link] at fetchedRecord
  obtain ⟨row, reached, rfl⟩ := List.mem_map.mp fetchedRecord
  obtain ⟨inside, source, followed, owner, asked, given⟩ :=
    (reached_of_mem reached).resolve_left List.not_mem_nil
  obtain ⟨-, isField, known⟩ := mem_sourcesOf.mp followed
  have linked : source.field ∈ config.registry.linkFields type.name :=
    named.own_linkFields valid member (by rw [link]; exact mem_of_pathField isField)
  have told : (fixture.shown config type.name row).text? source.field = some owner :=
    (shown_text? known (.inr linked) (linkable _ row inside _ linked)).trans given
  have sourced : source ∈ fetched.sources type.name := by
    rw [active, fetchedSources, link]
    exact followed
  obtain ⟨contact, listed, owned⟩ := owner_of_mem_owners asked
  obtain ⟨account, requested, mine⟩ :=
    exists_hasContact valid named linkable filled succeeded member link listed
  rcases owned with owned | ⟨path, unidentified, refers⟩
  · refine .inl ⟨account, requested, ?_⟩
    simp only [Fetched.Belongs, link]
    exact ⟨source, sourced, owner, told, contact, mine, owned⟩
  · exact .inr ⟨contact, mine.1, unidentified, source, sourced, path, owner, refers, told⟩

end Owned

/-- Every contact point which is fetched is in the graph of an account which was asked for, with its
key, but for those of contacts without an identifier: for such a contact they are fetched by the text
of whatever stands in its place. -/
theorem contactPoints_owned (validated : config.registry.validate = .ok ())
    (named : config.registry.Named) (linkable : fixture.Linkable config.registry)
    (filled : ∀ id ∈ accountIds, id ≠ "") {cache : FieldCache}
    (truthful : cache.Truthful fixture.org fixture.answers)
    (succeeded : (fetch fixture.store config accountIds cache ()).1 = .ok fetched)
    {type : EntityType} (linked : type ∈ config.registry.linked)
    {contactField individualField : Option String}
    (link : type.link = .contactPoint contactField individualField) {index : Nat} {record : Record}
    (place : (fetched.pool type.name)[index]? = some record) :
    (∃ account ∈ accountIds, ∃ found ∈ ((Resolver.make config.registry fetched.records
        fetched.linkSources).resolve account).records type.name,
      found.key = Pool.keyOf type.name index record ∧ found.record = record) ∨
    ∃ contact ∈ fetched.pool EntityType.contact, contact.id? = none ∧
      ∃ source ∈ fetched.sources type.name, source.path = .contact ∧
        ∃ text, contact.Refers Record.idField text ∧ record.text? source.field = some text := by
  have valid := Registry.validate_eq_ok.mp validated
  have member := (Registry.mem_linked.mp linked).1
  -- What a cache remembers of this store makes no difference.
  rw [fetch_steady fixture.gives valid truthful, ← fetch_steady fixture.gives valid
    (FieldCache.truthful_empty fixture.org fixture.answers) accountIds ()] at succeeded
  rcases belongs_or_unidentified valid named linkable filled succeeded member link place with
    ⟨account, asked, belongs⟩ | unidentified
  · refine .inl ⟨account, asked, ⟨Pool.keyOf type.name index record, record,
      fetched.leading config.registry account type record⟩, ?_, rfl, rfl⟩
    rw [Fetched.records_eq_belonging valid linked]
    exact Fetched.mem_belonging.mpr ⟨index, record, place, belongs, rfl⟩
  · exact .inr unidentified

/-- Of two contacts of an account, one is identified by a number.  Both have an email. -/
def numberedContact : Fixture where
  org := "fixture"
  described := []
  rows := [
    (EntityType.account, [.object [("Id", .text "001000000000001")]]),
    (EntityType.contact, [
      .object [("Id", .text "c1"), ("AccountId", .text "001000000000001"), ("Person", .null)],
      .object [("Id", .number (.integer 42)), ("AccountId", .text "001000000000001"),
        ("Person", .null)]]),
    (EntityType.individual, []),
    ("Email", [.object [("Id", .text "e1"), ("Contact", .text "c1"), ("Owner", .null)],
      .object [("Id", .text "e2"), ("Contact", .text "42"), ("Owner", .null)]])]

theorem contactPoints_owned_numberedContact :
    ∃ fetched, (fetch numberedContact.store kinConfig ["001000000000001"] FieldCache.empty ()).1 =
        .ok fetched ∧ (fetched.pool "Email").length = 2 ∧
      ∀ index record, (fetched.pool "Email")[index]? = some record →
        (∃ account ∈ ["001000000000001"], ∃ found ∈ ((Resolver.make kinConfig.registry
            fetched.records fetched.linkSources).resolve account).records "Email",
          found.key = Pool.keyOf "Email" index record ∧ found.record = record) ∨
        ∃ contact ∈ fetched.pool EntityType.contact, contact.id? = none ∧
          ∃ source ∈ fetched.sources "Email", source.path = .contact ∧
            ∃ text, contact.Refers Record.idField text ∧ record.text? source.field = some text := by
  obtain ⟨fetched, succeeded, two⟩ := @succeeds _ _
    (fetch numberedContact.store kinConfig ["001000000000001"] FieldCache.empty ()).1
    (fun fetched => (fetched.pool "Email").length == 2) (by decide +kernel)
  have linked : ⟨"Email", "Email", [], .contactPoint (some "Contact") (some "Owner"), []⟩ ∈
      kinConfig.registry.linked := by decide +kernel
  refine ⟨fetched, succeeded, eq_of_beq two, fun index record place => ?_⟩
  exact contactPoints_owned rfl (by decide +kernel) (by decide +kernel) (by decide)
    (FieldCache.truthful_empty _ _) succeeded linked rfl place

/-- The email of the contact with the number is fetched, and the account does not have it. -/
theorem contactPoint_unowned :
    kinConfig.registry.validate = .ok () ∧ kinConfig.registry.Named ∧
      numberedContact.Linkable kinConfig.registry ∧
      ∃ fetched, (fetch numberedContact.store kinConfig ["001000000000001"] FieldCache.empty ()).1 =
          .ok fetched ∧ (fetched.pool "Email").map (·.id?) = [some "e1", some "e2"] ∧
        (((Resolver.make kinConfig.registry fetched.records fetched.linkSources).resolve
          "001000000000001").records "Email").map (·.key) = ["e1"] := by
  obtain ⟨fetched, succeeded, found⟩ := @succeeds _ _
    (fetch numberedContact.store kinConfig ["001000000000001"] FieldCache.empty ()).1
    (fun fetched => (fetched.pool "Email").map (·.id?) == [some "e1", some "e2"] &&
      (((Resolver.make kinConfig.registry fetched.records fetched.linkSources).resolve
        "001000000000001").records "Email").map (·.key) == ["e1"]) (by decide +kernel)
  rw [Bool.and_eq_true, beq_iff_eq, beq_iff_eq] at found
  exact ⟨rfl, by decide +kernel, by decide +kernel, fetched, succeeded, found⟩

end Dossier.Fixture
