import Dossier.Proofs.Graph.Resolving
import Dossier.Proofs.Join.Fetched

/-!
Exploring is joining.

Fetching and resolving together compute the join: chunks, repeated references, contact points which
are reached twice and the indices of the resolver leave no trace in what an account has.
-/

namespace Dossier

/-- What is known of a type after a fetch, by its yield. -/
structure Fetched.Tells (fetched : Fetched) (yield : Fetching.Yield) : Prop where
  records : fetched.records.lookup yield.part.object = some yield.part.records
  plan : ∀ plan, yield.part.plan = some plan → fetched.plans.lookup yield.part.object = some plan
  linkSources : ∀ sources, yield.part.linkSources = some sources →
    fetched.linkSources.lookup yield.part.object = some sources
  warned : fetched.warnings.contains yield.part.object = true ↔ yield.failure ≠ none

theorem Fetched.Tells.pool {fetched : Fetched} {yield : Fetching.Yield} (tells : fetched.Tells yield) :
    ((Pools.ofRecords fetched.records).pool yield.part.object).records = yield.part.records :=
  Pools.pool_ofRecords tells.records

namespace Fixture

variable {fixture : Fixture} {config : Config} {accountIds : List String} {fetched : Fetched}

theorem fetch_tells (valid : config.registry.Valid)
    (succeeded : (fetch fixture.store config accountIds FieldCache.empty ()).1 = .ok fetched)
    {type : EntityType} (linked : type ∈ config.registry.linked) {yield : Fetching.Yield}
    (found : fixture.answers.yieldOf? config accountIds type = some yield)
    (named : yield.part.object = type.name) : fetched.Tells yield := by
  obtain ⟨missing, whole, warned⟩ := fetch_found fixture.gives valid
    (FieldCache.truthful_empty fixture.org fixture.answers) succeeded
  have member := Answers.mem_yields linked found
  have only : ∀ other ∈ (fixture.answers.survey config accountIds).yields,
      other.part.object = yield.part.object → other = yield := by
    intro other there same
    have also := Answers.yields_only valid linked there (same.trans named)
    exact Option.some.inj (also.symm.trans found)
  have listed := List.mem_map_of_mem (f := (·.part)) member
  have sole : ∀ other ∈ (fixture.answers.survey config accountIds).yields.map (·.part),
      other.object = yield.part.object → other = yield.part :=
    List.forall_mem_map.mpr fun other there same => congrArg (·.part) (only other there same)
  constructor
  · rw [whole]
    exact Fetched.lookup_records listed sole ..
  · intro plan given
    rw [whole]
    exact (Fetched.lookup_parts listed sole (·.plan)).trans given
  · intro sources given
    rw [whole]
    exact (Fetched.lookup_parts listed sole (·.linkSources)).trans given
  · rw [warned]
    constructor
    · rintro ⟨other, there, same, failed⟩
      rw [← only other there same]
      exact failed
    · intro failed
      exact ⟨yield, member, rfl, failed⟩

theorem owners_among {registry : Registry} {records : List (String × List Record)}
    {linkSources : List (String × List LinkSource)} {contacts all : List Record}
    (among : ∀ contact ∈ contacts, contact ∈ all) (path : LinkPath) :
    ∀ owner ∈ (Resolver.make registry records linkSources).owners contacts path,
      owner ∈ Fetching.owners registry all path := by
  have references : ∀ field, ∀ text ∈ Resolver.references contacts field,
      text ∈ Fetching.distinctValues all field := by
    intro field text referred
    obtain ⟨contact, member, given⟩ := Resolver.mem_references.mp referred
    exact mem_distinct.mpr (List.mem_filterMap.mpr ⟨contact, among contact member, given⟩)
  cases path with
  | contact =>
      intro owner owned
      obtain ⟨contact, member, identified⟩ := List.mem_filterMap.mp (mem_distinct.mp owned)
      refine mem_distinct.mpr (List.mem_filterMap.mpr ⟨contact, among contact member, ?_⟩)
      exact Record.reference?_of_id? identified
  | individual =>
      simp only [Resolver.owners, Resolver.make, Fetching.owners]
      cases registry.get? EntityType.individual with
      | none => simp
      | some type =>
          obtain ⟨name, label, required, link, defaults⟩ := type
          cases link with
          | contactReference field => exact references field
          | root | direct _ | contactPoint _ _ => simp

/-- If a text is read of shown rows just where the rows have it, it is read where one has it. -/
theorem mem_shown {plan : ObjectPlan} {contacts : List Row} {read : Record → Option String}
    {field text : String}
    (reads : ∀ row ∈ contacts, read (project plan.queryFields row) = some text ↔
      text ≠ "" ∧ fixture.text? EntityType.contact field row = some text) :
    text ∈ (contacts.map (project plan.queryFields)).filterMap read ↔
      text ≠ "" ∧ text ∈ fixture.referencesOf contacts field := by
  rw [List.filterMap_map, List.mem_filterMap, referencesOf, List.mem_filterMap]
  constructor
  · rintro ⟨row, member, given⟩
    obtain ⟨filled, whole⟩ := (reads row member).mp given
    exact ⟨filled, row, member, whole⟩
  · rintro ⟨filled, row, member, whole⟩
    exact ⟨row, member, (reads row member).mpr ⟨filled, whole⟩⟩

section References

variable (sound : fixture.Sound config.registry) {plan : ObjectPlan} {contacts : List Row}
  (shown : ∀ row ∈ contacts, row ∈ fixture.rowsOf EntityType.contact ∧
    fixture.answers.plan EntityType.contact config = .ok plan ∧
      fixture.knows EntityType.contact Record.idField = true)

include sound shown

theorem mem_references {field : String}
    (link : field ∈ config.registry.linkFields EntityType.contact) {text : String} :
    text ∈ Resolver.references (contacts.map (project plan.queryFields)) field ↔
      text ≠ "" ∧ text ∈ fixture.referencesOf contacts field := by
  have refers : ∀ row ∈ contacts, (project plan.queryFields row).reference? field = some text ↔
      text ≠ "" ∧ fixture.text? EntityType.contact field row = some text := by
    intro row member
    obtain ⟨inside, planned, knowsId⟩ := shown row member
    rw [plan_reference? planned knowsId (sound.scalar _ row inside field link) (.inr link),
      Option.filter_eq_some_iff, bne_iff_ne, and_comm]
  rw [Resolver.references, mem_distinct]
  exact mem_shown refers

theorem mem_ids {text : String} :
    text ∈ (contacts.map (project plan.queryFields)).filterMap (·.id?) ↔
      text ≠ "" ∧ text ∈ fixture.referencesOf contacts Record.idField := by
  have identifies : ∀ row ∈ contacts, (project plan.queryFields row).id? = some text ↔
      text ≠ "" ∧ fixture.text? EntityType.contact Record.idField row = some text := by
    intro row member
    obtain ⟨inside, planned, knowsId⟩ := shown row member
    obtain ⟨id, identified⟩ := sound.identified _ row inside
    rw [plan_id? planned identified, text?_of_knows knowsId, identified.text?]
    constructor
    · intro same
      cases same
      exact ⟨identified.filled, rfl⟩
    · exact fun both => both.2
  exact mem_shown identifies

theorem mem_owners {contact : EntityType}
    (found : config.registry.get? EntityType.contact = some contact) (named : config.registry.Named)
    {records : List (String × List Record)} {linkSources : List (String × List LinkSource)}
    {path : LinkPath} {text : String} :
    text ∈ (Resolver.make config.registry records linkSources).owners
        (contacts.map (project plan.queryFields)) path ↔
      text ≠ "" ∧ text ∈ fixture.ownersOf config contacts path := by
  cases path with
  | contact =>
      rw [Resolver.owners, mem_distinct]
      exact mem_ids sound shown
  | individual =>
      simp only [Resolver.owners, Resolver.make, ownersOf]
      cases individual : config.registry.get? EntityType.individual with
      | none => simp
      | some type =>
          obtain ⟨name, label, required, link, defaults⟩ := type
          cases link with
          | contactReference field =>
              have references : field ∈ config.registry.referenceFields :=
                Registry.mem_referenceFields.mpr ⟨_, (Registry.mem_of_get? individual).1, rfl⟩
              exact mem_references sound shown (named.reference_linkFields found references)
          | root | direct _ | contactPoint _ _ => simp

end References

/-- Sources lead to the rows to which the paths lead: a text is read only where its field is known. -/
theorem any_activeSources {object : String} {plan : ObjectPlan}
    (planned : fixture.answers.plan object config = .ok plan)
    {contactField individualField : Option String} {own theirs : LinkPath → List String}
    (same : ∀ path owner, owner ∈ own path ↔ owner ≠ "" ∧ owner ∈ theirs path) (row : Row) :
    ((Fetching.activeSources config plan object contactField individualField).any fun source =>
        (fixture.text? object source.field row).any fun owner =>
          owner != "" && (own source.path).contains owner) =
      (config.linkPaths object).any fun path =>
        ((pathField contactField individualField path).bind fun field =>
          fixture.text? object field row).any fun owner =>
            owner != "" && (theirs path).contains owner := by
  rw [Bool.eq_iff_iff]
  simp only [List.any_eq_true, Option.any_eq_true, Option.bind_eq_some_iff, Bool.and_eq_true,
    bne_iff_ne, List.contains_iff_mem, same]
  constructor
  · rintro ⟨source, active, owner, given, ownerFilled, -, owned⟩
    obtain ⟨followed, field, -⟩ := (mem_activeSources planned).mp active
    exact ⟨source.path, followed, owner, ⟨source.field, field, given⟩, ownerFilled, owned⟩
  · rintro ⟨path, followed, owner, ⟨field, isField, given⟩, ownerFilled, owned⟩
    have known := (knows_of_text? given).1
    exact ⟨⟨path, field⟩, (mem_activeSources planned).mpr ⟨followed, isField, known⟩, owner, given,
      ownerFilled, ownerFilled, owned⟩

section Account

variable (sound : fixture.Sound config.registry) (valid : config.registry.Valid)
  (named : config.registry.Named) (unique : accountIds.Nodup)
  (succeeded : (fetch fixture.store config accountIds FieldCache.empty ()).1 = .ok fetched)
  {account : String} (requested : account ∈ accountIds) (filled : account ≠ "")

theorem contactsOf_direct (valid : config.registry.Valid) {contact : EntityType}
    (member : contact ∈ config.registry.objects) (called : contact.name = EntityType.contact)
    {field : String} (direct : contact.link = .direct field) (lost : Bool) (account : String) :
    fixture.contactsOf config lost account =
      if lost then []
      else (fixture.rowsOf EntityType.contact).filter fun row =>
        fixture.text? EntityType.contact field row == some account := by
  have found := valid.get?_contact member called
  obtain ⟨name, label, required, link, defaults⟩ := contact
  cases direct
  simp only [contactsOf, found]

theorem contact_tells (valid : config.registry.Valid)
    (succeeded : (fetch fixture.store config accountIds FieldCache.empty ()).1 = .ok fetched)
    {contact : EntityType} (member : contact ∈ config.registry.objects)
    (called : contact.name = EntityType.contact) {field : String}
    (direct : contact.link = .direct field) :
    fetched.Tells (fixture.answers.typeYield config .optional EntityType.contact field accountIds) := by
  have linked : contact ∈ config.registry.linked :=
    Registry.mem_linked.mpr ⟨member, by simp [direct]⟩
  have found : fixture.answers.yieldOf? config accountIds contact =
      some (fixture.answers.typeYield config .optional EntityType.contact field accountIds) := by
    simp [Answers.yieldOf?, Answers.directYield, direct, called]
  exact fetch_tells valid succeeded linked found (by simp [called])

include sound valid named unique succeeded requested filled

theorem contacts_rows {contact : EntityType} (member : contact ∈ config.registry.objects)
    (called : contact.name = EntityType.contact) {field : String}
    (direct : contact.link = .direct field) :
    ∃ plan : ObjectPlan,
      (Resolver.make config.registry fetched.records fetched.linkSources).contacts account =
        (fixture.contactsOf config (fetched.warnings.contains EntityType.contact) account).map
          (project plan.queryFields) ∧
      ∀ row ∈ fixture.contactsOf config (fetched.warnings.contains EntityType.contact) account,
        row ∈ fixture.rowsOf EntityType.contact ∧
          fixture.answers.plan EntityType.contact config = .ok plan ∧
            fixture.knows EntityType.contact Record.idField = true := by
  have link : field ∈ config.registry.linkFields EntityType.contact := by
    rw [← called]
    exact named.own_linkFields valid member (by simp [direct, Registry.ownLinkFields])
  have tells := contact_tells valid succeeded member called direct
  have pooled := tells.pool
  have warned := tells.warned
  rw [Answers.typeYield_object] at pooled warned
  rw [Resolver.contacts_eq (valid.get?_contact member called) direct,
    contactsOf_direct valid member called direct, pooled]
  cases lost : fetched.warnings.contains EntityType.contact with
  | true =>
      have nothing := Answers.typeYield_failed (warned.mp lost)
      exact ⟨ObjectPlan.make config EntityType.contact [], by simp [nothing], by simp⟩
  | false =>
      have kept : (fixture.answers.typeYield config .optional EntityType.contact field
          accountIds).failure = none := by
        by_contra failed
        simp [warned.mpr failed] at lost
      obtain ⟨plan, planned, -, knowsId, own⟩ := typeYield_direct sound link unique requested filled kept
      refine ⟨plan, own, fun row inside => ?_⟩
      exact ⟨(List.mem_filter.mp inside).1, planned, knowsId⟩

omit sound named unique requested filled in
theorem contacts_among {contact : EntityType} (member : contact ∈ config.registry.objects)
    (called : contact.name = EntityType.contact) {field : String}
    (direct : contact.link = .direct field) :
    ∀ record ∈ (Resolver.make config.registry fetched.records fetched.linkSources).contacts account,
      record ∈ (fixture.answers.survey config accountIds).contacts := by
  intro record mine
  have pooled := (contact_tells valid succeeded member called direct).pool
  rw [Answers.typeYield_object] at pooled
  rw [Resolver.contacts_eq (valid.get?_contact member called) direct, pooled] at mine
  rw [Answers.survey_contacts valid member called direct]
  exact (List.mem_filter.mp mine).1

theorem contacts_through {type : EntityType} (member : type ∈ config.registry.objects)
    (through : (∃ field, type.link = .contactReference field) ∨
      ∃ contactField individualField, type.link = .contactPoint contactField individualField) :
    ∃ contact, ∃ plan : ObjectPlan, config.registry.get? EntityType.contact = some contact ∧
      (Resolver.make config.registry fetched.records fetched.linkSources).contacts account =
        (fixture.contactsOf config (fetched.warnings.contains EntityType.contact) account).map
          (project plan.queryFields) ∧
      (∀ row ∈ fixture.contactsOf config (fetched.warnings.contains EntityType.contact) account,
        row ∈ fixture.rowsOf EntityType.contact ∧
          fixture.answers.plan EntityType.contact config = .ok plan ∧
            fixture.knows EntityType.contact Record.idField = true) ∧
      ∀ record ∈ (Resolver.make config.registry fetched.records fetched.linkSources).contacts account,
        record ∈ (fixture.answers.survey config accountIds).contacts := by
  obtain ⟨field, contact, contactMember, called, direct⟩ := valid.contact_direct member through
  obtain ⟨plan, contacts, shown⟩ := contacts_rows sound valid named unique succeeded requested filled
    contactMember called direct
  exact ⟨contact, plan, valid.get?_contact contactMember called, contacts, shown,
    contacts_among valid succeeded contactMember called direct⟩

variable {type : EntityType} (linked : type ∈ config.registry.linked)
  (kept : fetched.warnings.contains type.name = false)

omit sound named unique requested filled in
theorem unfailed {yield : Fetching.Yield}
    (found : fixture.answers.yieldOf? config accountIds type = some yield)
    (called : yield.part.object = type.name) (linked : type ∈ config.registry.linked)
    (kept : fetched.warnings.contains type.name = false) : yield.failure = none := by
  by_contra failed
  have warned := (fetch_tells valid succeeded linked found called).warned.mpr failed
  rw [called, kept] at warned
  contradiction

include linked kept

theorem resolve_direct {field : String} (direct : type.link = .direct field) :
    ∃ plan, fetched.plans.lookup type.name = some plan ∧
      (((Resolver.make config.registry fetched.records fetched.linkSources).resolve account).records
        type.name).map (·.record) =
        ((fixture.rowsOf type.name).filter fun row =>
          fixture.text? type.name field row == some account).map (project plan.queryFields) := by
  obtain ⟨member, -⟩ := Registry.mem_linked.mp linked
  have found : fixture.answers.yieldOf? config accountIds type =
      some (fixture.answers.typeYield config .optional type.name field accountIds) := by
    simp [Answers.yieldOf?, Answers.directYield, direct]
  have called := fixture.answers.typeYield_object config .optional type.name field accountIds
  have tells := fetch_tells valid succeeded linked found called
  have link : field ∈ config.registry.linkFields type.name :=
    named.own_linkFields valid member (by simp [direct, Registry.ownLinkFields])
  obtain ⟨plan, -, planned, -, own⟩ := typeYield_direct sound link unique requested filled
    (unfailed valid succeeded found called linked kept)
  have plans := tells.plan plan planned
  have pooled := tells.pool
  rw [called] at plans pooled
  refine ⟨plan, plans, ?_⟩
  have routed : Resolver.route? (Pools.ofRecords fetched.records) fetched.linkSources type = some
      (type.name, .direct (((Pools.ofRecords fetched.records).pool type.name).indexBy field)) := by
    rw [Resolver.route?, direct]
  rw [Resolver.resolve_records valid.unique member (valid.linked_ne_account linked) routed,
    ← own, ← pooled]
  exact Resolver.related_direct field

/-- Records of a type which contacts refer to are those which the account's contacts refer to. -/
theorem resolve_referenced {field : String} (references : type.link = .contactReference field) :
    ∃ plan, ∃ rows : List Row, fetched.plans.lookup type.name = some plan ∧
      rows.Perm ((fixture.rowsOf type.name).filter fun row =>
        (fixture.text? type.name Record.idField row).any
          (fixture.referencesOf (fixture.contactsOf config
            (fetched.warnings.contains EntityType.contact) account) field).contains) ∧
      (((Resolver.make config.registry fetched.records fetched.linkSources).resolve account).records
        type.name).map (·.record) = rows.map (project plan.queryFields) := by
  obtain ⟨member, -⟩ := Registry.mem_linked.mp linked
  obtain ⟨contact, contactPlan, contactFound, contacts, shown, among⟩ := contacts_through sound valid
    named unique succeeded requested filled member (.inl ⟨field, references⟩)
  have found : fixture.answers.yieldOf? config accountIds type =
      some (fixture.answers.typeYield config .optional type.name Record.idField
        (Fetching.distinctValues (fixture.answers.survey config accountIds).contacts field)) := by
    simp [Answers.yieldOf?, Answers.directYield, Answers.referencedYield, references]
  have called := fixture.answers.typeYield_object config .optional type.name Record.idField
    (Fetching.distinctValues (fixture.answers.survey config accountIds).contacts field)
  have tells := fetch_tells valid succeeded linked found called
  have asked : ∀ text ∈ Resolver.references ((Resolver.make config.registry fetched.records
      fetched.linkSources).contacts account) field,
      text ∈ Fetching.distinctValues (fixture.answers.survey config accountIds).contacts field := by
    intro text referred
    obtain ⟨record, mine, given⟩ := Resolver.mem_references.mp referred
    exact mem_distinct.mpr (List.mem_filterMap.mpr ⟨record, among record mine, given⟩)
  have askedOnce : (Fetching.distinctValues (fixture.answers.survey config accountIds).contacts
      field).Nodup := nodup_distinct _
  obtain ⟨plan, rows, -, planned, ids, exact, own⟩ := typeYield_referenced sound askedOnce asked
    (unfailed valid succeeded found called linked kept)
  have plans := tells.plan plan planned
  have pooled := tells.pool
  rw [called] at plans pooled
  rw [← pooled] at ids own
  refine ⟨plan, rows, plans, exact.trans (List.Perm.of_eq ?_), ?_⟩
  · -- Identifiers are not empty, so it does not matter that empty references are none.
    refine List.filter_congr fun row inside => ?_
    have link := named.reference_linkFields contactFound
      (Registry.mem_referenceFields.mpr ⟨type, member, references⟩)
    rw [contacts, Bool.eq_iff_iff, Option.any_eq_true, Option.any_eq_true]
    refine exists_congr fun id => and_congr_right fun given => ?_
    obtain ⟨text, identified⟩ := sound.identified _ row inside
    have same : text = id :=
      Option.some.inj (identified.text?.symm.trans (knows_of_text? given).2)
    have idFilled : id ≠ "" := same ▸ identified.filled
    rw [List.contains_iff_mem, List.contains_iff_mem, mem_references sound shown link,
      and_iff_right idFilled]
  · have routed : Resolver.route? (Pools.ofRecords fetched.records) fetched.linkSources type =
        some (type.name, .contactReference field) := by
      rw [Resolver.route?, references]
    rw [Resolver.resolve_records valid.unique member (valid.linked_ne_account linked) routed, ← own]
    exact Resolver.related_reference ids field

/-- Contact points are those which the account's contacts own, or their individuals. -/
theorem resolve_contactPoint {contactField individualField : Option String}
    (points : type.link = .contactPoint contactField individualField) :
    ∃ plan, ∃ rows : List Row, fetched.plans.lookup type.name = some plan ∧
      rows.Perm ((fixture.rowsOf type.name).filter fun row =>
        (config.linkPaths type.name).any fun path =>
          ((pathField contactField individualField path).bind fun field =>
            fixture.text? type.name field row).any fun owner =>
              owner != "" && (fixture.ownersOf config (fixture.contactsOf config
                (fetched.warnings.contains EntityType.contact) account) path).contains owner) ∧
      (((Resolver.make config.registry fetched.records fetched.linkSources).resolve account).records
        type.name).map (·.record) = rows.map (project plan.queryFields) := by
  obtain ⟨member, -⟩ := Registry.mem_linked.mp linked
  obtain ⟨contact, contactPlan, contactFound, contacts, shown, among⟩ := contacts_through sound valid
    named unique succeeded requested filled member (.inr ⟨contactField, individualField, points⟩)
  have found : fixture.answers.yieldOf? config accountIds type =
      some (fixture.answers.pointYield config type.name contactField individualField
        (Fetching.owners config.registry (fixture.answers.survey config accountIds).contacts)) := by
    simp [Answers.yieldOf?, Answers.directYield, Answers.referencedYield, Answers.contactPointYield,
      points]
  have called := fixture.answers.pointYield_object config type.name contactField individualField
    (Fetching.owners config.registry (fixture.answers.survey config accountIds).contacts)
  have tells := fetch_tells valid succeeded linked found called
  have links : ∀ field ∈ contactField.toList ++ individualField.toList,
      field ∈ config.registry.linkFields type.name := by
    intro field inside
    refine named.own_linkFields valid member ?_
    rw [points]
    exact inside
  have owned : ∀ path, ∀ owner ∈ (Resolver.make config.registry fetched.records
      fetched.linkSources).owners ((Resolver.make config.registry fetched.records
        fetched.linkSources).contacts account) path,
      owner ∈ Fetching.owners config.registry (fixture.answers.survey config accountIds).contacts
        path := owners_among among
  obtain ⟨plan, rows, planned, isPlan, active, exact, own⟩ := pointYield_reached sound links owned
    (unfailed valid succeeded found called linked kept)
  have plans := tells.plan plan isPlan
  have sources := tells.linkSources _ active
  have pooled := tells.pool
  rw [called] at plans sources pooled
  rw [← pooled] at own
  refine ⟨plan, rows, plans, exact.trans (List.Perm.of_eq ?_), ?_⟩
  · refine List.filter_congr fun row _ => any_activeSources planned (fun path owner => ?_) row
    rw [contacts]
    exact mem_owners sound shown contactFound named
  · have routed : Resolver.route? (Pools.ofRecords fetched.records) fetched.linkSources type =
        some (type.name, .contactPoint ((Fetching.activeSources config plan type.name contactField
          individualField).map fun source =>
            (source, ((Pools.ofRecords fetched.records).pool type.name).indexBy source.field))) := by
      rw [Resolver.route?, points, sources]
      rfl
    rw [Resolver.resolve_records valid.unique member (valid.linked_ne_account linked) routed, ← own]
    exact Resolver.related_contactPoint _

end Account

end Fixture

end Dossier
