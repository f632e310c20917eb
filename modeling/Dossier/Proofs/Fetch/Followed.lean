import Dossier.Proofs.Fetch.Plan
import Dossier.Proofs.Graph.Likeness

/-!
What plans carry.

A plan has the store queried for the identifier of a type, for its link fields and for few others,
each of them once.  It leaves out no field which is followed: where everything that is queried is the
same, fetching goes on to the same records, and resolving leads from the accounts to the same ones.
-/

namespace Dossier

/-- The plan for a type of the registry, of which the store knows the available fields, carries what
is displayed and followed of it, and not much more. -/
structure ObjectPlan.Carries (plan : ObjectPlan) (config : Config) (object : String)
    (available : List String) : Prop where
  identified : plan.queryFields.head? = some Record.idField
  unique : plan.queryFields.Nodup
  known : ∀ field ∈ plan.queryFields, field = Record.idField ∨ field ∈ available
  few : (plan.queryFields.filter fun field =>
    field ≠ Record.idField ∧ field ∉ config.registry.linkFields object).length ≤ Config.displayLimit
  displayed : ∀ field ∈ config.displayFields object, field ∈ available → field ∈ plan.queryFields
  followed : ∀ field, config.registry.Follows object field → field ≠ "" → field ∈ available →
    field ∈ plan.queryFields

/-- Records have no fields beside their identifiers but available ones, none of which is without a
name, and contact points were reached by fields of their own. -/
structure Fetched.Within (fetched : Fetched) (registry : Registry)
    (available : String → List String) : Prop where
  records : ∀ object, ∀ record ∈ fetched.pool object, ∀ field, record.get? field ≠ none →
    field = Record.idField ∨ field ≠ "" ∧ field ∈ available object
  sources : ∀ object, ∀ source ∈ fetched.sources object, registry.Follows object source.field

/-- Fetching goes on from the contacts to the same records, and accounts are resolved to records
which are alike. -/
structure Fetched.FollowedAlike (fetched other : Fetched) (registry : Registry)
    (shared : String → String → Prop) : Prop where
  references : ∀ type ∈ registry.objects, ∀ field, type.link = .contactReference field →
    Fetching.distinctValues (fetched.pool EntityType.contact) field =
      Fetching.distinctValues (other.pool EntityType.contact) field
  owners : Fetching.owners registry (fetched.pool EntityType.contact) =
    Fetching.owners registry (other.pool EntityType.contact)
  graphs : ∀ accountId, ((fetched.resolver registry).resolve accountId).Alike shared
    ((other.resolver registry).resolve accountId)

namespace ObjectPlan

/-- The fields which the store is queried for. -/
def Queries (config : Config) (available : String → List String) (object field : String) : Prop :=
  field ∈ (make config object (available object)).queryFields

/-- Fields which are queried, and those which no record has. -/
def Legible (config : Config) (available : String → List String) (object field : String) : Prop :=
  Queries config available object field ∨ field = "" ∨ field ∉ available object

variable {config : Config} {available : String → List String}

theorem alike_legible {fetched other : Fetched} (within : fetched.Within config.registry available)
    (otherWithin : other.Within config.registry available)
    (alike : fetched.Alike (Queries config available) other) :
    fetched.Alike (Legible config available) other where
  sources := alike.sources
  pools object := by
    -- What is not queried and yet legible is absent from both records, since they are within what is
    -- available.
    have absent : ∀ {fetched : Fetched}, fetched.Within config.registry available →
        ∀ record ∈ fetched.pool object, ∀ field, field ≠ Record.idField →
          field = "" ∨ field ∉ available object → record.get? field = none := by
      intro fetched within record member field notId missing
      by_contra present
      rcases within.records object record member field present with own | ⟨named, known⟩
      · exact notId own
      · exact missing.elim named (fun unknown => unknown known)
    have placed := ((List.forall₂_and_left _ _).mpr ⟨absent within, alike.pools object⟩).flip
    refine ((List.forall₂_and_left _ _).mpr ⟨absent otherWithin, placed⟩).flip.imp ?_
    rintro record twin ⟨none, also, same⟩ field (queried | missing)
    · exact same field queried
    · by_cases own : field = Record.idField
      · exact same field (mem_queryFields.mpr (.inl own))
      · rw [also field own missing, none field own missing]

section Valid

variable (valid : config.registry.Valid)

include valid

theorem make_carries (object : String) (available : List String) :
    (make config object available).Carries config object available where
  identified := head?_distinct _ _
  unique := nodup_distinct _
  known field queried := (mem_queryFields.mp queried).imp_right And.left
  few := by
    refine Nat.le_trans (List.Subperm.length_le (List.subperm_of_subset ?_ fun field kept => ?_))
      (config.displayFields_displayable object).few
    · exact (nodup_distinct _).filter _
    · obtain ⟨queried, other⟩ := List.mem_filter.mp kept
      obtain ⟨notId, notLink⟩ := of_decide_eq_true other
      rcases mem_queryFields.mp queried with own | ⟨-, link | displayed⟩
      · exact absurd own notId
      · exact absurd link notLink
      · exact displayed
  displayed field shown known := mem_queryFields.mpr (.inr ⟨known, .inr shown⟩)
  followed field follows named known :=
    mem_queryFields.mpr (.inr ⟨known, .inl (valid.mem_linkFields_of_follows follows named)⟩)

theorem legible_of_follows {object field : String} (follows : config.registry.Follows object field) :
    Legible config available object field := by
  by_cases empty : field = ""
  · exact .inr (.inl empty)
  · by_cases known : field ∈ available object
    · exact .inl ((make_carries valid object (available object)).followed field follows empty known)
    · exact .inr (.inr known)

theorem legible_links : config.registry.LinksShared (Legible config available) :=
  .of_follows (fun _ => .inl (mem_queryFields.mpr (.inl rfl))) (legible_of_follows valid)

theorem followed_alike {fetched other : Fetched} (within : fetched.Within config.registry available)
    (otherWithin : other.Within config.registry available)
    (alike : fetched.Alike (Queries config available) other) :
    fetched.FollowedAlike other config.registry (Queries config available) := by
  have links : config.registry.LinksShared (Legible config available) := legible_links valid
  have legible := alike_legible within otherWithin alike
  have contacts := legible.pools EntityType.contact
  refine ⟨fun type member field link => ?_, Fetching.owners_alike links contacts, fun accountId => ?_⟩
  · exact Fetching.distinctValues_alike contacts (links.reference type member field link)
  · have resolved := legible.resolve links valid.unique (fun _ linked => valid.linked_ne_account linked)
      (fun object source active => legible_of_follows valid (within.sources object source active))
      accountId
    exact resolved.mono fun object field queried => .inl queried

end Valid

/-- For a valid registry, plans carry the fields on display and everything that is followed, and no
more than a few fields beside the links.  So what was fetched is followed to the same records if it is
the same in all that was queried. -/
theorem plans_carry_followed (validated : config.registry.validate = .ok ()) :
    (∀ type ∈ config.registry.objects, Config.Displayable (config.displayFields type.name) ∧
      ∀ available, (make config type.name available).Carries config type.name available) ∧
    ∀ (available : String → List String) (fetched other : Fetched),
      fetched.Within config.registry available → other.Within config.registry available →
      fetched.Alike (Queries config available) other →
      fetched.FollowedAlike other config.registry (Queries config available) := by
  have valid := Registry.validate_eq_ok.mp validated
  refine ⟨fun type _ => ⟨config.displayFields_displayable type.name, ?_⟩, ?_⟩
  · exact make_carries valid type.name
  · intro available fetched other within otherWithin alike
    exact followed_alike valid within otherWithin alike

/-- Contacts are to be shown by more fields than there is room for, and by some which cannot be
selected. -/
def wordy : Config where
  fields := [(EntityType.contact,
    [" Email ", "iD", "", "Email", "AccountId", "Phone", "Title", "Fax", "MobilePhone"])]
  objects := []
  contactPointLinks := []
  alerts := .null
  override := none

def directory : List String :=
  ["AccountId", "Department", "Email", "Fax", "Id", "IndividualId", "MobilePhone", "Phone"]

/-- A contact of an account and of an individual. -/
def employee (department : String) : Record :=
  ⟨[("AccountId", .text "001000000000001"), ("Department", .text department),
    ("Id", .text "003000000000001"), ("IndividualId", .text "0PK000000000001")]⟩

def met (department : String) : Fetched where
  accountIds := ["001000000000001"]
  missingAccountIds := []
  records := [(EntityType.contact, [employee department])]
  plans := []
  linkSources := []
  warnings := Warnings.empty

theorem met_pool (department object : String) :
    (met department).pool object = if object == EntityType.contact then [employee department] else [] := by
  simp only [met, Fetched.pool, List.lookup_cons, List.lookup_nil]
  cases object == EntityType.contact <;> rfl

theorem met_within (department : String) :
    (met department).Within wordy.registry fun _ => directory where
  records object record member field present := by
    rw [met_pool] at member
    split at member
    · obtain rfl := List.mem_singleton.mp member
      obtain ⟨value, found⟩ := Option.ne_none_iff_exists'.mp present
      have given := Table.mem_of_lookup found
      simp only [employee, List.mem_cons, Prod.mk.injEq, List.not_mem_nil, or_false] at given
      rcases given with ⟨rfl, -⟩ | ⟨rfl, -⟩ | ⟨rfl, -⟩ | ⟨rfl, -⟩ <;> decide
    · contradiction
  sources object source active := by simp [met, Fetched.sources] at active

theorem met_alike (department other : String) :
    (met department).Alike (Queries wordy fun _ => directory) (met other) where
  sources _ := rfl
  pools object := by
    rw [met_pool, met_pool]
    split
    · rename_i contact
      obtain rfl := eq_of_beq contact
      refine .cons (fun field queried => ?_) .nil
      have asked : field ∈ ["Id", "AccountId", "IndividualId", "Email", "Phone", "Fax"] := queried
      simp only [List.mem_cons, List.not_mem_nil, or_false] at asked
      rcases asked with rfl | rfl | rfl | rfl | rfl | rfl <;> rfl
    · exact .nil

/-- The department of a contact is not queried, and nothing that follows depends on it. -/
theorem plans_carry_followed_wordy :
    wordy.registry.validate = .ok () ∧
      (make wordy EntityType.contact directory).queryFields =
        ["Id", "AccountId", "IndividualId", "Email", "Phone", "Fax"] ∧
      Config.Displayable (wordy.displayFields EntityType.contact) ∧
      (make wordy EntityType.contact directory).Carries wordy EntityType.contact directory ∧
      (met "Sales").FollowedAlike (met "Support") wordy.registry
        (Queries wordy fun _ => directory) := by
  have valid : wordy.registry.validate = .ok () := by decide +kernel
  have listed : ∃ type ∈ wordy.registry.objects, type.name = EntityType.contact := by
    decide +kernel
  obtain ⟨type, member, named⟩ := listed
  obtain ⟨carried, alike⟩ := plans_carry_followed valid
  obtain ⟨displayable, carries⟩ := named ▸ carried type member
  exact ⟨valid, by decide +kernel, displayable, carries directory,
    alike _ _ _ (met_within "Sales") (met_within "Support") (met_alike "Sales" "Support")⟩

end ObjectPlan

end Dossier
