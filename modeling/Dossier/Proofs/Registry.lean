import Dossier.Proofs.Table
import Dossier.Registry

/-!
Valid registries.

In a registry which passes validation the account is the only root, a type is known by its name, and
whatever is reached through contacts has contacts to be reached through.
-/

namespace Dossier

namespace Link

def isDirect : Link → Bool
  | direct _ => true
  | _ => false

def isContactReference : Link → Bool
  | contactReference _ => true
  | _ => false

def isContactPoint : Link → Bool
  | contactPoint _ _ => true
  | _ => false

end Link

namespace Registry

theorem firstRepeated?_eq_none {seen names : List String} :
    firstRepeated? seen names = none ↔ names.Nodup ∧ ∀ name ∈ names, name ∉ seen := by
  induction names generalizing seen with
  | nil => simp [firstRepeated?]
  | cons first rest ih =>
      rw [firstRepeated?]
      split
      · rename_i repeated
        have known : first ∈ seen := List.contains_iff_mem.mp repeated
        simp [known]
      · rename_i new
        have unknown : first ∉ seen := fun known => new (List.contains_iff_mem.mpr known)
        rw [ih, List.nodup_cons]
        constructor
        · intro ⟨unique, apart⟩
          refine ⟨⟨fun later => apart first later List.mem_cons_self, unique⟩, ?_⟩
          exact List.forall_mem_cons.mpr
            ⟨unknown, fun name later known => apart name later (List.mem_cons_of_mem _ known)⟩
        · intro ⟨⟨absent, unique⟩, apart⟩
          refine ⟨unique, fun name later known => ?_⟩
          rcases List.mem_cons.mp known with same | earlier
          · exact absent (same ▸ later)
          · exact apart name (List.mem_cons_of_mem _ later) earlier

structure Valid (registry : Registry) : Prop where
  roots : registry.roots = [EntityType.account]
  unique : (registry.objects.map (·.name)).Nodup
  reached : ∀ type ∈ registry.objects, registry.linkError? type = none

theorem validate_eq_ok {registry : Registry} : registry.validate = .ok () ↔ registry.Valid := by
  unfold validate
  constructor
  · intro passed
    split at passed
    · contradiction
    · rename_i rooted
      split at passed
      · contradiction
      · rename_i unrepeated
        split at passed
        · contradiction
        · rename_i sound
          exact ⟨not_not.mp rooted, (firstRepeated?_eq_none.mp unrepeated).1,
            List.findSome?_eq_none_iff.mp sound⟩
  · intro valid
    have unrepeated := firstRepeated?_eq_none.mpr ⟨valid.unique, fun name _ => List.not_mem_nil⟩
    have sound := List.findSome?_eq_none_iff.mpr valid.reached
    rw [if_neg (not_not.mpr valid.roots), unrepeated, sound]

variable {registry : Registry}

theorem Valid.same (valid : registry.Valid) {type other : EntityType}
    (member : type ∈ registry.objects) (otherMember : other ∈ registry.objects)
    (named : type.name = other.name) : type = other :=
  List.inj_on_of_nodup_map valid.unique member otherMember named

theorem mem_of_get? {name : String} {type : EntityType} (found : registry.get? name = some type) :
    type ∈ registry.objects ∧ type.name = name :=
  ⟨List.mem_of_find?_eq_some found, by simpa using List.find?_some found⟩

theorem Valid.get? (valid : registry.Valid) {type : EntityType} (member : type ∈ registry.objects) :
    registry.get? type.name = some type := by
  cases found : registry.get? type.name with
  | none =>
      have different := List.find?_eq_none.mp found type member
      simp at different
  | some other =>
      obtain ⟨listed, named⟩ := mem_of_get? found
      rw [valid.same listed member named]

theorem Valid.get?_contact (valid : registry.Valid) {contact : EntityType}
    (member : contact ∈ registry.objects) (called : contact.name = EntityType.contact) :
    registry.get? EntityType.contact = some contact := by
  rw [← called]
  exact valid.get? member

theorem mem_linked {type : EntityType} :
    type ∈ registry.linked ↔ type ∈ registry.objects ∧ type.link ≠ .root := by
  simp [linked, EntityType.isLinked]

/-- The root type is the account. -/
theorem Valid.account (valid : registry.Valid) :
    ∃ type ∈ registry.objects, type.name = EntityType.account ∧ type.link = .root := by
  have root : EntityType.account ∈ registry.roots := by
    rw [valid.roots]
    exact List.mem_singleton_self _
  obtain ⟨type, unlinked, named⟩ := List.mem_map.mp root
  obtain ⟨member, reached⟩ := List.mem_filter.mp unlinked
  exact ⟨type, member, named, by simpa [EntityType.isLinked] using reached⟩

theorem Valid.linked_unique (valid : registry.Valid) : (registry.linked.map (·.name)).Nodup :=
  valid.unique.sublist (List.filter_sublist.map _)

theorem Valid.linked_ne_account (valid : registry.Valid) {type : EntityType}
    (member : type ∈ registry.linked) : type.name ≠ EntityType.account := by
  intro named
  obtain ⟨inside, linked⟩ := mem_linked.mp member
  have rooted : EntityType.account ∈ registry.roots := by simp [valid.roots]
  obtain ⟨root, unlinked, rootNamed⟩ := List.mem_map.mp rooted
  obtain ⟨rootInside, isRoot⟩ := List.mem_filter.mp unlinked
  have same := valid.same inside rootInside (named.trans rootNamed.symm)
  subst same
  simp [EntityType.isLinked, linked] at isRoot

/-- The field which holds the account of a contact. -/
theorem Valid.contact_direct (valid : registry.Valid) {type : EntityType}
    (member : type ∈ registry.objects)
    (through : (∃ field, type.link = .contactReference field) ∨
      ∃ contactField individualField, type.link = .contactPoint contactField individualField) :
    ∃ field, ∃ contact ∈ registry.objects, contact.name = EntityType.contact ∧
      contact.link = .direct field := by
  have sound := valid.reached type member
  have direct : registry.isDirect EntityType.contact = true := by
    cases known : registry.isDirect EntityType.contact with
    | true => rfl
    | false =>
        rcases through with ⟨field, linked⟩ | ⟨contactField, individualField, linked⟩
        · simp [linkError?, linked, known] at sound
        · cases contactField <;> cases individualField <;> simp [linkError?, linked, known] at sound
  unfold isDirect at direct
  split at direct
  · rename_i name label required field defaults found
    obtain ⟨listed, named⟩ := mem_of_get? found
    exact ⟨field, _, listed, named, rfl⟩
  · contradiction

theorem mem_referenceFields {field : String} :
    field ∈ registry.referenceFields ↔
      ∃ type ∈ registry.objects, type.link = .contactReference field := by
  rw [referenceFields, List.mem_filterMap]
  constructor
  · rintro ⟨type, member, found⟩
    split at found
    · rename_i other linked
      cases found
      exact ⟨type, member, linked⟩
    · contradiction
  · rintro ⟨type, member, linked⟩
    exact ⟨type, member, by rw [linked]⟩

theorem mem_linkFields {name : String} {type : EntityType} (found : registry.get? name = some type)
    {field : String} :
    field ∈ registry.linkFields name ↔ field ≠ "" ∧
      (field ∈ type.requiredFields ∨ field ∈ ownLinkFields type.link ∨
        name = EntityType.contact ∧ field ∈ registry.referenceFields) := by
  simp only [linkFields, found, mem_distinct, List.mem_filter, List.mem_append, bne_iff_ne]
  by_cases contact : name = EntityType.contact
  · simp [contact, and_comm, or_assoc]
  · simp [contact, and_comm]

theorem linkFields_named {name field : String} (link : field ∈ registry.linkFields name) :
    field ≠ "" := by
  cases found : registry.get? name with
  | none => simp [linkFields, found] at link
  | some type => exact ((mem_linkFields found).mp link).1

theorem Valid.own_linkFields (valid : registry.Valid) {type : EntityType}
    (member : type ∈ registry.objects) {field : String} (own : field ∈ ownLinkFields type.link)
    (named : field ≠ "") : field ∈ registry.linkFields type.name :=
  (mem_linkFields (valid.get? member)).mpr ⟨named, .inr (.inl own)⟩

/-- The fields through which contacts refer to others are link fields of contacts. -/
theorem reference_linkFields {contact : EntityType}
    (found : registry.get? EntityType.contact = some contact) {field : String}
    (references : field ∈ registry.referenceFields) (named : field ≠ "") :
    field ∈ registry.linkFields EntityType.contact :=
  (mem_linkFields found).mpr ⟨named, .inr (.inr ⟨rfl, references⟩)⟩

/-- The fields of a type which are followed.  By them its records are asked for and found, or, in the
case of contacts, those of other types. -/
inductive Follows (registry : Registry) : String → String → Prop where
  | direct {type : EntityType} {field : String} (member : type ∈ registry.objects)
      (link : type.link = .direct field) : Follows registry type.name field
  | reference {type : EntityType} {field : String} (member : type ∈ registry.objects)
      (link : type.link = .contactReference field) : Follows registry EntityType.contact field
  | contactPoint {type : EntityType} {contactField individualField : Option String} {field : String}
      (member : type ∈ registry.objects)
      (link : type.link = .contactPoint contactField individualField)
      (path : contactField = some field ∨ individualField = some field) :
      Follows registry type.name field

/-- Whatever is followed is a link field, unless it has no name. -/
theorem Valid.mem_linkFields_of_follows (valid : registry.Valid) {object field : String}
    (follows : registry.Follows object field) (named : field ≠ "") :
    field ∈ registry.linkFields object := by
  cases follows with
  | direct member link =>
      exact valid.own_linkFields member (by simp [link, ownLinkFields]) named
  | reference member link =>
      obtain ⟨_, contact, listed, called, -⟩ := valid.contact_direct member (.inl ⟨field, link⟩)
      have references := mem_referenceFields.mpr ⟨_, member, link⟩
      exact reference_linkFields (valid.get?_contact listed called) references named
  | contactPoint member link path =>
      refine valid.own_linkFields member ?_ named
      rw [link, ownLinkFields, List.mem_append, Option.mem_toList, Option.mem_toList]
      exact path

/-- The fields which a link follows, wherever they are. -/
def followed : Link → List String
  | .contactReference field => [field]
  | link => ownLinkFields link

/-- No link of the registry names an empty field. -/
def Named (registry : Registry) : Prop :=
  ∀ type ∈ registry.objects, ∀ field ∈ followed type.link, field ≠ ""

instance (registry : Registry) : Decidable registry.Named :=
  inferInstanceAs (Decidable (∀ type ∈ registry.objects, ∀ field ∈ followed type.link, field ≠ ""))

theorem Named.own_linkFields (named : registry.Named) (valid : registry.Valid) {type : EntityType}
    (member : type ∈ registry.objects) {field : String} (own : field ∈ ownLinkFields type.link) :
    field ∈ registry.linkFields type.name := by
  refine valid.own_linkFields member own (named type member field ?_)
  cases linked : type.link with
  | contactReference other => simp [linked, ownLinkFields] at own
  | root | direct _ | contactPoint _ _ =>
      rw [linked] at own
      exact own

theorem Named.reference_linkFields (named : registry.Named) {contact : EntityType}
    (found : registry.get? EntityType.contact = some contact) {field : String}
    (references : field ∈ registry.referenceFields) :
    field ∈ registry.linkFields EntityType.contact := by
  obtain ⟨type, member, linked⟩ := mem_referenceFields.mp references
  have filled := named type member field (by simp [linked, followed])
  exact Registry.reference_linkFields found references filled

/-- The names of the linked types which links of one kind reach. -/
def reachedBy (registry : Registry) (kind : Link → Bool) : List String :=
  (registry.linked.filter fun type => kind type.link).map (·.name)

theorem kinds_perm {types : List EntityType} (linked : ∀ type ∈ types, type.link ≠ .root) :
    (types.filter (·.link.isDirect) ++ (types.filter (·.link.isContactReference) ++
      types.filter (·.link.isContactPoint))).Perm types := by
  induction types with
  | nil => exact .nil
  | cons type rest ih =>
      obtain ⟨reached, others⟩ := List.forall_mem_cons.mp linked
      have known := (ih others).cons type
      cases link : type.link with
      | root => exact absurd link reached
      | direct field =>
          simpa [List.filter_cons, link, Link.isDirect, Link.isContactReference, Link.isContactPoint]
            using ih others
      | contactReference field =>
          simp only [List.filter_cons, link, Link.isDirect, Link.isContactReference,
            Link.isContactPoint, Bool.false_eq_true, if_false, if_true, List.cons_append]
          exact List.perm_middle.trans known
      | contactPoint contactField individualField =>
          simp only [List.filter_cons, link, Link.isDirect, Link.isContactReference,
            Link.isContactPoint, Bool.false_eq_true, if_false, if_true]
          rw [← List.append_assoc] at known ⊢
          exact List.perm_middle.trans known

/-- The types of a valid registry, in the order of their fetching. -/
theorem Valid.names_perm (valid : registry.Valid) :
    (EntityType.account :: (registry.reachedBy Link.isDirect ++
      (registry.reachedBy Link.isContactReference ++ registry.reachedBy Link.isContactPoint))).Perm
      (registry.objects.map (·.name)) := by
  have reached : ∀ type ∈ registry.linked, type.link ≠ .root := fun _ member => (mem_linked.mp member).2
  have kinds := (kinds_perm reached).map (·.name)
  simp only [List.map_append] at kinds
  have halves := (List.filter_append_perm (·.isLinked) registry.objects).map (·.name)
  have rooted := valid.roots
  rw [List.map_append] at halves
  rw [Registry.roots] at rooted
  rw [rooted] at halves
  exact ((kinds.cons _).trans (List.perm_append_singleton _ _).symm).trans halves

end Registry

end Dossier
