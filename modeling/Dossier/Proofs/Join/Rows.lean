import Dossier.Proofs.Fetch.Plan
import Dossier.Proofs.Fetch.Survey
import Dossier.Proofs.Store.Fixture

/-!
The join of a fixture, row by row.

This is what exploring is about, said without queries, chunks and indices: which rows of a type
belong to an account.  A field which the store does not know is absent, whatever stands in the rows,
and contacts which are lost are followed nowhere.
-/

namespace Dossier.Fixture

variable (fixture : Fixture) (config : Config)

/-- The text of a field of a row of a type, as far as the store knows the field. -/
def text? (object field : String) (row : Row) : Option String :=
  if fixture.knows object field then row.text? field else none

/-- The contacts of an account; none if contacts are lost. -/
def contactsOf (lost : Bool) (account : String) : List Row :=
  match config.registry.get? EntityType.contact with
  | some ⟨_, _, _, .direct field, _⟩ =>
      if lost then []
      else (fixture.rowsOf EntityType.contact).filter fun row =>
        fixture.text? EntityType.contact field row == some account
  | _ => []

/-- The texts of a field of contacts. -/
def referencesOf (contacts : List Row) (field : String) : List String :=
  contacts.filterMap (fixture.text? EntityType.contact field)

/-- The owners of contact points at the end of a path: contacts, or the individuals to which they
refer. -/
def ownersOf (contacts : List Row) : LinkPath → List String
  | .contact => fixture.referencesOf contacts Record.idField
  | .individual =>
      match config.registry.get? EntityType.individual with
      | some ⟨_, _, _, .contactReference field, _⟩ => fixture.referencesOf contacts field
      | _ => []

/-- The field of a contact point which holds the owner at the end of a path. -/
def pathField (contactField individualField : Option String) : LinkPath → Option String
  | .contact => contactField
  | .individual => individualField

/-- The active paths to a contact point, whose fields the store knows. -/
def sourcesOf (object : String) (contactField individualField : Option String) : List LinkSource :=
  (config.linkPaths object).filterMap fun path =>
    ((pathField contactField individualField path).filter (fixture.knows object)).map fun field =>
      ⟨path, field⟩

/-- Does a row of a type belong to the account which has these contacts? -/
def belongs (contacts : List Row) (account : String) (type : EntityType) (row : Row) : Bool :=
  match type.link with
  | .root => false
  | .direct field => fixture.text? type.name field row == some account
  | .contactReference field =>
      (fixture.text? type.name Record.idField row).any (fixture.referencesOf contacts field).contains
  | .contactPoint contactField individualField =>
      (config.linkPaths type.name).any fun path =>
        ((pathField contactField individualField path).bind fun field =>
          fixture.text? type.name field row).any fun owner =>
            owner != "" && (fixture.ownersOf config contacts path).contains owner

/-- The rows of a type which belong to an account, in store order. -/
def joined (lost : Bool) (account : String) (type : EntityType) : List Row :=
  (fixture.rowsOf type.name).filter
    (fixture.belongs config (fixture.contactsOf config lost account) account type)

/-- A record shows the given fields of a row. -/
def Shows (fields : List String) (row : Row) (record : Record) : Prop :=
  ∀ field, record.get? field = if field ∈ fields then row.shown? field else none

/-- Rows of a type have identifiers of their own, and what links them can be followed. -/
structure Sound (registry : Registry) : Prop where
  identified : ∀ object, ∀ row ∈ fixture.rowsOf object, ∃ id, row.Identified id
  unique : ∀ object, ((fixture.rowsOf object).map (·.text? Record.idField)).Nodup
  scalar : ∀ object, ∀ row ∈ fixture.rowsOf object, ∀ field ∈ registry.linkFields object,
    row.Scalar field

variable {fixture config}

theorem rowsOf_unlisted {object : String} (unlisted : object ∉ fixture.rows.map (·.1)) :
    fixture.rowsOf object = [] := by
  rw [rowsOf, Table.lookup_eq_none unlisted]
  rfl

theorem sound_iff {registry : Registry} :
    fixture.Sound registry ↔ ∀ object ∈ fixture.rows.map (·.1),
      (∀ row ∈ fixture.rowsOf object, ∃ id, row.Identified id) ∧
        ((fixture.rowsOf object).map (·.text? Record.idField)).Nodup ∧
          ∀ row ∈ fixture.rowsOf object, ∀ field ∈ registry.linkFields object, row.Scalar field := by
  constructor
  · intro sound object _
    exact ⟨sound.identified object, sound.unique object, sound.scalar object⟩
  · intro listed
    constructor
    all_goals
      intro object
      by_cases inside : object ∈ fixture.rows.map (·.1)
    · exact (listed object inside).1
    · simp [rowsOf_unlisted inside]
    · exact (listed object inside).2.1
    · simp [rowsOf_unlisted inside]
    · exact (listed object inside).2.2
    · simp [rowsOf_unlisted inside]

instance (registry : Registry) : Decidable (fixture.Sound registry) :=
  decidable_of_iff _ sound_iff.symm

theorem Sound.same (sound : fixture.Sound config.registry) {object : String} {row other : Row}
    (member : row ∈ fixture.rowsOf object) (otherMember : other ∈ fixture.rowsOf object)
    (ids : row.text? Record.idField = other.text? Record.idField) : row = other :=
  List.inj_on_of_nodup_map (sound.unique object) member otherMember ids

theorem Sound.nodup (sound : fixture.Sound config.registry) (object : String) :
    (fixture.rowsOf object).Nodup :=
  List.Nodup.of_map _ (sound.unique object)

theorem mem_of_pathField {contactField individualField : Option String} {path : LinkPath}
    {field : String} (given : pathField contactField individualField path = some field) :
    field ∈ contactField.toList ++ individualField.toList := by
  cases path with
  | contact => exact List.mem_append_left _ (Option.mem_toList.mpr given)
  | individual => exact List.mem_append_right _ (Option.mem_toList.mpr given)

theorem mem_sourcesOf {object : String} {contactField individualField : Option String}
    {source : LinkSource} :
    source ∈ fixture.sourcesOf config object contactField individualField ↔
      source.path ∈ config.linkPaths object ∧
        pathField contactField individualField source.path = some source.field ∧
          fixture.knows object source.field = true := by
  simp only [sourcesOf, List.mem_filterMap, Option.map_eq_some_iff, Option.filter_eq_some_iff]
  constructor
  · rintro ⟨path, member, field, ⟨given, known⟩, rfl⟩
    exact ⟨member, given, known⟩
  · rintro ⟨member, given, known⟩
    exact ⟨source.path, member, source.field, ⟨given, known⟩, rfl⟩

section Planned

variable {object : String} {plan : ObjectPlan}
  (planned : fixture.answers.plan object config = .ok plan)

include planned

theorem plan_hasField (field : String) : plan.hasField field = fixture.knows object field := by
  obtain ⟨available, described, rfl⟩ := Answers.plan_eq_ok.mp planned
  change fixture.fieldsOf object = .ok available at described
  rw [knows, described]
  rfl

theorem mem_plan {field : String} :
    field ∈ plan.queryFields ↔ field = Record.idField ∨ fixture.knows object field = true ∧
      (field ∈ config.registry.linkFields object ∨ field ∈ config.displayFields object) := by
  rw [← plan_hasField planned]
  obtain ⟨available, described, rfl⟩ := Answers.plan_eq_ok.mp planned
  rw [ObjectPlan.mem_queryFields, ObjectPlan.hasField, List.contains_iff_mem]
  rfl

/-- What a record refers to is what its row does, as far as the store knows the field. -/
theorem plan_reference? (known : fixture.knows object Record.idField = true) {row : Row}
    {field : String} (scalar : row.Scalar field)
    (asked : field = Record.idField ∨ field ∈ config.registry.linkFields object) :
    (project plan.queryFields row).reference? field =
      (fixture.text? object field row).filter (· != "") := by
  rw [project_reference? scalar, text?]
  cases knows : fixture.knows object field with
  | true =>
      have inside : field ∈ plan.queryFields :=
        (mem_plan planned).mpr (asked.imp id fun link => ⟨knows, .inl link⟩)
      rw [if_pos inside]
      rfl
  | false =>
      have outside : field ∉ plan.queryFields := by
        intro inside
        rcases (mem_plan planned).mp inside with rfl | ⟨also, -⟩
        · simp [known] at knows
        · simp [knows] at also
      rw [if_neg outside]
      rfl

theorem sourcesOf_eq (contactField individualField : Option String) :
    Fetching.activeSources config plan object contactField individualField =
      fixture.sourcesOf config object contactField individualField := by
  refine List.filterMap_congr fun path _ => ?_
  have known : plan.hasField = fixture.knows object := funext (plan_hasField planned)
  rw [known]
  rfl

theorem mem_activeSources {contactField individualField : Option String} {source : LinkSource} :
    source ∈ Fetching.activeSources config plan object contactField individualField ↔
      source.path ∈ config.linkPaths object ∧
        pathField contactField individualField source.path = some source.field ∧
          fixture.knows object source.field = true := by
  rw [sourcesOf_eq planned, mem_sourcesOf]

theorem plan_id? {row : Row} {id : String} (identified : row.Identified id) :
    (project plan.queryFields row).id? = some id :=
  project_id? identified ((mem_plan planned).mpr (.inl rfl))

end Planned

end Dossier.Fixture
