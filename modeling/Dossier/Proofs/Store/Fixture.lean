import Dossier.Proofs.Fetch.Chunks
import Dossier.Proofs.Fetch.Yield
import Dossier.Proofs.Table
import Dossier.Store.Fixture

/-!
What a fixture answers.

A fixture is a steady store.  A query which it answers selects rows by their texts under one field,
and shows each row as far as fields of it are asked for.
-/

namespace Dossier.Fixture

/-- The members of a row, in the order in which they were written. -/
abbrev Row := List (String × Json)

/-- The text of a field of a row. -/
def Row.text? (row : Row) (field : String) : Option String :=
  row.lookup field >>= Json.stringify?

/-- What is shown of a field which is asked for: null where it is absent, and nothing where it is no
scalar. -/
def Row.shown? (row : Row) (field : String) : Option Scalar :=
  match row.lookup field with
  | none => some .null
  | some (.scalar value) => some value
  | some _ => none

variable (fixture : Fixture)

def rowsOf (object : String) : List Row :=
  ((fixture.rows.lookup object).getD []).filterMap members?

/-- Does the store know the field? -/
def knows (object field : String) : Bool :=
  match fixture.fieldsOf object with
  | .ok fields => fields.contains field
  | .error _ => false

def answers : Answers where
  describe := fixture.fieldsOf
  query := fixture.select

theorem gives : fixture.store.Gives fixture.answers :=
  ⟨fun _ _ => rfl, fun _ _ => rfl⟩

variable {fixture}

theorem selects_eq (idField : String) (ids : List String) (row : Row) :
    selects idField ids row = (row.text? idField).any ids.contains := by
  unfold selects Row.text?
  cases row.lookup idField >>= Json.stringify? <;> rfl

theorem project_get? (fields : List String) (row : Row) (field : String) :
    (project fields row).get? field = if field ∈ fields then row.shown? field else none := by
  have shown : project fields row =
      Record.ofFields (fields.filterMap fun field => (row.shown? field).map (field, ·)) := by
    refine congrArg Record.ofFields (List.filterMap_congr fun field _ => ?_)
    unfold Row.shown?
    cases row.lookup field with
    | none => rfl
    | some json => cases json <;> rfl
  rw [shown]
  exact Table.lookup_sort fields row.shown? field

/-- Do the values of a field allow it to be followed? -/
def Row.Scalar (row : Row) (field : String) : Prop :=
  ∀ json, row.lookup field = some json → ∃ value, json = .scalar value

theorem Row.scalar_iff {row : Row} {field : String} :
    row.Scalar field ↔ (row.shown? field).isSome = true := by
  unfold Row.Scalar Row.shown?
  cases row.lookup field with
  | none => simp
  | some json => cases json <;> simp

instance (row : Row) (field : String) : Decidable (row.Scalar field) :=
  decidable_of_iff _ Row.scalar_iff.symm

theorem project_text? {fields : List String} {row : Row} {field : String} (scalar : row.Scalar field) :
    (project fields row).text? field = if field ∈ fields then row.text? field else none := by
  rw [Record.text?, project_get?]
  split
  · unfold Row.shown? Row.text?
    cases found : row.lookup field with
    | none => rfl
    | some json =>
        obtain ⟨value, rfl⟩ := scalar json found
        rfl
  · rfl

theorem project_reference? {fields : List String} {row : Row} {field : String}
    (scalar : row.Scalar field) :
    (project fields row).reference? field =
      if field ∈ fields then (row.text? field).filter (· != "") else none := by
  rw [Record.reference?, project_text? scalar]
  split <;> rfl

/-- A row is identified by a text which is not empty. -/
structure Row.Identified (row : Row) (id : String) : Prop where
  found : row.lookup Record.idField = some (.text id)
  filled : id ≠ ""

theorem Row.Identified.text? {row : Row} {id : String} (identified : row.Identified id) :
    row.text? Record.idField = some id := by
  rw [Row.text?, identified.found]
  rfl

theorem project_id? {fields : List String} {row : Row} {id : String}
    (identified : row.Identified id) (asked : Record.idField ∈ fields) :
    (project fields row).id? = some id := by
  have shown : row.shown? Record.idField = some (.text id) := by
    rw [Row.shown?, identified.found]
  rw [Record.id?, project_get?, if_pos asked, shown]
  simp [identified.filled]

theorem Row.identified_iff {row : Row} :
    (∃ id, row.Identified id) ↔ (project [Record.idField] row).id?.isSome = true := by
  constructor
  · rintro ⟨id, identified⟩
    rw [project_id? identified (List.mem_singleton_self _)]
    rfl
  · intro identified
    obtain ⟨id, given⟩ := Option.isSome_iff_exists.mp identified
    rw [Record.id?, project_get?, if_pos (List.mem_singleton_self _), Row.shown?] at given
    split at given
    · rename_i text shown
      split at given
      · contradiction
      · rename_i filled
        split at shown
        · cases shown
        · rename_i value found
          cases shown
          exact ⟨text, found, by simpa using filled⟩
        · contradiction
    · contradiction

instance (row : Row) : Decidable (∃ id, row.Identified id) :=
  decidable_of_iff _ Row.identified_iff.symm

/-- A query which is answered names fields of its type only, and selects its rows in their order. -/
theorem select_ok {query : Query} {records : List Record}
    (answered : fixture.select query = .ok records) :
    (∀ field ∈ query.fields ++ [query.idField], fixture.knows query.object field = true) ∧
      records = ((fixture.rowsOf query.object).filter fun row =>
        (row.text? query.idField).any query.ids.contains).map (project query.fields) := by
  unfold select at answered
  split at answered
  · contradiction
  · rename_i available described
    split at answered
    · contradiction
    · rename_i known
      cases answered
      refine ⟨fun field member => ?_, ?_⟩
      · have found := List.find?_eq_none.mp known field member
        simpa [knows, described] using found
      · congr 1
        exact List.filter_congr fun row _ => selects_eq ..

theorem selectChunks_ok {object idField : String} {fields : List String}
    {chunks : List (List String)} {records : List Record}
    (answered : fixture.answers.selectChunks object fields idField chunks = .ok records) :
    (chunks ≠ [] → ∀ field ∈ fields ++ [idField], fixture.knows object field = true) ∧
      records = (Fetching.chunked (Row.text? · idField) (fixture.rowsOf object) chunks).map
        (project fields) := by
  induction chunks generalizing records with
  | nil =>
      cases answered
      exact ⟨by simp, rfl⟩
  | cons chunk rest ih =>
      rw [Answers.selectChunks] at answered
      split at answered
      · contradiction
      · rename_i more first
        obtain ⟨known, selected⟩ := select_ok first
        cases later : fixture.answers.selectChunks object fields idField rest with
        | error error => simp [later, Except.map] at answered
        | ok others =>
            rw [later] at answered
            cases answered
            refine ⟨fun _ => known, ?_⟩
            rw [selected, (ih later).2]
            exact List.map_append.symm

theorem select_rows {object idField : String} {fields ids : List String} {records : List Record}
    (answered : fixture.answers.select object fields idField ids = .ok records) :
    (ids ≠ [] → ∀ field ∈ fields ++ [idField], fixture.knows object field = true) ∧
      records = (Fetching.chunked (Row.text? · idField) (fixture.rowsOf object)
        (Fetching.chunksOf chunkSize ids)).map (project fields) := by
  obtain ⟨known, selected⟩ := selectChunks_ok answered
  refine ⟨fun filled => known ?_, selected⟩
  rw [Fetching.chunksOf_cons (by decide) filled]
  exact List.cons_ne_nil _ _

/-- Two accounts with one contact each.  One contact refers to an individual, the reference of the
other one is empty. -/
def households (described : List (String × List String)) : Fixture where
  org := "fixture"
  described
  rows := [
    (EntityType.account, [
      .object [("Id", .text "001"), ("Name", .text "Doe")],
      .object [("Id", .text "002"), ("Name", .text "Roe")]]),
    (EntityType.contact, [
      .object [("Id", .text "003"), ("AccountId", .text "001"), ("IndividualId", .text "0PK")],
      .object [("Id", .text "004"), ("AccountId", .text "002"), ("IndividualId", .text "")]]),
    (EntityType.individual, [.object [("Id", .text "0PK"), ("FirstName", .text "Jane")]]),
    ("ContactPointEmail", [
      .object [("Id", .text "9V1"), ("Contact__c", .text "003"), ("ParentId", .text "0PK")],
      .object [("Id", .text "9V2"), ("Contact__c", .null), ("ParentId", .text "0PK")],
      .object [("Id", .text "9V3"), ("Contact__c", .text ""), ("ParentId", .text "")]])]

theorem succeeds {ε α : Type} {outcome : Except ε α} {check : α → Bool}
    (passed : outcome.toOption.any check = true) :
    ∃ value, outcome = .ok value ∧ check value = true := by
  cases outcome with
  | error error => contradiction
  | ok value => exact ⟨value, rfl, passed⟩

end Dossier.Fixture
