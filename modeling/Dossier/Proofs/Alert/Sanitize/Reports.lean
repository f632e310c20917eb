import Dossier.Alert.Sanitize
import Dossier.Proofs.Alert.Sanitize.Rule
import Dossier.Proofs.Location

/-!
What is said of a component which is cleaned.

A component is told about where nothing is left of it.  What is told is told of the value at its
place: of one of its parts, of one of its items, or of a member which it does not have.
-/

namespace Dossier

namespace Cleaned

variable {α β : Type}

theorem bind_defects (cleaned : Cleaned α) (next : α → Cleaned β) :
    (cleaned >>= next).defects =
      cleaned.defects ++ (cleaned.value.map fun value => (next value).defects).getD [] := by
  change (cleaned.andThen next).defects = _
  cases found : cleaned.value <;> simp [andThen, found]

theorem bind_eq_some {cleaned : Cleaned α} {next : α → Cleaned β} {result : β} :
    (cleaned >>= next).value = some result ↔
      ∃ value, cleaned.value = some value ∧ (next value).value = some result := by
  rw [bind_value, Option.bind_eq_bind, Option.bind_eq_some_iff]

theorem needed_defects (location : Location) (flaw : Flaw) (cleaned : Cleaned α) :
    (needed location flaw cleaned).defects =
      cleaned.defects ++ if cleaned.value.isSome then [] else [⟨location, flaw⟩] := by
  unfold needed
  cases found : cleaned.value <;> simp

/-- The defects are those of the value at the place. -/
def Inside (place : Location) (json : Json) (cleaned : Cleaned α) : Prop :=
  ∀ defect ∈ cleaned.defects, ∃ steps,
    defect.location.steps = place.steps ++ steps ∧ json.Leads steps

/-- Nothing of the value is dropped in silence. -/
structure Accounted (place : Location) (json : Json) (cleaned : Cleaned α) : Prop where
  told : cleaned.value = none → cleaned.defects ≠ []
  inside : Inside place json cleaned

variable {place : Location} {json : Json}

namespace Inside

theorem sound (value : α) : Inside place json (sound value) := by
  intro defect member
  contradiction

theorem drop (flaw : Flaw) : Inside place json (drop place flaw : Cleaned α) := by
  intro defect member
  rw [List.mem_singleton.mp member]
  exact ⟨[], (List.append_nil _).symm, .here json⟩

theorem bind {cleaned : Cleaned α} {next : α → Cleaned β} (first : Inside place json cleaned)
    (rest : ∀ value, cleaned.value = some value → Inside place json (next value)) :
    Inside place json (cleaned >>= next) := by
  intro defect member
  rw [bind_defects, List.mem_append] at member
  rcases member with early | late
  · exact first defect early
  · cases found : cleaned.value with
    | none => simp [found] at late
    | some value => exact rest value found defect (by simpa [found] using late)

theorem map {cleaned : Cleaned α} (inside : Inside place json cleaned) (f : α → β) :
    Inside place json (f <$> cleaned) :=
  inside.bind fun _ _ => sound _

theorem nonEmpty {cleaned : Cleaned (List α)} (inside : Inside place json cleaned) :
    Inside place json cleaned.nonEmpty :=
  inside

theorem collect {items : List (Cleaned α)} (inside : ∀ item ∈ items, Inside place json item) :
    Inside place json (collect items) := by
  intro defect member
  obtain ⟨item, listed, member⟩ := List.mem_flatMap.mp member
  exact inside item listed defect member

/-- What is told of a member is told of the object. -/
theorem member {members : List (String × Json)} {name : String} {value : Json}
    {cleaned : Cleaned α} (found : members.lookup name = some value)
    (inside : Inside (place.property name) value cleaned) : Inside place (.object members) cleaned := by
  intro defect member
  obtain ⟨steps, located, leads⟩ := inside defect member
  refine ⟨.property name :: steps, ?_, .member found leads⟩
  rw [located, Location.property, List.append_assoc]
  rfl

theorem item {items : List Json} {index : Nat} {value : Json} {cleaned : Cleaned α}
    (found : items[index]? = some value) (inside : Inside (place.item index) value cleaned) :
    Inside place (.array items) cleaned := by
  intro defect member
  obtain ⟨steps, located, leads⟩ := inside defect member
  refine ⟨.item index :: steps, ?_, .item found leads⟩
  rw [located, Location.item, List.append_assoc]
  rfl

end Inside

namespace Accounted

theorem sound (value : α) : Accounted place json (sound value) :=
  ⟨fun gone => absurd gone (Option.some_ne_none value), .sound value⟩

theorem drop (flaw : Flaw) : Accounted place json (drop place flaw : Cleaned α) :=
  ⟨fun _ => List.cons_ne_nil _ _, .drop flaw⟩

/-- A defect of a member, whether the object has it or not. -/
theorem dropProperty {members : List (String × Json)} (property : String) (flaw : Flaw) :
    Accounted place (.object members) (Cleaned.drop (place.property property) flaw : Cleaned α) := by
  refine ⟨fun _ => List.cons_ne_nil _ _, fun defect member => ?_⟩
  rw [List.mem_singleton.mp member]
  exact ⟨[.property property], rfl, .property members property⟩

theorem ofOption {members : List (String × Json)} (value : Option α) (property : String)
    (flaw : Flaw) :
    Accounted place (.object members) (Cleaned.ofOption value (place.property property) flaw) := by
  cases value with
  | none => exact dropProperty property flaw
  | some value => exact sound value

theorem bind {cleaned : Cleaned α} {next : α → Cleaned β} (first : Accounted place json cleaned)
    (rest : ∀ value, cleaned.value = some value → Accounted place json (next value)) :
    Accounted place json (cleaned >>= next) := by
  refine ⟨fun gone => ?_, first.inside.bind fun value found => (rest value found).inside⟩
  rw [bind_value, Option.bind_eq_bind] at gone
  rw [bind_defects]
  cases found : cleaned.value with
  | none => exact List.append_ne_nil_of_left_ne_nil (first.told found) _
  | some value =>
      rw [found] at gone
      exact List.append_ne_nil_of_right_ne_nil _ ((rest value found).told gone)

/-- Where a component is needed its absence is told of, whatever was told of its parts. -/
theorem needed {cleaned : Cleaned α} (inside : Inside place json cleaned) (flaw : Flaw) :
    Accounted place json (Cleaned.needed place flaw cleaned) := by
  constructor
  · intro gone
    rw [needed_value] at gone
    rw [needed_defects, gone]
    exact List.append_ne_nil_of_right_ne_nil _ (List.cons_ne_nil _ _)
  · intro defect member
    rw [needed_defects, List.mem_append] at member
    rcases member with early | late
    · exact inside defect early
    · split at late
      · contradiction
      · exact (@Inside.drop α place json flaw) defect late

theorem collectSome {items : List (Cleaned α)} (inside : ∀ item ∈ items, Inside place json item)
    (kind : String) : Accounted place json (collectSome place kind items) :=
  needed (Inside.collect inside).nonEmpty _

end Accounted

end Cleaned

namespace Sanitize

open Cleaned (Inside Accounted)

variable {α β : Type}

theorem mem_each {place : Location} {clean : Location → α → Cleaned β} {items : List α}
    {cleaned : Cleaned β} : cleaned ∈ each place clean items ↔
      ∃ index item, items[index]? = some item ∧ cleaned = clean (place.item index) item := by
  rw [each, List.mem_mapIdx]
  constructor
  · rintro ⟨index, bound, rfl⟩
    exact ⟨index, items[index], List.getElem?_eq_getElem bound, rfl⟩
  · rintro ⟨index, item, found, rfl⟩
    obtain ⟨bound, rfl⟩ := List.getElem?_eq_some_iff.mp found
    exact ⟨index, bound, rfl⟩

/-- The items of a member which is a list are told of where they are. -/
theorem each_inside {place : Location} {members : Members} {property : String}
    {clean : Location → Json → Cleaned β}
    (accounted : ∀ item ∈ items (members.lookup property), ∀ place,
      Accounted place item (clean place item)) :
    ∀ cleaned ∈ each (place.property property) clean (items (members.lookup property)),
      Inside place (.object members) cleaned := by
  intro cleaned listed
  obtain ⟨index, item, found, rfl⟩ := mem_each.mp listed
  have own := accounted item (List.mem_of_getElem? found) ((place.property property).item index)
  cases given : members.lookup property with
  | none => simp [given, items] at found
  | some value =>
      cases value with
      | array listed =>
          rw [given] at found
          exact .member given (.item found own.inside)
      | scalar _ | object _ => simp [given, items] at found

/-- The induction on what is read as a node: on its children, and on its criteria. -/
theorem node_induct {motive : Json → Prop}
    (other : ∀ json, (∀ members, json ≠ .object members) → motive json)
    (object : ∀ members : Members, (∀ child ∈ items (members.lookup "children"), motive child) →
      (∀ root, members.lookup "criteria" = some root → motive root) → motive (.object members))
    (json : Json) : motive json := by
  -- Children are items of a member, so that the induction goes two levels down for them.
  suffices motive json ∧ ∀ item ∈ items (some json), motive item from this.1
  induction json using Json.induct with
  | scalar value => exact ⟨other _ (by simp), by simp [items]⟩
  | array listed ih => exact ⟨other _ (by simp), fun item member => (ih item member).1⟩
  | object members ih =>
      refine ⟨object members (fun child listed => ?_) fun root found => ?_, by simp [items]⟩
      · cases given : members.lookup "children" with
        | none => simp [given, items] at listed
        | some value => exact (ih _ (Table.mem_of_lookup given)).2 child (given ▸ listed)
      · exact (ih _ (Table.mem_of_lookup found)).1

section Parts

variable (place : Location) (members : Members)

theorem name_accounted (property what : String) :
    Accounted place (.object members) (name place property what members) :=
  .ofOption _ _ _

theorem operator_accounted : Accounted place (.object members) (operator place members) := by
  unfold operator
  split
  · exact .ofOption _ _ _
  · exact .dropProperty _ _
  · exact .dropProperty _ _

theorem value_accounted (operator : Operator) :
    Accounted place (.object members) (value place operator members) := by
  unfold value
  split
  · split
    · split
      · exact .dropProperty _ _
      · exact .sound _
    · exact .dropProperty _ _
  · exact .sound _

theorem filter_accounted : Accounted place (.object members) (filter place members) :=
  (name_accounted place members _ _).bind fun _ _ => (operator_accounted place members).bind
    fun operator _ => (value_accounted place members operator).bind fun _ _ => .sound _

theorem keyword_accounted (property what : String) (default : α) (read : String → Option α) :
    Accounted place (.object members) (keyword place property what default read members) := by
  unfold keyword
  dsimp only
  split
  · exact .sound _
  · exact .sound _
  · split
    · exact .sound _
    · exact .ofOption _ _ _
  · exact .dropProperty _ _

theorem kind_accounted : Accounted place (.object members) (kind place members) := by
  unfold kind
  split
  · exact .ofOption _ _ _
  · exact .sound _

end Parts

section Objects

/-- What is not an object is told of itself, and what is one is looked at further. -/
theorem object_bind_accounted {place : Location} {json : Json} {next : Members → Cleaned β}
    (rest : ∀ members, json = .object members → Accounted place json (next members)) :
    Accounted place json (object place json >>= next) := by
  cases json with
  | object members =>
      rw [object, Cleaned.sound_bind]
      exact rest members rfl
  | scalar _ | array _ => exact Accounted.bind (.drop _) fun _ found => by contradiction

variable (json : Json) (place : Location)

theorem ownItem_accounted : Accounted place json (object place json >>= filter place) :=
  object_bind_accounted fun members same => same ▸ filter_accounted place members

theorem filterGroup_accounted : Accounted place json (filterGroup place json) := by
  refine object_bind_accounted fun members same => ?_
  subst same
  refine (name_accounted place members _ _).bind fun _ _ => Accounted.bind ?_ fun _ _ => .sound _
  exact .collectSome (each_inside fun item _ place => ownItem_accounted item place) _

theorem ownFilter_accounted : Accounted place json (ownFilter place json) := by
  refine object_bind_accounted fun members same => ?_
  subst same
  exact (name_accounted place members _ _).bind fun _ _ =>
    (filter_accounted place members).bind fun _ _ => .sound _

end Objects

/-- A child of a scope, which may not be a scope or an aggregate itself. -/
def childOfScope (place : Location) (json : Json) : Cleaned RuleNode :=
  scopeChild place (node place json)

section Nodes

theorem node_other {json : Json} (other : ∀ members, json ≠ .object members) (place : Location) :
    node place json = noNode place := by
  cases json with
  | scalar _ | array _ => rfl
  | object members => exact absurd rfl (other members)

variable (place : Location) (members : Members)

/-- The children of an object are what its list of that name holds. -/
theorem children_walked :
    children place (walked members) =
      (items (members.lookup "children")).mapIdx fun index json =>
        ((place.property "children").item index,
          node ((place.property "children").item index) json) := by
  rw [children, walked_lookup]
  cases members.lookup "children" with
  | none => rfl
  | some value =>
      cases value with
      | scalar _ | object _ => rfl
      | array listed =>
          simp only [Option.map_some, Option.getD_some, walk_array, items]
          exact List.ext_getElem (by simp) (by simp)

theorem map_children_walked :
    (children place (walked members)).map (·.2) =
      each (place.property "children") node (items (members.lookup "children")) := by
  rw [children_walked]
  exact List.ext_getElem (by simp [each]) (by simp [each])

theorem map_scoped_walked :
    ((children place (walked members)).map fun (place, child) => scopeChild place child) =
      each (place.property "children") childOfScope (items (members.lookup "children")) := by
  rw [children_walked]
  exact List.ext_getElem (by simp [each]) (by simp [each, childOfScope])

theorem criteria_walked :
    criteria place (walked members) =
      match members.lookup "criteria" with
      | none => .sound none
      | some .null => .sound none
      | some json =>
          node (place.property "criteria") json >>= fun root => .sound (some root) := by
  rw [criteria, walked_lookup]
  cases members.lookup "criteria" with
  | none => rfl
  | some value =>
      cases value with
      | array _ | object _ => rfl
      | scalar value => cases value <;> rfl

theorem scopeChild_accounted {place : Location} {json : Json} {child : Cleaned RuleNode}
    (accounted : Accounted place json child) : Accounted place json (scopeChild place child) := by
  refine accounted.bind fun root _ => ?_
  cases root with
  | condition _ | group _ _ => exact .sound _
  | scope _ _ _ | aggregate _ _ => exact .drop _

/-- Criteria are told of within the object which they are a member of. -/
theorem criteria_accounted
    (root : ∀ json, members.lookup "criteria" = some json →
      ∀ place, Accounted place json (node place json)) :
    Accounted place (.object members) (criteria place (walked members)) := by
  rw [criteria_walked]
  split
  · exact .sound _
  · exact .sound _
  · rename_i json _ found
    obtain ⟨told, inside⟩ := root json found (place.property "criteria")
    exact Accounted.bind ⟨told, .member found inside⟩ fun _ _ => .sound _

theorem node_accounted (json : Json) : ∀ place, Accounted place json (node place json) := by
  induction json using node_induct with
  | other json other =>
      intro place
      rw [node_other other]
      exact .drop _
  | object members ihChildren ihCriteria =>
      intro place
      rw [node_object]
      simp only [nodeOfMembers, walked_values]
      refine (kind_accounted place members).bind fun kind _ => ?_
      cases kind with
      | condition =>
          exact (name_accounted place members _ _).bind fun _ _ =>
            (filter_accounted place members).bind fun _ _ => .sound _
      | group =>
          refine (keyword_accounted place members _ _ _ _).bind fun _ _ =>
            Accounted.bind ?_ fun _ _ => .sound _
          rw [map_children_walked]
          exact .collectSome (each_inside ihChildren) _
      | scope =>
          refine (name_accounted place members _ _).bind fun _ _ =>
            (keyword_accounted place members _ _ _ _).bind fun _ _ =>
              Accounted.bind ?_ fun _ _ => .sound _
          rw [map_scoped_walked]
          refine .collectSome (each_inside fun child listed place => ?_) _
          exact scopeChild_accounted (ihChildren child listed place)
      | aggregate =>
          exact (keyword_accounted place members _ _ _ _).bind fun _ _ =>
            (name_accounted place members _ _).bind fun _ _ =>
              (name_accounted place members _ _).bind fun _ _ =>
                (criteria_accounted place members ihCriteria).bind fun _ _ => .sound _

theorem childOfScope_accounted (json : Json) (place : Location) :
    Accounted place json (childOfScope place json) :=
  scopeChild_accounted (node_accounted json place)

end Nodes

section Alerts

variable (place : Location) (members : Members)

theorem groups_inside {property : String} {values : List Json}
    {clean : Location → Json → Cleaned FilterGroup}
    (given : members.lookup property = some (.array values))
    (accounted : ∀ item place, Accounted place item (clean place item)) :
    Inside place (.object members)
      (Cleaned.collect (each (place.property property) clean values)) := by
  refine .member given (.collect fun cleaned member => ?_)
  obtain ⟨index, item, found, rfl⟩ := mem_each.mp member
  exact .item found (accounted item _).inside

theorem writtenRule_inside : Inside place (.object members) (writtenRule place members) := by
  have own : ∀ {values : List Json}, members.lookup "filters" = some (.array values) →
      Inside place (.object members)
        (AlertRule.simple <$> (ownFilters (place.property "filters") values).nonEmpty) := by
    intro values given
    have listed := groups_inside place members given ownFilter_accounted
    exact (Inside.nonEmpty (listed.bind fun _ _ => .sound _)).map _
  unfold writtenRule
  split
  · rename_i given
    exact (groups_inside place members given filterGroup_accounted).nonEmpty.map _
  · rename_i given
    exact (Inside.member given (node_accounted _ _).inside).map _
  · rename_i given
    exact own given
  · rename_i given
    exact own given
  · intro defect member
    contradiction

theorem draft_accounted (json : Json) (place : Location) : Accounted place json (draft place json) := by
  refine object_bind_accounted fun members same => ?_
  subst same
  exact (Accounted.ofOption _ _ _).bind fun _ _ =>
    (Accounted.needed (writtenRule_inside place members) _).bind fun _ _ => .sound _

end Alerts

end Sanitize

end Dossier
