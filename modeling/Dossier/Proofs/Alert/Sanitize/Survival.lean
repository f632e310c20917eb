import Dossier.Proofs.Alert.Sanitize.Reports
import Dossier.Proofs.Alert.Sanitize.Supply

/-!
What survives cleaning.

The result of cleaning is followed beside the document, list by list and as deep as lists are nested.
What is left of a list are the counterparts of its items, in order; an item which has none is
reported, at its place or beneath it.
-/

namespace Dossier

/-- A defect is located at the place or beneath it. -/
def Reported (defects : List Defect) (place : Location) : Prop :=
  ∃ defect ∈ defects, ∃ above tokens, Pointer.tokens? place.pointer = some above ∧
    Pointer.tokens? defect.location.pointer = some tokens ∧ above <+: tokens

namespace Sanitize

variable {α β : Type} {reported : Location → Prop}

/-- The items of a list with their places, of which the first one stands at `first`. -/
def located (place : Location) (first : Nat) (items : List Json) : List (Location × Json) :=
  (items.zipIdx first).map fun (item, index) => (place.item index, item)

/-- What is left of the items of a list: every item has its counterpart among the values, which are
in the order of the items, or it is reported. -/
inductive ListKept (reported : Location → Prop) (counterpart : Location → Json → β → Prop) :
    List (Location × Json) → List β → Prop where
  | nil : ListKept reported counterpart [] []
  | left {place : Location} {item : Json} {items : List (Location × Json)} {value : β}
      {values : List β} (first : counterpart place item value)
      (others : ListKept reported counterpart items values) :
      ListKept reported counterpart ((place, item) :: items) (value :: values)
  | dropped {place : Location} {item : Json} {items : List (Location × Json)} {values : List β}
      (told : reported place) (others : ListKept reported counterpart items values) :
      ListKept reported counterpart ((place, item) :: items) values

/-- A member is a name, whatever white space is around it. -/
def Named (members : Members) (property name : String) : Prop :=
  ∃ raw, members.lookup property = some (.text raw) ∧ Text.blank raw = false ∧ name = Text.trim raw

/-- A filter is what the members of an object say. -/
structure FilterKept (members : Members) (filter : Filter) : Prop where
  field : Named members "field" filter.field
  operator : ∃ raw, members.lookup "operator" = some (.text raw) ∧
    Operator.parse? raw = some filter.operator
  valued : filter.operator.requiresValue = true → ∃ text, filter.value = some text ∧
    members.lookup "value" = some (.text text) ∧ Text.blank text = false
  free : filter.operator.requiresValue = false → filter.value = none

/-- No text says what the object is meant to be. -/
def Untyped (members : Members) : Prop :=
  ∀ raw, members.lookup "type" ≠ some (.text raw)

/-- Nothing is said of how many records there have to be. -/
def Uncounted (members : Members) : Prop :=
  members.lookup "operation" = none ∧ members.lookup "minCount" = none

/-- What an object is meant to be: what it says, or else what its members are of use for. -/
inductive Meant (members : Members) : RuleNode.Kind → Prop where
  | declared {raw : String} {kind : RuleNode.Kind}
      (given : members.lookup "type" = some (.text raw))
      (named : Text.lower (Text.trim raw) = kind.name) : Meant members kind
  | aggregate (untyped : Untyped members) (counted : ¬Uncounted members) :
      Meant members .aggregate
  | scope {children object : Json} (untyped : Untyped members) (uncounted : Uncounted members)
      (parent : members.lookup "children" = some children)
      (owned : members.lookup "object" = some object) : Meant members .scope
  | group {children : Json} (untyped : Untyped members) (uncounted : Uncounted members)
      (parent : members.lookup "children" = some children)
      (ownerless : members.lookup "object" = none) : Meant members .group
  | condition (untyped : Untyped members) (uncounted : Uncounted members)
      (childless : members.lookup "children" = none) : Meant members .condition

/-- A node which is left of a value, and all lists in it. -/
inductive NodeKept (reported : Location → Prop) : Location → Json → RuleNode → Prop where
  | condition {place : Location} {members : Members} {condition : Condition}
      (meant : Meant members .condition) (object : Named members "object" condition.object)
      (filter : FilterKept members condition.filter) :
      NodeKept reported place (.object members) (.condition condition)
  | group {place : Location} {members : Members} {logic : Logic} {values : List Json}
      {nodes : List RuleNode} (meant : Meant members .group)
      (given : members.lookup "children" = some (.array values))
      (kept : ListKept reported (NodeKept reported)
        (located (place.property "children") 0 values) nodes) :
      NodeKept reported place (.object members) (.group logic nodes)
  | scope {place : Location} {members : Members} {object : String} {quantifier : Quantifier}
      {values : List Json} {nodes : List RuleNode} (meant : Meant members .scope)
      (named : Named members "object" object)
      (given : members.lookup "children" = some (.array values))
      (kept : ListKept reported (NodeKept reported)
        (located (place.property "children") 0 values) nodes) :
      NodeKept reported place (.object members) (.scope object quantifier nodes)
  | unconditional {place : Location} {members : Members} {duplicates : Duplicates}
      (meant : Meant members .aggregate) (object : Named members "object" duplicates.object)
      (field : Named members "field" duplicates.field)
      (ungiven : members.lookup "criteria" = none ∨ members.lookup "criteria" = some .null) :
      NodeKept reported place (.object members) (.aggregate duplicates none)
  | aggregate {place : Location} {members : Members} {duplicates : Duplicates} {json : Json}
      {root : RuleNode} (meant : Meant members .aggregate)
      (object : Named members "object" duplicates.object)
      (field : Named members "field" duplicates.field)
      (given : members.lookup "criteria" = some json)
      (inside : NodeKept reported (place.property "criteria") json root) :
      NodeKept reported place (.object members) (.aggregate duplicates (some root))

/-- A filter which is left of an item of a group. -/
def ItemKept (_ : Location) (json : Json) (filter : Filter) : Prop :=
  ∃ members, json = .object members ∧ FilterKept members filter

/-- A filter group which is left of a value, and the filters in it. -/
def GroupKept (reported : Location → Prop) (place : Location) (json : Json) (group : FilterGroup) :
    Prop :=
  ∃ members values, json = .object members ∧ Named members "object" group.object ∧
    members.lookup "filters" = some (.array values) ∧
      ListKept reported ItemKept (located (place.property "filters") 0 values) group.filters

/-- A filter which is left of a value that names its object, as a group of its own. -/
def OwnFilterKept (_ : Location) (json : Json) (group : FilterGroup) : Prop :=
  ∃ members filter, json = .object members ∧ Named members "object" group.object ∧
    group.filters = [filter] ∧ FilterKept members filter

/-- The filters of an object, in their order. -/
def filtersFor (object : String) (groups : List FilterGroup) : List Filter :=
  (groups.filter (·.object == object)).flatMap (·.filters)

/-- Groups of one filter each, put together by object: no filter is lost, and those of an object stay
in their order. -/
structure Regrouped (single groups : List FilterGroup) : Prop where
  objects : (groups.map (·.object)).Nodup
  filters : ∀ object, filtersFor object groups = filtersFor object single
  length : (groups.flatMap (·.filters)).length = single.length

/-- A rule which is left of an alert, and all lists in it. -/
inductive RuleKept (reported : Location → Prop) (place : Location) (members : Members) :
    AlertRule → Prop where
  | groups {values : List Json} {groups : List FilterGroup}
      (given : members.lookup "rule" = some (.array values))
      (kept : ListKept reported (GroupKept reported) (located (place.property "rule") 0 values)
        groups) : RuleKept reported place members (.simple groups)
  | tree {parts : Members} {root : RuleNode}
      (given : members.lookup "rule" = some (.object parts))
      (inside : NodeKept reported (place.property "rule") (.object parts) root) :
      RuleKept reported place members (.advanced root)
  | older {values : List Json} {single groups : List FilterGroup}
      (ruleless : members.lookup "rule" = none ∨ members.lookup "rule" = some .null)
      (given : members.lookup "filters" = some (.array values))
      (kept : ListKept reported OwnFilterKept (located (place.property "filters") 0 values) single)
      (regrouped : Regrouped single groups) : RuleKept reported place members (.simple groups)

/-- An alert which is left of a value, and all lists in it. -/
def AlertKept (reported : Location → Prop) (place : Location) (json : Json)
    (alert : AlertDefinition) : Prop :=
  ∃ members, json = .object members ∧ Named members "label" alert.label ∧
    RuleKept reported place members alert.rule

/-- The alerts which are left of a document, and all lists in them. -/
inductive AlertsKept (reported : Location → Prop) : Json → List AlertDefinition → Prop where
  | nothing : AlertsKept reported .null []
  | list {values : List Json} {alerts : List AlertDefinition}
      (kept : ListKept reported (AlertKept reported) (located Location.root 0 values) alerts) :
      AlertsKept reported (.array values) alerts
  | shapeless {document : Json} (given : document ≠ .null)
      (unlisted : ∀ values, document ≠ .array values) (told : reported Location.root) :
      AlertsKept reported document []

end Sanitize

namespace Cleaned

variable {α β : Type} {all : List Defect}

/-- This value is left, and the defects are among all. -/
structure Leaves (all : List Defect) (cleaned : Cleaned α) (value : α) : Prop where
  value : cleaned.value = some value
  among : cleaned.defects ⊆ all

theorem Leaves.bind {cleaned : Cleaned α} {next : α → Cleaned β} {result : β}
    (leaves : Leaves all (cleaned >>= next) result) :
    ∃ value, Leaves all cleaned value ∧ Leaves all (next value) result := by
  obtain ⟨value, found, rest⟩ := bind_eq_some.mp leaves.value
  have among := leaves.among
  rw [bind_defects, found, Option.map_some, Option.getD_some, List.append_subset] at among
  exact ⟨value, ⟨found, among.1⟩, ⟨rest, among.2⟩⟩

theorem Leaves.sound {value result : α} (leaves : Leaves all (sound value) result) :
    result = value :=
  (Option.some.inj leaves.value).symm

theorem Leaves.map {cleaned : Cleaned α} {f : α → β} {result : β}
    (leaves : Leaves all (f <$> cleaned) result) :
    ∃ value, Leaves all cleaned value ∧ result = f value := by
  obtain ⟨value, first, last⟩ := Leaves.bind leaves
  exact ⟨value, first, last.sound⟩

theorem Leaves.collect {items : List (Cleaned α)} {values : List α}
    (leaves : Leaves all (collect items) values) :
    values = items.filterMap (·.value) ∧ ∀ cleaned ∈ items, cleaned.defects ⊆ all :=
  ⟨(Option.some.inj leaves.value).symm, fun _ member _ inside =>
    leaves.among (List.mem_flatMap.mpr ⟨_, member, inside⟩)⟩

theorem Leaves.nonEmpty {cleaned : Cleaned (List α)} {values : List α}
    (leaves : Leaves all cleaned.nonEmpty values) : Leaves all cleaned values :=
  ⟨(nonEmpty_value.mp leaves.value).1, leaves.among⟩

theorem Leaves.needed {location : Location} {flaw : Flaw} {cleaned : Cleaned α} {value : α}
    (leaves : Leaves all (needed location flaw cleaned) value) : Leaves all cleaned value := by
  obtain ⟨found, among⟩ := leaves
  rw [needed_value] at found
  rw [needed_defects, List.append_subset] at among
  exact ⟨found, among.1⟩

end Cleaned

namespace Sanitize

open Cleaned (Accounted Leaves)

variable {α β : Type} {all : List Defect} {place : Location}

theorem reported_of_dropped {json : Json} {cleaned : Cleaned β}
    (accounted : Accounted place json cleaned) (among : cleaned.defects ⊆ all)
    (dropped : cleaned.value = none) : Reported all place := by
  obtain ⟨defect, member⟩ := List.exists_mem_of_ne_nil _ (accounted.told dropped)
  obtain ⟨steps, located, -⟩ := accounted.inside defect member
  refine ⟨defect, among member, _, _, place.tokens?_pointer, defect.location.tokens?_pointer, ?_⟩
  rw [located, List.map_append]
  exact List.prefix_append _ _

theorem mem_of_mem_located {first : Nat} {items : List Json} {pair : Location × Json}
    (listed : pair ∈ located place first items) : pair.2 ∈ items := by
  obtain ⟨⟨item, index⟩, member, rfl⟩ := List.mem_map.mp listed
  exact List.fst_mem_of_mem_zipIdx member

theorem each_eq_map_located (clean : Location → Json → Cleaned β) (items : List Json) :
    each place clean items =
      (located place 0 items).map fun pair => clean pair.1 pair.2 := by
  refine List.ext_getElem (by simp [each, located]) fun index _ _ => ?_
  simp [each, located]

section Lists

variable {clean : Location → Json → Cleaned β} {counterpart : Location → Json → β → Prop}
  {pairs : List (Location × Json)}

/-- Where nothing is reported nothing is dropped. -/
theorem ListKept.length_eq {values : List β}
    (kept : ListKept (fun _ => False) counterpart pairs values) : values.length = pairs.length := by
  induction kept with
  | nil => rfl
  | left _ _ ih => exact congrArg (· + 1) ih
  | dropped told => exact told.elim

theorem AlertsKept.length_eq {values : List Json} {alerts : List AlertDefinition}
    (kept : AlertsKept (fun _ => False) (.array values) alerts) : alerts.length = values.length := by
  cases kept with
  | list kept => simpa [located] using kept.length_eq
  | shapeless _ unlisted => exact absurd rfl (unlisted values)

/-- Lists are kept by whatever tells of what it drops. -/
theorem listKept_of_accounted (accounted : ∀ item place, Accounted place item (clean place item))
    (among : ∀ pair ∈ pairs, (clean pair.1 pair.2).defects ⊆ all)
    (kept : ∀ pair ∈ pairs, ∀ value, Leaves all (clean pair.1 pair.2) value →
      counterpart pair.1 pair.2 value) :
    ListKept (Reported all) counterpart pairs
      (pairs.filterMap fun pair => (clean pair.1 pair.2).value) := by
  induction pairs with
  | nil => exact .nil
  | cons pair rest ih =>
      obtain ⟨inside, othersInside⟩ := List.forall_mem_cons.mp among
      obtain ⟨first, others⟩ := List.forall_mem_cons.mp kept
      rw [List.filterMap_cons]
      cases left : (clean pair.1 pair.2).value with
      | none => exact .dropped (reported_of_dropped (accounted _ _) inside left) (ih othersInside others)
      | some value => exact .left (first value ⟨left, inside⟩) (ih othersInside others)

theorem listKept {items : List Json} {values : List β}
    (accounted : ∀ item place, Accounted place item (clean place item))
    (leaves : Leaves all (Cleaned.collect (each place clean items)) values)
    (kept : ∀ item ∈ items, ∀ place value, Leaves all (clean place item) value →
      counterpart place item value) :
    ListKept (Reported all) counterpart (located place 0 items) values := by
  rw [each_eq_map_located] at leaves
  obtain ⟨left, among⟩ := leaves.collect
  rw [left, List.filterMap_map]
  refine listKept_of_accounted accounted (fun pair listed => ?_) fun pair listed value left => ?_
  · exact among _ (List.mem_map.mpr ⟨pair, listed, rfl⟩)
  · exact kept _ (mem_of_mem_located listed) _ value left

/-- A list of which something is left is given as one. -/
theorem listKept_given {json : Option Json} {location : Location} {flaw : Flaw} {values : List β}
    (accounted : ∀ item place, Accounted place item (clean place item))
    (leaves : Leaves all (Cleaned.needed location flaw
      (Cleaned.collect (each place clean (items json))).nonEmpty) values)
    (kept : ∀ item ∈ items json, ∀ place value, Leaves all (clean place item) value →
      counterpart place item value) :
    ∃ listed, json = some (.array listed) ∧
      ListKept (Reported all) counterpart (located place 0 listed) values := by
  have filled := (Cleaned.nonEmpty_value.mp leaves.needed.value).2
  have whole := listKept accounted leaves.needed.nonEmpty kept
  cases json with
  | none => cases whole; contradiction
  | some json =>
      cases json with
      | array listed => exact ⟨listed, rfl, whole⟩
      | scalar _ | object _ => cases whole; contradiction

end Lists

section Written

variable {members : Members}

theorem named_of_nonBlank? {property text : String}
    (read : (members.lookup property >>= nonBlank?) = some text) : Named members property text := by
  obtain ⟨json, given, read⟩ := Option.bind_eq_some_iff.mp read
  unfold nonBlank? at read
  split at read
  · rename_i raw
    unfold Text.trimmed? at read
    split at read
    · contradiction
    · rename_i full
      exact ⟨raw, given, Bool.eq_false_iff.mpr full, (Option.some.inj read).symm⟩
  · contradiction

theorem named_of_name {property what text : String}
    (left : (name place property what members).value = some text) : Named members property text := by
  rw [name, Cleaned.ofOption_value] at left
  exact named_of_nonBlank? left

theorem parsed_of_operator {read : Operator}
    (left : (operator place members).value = some read) :
    ∃ raw, members.lookup "operator" = some (.text raw) ∧ Operator.parse? raw = some read := by
  unfold operator at left
  split at left
  · rename_i raw given
    rw [Cleaned.ofOption_value] at left
    exact ⟨raw, given, left⟩
  · contradiction
  · contradiction

theorem filter_kept {cleaned : Filter} (left : (filter place members).value = some cleaned) :
    FilterKept members cleaned := by
  simp only [filter, Cleaned.bind_value, Cleaned.pure_value, Option.bind_eq_bind,
    Option.bind_eq_some_iff, Option.some.injEq] at left
  obtain ⟨field, named, operator, parsed, given, valued, rfl⟩ := left
  unfold value at valued
  refine ⟨named_of_name named, parsed_of_operator parsed, fun required => ?_, fun free => ?_⟩
  · rw [if_pos required] at valued
    split at valued
    · rename_i text found
      split at valued
      · contradiction
      · rename_i full
        exact ⟨text, (Option.some.inj valued).symm, found, Bool.eq_false_iff.mpr full⟩
    · contradiction
  · rw [if_neg (Bool.eq_false_iff.mp free)] at valued
    exact (Option.some.inj valued).symm

theorem not_uncounted : ¬Uncounted members ↔
    ((members.lookup "operation").isSome || (members.lookup "minCount").isSome) = true := by
  rw [Uncounted, not_and_or, Bool.or_eq_true, Option.isSome_iff_ne_none, Option.isSome_iff_ne_none]

theorem inferKind_meant (untyped : Untyped members) : Meant members (inferKind members) := by
  unfold inferKind
  dsimp only
  split
  · rename_i counted
    exact .aggregate untyped (not_uncounted.mpr counted)
  rename_i counted
  have uncounted : Uncounted members := not_not.mp (mt not_uncounted.mp counted)
  split
  · rename_i both
    obtain ⟨parent, owned⟩ := Bool.and_eq_true_iff.mp both
    obtain ⟨children, parent⟩ := Option.isSome_iff_exists.mp parent
    obtain ⟨object, owned⟩ := Option.isSome_iff_exists.mp owned
    exact .scope untyped uncounted parent owned
  rename_i notBoth
  split
  · rename_i parent
    rw [parent, Bool.true_and] at notBoth
    obtain ⟨children, parent⟩ := Option.isSome_iff_exists.mp parent
    exact .group untyped uncounted parent (Option.not_isSome_iff_eq_none.mp notBoth)
  · rename_i childless
    exact .condition untyped uncounted (Option.not_isSome_iff_eq_none.mp childless)

theorem kind_meant {meant : RuleNode.Kind} (left : (kind place members).value = some meant) :
    Meant members meant := by
  unfold kind at left
  split at left
  · rename_i raw given
    rw [Cleaned.ofOption_value] at left
    have named := List.find?_some left
    exact .declared given (eq_of_beq named).symm
  · rename_i untyped
    cases left
    exact inferKind_meant fun raw given => untyped raw given

end Written

theorem object_eq_some {json : Json} {members : Members} :
    (object place json).value = some members ↔ json = .object members := by
  cases json with
  | object members => simp [object]
  | scalar _ | array _ => simp [object, Cleaned.drop]

/-- Whatever is left of a node, its lists are kept, at every depth. -/
theorem node_kept (json : Json) : ∀ place root, Leaves all (node place json) root →
    NodeKept (Reported all) place json root := by
  induction json using node_induct with
  | other json other =>
      intro place root leaves
      rw [node_other other] at leaves
      exact absurd leaves.value (by simp [noNode, Cleaned.drop])
  | object members ihChildren ihCriteria =>
      intro place root leaves
      rw [node_object] at leaves
      simp only [nodeOfMembers, walked_values] at leaves
      obtain ⟨kind, decided, leaves⟩ := leaves.bind
      have meant := kind_meant decided.value
      cases kind with
      | condition =>
          obtain ⟨type, named, leaves⟩ := Leaves.bind leaves
          obtain ⟨filter, filtered, leaves⟩ := Leaves.bind leaves
          rw [Leaves.sound leaves]
          exact .condition meant (named_of_name named.value) (filter_kept filtered.value)
      | group =>
          obtain ⟨logic, -, leaves⟩ := Leaves.bind leaves
          obtain ⟨nodes, collected, leaves⟩ := Leaves.bind leaves
          rw [map_children_walked] at collected
          obtain ⟨values, given, kept⟩ := listKept_given node_accounted collected ihChildren
          rw [Leaves.sound leaves]
          exact .group meant given kept
      | scope =>
          obtain ⟨type, named, leaves⟩ := Leaves.bind leaves
          obtain ⟨quantifier, -, leaves⟩ := Leaves.bind leaves
          obtain ⟨nodes, collected, leaves⟩ := Leaves.bind leaves
          rw [map_scoped_walked] at collected
          have inside : ∀ child ∈ items (members.lookup "children"), ∀ place node,
              Leaves all (childOfScope place child) node →
                NodeKept (Reported all) place child node := by
            intro child listed place node left
            obtain ⟨inner, whole, -⟩ := Leaves.bind left
            have same : inner = node :=
              Option.some.inj (whole.value.symm.trans (scopeChild_fits left.value).1)
            exact same ▸ ihChildren child listed place inner whole
          obtain ⟨values, given, kept⟩ := listKept_given childOfScope_accounted collected inside
          rw [Leaves.sound leaves]
          exact .scope meant (named_of_name named.value) given kept
      | aggregate =>
          obtain ⟨_, -, leaves⟩ := Leaves.bind leaves
          obtain ⟨type, typed, leaves⟩ := Leaves.bind leaves
          obtain ⟨field, named, leaves⟩ := Leaves.bind leaves
          obtain ⟨criteria, given, leaves⟩ := Leaves.bind leaves
          rw [Leaves.sound leaves]
          have typed := named_of_name typed.value
          have named := named_of_name named.value
          rw [criteria_walked] at given
          split at given
          · rename_i missing
            rw [given.sound]
            exact .unconditional meant typed named (.inl missing)
          · rename_i null
            rw [given.sound]
            exact .unconditional meant typed named (.inr null)
          · rename_i json _ found
            obtain ⟨root, inner, rest⟩ := given.bind
            rw [rest.sound]
            exact .aggregate meant typed named found (ihCriteria json found _ root inner)

theorem filterGroup_kept {json : Json} {group : FilterGroup}
    (leaves : Leaves all (filterGroup place json) group) :
    GroupKept (Reported all) place json group := by
  obtain ⟨members, shape, leaves⟩ := Leaves.bind leaves
  obtain ⟨type, named, leaves⟩ := Leaves.bind leaves
  obtain ⟨filters, collected, leaves⟩ := Leaves.bind leaves
  have inside : ∀ item ∈ items (members.lookup "filters"), ∀ place cleaned,
      Leaves all (object place item >>= filter place) cleaned → ItemKept place item cleaned := by
    intro item _ place cleaned left
    obtain ⟨members, shape, left⟩ := Leaves.bind left
    exact ⟨members, object_eq_some.mp shape.value, filter_kept left.value⟩
  obtain ⟨values, given, kept⟩ := listKept_given ownItem_accounted collected inside
  rw [Leaves.sound leaves]
  exact ⟨members, values, object_eq_some.mp shape.value, named_of_name named.value, given, kept⟩

theorem ownFilter_kept {json : Json} {group : FilterGroup}
    (left : (ownFilter place json).value = some group) : OwnFilterKept place json group := by
  simp only [ownFilter, Cleaned.bind_value, Cleaned.pure_value, Option.bind_eq_bind,
    Option.bind_eq_some_iff, Option.some.injEq] at left
  obtain ⟨members, shape, type, named, filter, left, rfl⟩ := left
  exact ⟨members, filter, object_eq_some.mp shape, named_of_name named, rfl, filter_kept left⟩

section Regrouping

variable {groups : List FilterGroup}

theorem joinGroup_objects (groups : List FilterGroup) (group : FilterGroup) :
    (joinGroup groups group).map (·.object) =
      if group.object ∈ groups.map (·.object) then groups.map (·.object)
      else groups.map (·.object) ++ [group.object] := by
  induction groups with
  | nil => rfl
  | cons first rest ih =>
      rw [joinGroup]
      by_cases same : first.object = group.object
      · simp [same]
      · have apart : group.object ≠ first.object := Ne.symm same
        simp only [beq_iff_eq, same, if_false, List.map_cons, ih, List.mem_cons, apart, false_or]
        split <;> rfl

theorem joinGroup_unique (unique : (groups.map (·.object)).Nodup) (group : FilterGroup) :
    ((joinGroup groups group).map (·.object)).Nodup := by
  rw [joinGroup_objects]
  split
  · exact unique
  · rename_i new
    rw [← List.concat_eq_append]
    exact List.Nodup.concat new unique

theorem filtersFor_joinGroup (unique : (groups.map (·.object)).Nodup) (group : FilterGroup)
    (object : String) :
    filtersFor object (joinGroup groups group) =
      filtersFor object groups ++ filtersFor object [group] := by
  induction groups with
  | nil => rfl
  | cons first rest ih =>
      obtain ⟨new, others⟩ := List.nodup_cons.mp unique
      rw [joinGroup]
      by_cases same : first.object = group.object
      · -- No later group is of this object, so that what is appended to the first comes last.
        have none : rest.filter (·.object == group.object) = [] := by
          refine List.filter_eq_nil_iff.mpr fun other member named => new ?_
          exact List.mem_map.mpr ⟨other, member, (eq_of_beq named).trans same.symm⟩
        by_cases wanted : group.object = object
        · subst wanted
          simp [filtersFor, same, none]
        · simp [filtersFor, same, wanted]
      · have apart : (first.object == group.object) = false := beq_false_of_ne same
        have rejoined := ih others
        simp only [filtersFor] at rejoined ⊢
        rw [apart]
        by_cases wanted : first.object = object
        · simp [wanted, rejoined]
        · simp [wanted, rejoined]

theorem length_joinGroup (groups : List FilterGroup) (group : FilterGroup) :
    ((joinGroup groups group).flatMap (·.filters)).length =
      (groups.flatMap (·.filters)).length + group.filters.length := by
  induction groups with
  | nil => simp [joinGroup]
  | cons first rest ih =>
      rw [joinGroup]
      split
      · simp only [List.flatMap_cons, List.length_append]
        omega
      · simp only [List.flatMap_cons, List.length_append, ih]
        omega

theorem regrouped {single : List FilterGroup} (one : ∀ group ∈ single, group.filters.length = 1) :
    Regrouped single (single.foldl joinGroup []) := by
  induction single using List.reverseRecOn with
  | nil => exact ⟨.nil, fun _ => rfl, rfl⟩
  | append_singleton single last ih =>
      obtain ⟨unique, filters, length⟩ := ih fun group member =>
        one group (List.mem_append_left _ member)
      have own := one last (List.mem_append_right _ (List.mem_singleton_self _))
      rw [List.foldl_append, List.foldl_cons, List.foldl_nil]
      refine ⟨joinGroup_unique unique last, fun object => ?_, ?_⟩
      · rw [filtersFor_joinGroup unique last object, filters]
        simp [filtersFor]
      · rw [length_joinGroup, length, own, List.length_append, List.length_singleton]

end Regrouping

theorem older_kept {values : List Json} {members : Members} {rule : AlertRule}
    (ruleless : members.lookup "rule" = none ∨ members.lookup "rule" = some .null)
    (given : members.lookup "filters" = some (.array values))
    (leaves : Leaves all
      (AlertRule.simple <$> (ownFilters (place.property "filters") values).nonEmpty) rule) :
    RuleKept (Reported all) place members rule := by
  obtain ⟨groups, left, rfl⟩ := leaves.map
  obtain ⟨single, kept, joined⟩ := Leaves.bind left.nonEmpty
  have one : ∀ group ∈ single, group.filters.length = 1 := by
    intro group member
    rw [kept.collect.1] at member
    obtain ⟨cleaned, listed, left⟩ := List.mem_filterMap.mp member
    obtain ⟨index, item, -, rfl⟩ := mem_each.mp listed
    obtain ⟨_, _, _, _, single, _⟩ := ownFilter_kept left
    rw [single, List.length_singleton]
  refine .older ruleless given (listKept ownFilter_accounted kept fun _ _ _ _ left => ?_)
    (joined.sound ▸ regrouped one)
  exact ownFilter_kept left.value

theorem rule_kept {members : Members} {cleaned : AlertRule}
    (leaves : Leaves all (rule place members) cleaned) :
    RuleKept (Reported all) place members cleaned := by
  have written := leaves.needed
  unfold writtenRule at written
  split at written
  · rename_i groups given
    obtain ⟨left, kept, rfl⟩ := written.map
    exact .groups given (listKept filterGroup_accounted kept.nonEmpty fun _ _ _ _ => filterGroup_kept)
  · rename_i parts given
    obtain ⟨root, left, rfl⟩ := written.map
    exact .tree given (node_kept _ _ root left)
  · rename_i null given
    exact older_kept (.inr null) given written
  · rename_i missing given
    exact older_kept (.inl missing) given written
  · exact absurd written.value (Option.some_ne_none _).symm

theorem draft_kept {json : Json} {cleaned : Draft} {alert : AlertDefinition}
    (leaves : Leaves all (draft place json) cleaned) (same : alert = cleaned.withId alert.id) :
    AlertKept (Reported all) place json alert := by
  obtain ⟨members, shape, leaves⟩ := Leaves.bind leaves
  obtain ⟨label, labelled, leaves⟩ := Leaves.bind leaves
  obtain ⟨rule, ruled, leaves⟩ := Leaves.bind leaves
  rw [same, Leaves.sound leaves]
  refine ⟨members, object_eq_some.mp shape.value, named_of_nonBlank? ?_, rule_kept ruled⟩
  rw [Draft.withId, ← labelled.value, Cleaned.ofOption_value]

section Batch

variable {fresh : Nat → String} {before : List AlertDefinition} {alerts : List Json}

theorem identify_defects (fresh : Nat → String) (before : List AlertDefinition) (next : Nat)
    (place : Location) (draft : Draft) :
    ∀ defect ∈ (identify fresh before next place draft).2.1, defect.location = place.property "id" := by
  unfold identify
  split
  · simp
  · split <;> simp

/-- What is left of alerts, of which the first one stands at this index, comes after those before. -/
theorem alertsFrom_kept {index next : Nat}
    (among : (alertsFrom fresh index next before alerts).defects ⊆ all) :
    ∃ added, (alertsFrom fresh index next before alerts).alerts = before ++ added ∧
      ListKept (Reported all) (AlertKept (Reported all)) (located Location.root index alerts)
        added := by
  induction alerts generalizing index next before with
  | nil => exact ⟨[], (List.append_nil _).symm, .nil⟩
  | cons json rest ih =>
      rw [alertsFrom] at among ⊢
      rw [located, List.zipIdx_cons, List.map_cons]
      cases left : (draft (Location.root.item index) json).value with
      | none =>
          simp only [left, List.append_subset] at among ⊢
          obtain ⟨added, whole, kept⟩ := ih among.2
          exact ⟨added, whole, .dropped (reported_of_dropped (draft_accounted _ _) among.1 left) kept⟩
      | some cleaned =>
          simp only [left, List.append_subset] at among ⊢
          obtain ⟨⟨own, -⟩, others⟩ := among
          obtain ⟨added, whole, kept⟩ := ih others
          refine ⟨_ :: added, whole.trans (List.append_assoc _ _ _), .left ?_ kept⟩
          exact draft_kept ⟨left, own⟩ (identify_withId fresh before next _ cleaned)

/-- Every defect is one of an alert, where the alert stands. -/
theorem alertsFrom_inside (index next : Nat) :
    ∀ defect ∈ (alertsFrom fresh index next before alerts).defects,
      ∃ offset json steps, alerts[offset]? = some json ∧
        defect.location.steps = (Location.root.item (index + offset)).steps ++ steps ∧
          json.Leads steps := by
  induction alerts generalizing index next before with
  | nil => simp [alertsFrom]
  | cons json rest ih =>
      have own : ∀ defect ∈ (draft (Location.root.item index) json).defects,
          ∃ offset item steps, (json :: rest)[offset]? = some item ∧
            defect.location.steps = (Location.root.item (index + offset)).steps ++ steps ∧
              item.Leads steps := by
        intro defect member
        obtain ⟨steps, located, leads⟩ := (draft_accounted json _).inside defect member
        exact ⟨0, json, steps, rfl, located, leads⟩
      have later : ∀ (before : List AlertDefinition) (next : Nat),
          ∀ defect ∈ (alertsFrom fresh (index + 1) next before rest).defects,
            ∃ offset item steps, (json :: rest)[offset]? = some item ∧
              defect.location.steps = (Location.root.item (index + offset)).steps ++ steps ∧
                item.Leads steps := by
        intro before next defect member
        obtain ⟨offset, item, steps, found, located, leads⟩ := ih (index + 1) next defect member
        exact ⟨offset + 1, item, steps, found, by rw [located]; congr 3; omega, leads⟩
      intro defect member
      rw [alertsFrom] at member
      cases left : (draft (Location.root.item index) json).value with
      | none =>
          simp only [left, List.mem_append] at member
          exact member.elim (own defect) (later _ _ defect)
      | some cleaned =>
          simp only [left, List.mem_append] at member
          rcases member with (early | named) | late
          · exact own defect early
          · have located := identify_defects fresh before next _ cleaned defect named
            obtain ⟨members, shape, -⟩ := Cleaned.bind_eq_some.mp left
            refine ⟨0, json, [.property "id"], rfl, by rw [located]; rfl, ?_⟩
            rw [object_eq_some.mp shape]
            exact .property members "id"
          · exact later _ _ defect late

theorem sanitizeAlerts_kept (fresh : Nat → String) (document : Json) :
    AlertsKept (Reported (sanitizeAlerts fresh document).defects) document
      (sanitizeAlerts fresh document).alerts := by
  have shapeless : Reported [⟨Location.root, .wrongShape "an array of alerts"⟩] Location.root :=
    ⟨_, List.mem_singleton_self _, _, _, Location.root.tokens?_pointer,
      Location.root.tokens?_pointer, List.prefix_rfl⟩
  cases document with
  | object members => exact .shapeless (by simp) (by simp) shapeless
  | scalar value =>
      cases value with
      | null => exact .nothing
      | bool _ | number _ | text _ => exact .shapeless (by simp) (by simp) shapeless
  | array alerts =>
      obtain ⟨added, whole, kept⟩ :=
        @alertsFrom_kept (sanitizeAlerts fresh (.array alerts)).defects fresh [] alerts 0 0
          (List.Subset.refl _)
      rw [sanitizeAlerts, whole, List.nil_append]
      exact .list kept

theorem sanitizeAlerts_leads (fresh : Nat → String) (document : Json) :
    ∀ defect ∈ (sanitizeAlerts fresh document).defects, document.Leads defect.location.steps := by
  intro defect member
  cases document with
  | object members =>
      rw [List.mem_singleton.mp member]
      exact .here _
  | scalar value =>
      cases value with
      | null => contradiction
      | bool _ | number _ | text _ =>
          rw [List.mem_singleton.mp member]
          exact .here _
  | array alerts =>
      obtain ⟨offset, json, steps, found, located, leads⟩ := alertsFrom_inside 0 0 defect member
      rw [located, Nat.zero_add]
      exact .item found leads

end Batch

end Sanitize

open Sanitize (AlertsKept)

/-- Nothing is dropped in silence: whatever is left of a document, an item of a list in it of which
nothing is left is reported where it stands.  Where nothing is reported, all alerts are left and all
of their lists have their full length.  And what is reported is somewhere in the document. -/
theorem sanitizeAlerts_accounted (fresh : Nat → String) (document : Json) :
    let result := sanitizeAlerts fresh document
    AlertsKept (Reported result.defects) document result.alerts ∧
      (result.defects = [] → AlertsKept (fun _ => False) document result.alerts ∧
        ∀ values, document = .array values → result.alerts.length = values.length) ∧
      ∀ defect ∈ result.defects, Pointer.Addresses document defect.location.pointer := by
  intro result
  have kept := Sanitize.sanitizeAlerts_kept fresh document
  refine ⟨kept, fun sound => ?_, fun defect member =>
    (Sanitize.sanitizeAlerts_leads fresh document defect member).addresses⟩
  have silent : Reported [] = fun _ => False := by
    funext place
    simp [Reported]
  have whole : AlertsKept (fun _ => False) document result.alerts := by
    rw [← silent, ← sound]
    exact kept
  exact ⟨whole, fun values given => (given ▸ whole).length_eq⟩

example : (sanitizeAlerts Sanitize.numbered Sanitize.watchlist).defects.map (·.location.pointer) =
    ["/0/rule/0/filters/1/operator", "/2/id", "/3/label"] := by
  decide +kernel

end Dossier
