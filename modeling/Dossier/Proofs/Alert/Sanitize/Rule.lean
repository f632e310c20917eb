import Dossier.Proofs.Alert.Cleaned
import Dossier.Proofs.Alert.WellFormed
import Dossier.Proofs.Json.Folding
import Dossier.Proofs.Table

/-!
What is left of rules is well formed.

Every reader of a component is followed from what is left of it back to what it took, so that a rule
is well formed by its form alone, whatever document it was written in.
-/

namespace Dossier.Sanitize

theorem nonBlank?_tidy {json : Json} {text : String} (read : nonBlank? json = some text) :
    Text.Tidy text := by
  unfold nonBlank? at read
  split at read
  · exact Text.tidy_of_trimmed? read
  · contradiction

theorem member_tidy {members : Members} {property text : String}
    (read : (members.lookup property >>= nonBlank?) = some text) : Text.Tidy text := by
  obtain ⟨json, _, read⟩ := Option.bind_eq_some_iff.mp read
  exact nonBlank?_tidy read

variable {location : Location}

theorem name_tidy {property what text : String} {members : Members}
    (left : (name location property what members).value = some text) : Text.Tidy text := by
  rw [name, Cleaned.ofOption_value] at left
  exact member_tidy left

theorem value_fits {operator : Operator} {members : Members} {given : Option String}
    (left : (value location operator members).value = some given) :
    given.isSome = operator.requiresValue ∧ ∀ text, given = some text → Text.blank text = false := by
  unfold value at left
  split at left
  · rename_i required
    split at left
    · split at left
      · contradiction
      · rename_i full
        cases left
        refine ⟨by simp [required], fun text same => ?_⟩
        cases same
        exact Bool.eq_false_iff.mpr full
    · contradiction
  · rename_i free
    cases left
    exact ⟨by simp [free], by simp⟩

theorem filter_wellFormed {members : Members} {cleaned : Filter}
    (left : (filter location members).value = some cleaned) : cleaned.WellFormed := by
  simp only [filter, Cleaned.bind_value, Cleaned.pure_value, Option.bind_eq_bind,
    Option.bind_eq_some_iff, Option.some.injEq] at left
  obtain ⟨field, named, operator, _, given, valued, rfl⟩ := left
  obtain ⟨fits, full⟩ := value_fits valued
  exact ⟨name_tidy named, fits, full⟩

theorem filterGroup_wellFormed {json : Json} {group : FilterGroup}
    (left : (filterGroup location json).value = some group) : group.WellFormed := by
  simp only [filterGroup, Cleaned.bind_value, Cleaned.pure_value, Option.bind_eq_bind,
    Option.bind_eq_some_iff, Option.some.injEq] at left
  obtain ⟨members, _, type, named, filters, collected, rfl⟩ := left
  obtain ⟨filled, each⟩ := Cleaned.collectSome_value collected
  refine ⟨name_tidy named, filled, fun cleaned member => ?_⟩
  obtain ⟨item, listed, left⟩ := each cleaned member
  obtain ⟨index, _, rfl⟩ := List.mem_mapIdx.mp listed
  simp only [Cleaned.bind_value, Option.bind_eq_bind, Option.bind_eq_some_iff] at left
  obtain ⟨_, _, left⟩ := left
  exact filter_wellFormed left

theorem ownFilter_wellFormed {json : Json} {group : FilterGroup}
    (left : (ownFilter location json).value = some group) : group.WellFormed := by
  simp only [ownFilter, Cleaned.bind_value, Cleaned.pure_value, Option.bind_eq_bind,
    Option.bind_eq_some_iff, Option.some.injEq] at left
  obtain ⟨members, _, type, named, cleaned, left, rfl⟩ := left
  refine ⟨name_tidy named, List.cons_ne_nil _ _, fun other member => ?_⟩
  rw [List.mem_singleton.mp member]
  exact filter_wellFormed left

theorem filterGroups_wellFormed {groups : List Json} {left : List FilterGroup}
    (collected : (filterGroups location groups).value = some left) :
    ∀ group ∈ left, group.WellFormed := by
  intro group member
  obtain ⟨item, listed, left⟩ := Cleaned.mem_of_collect collected member
  obtain ⟨index, _, rfl⟩ := List.mem_mapIdx.mp listed
  exact filterGroup_wellFormed left

theorem joinGroup_wellFormed {groups : List FilterGroup} {group : FilterGroup}
    (sound : ∀ group ∈ groups, group.WellFormed) (next : group.WellFormed) :
    ∀ joined ∈ joinGroup groups group, joined.WellFormed := by
  induction groups with
  | nil =>
      intro joined member
      rw [List.mem_singleton.mp member]
      exact next
  | cons first rest ih =>
      obtain ⟨firstSound, restSound⟩ := List.forall_mem_cons.mp sound
      rw [joinGroup]
      split
      · refine List.forall_mem_cons.mpr ⟨⟨firstSound.object, ?_, ?_⟩, restSound⟩
        · exact List.append_ne_nil_of_left_ne_nil firstSound.filled _
        · intro filter member
          rcases List.mem_append.mp member with earlier | later
          · exact firstSound.filters filter earlier
          · exact next.filters filter later
      · exact List.forall_mem_cons.mpr ⟨firstSound, ih restSound⟩

theorem foldl_joinGroup_wellFormed {groups more : List FilterGroup}
    (sound : ∀ group ∈ groups, group.WellFormed) (next : ∀ group ∈ more, group.WellFormed) :
    ∀ joined ∈ more.foldl joinGroup groups, joined.WellFormed := by
  induction more generalizing groups with
  | nil => exact sound
  | cons group rest ih =>
      obtain ⟨groupSound, restSound⟩ := List.forall_mem_cons.mp next
      exact ih (joinGroup_wellFormed sound groupSound) restSound

theorem ownFilters_wellFormed {filters : List Json} {left : List FilterGroup}
    (collected : (ownFilters location filters).value = some left) :
    ∀ group ∈ left, group.WellFormed := by
  simp only [ownFilters, Cleaned.bind_value, Cleaned.collect_value, Cleaned.sound_value,
    Option.bind_eq_bind, Option.bind_some, Option.some.injEq] at collected
  subst collected
  refine foldl_joinGroup_wellFormed (by simp) fun group member => ?_
  obtain ⟨item, listed, left⟩ := List.mem_filterMap.mp member
  obtain ⟨index, _, rfl⟩ := List.mem_mapIdx.mp listed
  exact ownFilter_wellFormed left

/-- Members with the walk of each. -/
def walked (members : Members) : List (String × Json × Walk) :=
  members.map fun (name, json) => (name, json, walk json)

theorem walked_values (members : Members) :
    (walked members).map (fun (name, json, _) => (name, json)) = members := by
  simp [walked, Function.comp_def]

theorem walked_lookup (members : Members) (property : String) :
    (walked members).lookup property =
      (members.lookup property).map fun json => (json, walk json) :=
  Table.lookup_map_snd members (fun _ json => (json, walk json)) property

theorem node_object (location : Location) (members : Members) :
    node location (.object members) = nodeOfMembers (walked members) location := by
  rw [node, walk, Json.fold, Json.foldMembers_eq_map]
  rfl

theorem walk_array (items : List Json) :
    (walk (.array items)).items = items.map fun item place => node place item := by
  rw [walk, Json.fold, Json.foldItems_eq_map, List.map_map]
  rfl

/-- Whatever is left of a node is well formed, wherever the node stands. -/
def Cleans (clean : Location → Cleaned RuleNode) : Prop :=
  ∀ location node, (clean location).value = some node → node.WellFormed

/-- A value is cleaned well as a node, and so are its items. -/
structure Walk.Sound (walk : Walk) : Prop where
  node : Cleans walk.node
  items : ∀ item ∈ walk.items, Cleans item

section Node

variable {members : List (String × Json × Walk)} (parts : ∀ member ∈ members, member.2.2.Sound)

include parts

theorem children_wellFormed {child : Location × Cleaned RuleNode} {node : RuleNode}
    (listed : child ∈ children location members) (left : child.2.value = some node) :
    node.WellFormed := by
  rw [children] at listed
  cases found : members.lookup "children" with
  | none => simp [found] at listed
  | some member =>
      simp only [found, Option.map_some, Option.getD_some] at listed
      obtain ⟨index, inside, rfl⟩ := List.mem_mapIdx.mp listed
      exact (parts _ (Table.mem_of_lookup found)).items _ (List.getElem_mem inside) _ _ left

theorem collected_wellFormed {kind : String} {nodes : List RuleNode}
    (collected : (Cleaned.collectSome location kind ((children location members).map (·.2))).value =
      some nodes) : nodes ≠ [] ∧ ∀ node ∈ nodes, node.WellFormed := by
  obtain ⟨filled, each⟩ := Cleaned.collectSome_value collected
  refine ⟨filled, fun node member => ?_⟩
  obtain ⟨cleaned, listed, left⟩ := each node member
  obtain ⟨child, inside, rfl⟩ := List.mem_map.mp listed
  exact children_wellFormed parts inside left

omit parts in
theorem scopeChild_fits {place : Location} {child : Cleaned RuleNode} {node : RuleNode}
    (left : (scopeChild place child).value = some node) :
    child.value = some node ∧ node.FitsScope := by
  simp only [scopeChild, Cleaned.bind_value, Option.bind_eq_bind, Option.bind_eq_some_iff] at left
  obtain ⟨found, whole, kept⟩ := left
  cases found with
  | condition condition => cases kept; exact ⟨whole, trivial⟩
  | group logic nodes => cases kept; exact ⟨whole, trivial⟩
  | scope object quantifier nodes => contradiction
  | aggregate duplicates criteria => contradiction

theorem scoped_wellFormed {kind : String} {nodes : List RuleNode}
    (collected : (Cleaned.collectSome location kind
      ((children location members).map fun (place, child) => scopeChild place child)).value =
        some nodes) :
    nodes ≠ [] ∧ (∀ node ∈ nodes, node.FitsScope) ∧ ∀ node ∈ nodes, node.WellFormed := by
  obtain ⟨filled, each⟩ := Cleaned.collectSome_value collected
  have both : ∀ node ∈ nodes, node.FitsScope ∧ node.WellFormed := by
    intro node member
    obtain ⟨cleaned, listed, left⟩ := each node member
    obtain ⟨child, inside, rfl⟩ := List.mem_map.mp listed
    obtain ⟨left, fits⟩ := scopeChild_fits left
    exact ⟨fits, children_wellFormed parts inside left⟩
  exact ⟨filled, fun node member => (both node member).1, fun node member => (both node member).2⟩

theorem criteria_wellFormed {criteria : Option RuleNode}
    (left : (Sanitize.criteria location members).value = some criteria) :
    ∀ node, criteria = some node → node.WellFormed := by
  unfold Sanitize.criteria at left
  split at left
  · cases left; simp
  · cases left; simp
  · rename_i walk found
    simp only [Cleaned.bind_value, Cleaned.sound_value, Option.bind_eq_bind,
      Option.bind_eq_some_iff] at left
    obtain ⟨node, whole, same⟩ := left
    cases same
    intro other same
    cases same
    exact (parts _ (Table.mem_of_lookup found)).node _ _ whole

theorem nodeOfMembers_cleans : Cleans (nodeOfMembers members) := by
  intro location node left
  simp only [nodeOfMembers, Cleaned.bind_value, Option.bind_eq_bind, Option.bind_eq_some_iff] at left
  obtain ⟨kind, _, left⟩ := left
  cases kind with
  | condition =>
      simp only [Cleaned.bind_value, Cleaned.pure_value, Option.bind_eq_bind,
        Option.bind_eq_some_iff, Option.some.injEq] at left
      obtain ⟨type, named, cleaned, left, rfl⟩ := left
      exact .condition ⟨name_tidy named, filter_wellFormed left⟩
  | group =>
      simp only [Cleaned.bind_value, Cleaned.pure_value, Option.bind_eq_bind,
        Option.bind_eq_some_iff, Option.some.injEq] at left
      obtain ⟨logic, _, nodes, collected, rfl⟩ := left
      obtain ⟨filled, sound⟩ := collected_wellFormed parts collected
      exact .group filled sound
  | scope =>
      simp only [Cleaned.bind_value, Cleaned.pure_value, Option.bind_eq_bind,
        Option.bind_eq_some_iff, Option.some.injEq] at left
      obtain ⟨type, named, quantifier, _, nodes, collected, rfl⟩ := left
      obtain ⟨filled, fit, sound⟩ := scoped_wellFormed parts collected
      exact .scope (name_tidy named) filled fit sound
  | aggregate =>
      simp only [Cleaned.bind_value, Cleaned.pure_value, Option.bind_eq_bind,
        Option.bind_eq_some_iff, Option.some.injEq] at left
      obtain ⟨_, _, type, named, field, fieldNamed, criteria, left, rfl⟩ := left
      refine .aggregate ⟨name_tidy named, name_tidy fieldNamed, ?_, fun text => member_tidy⟩
        (criteria_wellFormed parts left)
      exact Nat.le_max_right _ leastCount

end Node

theorem noNode_cleans : Cleans noNode := by
  intro location node left
  contradiction

theorem walk_sound (json : Json) : (walk json).Sound := by
  refine Json.Keeps.fold ⟨fun _ => ⟨noNode_cleans, by simp⟩, fun items parts => ?_,
    fun members parts => ⟨nodeOfMembers_cleans parts, by simp⟩⟩ json
  refine ⟨noNode_cleans, fun item member => ?_⟩
  obtain ⟨part, listed, rfl⟩ := List.mem_map.mp member
  exact (parts part listed).node

/-- Whatever is left of a node is well formed, at every depth. -/
theorem node_wellFormed {json : Json} {cleaned : RuleNode}
    (left : (node location json).value = some cleaned) : cleaned.WellFormed :=
  (walk_sound json).node location cleaned left

end Dossier.Sanitize
