import Dossier.Layout
import Dossier.Proofs.Config
import Dossier.Proofs.Registry

/-!
Which types and fields a layout displays.

A layout has every linked type once, and no others.  The fields of a type are displayed once, and the
identifier is not repeated among them.
-/

namespace Dossier

namespace Config

variable {config : Config}

theorem firstOfEach_concat (views : List ObjectVisibility) (view : ObjectVisibility) :
    firstOfEach (views ++ [view]) =
      if (firstOfEach views).any (·.key == view.key) then firstOfEach views
      else firstOfEach views ++ [view] := by
  rw [firstOfEach, List.foldl_append]
  rfl

theorem firstOfEach_keys (views : List ObjectVisibility) :
    (firstOfEach views).map (·.key) = distinct (views.map (·.key)) := by
  induction views using List.reverseRecOn with
  | nil => rfl
  | append_singleton views view ih =>
      have known : (firstOfEach views).any (·.key == view.key) =
          (distinct (views.map (·.key))).contains view.key := by
        rw [← ih, Bool.eq_iff_iff]
        simp
      rw [firstOfEach_concat, known, List.map_append, List.map_singleton, distinct_concat]
      split
      · exact ih
      · rw [List.map_append, ih, List.map_singleton]

theorem firstOfEach_unique (views : List ObjectVisibility) :
    ((firstOfEach views).map (·.key)).Nodup := by
  rw [firstOfEach_keys]
  exact nodup_distinct _

/-- The first setting for a type counts. -/
theorem find?_firstOfEach (views : List ObjectVisibility) (key : String) :
    (firstOfEach views).find? (·.key == key) = views.find? (·.key == key) := by
  induction views using List.reverseRecOn with
  | nil => rfl
  | append_singleton views view ih =>
      rw [firstOfEach_concat, List.find?_append]
      split
      · rename_i known
        rw [ih]
        by_cases own : view.key = key
        · rw [own, List.any_eq_true, ← List.find?_isSome, ih] at known
          exact (Option.or_of_isSome known).symm
        · simp [own]
      · rw [List.find?_append, ih]

theorem firstOfEach_subset (views : List ObjectVisibility) :
    ∀ view ∈ firstOfEach views, view ∈ views := by
  induction views using List.reverseRecOn with
  | nil => exact fun _ member => member
  | append_singleton views view ih =>
      intro other member
      rw [firstOfEach_concat] at member
      split at member
      · exact List.mem_append_left _ (ih other member)
      · rcases List.mem_append.mp member with earlier | last
        · exact List.mem_append_left _ (ih other earlier)
        · exact List.mem_append_right _ last

theorem mem_linked_of_isLinkedType {key : String} (linked : config.isLinkedType key = true) :
    key ∈ config.registry.linked.map (·.name) := by
  unfold isLinkedType at linked
  split at linked
  · rename_i type found
    obtain ⟨listed, named⟩ := Registry.mem_of_get? found
    exact List.mem_map.mpr ⟨type, List.mem_filter.mpr ⟨listed, linked⟩, named⟩
  · contradiction

theorem objectViews_linked : ∀ view ∈ config.objectViews,
    view.key ∈ config.registry.linked.map (·.name) := by
  intro view member
  rcases List.mem_append.mp (firstOfEach_subset _ view member) with listed | added
  · exact mem_linked_of_isLinkedType (List.mem_filter.mp listed).2
  · obtain ⟨type, linked, rfl⟩ := List.mem_map.mp added
    exact List.mem_map_of_mem linked

theorem isLinkedType_iff (valid : config.registry.Valid) {key : String} :
    config.isLinkedType key = true ↔ key ∈ config.registry.linked.map (·.name) := by
  constructor
  · exact mem_linked_of_isLinkedType
  · intro listed
    obtain ⟨type, linked, rfl⟩ := List.mem_map.mp listed
    obtain ⟨member, reached⟩ := List.mem_filter.mp linked
    rw [isLinkedType, valid.get? member]
    exact reached

/-- The setting of a linked type is the operator's first one, or else its own. -/
theorem find?_objectViews {object : String} (linked : config.isLinkedType object = true) :
    config.objectViews.find? (·.key == object) =
      (config.objects.find? (·.key == object)).or ((config.registry.linked.map fun type =>
        ObjectVisibility.mk type.name false).find? (·.key == object)) := by
  have listed : (config.objects.filter fun view => config.isLinkedType view.key).find?
      (·.key == object) = config.objects.find? (·.key == object) := by
    rw [List.find?_filter]
    refine congrArg (List.find? · config.objects) (funext fun view => ?_)
    by_cases own : view.key = object
    · simp [own, linked]
    · simp [own]
  rw [objectViews, find?_firstOfEach, List.find?_append, listed]

/-- A linked type is displayed, unless the first setting for it hides it. -/
def Shows (config : Config) (object : String) : Prop :=
  config.isLinkedType object = true ∧
    ∀ view, config.objects.find? (·.key == object) = some view → view.hidden = false

theorem mem_objectViews_of_shows {object : String} (shows : config.Shows object) :
    ⟨object, false⟩ ∈ config.objectViews := by
  obtain ⟨linked, unhidden⟩ := shows
  have shown : ∃ view, config.objectViews.find? (·.key == object) = some view ∧
      view.hidden = false := by
    rw [find?_objectViews linked]
    cases set : config.objects.find? (·.key == object) with
    | some view => exact ⟨view, rfl, unhidden view set⟩
    | none =>
        obtain ⟨type, member, named⟩ := List.mem_map.mp (mem_linked_of_isLinkedType linked)
        have some : ((config.registry.linked.map fun type =>
            ObjectVisibility.mk type.name false).find? (·.key == object)).isSome :=
          List.find?_isSome.mpr ⟨_, List.mem_map_of_mem member, beq_iff_eq.mpr named⟩
        obtain ⟨view, found⟩ := Option.isSome_iff_exists.mp some
        obtain ⟨other, -, rfl⟩ := List.mem_map.mp (List.mem_of_find?_eq_some found)
        exact ⟨_, found, rfl⟩
  obtain ⟨⟨key, hidden⟩, found, rfl⟩ := shown
  have named : key = object := by simpa using List.find?_some found
  exact named ▸ List.mem_of_find?_eq_some found

/-- The linked types among those which the operator lists, in the order of their first mention. -/
def mentioned (config : Config) : List String :=
  distinct ((config.objects.map (·.key)).filter (config.registry.linked.map (·.name)).contains)

/-- The types on display, in their order. -/
def shown (config : Config) : List String :=
  (config.objectViews.filter fun view => !view.hidden).map (·.key)

/-- How types are listed: each linked type once, those which are mentioned before the others, and
visible unless they are first mentioned as hidden. -/
structure Listing (config : Config) : Prop where
  keys : config.objectViews.map (·.key) = config.mentioned ++
    (config.registry.linked.map (·.name)).filter fun name => !config.mentioned.contains name
  once : (config.objectViews.map (·.key)).Perm (config.registry.linked.map (·.name))
  hidden : ∀ view ∈ config.objectViews, view.hidden =
    ((config.objects.find? (·.key == view.key)).map (·.hidden)).getD false

theorem objectViews_keys (valid : config.registry.Valid) :
    config.objectViews.map (·.key) = config.mentioned ++
      (config.registry.linked.map (·.name)).filter fun name => !config.mentioned.contains name := by
  have listed : (config.objects.filter fun view => config.isLinkedType view.key).map (·.key) =
      (config.objects.map (·.key)).filter (config.registry.linked.map (·.name)).contains := by
    rw [List.filter_map]
    refine congrArg (List.map _) (List.filter_congr fun view _ => ?_)
    rw [Bool.eq_iff_iff, isLinkedType_iff valid, Function.comp_apply, List.contains_iff_mem]
  have others : (config.registry.linked.map fun type => ObjectVisibility.mk type.name false).map
      (·.key) = config.registry.linked.map (·.name) := by simp
  rw [objectViews, firstOfEach_keys, List.map_append, listed, others,
    distinct_append valid.linked_unique, mentioned]
  refine congrArg _ (List.filter_congr fun name _ => congrArg not ?_)
  rw [Bool.eq_iff_iff, List.contains_iff_mem, List.contains_iff_mem, mem_distinct]

theorem listing (valid : config.registry.Valid) : config.Listing where
  keys := objectViews_keys valid
  once := by
    have unique : (config.objectViews.map (·.key)).Nodup := firstOfEach_unique _
    refine (List.perm_ext_iff_of_nodup unique valid.linked_unique).mpr fun name => ?_
    constructor
    · intro listed
      obtain ⟨view, member, rfl⟩ := List.mem_map.mp listed
      exact objectViews_linked view member
    · intro linked
      rw [objectViews_keys valid, List.mem_append, or_iff_not_imp_left]
      intro unmentioned
      exact List.mem_filter.mpr ⟨linked, by simpa using unmentioned⟩
  hidden view member := by
    have linked := (isLinkedType_iff valid).mpr (objectViews_linked view member)
    have first : config.objectViews.find? (·.key == view.key) = some view := by
      have found : (config.objectViews.find? (·.key == view.key)).isSome :=
        List.find?_isSome.mpr ⟨view, member, BEq.rfl⟩
      obtain ⟨other, found⟩ := Option.isSome_iff_exists.mp found
      have named : other.key = view.key := by simpa using List.find?_some found
      rw [found, List.inj_on_of_nodup_map (firstOfEach_unique _) (List.mem_of_find?_eq_some found)
        member named]
    rw [find?_objectViews linked] at first
    cases set : config.objects.find? (·.key == view.key) with
    | some own =>
        rw [set, Option.some_or] at first
        cases first
        rfl
    | none =>
        rw [set, Option.none_or] at first
        obtain ⟨type, -, rfl⟩ := List.mem_map.mp (List.mem_of_find?_eq_some first)
        rfl

end Config

namespace Layout

variable {config : Config} {plans : List (String × ObjectPlan)}

@[simp] theorem ofObject_key (key : String) (hidden : Bool) :
    (ofObject config plans key hidden).key = key := by
  unfold ofObject
  split <;> rfl

/-- A layout whose plans are made displays no field twice. -/
theorem ofObject_displayFields
    (planned : ∀ entry ∈ plans, ∃ config object available,
      entry.2 = ObjectPlan.make config object available)
    (key : String) (hidden : Bool) :
    (Record.idField :: (ofObject config plans key hidden).displayFields).Nodup := by
  unfold ofObject
  dsimp only
  split
  · rename_i plan found
    obtain ⟨other, object, available, made⟩ := planned _ (Table.mem_of_lookup found)
    have shown : plan.displayFields.Sublist (other.displayFields object) :=
      (congrArg ObjectPlan.displayFields made) ▸ List.filter_sublist
    exact (other.displayFields_displayable object).identified.sublist (shown.cons_cons _)
  · exact (config.displayFields_displayable key).identified

theorem mem_visible : ∀ object ∈ (make config plans).visible,
    ∃ key hidden, object = ofObject config plans key hidden := by
  intro object member
  obtain ⟨view, -, rfl⟩ := List.mem_map.mp (List.mem_filter.mp member).1
  exact ⟨view.key, view.hidden, rfl⟩

@[simp] theorem ofObject_hidden (key : String) (hidden : Bool) :
    (ofObject config plans key hidden).hidden = hidden := by
  unfold ofObject
  split <;> rfl

theorem visible_keys : (make config plans).visible.map (·.key) = config.shown := by
  rw [visible, make, List.filter_map, List.map_map, Config.shown]
  simp [Function.comp_def]

theorem visible_sublist :
    ((make config plans).visible.map (·.key)).Sublist (config.objectViews.map (·.key)) := by
  rw [visible_keys]
  exact List.filter_sublist.map _

theorem visible_unique : ((make config plans).visible.map (·.key)).Nodup :=
  (Config.firstOfEach_unique _).sublist visible_sublist

theorem visible_linked : ∀ object ∈ (make config plans).visible,
    object.key ∈ config.registry.linked.map (·.name) := by
  intro object member
  obtain ⟨view, listed, named⟩ :=
    List.mem_map.mp (visible_sublist.subset (List.mem_map_of_mem member))
  exact named ▸ Config.objectViews_linked view listed

theorem mem_visible_of_shows {object : String} (shows : config.Shows object) :
    ofObject config plans object false ∈ (make config plans).visible := by
  refine List.mem_filter.mpr
    ⟨List.mem_map.mpr ⟨_, Config.mem_objectViews_of_shows shows, rfl⟩, ?_⟩
  simp

/-- In a list with an item for each visible type, that of a type is under its name. -/
theorem lookup_of_visible {α : Type} (item : ObjectLayout → α) {object : ObjectLayout}
    (visible : object ∈ (make config plans).visible) :
    ((make config plans).visible.map fun layout => (layout.key, item layout)).lookup object.key =
      some (item object) := by
  have listed : (object.key, item object) ∈
      (make config plans).visible.map fun layout => (layout.key, item layout) :=
    List.mem_map_of_mem visible
  refine Table.lookup_of_mem ?_ listed
  rw [List.map_map]
  exact visible_unique

theorem lookup_visible {α : Type} (item : ObjectLayout → α) {object : String}
    (shows : config.Shows object) :
    ((make config plans).visible.map fun layout => (layout.key, item layout)).lookup object =
      some (item (ofObject config plans object false)) := by
  have visible : ofObject config plans object false ∈ (make config plans).visible :=
    mem_visible_of_shows shows
  have found := lookup_of_visible item visible
  rwa [ofObject_key] at found

/-- A layout depends on the plans of the registry's types only. -/
theorem make_congr {others : List (String × ObjectPlan)}
    (same : ∀ key, key = EntityType.account ∨ key ∈ config.registry.linked.map (·.name) →
      plans.lookup key = others.lookup key) : make config plans = make config others := by
  have each : ∀ key hidden, key = EntityType.account ∨ key ∈ config.registry.linked.map (·.name) →
      ofObject config plans key hidden = ofObject config others key hidden := by
    intro key hidden known
    rw [ofObject, ofObject, same key known]
  rw [make, make, each _ _ (.inl rfl)]
  refine congrArg (Layout.mk _) (List.map_congr_left fun view member => ?_)
  exact each _ _ (.inr (Config.objectViews_linked view member))

end Layout

end Dossier
