import Dossier.Alert.Cleaned

/-!
What is left after cleaning.

The `value` lemmas say what is left, whatever the defects; they carry the proofs about everything
that the sanitizer emits.  The `sound` lemmas say that sound parts make a sound whole; they carry
the proofs about documents in which nothing is wrong.
-/

namespace Dossier.Cleaned

variable {α β : Type}

@[simp] theorem pure_value (value : α) : (pure value : Cleaned α).value = some value := rfl

@[simp] theorem sound_value (value : α) : (sound value).value = some value := rfl

@[simp] theorem bind_value (cleaned : Cleaned α) (next : α → Cleaned β) :
    (cleaned >>= next).value = cleaned.value >>= fun value => (next value).value := by
  change (cleaned.andThen next).value = _
  cases found : cleaned.value <;> simp [andThen, found]

@[simp] theorem map_value (f : α → β) (cleaned : Cleaned α) :
    (f <$> cleaned).value = cleaned.value.map f := by
  change (cleaned.andThen fun value => sound (f value)).value = _
  cases found : cleaned.value <;> simp [andThen, found]

@[simp] theorem ofOption_value (value : Option α) (location : Location) (flaw : Flaw) :
    (ofOption value location flaw).value = value := by
  cases value <;> rfl

@[simp] theorem needed_value (location : Location) (flaw : Flaw) (cleaned : Cleaned α) :
    (needed location flaw cleaned).value = cleaned.value := by
  cases found : cleaned.value <;> simp [needed, found]

theorem nonEmpty_value {cleaned : Cleaned (List α)} {values : List α} :
    cleaned.nonEmpty.value = some values ↔ cleaned.value = some values ∧ values ≠ [] := by
  rw [nonEmpty, Option.filter_eq_some_iff]
  cases values <;> simp

@[simp] theorem collect_value (items : List (Cleaned α)) :
    (collect items).value = some (items.filterMap (·.value)) := rfl

theorem mem_of_collect {items : List (Cleaned α)} {values : List α}
    (collected : (collect items).value = some values) {value : α} (member : value ∈ values) :
    ∃ item ∈ items, item.value = some value := by
  cases collected
  exact List.mem_filterMap.mp member

theorem collectSome_value {location : Location} {kind : String} {items : List (Cleaned α)}
    {values : List α} (collected : (collectSome location kind items).value = some values) :
    values ≠ [] ∧ ∀ value ∈ values, ∃ item ∈ items, item.value = some value := by
  rw [collectSome, needed_value, nonEmpty_value] at collected
  exact ⟨collected.2, fun value member => mem_of_collect collected.1 member⟩

@[simp] theorem sound_bind (value : α) (next : α → Cleaned β) :
    (sound value >>= next) = next value := by
  change andThen (sound value) next = next value
  simp [andThen, sound]

@[simp] theorem map_sound (f : α → β) (value : α) : f <$> sound value = sound (f value) :=
  sound_bind value fun value => sound (f value)

@[simp] theorem ofOption_some (value : α) (location : Location) (flaw : Flaw) :
    ofOption (some value) location flaw = sound value := rfl

@[simp] theorem needed_sound (location : Location) (flaw : Flaw) (value : α) :
    needed location flaw (sound value) = sound value := rfl

theorem collect_sound (values : List α) : collect (values.map sound) = sound values := by
  have left : (values.map sound).filterMap (·.value) = values := by
    simp [List.filterMap_map, Function.comp_def]
  have nothing : (values.map sound).flatMap (·.defects) = [] := by
    simp [sound]
  rw [collect, left, nothing]
  rfl

theorem nonEmpty_sound {values : List α} (some : values ≠ []) :
    nonEmpty (sound values) = sound values := by
  simp [nonEmpty, sound, some]

theorem collectSome_sound (location : Location) (kind : String) {values : List α}
    (some : values ≠ []) : collectSome location kind (values.map sound) = sound values := by
  rw [collectSome, collect_sound, nonEmpty_sound some, needed_sound]

end Dossier.Cleaned
