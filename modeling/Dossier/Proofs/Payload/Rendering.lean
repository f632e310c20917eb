import Dossier.Proofs.Matched
import Dossier.Proofs.Payload.Attaching

/-!
What is rendered of a record, and what of it remains.

A record is rendered with its identifier, the fields on display and those which link it, each of them
once.  Alerts are attached to what was rendered, and nothing of it is lost or put in another place.
-/

namespace Dossier

section UpdateFirst

variable {α β : Type} {p : α → Bool} {change : α → α}

theorem updateFirst_map {read : α → β} (kept : ∀ item, read (change item) = read item)
    (items : List α) : (updateFirst p change items).map read = items.map read := by
  induction items with
  | nil => rfl
  | cons first rest ih =>
      rw [updateFirst]
      split <;> simp [kept, ih]

theorem updateFirst_forall₂ {related : α → α → Prop} (refl : ∀ item, related item item)
    (changes : ∀ item, related item (change item)) (items : List α) :
    List.Forall₂ related items (updateFirst p change items) := by
  induction items with
  | nil => exact .nil
  | cons first rest ih =>
      rw [updateFirst]
      split
      · exact .cons (changes first) (List.forall₂_same.mpr fun item _ => refl item)
      · exact .cons (refl first) ih

end UpdateFirst

namespace RecordPayload

/-- A record as it is rendered with these fields to display and these to link it: the identifier, the
fields on display, and the other link fields, which are hidden. -/
structure Renders (payload : RecordPayload) (record : GraphRecord) (display link : List String) :
    Prop where
  id : payload.id = record.id?
  recordKey : payload.recordKey = record.key
  linkSources : payload.linkSources = listed record.linkSources
  fields : payload.fields.map (fun entry => (entry.name, entry.value, entry.hidden)) =
    (Record.idField :: display).map (fun field => (field, record.record.value field, false)) ++
      (link.filter fun field => !(Record.idField :: display).contains field).map fun field =>
        (field, record.record.value field, true)
  bare : payload.Bare

end RecordPayload

theorem ObjectLayout.render_renders {layout : ObjectLayout}
    (shown : (Record.idField :: layout.displayFields).Nodup) (links : layout.linkFields.Nodup)
    (record : GraphRecord) :
    (layout.render record).Renders record layout.displayFields layout.linkFields where
  id := rfl
  recordKey := rfl
  linkSources := rfl
  fields := by
    have others := distinct_of_nodup (links.filter fun field =>
      !(Record.idField :: layout.displayFields).contains field)
    simp only [render, fieldEntries, others, List.map_append, List.map_map]
    rfl
  bare := render_bare shown record

namespace AccountPayload

variable {payload : AccountPayload}

/-- What remains of an account: its types in their order, and of each type its records in theirs. -/
structure Remains (payload noted : AccountPayload) : Prop where
  types : noted.related.map (·.1) = payload.related.map (·.1)
  records : ∀ object,
    List.Forall₂ RecordPayload.Kept (payload.records object) (noted.records object)

namespace Remains

theorem refl (payload : AccountPayload) : payload.Remains payload :=
  ⟨rfl, fun _ => List.forall₂_same.mpr fun record _ => .refl record⟩

theorem trans {first second third : AccountPayload} (before : first.Remains second)
    (after : second.Remains third) : first.Remains third := by
  refine ⟨after.types.trans before.types, fun object => ?_⟩
  exact forall₂_trans (fun _ _ _ => .trans) (before.records object) (after.records object)

theorem annotate (alert : Triggered) (payload : AccountPayload) (m : Match) :
    payload.Remains (payload.annotate alert m) := by
  unfold AccountPayload.annotate
  split
  · exact ⟨rfl, (refl payload).records⟩
  · constructor
    · apply updateFirst_map
      exact fun _ => rfl
    · intro object
      have same := (refl payload).records object
      simp only [AccountPayload.records, lookup_updateFirst] at same ⊢
      split
      · cases payload.related.lookup object with
        | none => exact .nil
        | some records =>
            exact updateFirst_forall₂ .refl (.annotate alert · m) records
      · exact same

theorem foldl {α : Type} {step : AccountPayload → α → AccountPayload}
    (each : ∀ (payload : AccountPayload) item, payload.Remains (step payload item)) (items : List α)
    (payload : AccountPayload) : payload.Remains (items.foldl step payload) := by
  induction items generalizing payload with
  | nil => exact refl payload
  | cons item rest ih => exact (each payload item).trans (ih _)

theorem attachAlerts (payload : AccountPayload) (triggered : List Triggered) :
    payload.Remains (payload.attachAlerts triggered) := by
  have annotated := foldl (fun (payload : AccountPayload) (alert : Triggered) =>
    foldl (annotate alert) alert.found payload) triggered payload
  unfold AccountPayload.attachAlerts
  split
  · exact annotated
  · exact ⟨annotated.types, annotated.records⟩

end Remains

end AccountPayload

end Dossier
