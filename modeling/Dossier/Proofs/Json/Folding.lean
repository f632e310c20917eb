import Dossier.Json.Basic

/-!
Folding JSON values.

What a fold makes of the parts of a value is what it makes of each part on its own, and a property
of its results which every level keeps holds of all of them.  Where the value itself is spoken of,
the induction is on it.
-/

namespace Dossier.Json

variable {α : Type} (ofScalar : Scalar → α) (ofArray : List (Json × α) → α)
  (ofObject : List (String × Json × α) → α)

theorem foldItems_eq_map (items : List Json) :
    foldItems ofScalar ofArray ofObject items =
      items.map fun item => (item, item.fold ofScalar ofArray ofObject) := by
  induction items with
  | nil => rfl
  | cons item rest ih => rw [foldItems, ih, List.map_cons]

theorem foldMembers_eq_map (members : List (String × Json)) :
    foldMembers ofScalar ofArray ofObject members =
      members.map fun (name, value) => (name, value, value.fold ofScalar ofArray ofObject) := by
  induction members with
  | nil => rfl
  | cons member rest ih =>
      obtain ⟨name, value⟩ := member
      rw [foldMembers, ih, List.map_cons]

/-- A property which every level of the fold keeps. -/
structure Keeps (P : α → Prop) : Prop where
  scalar : ∀ value, P (ofScalar value)
  array : ∀ items, (∀ item ∈ items, P item.2) → P (ofArray items)
  object : ∀ members, (∀ member ∈ members, P member.2.2) → P (ofObject members)

variable {ofScalar ofArray ofObject} {P : α → Prop}

mutual

theorem Keeps.fold (kept : Keeps ofScalar ofArray ofObject P) :
    ∀ json : Json, P (json.fold ofScalar ofArray ofObject)
  | .scalar value => kept.scalar value
  | .array items => kept.array _ (kept.foldItems items)
  | .object members => kept.object _ (kept.foldMembers members)

theorem Keeps.foldItems (kept : Keeps ofScalar ofArray ofObject P) :
    ∀ items : List Json, ∀ item ∈ Json.foldItems ofScalar ofArray ofObject items, P item.2
  | [] => by simp [Json.foldItems]
  | item :: rest => by
      rw [Json.foldItems, List.forall_mem_cons]
      exact ⟨kept.fold item, kept.foldItems rest⟩

theorem Keeps.foldMembers (kept : Keeps ofScalar ofArray ofObject P) :
    ∀ members : List (String × Json),
      ∀ member ∈ Json.foldMembers ofScalar ofArray ofObject members, P member.2.2
  | [] => by simp [Json.foldMembers]
  | (name, value) :: rest => by
      rw [Json.foldMembers, List.forall_mem_cons]
      exact ⟨kept.fold value, kept.foldMembers rest⟩

end

/-- The induction on values. -/
@[elab_as_elim]
theorem induct {motive : Json → Prop} (scalar : ∀ value, motive (.scalar value))
    (array : ∀ items, (∀ item ∈ items, motive item) → motive (.array items))
    (object : ∀ members, (∀ member ∈ members, motive member.2) → motive (.object members))
    (json : Json) : motive json := by
  refine @Json.rec motive (fun items => ∀ item ∈ items, motive item)
    (fun members => ∀ member ∈ members, motive member.2) (fun member => motive member.2)
    scalar array object ?_ ?_ ?_ ?_ ?_ json
  · exact fun _ member => absurd member List.not_mem_nil
  · exact fun _ _ first rest => List.forall_mem_cons.mpr ⟨first, rest⟩
  · exact fun _ member => absurd member List.not_mem_nil
  · exact fun _ _ first rest => List.forall_mem_cons.mpr ⟨first, rest⟩
  · exact fun _ _ held => held

end Dossier.Json
