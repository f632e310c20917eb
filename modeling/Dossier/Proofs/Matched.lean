import Mathlib.Data.List.Perm.Basic

/-!
Lists whose items correspond to each other, whatever their order.
-/

namespace Dossier

variable {α β γ δ : Type} {related : α → β → Prop}

/-- Up to their order, the items of the lists are related one by one. -/
def Matched (related : α → β → Prop) : List α → List β → Prop :=
  Relation.Comp List.Perm (List.Forall₂ related)

theorem map_eq_of_forall₂ {items : List α} {others : List β}
    (matched : List.Forall₂ related items others) {f : α → γ} {g : β → γ}
    (agree : ∀ item other, related item other → f item = g other) : items.map f = others.map g := by
  rw [← List.forall₂_eq_eq_eq, List.forall₂_map_left_iff, List.forall₂_map_right_iff]
  exact matched.imp agree

theorem forall₂_trans {like : α → α → Prop}
    (trans : ∀ first second third, like first second → like second third →
      like first third) {items others more : List α}
    (before : List.Forall₂ like items others) (after : List.Forall₂ like others more) :
    List.Forall₂ like items more := by
  induction before generalizing more with
  | nil => exact after
  | cons same rest ih =>
      cases after with
      | cons next onward => exact .cons (trans _ _ _ same next) (ih onward)

namespace Matched

variable {items : List α} {others : List β}

theorem of_forall₂ (matched : List.Forall₂ related items others) : Matched related items others :=
  ⟨items, .refl _, matched⟩

theorem of_perm {like : α → α → Prop} {more : List α} (perm : items.Perm more)
    (refl : ∀ item, like item item) : Matched like items more :=
  ⟨more, perm, List.forall₂_same.mpr fun item _ => refl item⟩

theorem length_eq (matched : Matched related items others) : items.length = others.length := by
  obtain ⟨middle, perm, pointwise⟩ := matched
  exact perm.length_eq.trans pointwise.length_eq

theorem isEmpty_eq (matched : Matched related items others) : items.isEmpty = others.isEmpty := by
  rw [Bool.eq_iff_iff, List.isEmpty_iff_length_eq_zero, List.isEmpty_iff_length_eq_zero,
    matched.length_eq]

theorem mem_left (matched : Matched related items others) {item : α} (member : item ∈ items) :
    ∃ other ∈ others, related item other := by
  obtain ⟨middle, perm, pointwise⟩ := matched
  obtain ⟨index, inside, rfl⟩ := List.getElem_of_mem (perm.mem_iff.mp member)
  have there : index < others.length := pointwise.length_eq ▸ inside
  exact ⟨others[index], List.getElem_mem there, pointwise.get inside there⟩

theorem mem_right (matched : Matched related items others) {other : β} (member : other ∈ others) :
    ∃ item ∈ items, related item other := by
  obtain ⟨middle, perm, pointwise⟩ := matched
  obtain ⟨index, inside, rfl⟩ := List.getElem_of_mem member
  have there : index < middle.length := pointwise.length_eq ▸ inside
  exact ⟨middle[index], perm.mem_iff.mpr (List.getElem_mem there), pointwise.get there inside⟩

theorem imp {wider : α → β → Prop} (matched : Matched related items others)
    (widens : ∀ item other, related item other → wider item other) : Matched wider items others := by
  obtain ⟨middle, perm, pointwise⟩ := matched
  exact ⟨middle, perm, pointwise.imp widens⟩

theorem map {mapped : γ → δ → Prop} {f : α → γ} {g : β → δ}
    (matched : Matched related items others)
    (maps : ∀ item other, related item other → mapped (f item) (g other)) :
    Matched mapped (items.map f) (others.map g) := by
  obtain ⟨middle, perm, pointwise⟩ := matched
  refine ⟨middle.map f, perm.map f, ?_⟩
  rw [List.forall₂_map_left_iff, List.forall₂_map_right_iff]
  exact pointwise.imp maps

theorem filter {p : α → Bool} {q : β → Bool} (matched : Matched related items others)
    (agree : ∀ item other, related item other → p item = q other) :
    Matched related (items.filter p) (others.filter q) := by
  obtain ⟨middle, perm, pointwise⟩ := matched
  refine ⟨middle.filter p, perm.filter p, ?_⟩
  refine List.rel_filter (fun item other same => ?_) pointwise
  exact iff_of_eq (congrArg (· = true) (agree item other same))

theorem all_eq {p : α → Bool} {q : β → Bool} (matched : Matched related items others)
    (agree : ∀ item other, related item other → p item = q other) : items.all p = others.all q := by
  rw [Bool.eq_iff_iff, List.all_eq_true, List.all_eq_true]
  constructor
  · intro holds other member
    obtain ⟨item, there, same⟩ := matched.mem_right member
    exact agree item other same ▸ holds item there
  · intro holds item member
    obtain ⟨other, there, same⟩ := matched.mem_left member
    exact (agree item other same).trans (holds other there)

end Matched

end Dossier
