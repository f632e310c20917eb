import Mathlib.Data.List.Nodup
import Dossier.Fetch.Basic

/-!
Selecting in chunks.

Chunks are the list, cut into pieces.  What is selected chunk by chunk, each row under the chunk
which its key is in, is what the whole list selects: the same rows, and none of them twice where no
key is repeated.
-/

namespace Dossier.Fetching

variable {α : Type}

theorem chunksOf_nil {size : Nat} (positive : 0 < size) : chunksOf size ([] : List α) = [] := by
  have none : (size - 1) / size = 0 := Nat.div_eq_of_lt (by omega)
  simp [chunksOf, none]

theorem chunksOf_cons {size : Nat} (positive : 0 < size) {items : List α} (filled : items ≠ []) :
    chunksOf size items = items.take size :: chunksOf size (items.drop size) := by
  have long : 0 < items.length := List.length_pos_of_ne_nil filled
  have count : (items.length + size - 1) / size = ((items.drop size).length + size - 1) / size + 1 := by
    rw [List.length_drop, Nat.div_eq_sub_div positive (by omega)]
    congr 1
    by_cases last : items.length ≤ size
    · rw [Nat.div_eq_of_lt (by omega), Nat.div_eq_of_lt (by omega)]
    · congr 1
      omega
  rw [chunksOf, count, List.range_succ_eq_map, List.map_cons, List.map_map]
  simp [chunksOf, Function.comp_def, Nat.succ_mul, Nat.add_comm]

theorem flatten_chunksOf {size : Nat} (positive : 0 < size) (items : List α) :
    (chunksOf size items).flatten = items := by
  by_cases empty : items = []
  · rw [empty, chunksOf_nil positive]
    rfl
  · have shorter : (items.drop size).length < items.length := by
      have long : 0 < items.length := List.length_pos_of_ne_nil empty
      rw [List.length_drop]
      omega
    rw [chunksOf_cons positive empty, List.flatten_cons, flatten_chunksOf positive (items.drop size),
      List.take_append_drop]
termination_by items.length

/-- Chunks hold something, and not too much. -/
theorem chunksOf_bounded {size : Nat} (positive : 0 < size) (items : List α) :
    ∀ chunk ∈ chunksOf size items, chunk ≠ [] ∧ chunk.length ≤ size := by
  by_cases empty : items = []
  · rw [empty, chunksOf_nil positive]
    simp
  · have long : 0 < items.length := List.length_pos_of_ne_nil empty
    have shorter : (items.drop size).length < items.length := by
      rw [List.length_drop]
      omega
    rw [chunksOf_cons positive empty]
    refine List.forall_mem_cons.mpr ⟨⟨?_, List.length_take_le _ _⟩,
      chunksOf_bounded positive (items.drop size)⟩
    rw [← List.length_pos_iff, List.length_take]
    omega
termination_by items.length

section Chunked

variable {ρ : Type}

/-- The rows which the chunks select, by their texts under a key. -/
def chunked (key : ρ → Option String) (rows : List ρ) (chunks : List (List String)) : List ρ :=
  chunks.flatMap fun chunk => rows.filter fun row => (key row).any chunk.contains

theorem mem_chunked {key : ρ → Option String} {rows : List ρ} {chunks : List (List String)}
    {row : ρ} :
    row ∈ chunked key rows chunks ↔ row ∈ rows ∧ ∃ text ∈ chunks.flatten, key row = some text := by
  simp only [chunked, List.mem_flatMap, List.mem_filter, Option.any_eq_true, List.contains_iff_mem,
    List.mem_flatten]
  constructor
  · rintro ⟨chunk, listed, inside, text, given, member⟩
    exact ⟨inside, text, ⟨chunk, listed, member⟩, given⟩
  · rintro ⟨inside, text, ⟨chunk, listed, member⟩, given⟩
    exact ⟨chunk, listed, inside, text, given, member⟩

theorem nodup_chunked {key : ρ → Option String} {rows : List ρ} (distinct : rows.Nodup)
    {chunks : List (List String)} (unique : chunks.flatten.Nodup) :
    (chunked key rows chunks).Nodup := by
  refine List.nodup_flatMap.mpr ⟨fun chunk _ => distinct.filter _, ?_⟩
  refine (List.nodup_flatten.mp unique).2.imp fun apart row first second => ?_
  simp only [List.mem_filter, Option.any_eq_true, List.contains_iff_mem] at first second
  obtain ⟨-, text, given, member⟩ := first
  obtain ⟨-, other, same, also⟩ := second
  cases Option.some.inj (given.symm.trans same)
  exact apart member also

theorem filter_chunk (key : ρ → Option String) (rows : List ρ) (chunk : List String)
    (text : String) :
    (rows.filter fun row => (key row).any chunk.contains).filter (key · == some text) =
      if text ∈ chunk then rows.filter (key · == some text) else [] := by
  rw [List.filter_filter]
  split
  · rename_i member
    refine List.filter_congr fun row _ => ?_
    by_cases same : key row = some text
    · simp [same, member]
    · simp [same]
  · rename_i absent
    refine List.filter_eq_nil_iff.mpr fun row _ both => ?_
    simp only [Bool.and_eq_true, beq_iff_eq, Option.any_eq_true, List.contains_iff_mem] at both
    obtain ⟨given, other, same, member⟩ := both
    cases Option.some.inj (given.symm.trans same)
    exact absent member

/-- Under one of the texts, the rows come as they stand. -/
theorem filter_chunked {key : ρ → Option String} {rows : List ρ} {chunks : List (List String)}
    (unique : chunks.flatten.Nodup) (text : String) :
    (chunked key rows chunks).filter (key · == some text) =
      if text ∈ chunks.flatten then rows.filter (key · == some text) else [] := by
  induction chunks with
  | nil => rfl
  | cons chunk rest ih =>
      rw [List.flatten_cons, List.nodup_append] at unique
      rw [chunked, List.flatMap_cons, List.filter_append, filter_chunk, ← chunked, ih unique.2.1]
      by_cases first : text ∈ chunk
      · have apart : text ∉ rest.flatten := fun later => unique.2.2 text first text later rfl
        simp [first, apart]
      · simp [first]

end Chunked

end Dossier.Fetching
