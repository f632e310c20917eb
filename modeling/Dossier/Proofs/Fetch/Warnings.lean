import Dossier.Fetch.Warnings
import Dossier.Proofs.Table

/-!
What a table of warnings says after one was added.
-/

namespace Dossier.Warnings

theorem lookup_insert (warnings : Warnings) (key message other : String) :
    (warnings.insert key message).entries.lookup other =
      (warnings.entries.lookup other).or (if key = other then some message else none) := by
  unfold insert contains Table.has
  cases found : warnings.entries.lookup key with
  | some text =>
      by_cases same : key = other
      · subst same
        simp [found]
      · simp [same]
  | none =>
      simp only [Option.isSome_none, Bool.false_eq_true, if_false, List.lookup_append,
        List.lookup_singleton, beq_iff_eq]
      by_cases same : key = other
      · simp [same]
      · simp [same, Ne.symm same]

theorem contains_iff (warnings : Warnings) (key : String) :
    warnings.contains key = true ↔ key ∈ warnings.entries.map (·.1) := by
  rw [contains, Table.has, List.lookup_isSome_iff, List.mem_map]
  exact exists_congr fun entry => and_congr_right fun _ => by rw [beq_iff_eq, eq_comm]

@[simp] theorem contains_empty (key : String) : empty.contains key = false := rfl

@[simp] theorem contains_insert (warnings : Warnings) (key message other : String) :
    (warnings.insert key message).contains other = (warnings.contains other || other == key) := by
  rw [contains, contains, Table.has, Table.has, lookup_insert, Option.isSome_or]
  by_cases same : key = other
  · simp [same]
  · simp [same, Ne.symm same]

/-- No key is warned of twice. -/
def Unique (warnings : Warnings) : Prop :=
  (warnings.entries.map (·.1)).Nodup

theorem Unique.insert {warnings : Warnings} (unique : warnings.Unique)
    (key message : String) : (warnings.insert key message).Unique := by
  unfold Warnings.insert
  split
  · exact unique
  · rename_i absent
    have fresh : key ∉ warnings.entries.map (·.1) := by
      intro listed
      obtain ⟨⟨other, text⟩, member, rfl⟩ := List.mem_map.mp listed
      simp [contains, Table.has, Table.lookup_of_mem unique member] at absent
    unfold Unique
    rw [List.map_append]
    exact unique.append (List.nodup_singleton key) (List.disjoint_singleton.mpr fresh)

/-- All warnings but that of one key. -/
def without (warnings : Warnings) (removed : String) : Warnings :=
  ⟨warnings.entries.filter (·.1 != removed)⟩

theorem without_insert (warnings : Warnings) (key message removed : String) :
    (warnings.insert key message).without removed =
      if key = removed then warnings.without removed
      else (warnings.without removed).insert key message := by
  split
  · rename_i own
    unfold insert without
    split
    · rfl
    · simp [List.filter_append, own]
  · rename_i other
    have present : (warnings.without removed).contains key = warnings.contains key := by
      rw [contains, Table.has, without, Table.lookup_filter_ne _ other]
      rfl
    rw [insert, insert, present]
    split
    · rfl
    · simp [without, List.filter_append, other]

end Dossier.Warnings
