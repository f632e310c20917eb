import Mathlib.Data.List.DropRight
import Dossier.Text.Blank

/-!
Trimmed texts.

Trimming is a projection: what it leaves begins and ends with something else than white space, and
is not changed by trimming again.
-/

namespace Dossier.Text

/-- The form of names, labels and identifiers: trimmed, and not empty. -/
def Tidy (s : String) : Prop :=
  trim s = s ∧ s ≠ ""

instance (s : String) : Decidable (Tidy s) :=
  inferInstanceAs (Decidable (_ ∧ _))

theorem trimChars_eq (cs : List Char) : trimChars cs = (cs.dropWhile isBlank).rdropWhile isBlank :=
  rfl

/-- What starts without white space still does after its end was trimmed. -/
theorem dropWhile_rdropWhile (cs : List Char) (start : cs.dropWhile isBlank = cs) :
    (cs.rdropWhile isBlank).dropWhile isBlank = cs.rdropWhile isBlank := by
  rw [List.dropWhile_eq_self_iff] at start ⊢
  intro some
  have part := List.rdropWhile_prefix isBlank cs
  rw [part.getElem some]
  exact start (Nat.lt_of_lt_of_le some part.length_le)

theorem trimChars_idem (cs : List Char) : trimChars (trimChars cs) = trimChars cs := by
  simp only [trimChars_eq]
  rw [dropWhile_rdropWhile _ (List.dropWhile_idempotent isBlank cs), List.rdropWhile_idempotent]

theorem trimChars_eq_nil {cs : List Char} : trimChars cs = [] ↔ cs.all isBlank = true := by
  rw [trimChars_eq, List.rdropWhile_eq_nil_iff, List.all_eq_true]
  constructor
  · intro rest
    rw [← List.dropWhile_eq_nil_iff]
    cases dropped : cs.dropWhile isBlank with
    | nil => rfl
    | cons first others =>
        have head := List.dropWhile_get_zero_not isBlank cs (by simp [dropped])
        refine absurd (rest first (by simp [dropped])) ?_
        simpa [dropped] using head
  · intro blank c member
    exact blank c ((List.dropWhile_sublist isBlank).mem member)

theorem trim_of_not_blank {s : String} (whole : ∀ c ∈ s.toList, isBlank c = false) : trim s = s := by
  have start : s.toList.dropWhile isBlank = s.toList :=
    List.dropWhile_eq_self_iff.mpr fun filled => by simp [whole _ (List.getElem_mem filled)]
  have last : s.toList.rdropWhile isBlank = s.toList :=
    List.rdropWhile_eq_self_iff.mpr fun filled => by simp [whole _ (List.getLast_mem filled)]
  rw [trim, trimChars_eq, start, last, String.ofList_toList]

theorem trim_idem (s : String) : trim (trim s) = trim s := by
  simp only [trim, String.toList_ofList, trimChars_idem]

theorem trim_eq_empty {s : String} : trim s = "" ↔ blank s = true := by
  rw [blank, ← trimChars_eq_nil, trim, ← String.toList_inj, String.toList_ofList,
    String.toList_empty]

theorem Tidy.not_blank {s : String} (tidy : Tidy s) : blank s = false := by
  rw [Bool.eq_false_iff]
  intro blank
  exact tidy.2 (tidy.1.symm.trans (trim_eq_empty.mpr blank))

theorem Tidy.trimmed? {s : String} (tidy : Tidy s) : Text.trimmed? s = some s := by
  rw [Text.trimmed?, tidy.not_blank, tidy.1]
  rfl

theorem tidy_of_trimmed? {s name : String} (trimmed : trimmed? s = some name) : Tidy name := by
  unfold trimmed? at trimmed
  split at trimmed
  · contradiction
  · rename_i full
    cases trimmed
    exact ⟨trim_idem s, fun empty => full (trim_eq_empty.mp empty)⟩

end Dossier.Text
