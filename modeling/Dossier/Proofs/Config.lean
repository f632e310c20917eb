import Dossier.Config
import Dossier.Proofs.Table
import Dossier.Proofs.Text.Trimming

/-!
Fields on display.

Whatever an operator selects and whatever a registry has for its defaults, a type has few fields on
display, under distinct names, and its identifier is not one of them.
-/

namespace Dossier.Config

/-- Not too many fields, none of them twice, by trimmed names of which none is a spelling of the
identifier. -/
structure Displayable (fields : List String) : Prop where
  few : fields.length ≤ displayLimit
  unique : fields.Nodup
  tidy : ∀ field ∈ fields, Text.Tidy field
  notId : ∀ field ∈ fields, Text.sameIgnoringAsciiCase field Record.idField = false

theorem Displayable.nil : Displayable [] where
  few := Nat.zero_le _
  unique := .nil
  tidy := by simp
  notId := by simp

/-- The identifier stands before the fields on display. -/
theorem Displayable.identified {fields : List String} (displayable : Displayable fields) :
    (Record.idField :: fields).Nodup := by
  refine List.nodup_cons.mpr ⟨fun listed => ?_, displayable.unique⟩
  have spelled := displayable.notId _ listed
  simp [Text.sameIgnoringAsciiCase] at spelled

theorem sanitizeFields_displayable (fields : List String) : Displayable (sanitizeFields fields) := by
  have kept : ∀ field ∈ sanitizeFields fields, field ∈ fields.map Text.trim ∧
      field ≠ "" ∧ Text.sameIgnoringAsciiCase field Record.idField = false := by
    intro field member
    have filtered := List.mem_filter.mp (mem_distinct.mp (List.mem_of_mem_take member))
    simpa using filtered
  constructor
  · exact List.length_take_le _ _
  · exact (nodup_distinct _).sublist (List.take_sublist _ _)
  · intro field member
    obtain ⟨trimmed, filled, -⟩ := kept field member
    obtain ⟨written, -, rfl⟩ := List.mem_map.mp trimmed
    exact ⟨Text.trim_idem written, filled⟩
  · exact fun field member => (kept field member).2.2

theorem displayFields_displayable (config : Config) (object : String) :
    Displayable (config.displayFields object) := by
  unfold displayFields
  dsimp only
  split
  · exact sanitizeFields_displayable _
  · split
    · exact sanitizeFields_displayable _
    · exact .nil

end Dossier.Config
