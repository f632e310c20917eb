import Dossier.Fetch.Plan
import Dossier.Proofs.Config
import Dossier.Proofs.Registry

/-!
What a plan asks for.
-/

namespace Dossier.ObjectPlan

theorem mem_queryFields {config : Config} {object : String} {available : List String}
    {field : String} :
    field ∈ (make config object available).queryFields ↔
      field = Record.idField ∨ field ∈ available ∧
        (field ∈ config.registry.linkFields object ∨ field ∈ config.displayFields object) := by
  simp only [make, mem_distinct, List.cons_append, List.mem_cons, List.mem_append, List.mem_filter,
    List.contains_iff_mem]
  tauto

/-- No store is asked for a field without a name. -/
theorem queryFields_named {config : Config} {object : String} {available : List String}
    {field : String} (queried : field ∈ (make config object available).queryFields) : field ≠ "" := by
  rcases mem_queryFields.mp queried with rfl | ⟨-, link | displayed⟩
  · decide
  · exact Registry.linkFields_named link
  · exact ((config.displayFields_displayable object).tidy field displayed).2

end Dossier.ObjectPlan
