import Dossier.Proofs.Alert.Sanitize.Supply
import Dossier.Run

/-!
Sanitized alerts can be evaluated.

The sanitizer and the checker know nothing of each other.  What the one emits is well formed, and
well-formed rules pass the other, so that every sanitized alert has an outcome on every account and
a run has nothing to tell about it.
-/

namespace Dossier

namespace Run

theorem alertWarnings_of_check {alerts : List AlertDefinition}
    (checked : ∀ alert ∈ alerts, alert.rule.check = .ok ()) (warnings : Warnings) :
    alertWarnings alerts warnings = warnings := by
  induction alerts with
  | nil => rfl
  | cons alert rest ih =>
      obtain ⟨first, others⟩ := List.forall_mem_cons.mp checked
      have same := ih others
      rw [alertWarnings] at same ⊢
      rw [List.foldl_cons, first]
      exact same

/-- No run with these alerts records that one of them could not be evaluated: there are no other
warnings than those of the fetch. -/
def Undisturbed (config : Config) (alerts : List AlertDefinition) : Prop :=
  ∀ (σ : Type) (store : Store σ) (candidates : List String) (timeout : Duration) (state : σ)
    (result : RunResult), (run store config alerts candidates timeout state).1 = .ok result →
      result.data.warnings = Warnings.empty ∨
        ∃ fetched, (fetch store config (AccountId.sanitize candidates) FieldCache.empty state).1 =
          .ok fetched ∧ result.data.warnings = fetched.warnings

theorem undisturbed_of_check (config : Config) {alerts : List AlertDefinition}
    (checked : ∀ alert ∈ alerts, alert.rule.check = .ok ()) : Undisturbed config alerts := by
  intro σ store candidates timeout state result completed
  simp only [run] at completed
  split at completed
  · cases completed
    exact .inl rfl
  · split at completed
    · contradiction
    · split at completed
      · rename_i fetched cache last answered
        cases completed
        refine .inr ⟨fetched, by rw [answered], ?_⟩
        exact alertWarnings_of_check checked fetched.warnings
      · contradiction

end Run

/-- Everything that the sanitizer emits is well formed, passes the check and is evaluated on every
account, so that no run with these alerts records a failure; and where the supply of identifiers is
fresh, every definition has one of its own. -/
theorem sanitizeAlerts_usable (fresh : Nat → String) (document : Json) :
    (∀ alert ∈ (sanitizeAlerts fresh document).alerts,
      alert.WellFormed ∧ alert.rule.check = .ok () ∧
        ∀ graph, ∃ outcome, alert.evaluate graph = .ok outcome) ∧
      (∀ config : Config, config.alerts = document →
        Run.Undisturbed config (config.loadAlerts fresh)) ∧
      (Sanitize.FreshFor fresh document →
        Sanitize.Identified (sanitizeAlerts fresh document).alerts) := by
  have sound := Sanitize.sanitizeAlerts_wellFormed fresh document
  refine ⟨fun alert member => ?_, fun config written => ?_, Sanitize.sanitizeAlerts_identified⟩
  · have checked := (sound alert member).rule.check
    exact ⟨sound alert member, checked,
      fun graph => ⟨_, AlertDefinition.evaluate_of_check checked graph⟩⟩
  · refine Run.undisturbed_of_check config fun alert member => ?_
    rw [Config.loadAlerts, written] at member
    exact (sound alert member).rule.check

/-- A supply of numbers is fresh for the watchlist, two of whose definitions receive one. -/
theorem sanitizeAlerts_usable_watchlist :
    Sanitize.FreshFor Sanitize.numbered Sanitize.watchlist ∧
      Sanitize.Identified (sanitizeAlerts Sanitize.numbered Sanitize.watchlist).alerts := by
  have supply : Sanitize.FreshFor Sanitize.numbered Sanitize.watchlist := by decide +kernel
  exact ⟨supply, (sanitizeAlerts_usable Sanitize.numbered Sanitize.watchlist).2.2 supply⟩

end Dossier
