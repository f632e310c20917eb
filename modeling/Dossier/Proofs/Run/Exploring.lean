import Dossier.Proofs.Alert.Sanitize.Usable
import Dossier.Proofs.Fetch.Mirror
import Dossier.Proofs.Fetch.Returns
import Dossier.Proofs.Fetch.Steady
import Dossier.Proofs.Fetch.Warnings

/-!
What a run comes to.

A run with an account explores what its fetch has found, and a steady store has it find the same in
every state.  An alert either takes part in what the accounts trigger, or in the warnings.
-/

namespace Dossier

variable {σ : Type}

/-- A steady store, without its states. -/
def Answers.store (answers : Answers) (org : String) : Store Unit where
  org := org
  responsive := true
  describe object _ := (answers.describe object, ())
  query query _ := (answers.query query, ())

theorem Store.Gives.mirrors {store : Store σ} {answers : Answers} (gives : store.Gives answers) :
    store.Mirrors (answers.store store.org) fun _ => () where
  org := rfl
  describe object state := Prod.ext (gives.describe object state).symm rfl
  query query state := Prod.ext (gives.query query state).symm rfl

/-- What is fetched from a steady store does not depend on its state. -/
theorem Store.Gives.fetch_eq {store : Store σ} {answers : Answers} (gives : store.Gives answers)
    (config : Config) (accountIds : List String) (cache : FieldCache) (state other : σ) :
    (fetch store config accountIds cache state).1 = (fetch store config accountIds cache other).1 := by
  have seen := congrArg Prod.fst (fetch_mirrors gives.mirrors config accountIds cache state)
  have alsoSeen := congrArg Prod.fst (fetch_mirrors gives.mirrors config accountIds cache other)
  exact seen.symm.trans alsoSeen

/-- With an account to explore, a run on a store which responds is what its fetch makes of it. -/
theorem run_of_responsive {store : Store σ} {candidates : List String}
    (asked : (AccountId.sanitize candidates).isEmpty = false) (responsive : store.responsive = true)
    (config : Config) (alerts : List AlertDefinition) (timeout : Duration) (state : σ) :
    (run store config alerts candidates timeout state).1 =
      ((fetch store config (AccountId.sanitize candidates) FieldCache.empty state).1.map
        (Run.explore config alerts)).mapError .fetch := by
  simp only [run, asked, responsive, Bool.not_true, Bool.false_eq_true, if_false]
  generalize fetch store config (AccountId.sanitize candidates) FieldCache.empty state = told
  obtain ⟨outcome, cache, last⟩ := told
  cases outcome <;> rfl

/-- With an account to explore, a run which succeeds has explored what was fetched. -/
theorem run_eq_ok {store : Store σ} {config : Config} {alerts : List AlertDefinition}
    {candidates : List String} {timeout : Duration} {state : σ} {result : RunResult}
    (some : AccountId.sanitize candidates ≠ []) :
    (run store config alerts candidates timeout state).1 = .ok result ↔
      store.responsive = true ∧ ∃ fetched,
        (fetch store config (AccountId.sanitize candidates) FieldCache.empty state).1 = .ok fetched ∧
          result = Run.explore config alerts fetched := by
  have filled : (AccountId.sanitize candidates).isEmpty = false := List.isEmpty_eq_false_iff.mpr some
  cases responsive : store.responsive with
  | false => simp [run, filled, responsive]
  | true =>
      rw [run_of_responsive filled responsive]
      cases (fetch store config (AccountId.sanitize candidates) FieldCache.empty state).1 with
      | error error => simp [Except.map, Except.mapError]
      | ok fetched => simp [Except.map, Except.mapError, eq_comm]

/-- A run is about the accounts which it takes of its candidates. -/
theorem run_accountIds {store : Store σ} {config : Config} {alerts : List AlertDefinition}
    {candidates : List String} {timeout : Duration} {state : σ} {result : RunResult}
    (ran : (run store config alerts candidates timeout state).1 = .ok result) :
    result.accountIds = AccountId.sanitize candidates := by
  by_cases none : AccountId.sanitize candidates = []
  · simp only [run, none, List.isEmpty_nil, if_true] at ran
    cases ran
    exact none.symm
  · obtain ⟨-, fetched, succeeded, rfl⟩ := (run_eq_ok none).mp ran
    exact fetch_accountIds succeeded

namespace AlertDefinition

/-- What is told of an alert which cannot be evaluated. -/
def failure? (alert : AlertDefinition) : Option String :=
  match alert.rule.check with
  | .ok () => none
  | .error error => some (alert.label ++ ": " ++ error.message)

/-- The key of warnings about an alert. -/
def warningKey (alert : AlertDefinition) : String := "alert:" ++ alert.id

theorem failure?_of_ok {alert : AlertDefinition} {graph : AccountGraph} {outcome : Outcome}
    (evaluated : alert.evaluate graph = .ok outcome) : alert.failure? = none := by
  unfold evaluate at evaluated
  unfold failure?
  cases checked : alert.rule.check with
  | ok _ => rfl
  | error error => simp [checked] at evaluated

theorem evaluate_of_error {alert : AlertDefinition} {error : AlertError}
    (broken : alert.rule.check = .error error) (graph : AccountGraph) :
    alert.evaluate graph = .error error := by
  rw [evaluate, broken]

theorem failure?_of_error {alert : AlertDefinition} {graph : AccountGraph} {error : AlertError}
    (failed : alert.evaluate graph = .error error) :
    alert.failure? = some (alert.label ++ ": " ++ error.message) := by
  unfold evaluate at failed
  unfold failure?
  cases checked : alert.rule.check with
  | ok _ => simp [checked] at failed
  | error found =>
      simp only [checked, Except.error.injEq] at failed
      rw [failed]

theorem warningKey_eq {alert other : AlertDefinition} :
    alert.warningKey = other.warningKey ↔ alert.id = other.id := by
  unfold warningKey
  exact String.append_right_inj _

end AlertDefinition

namespace Run

/-- What the alerts have told under a key: the failure of the first of them which fails. -/
def alertWarning? (alerts : List AlertDefinition) (key : String) : Option String :=
  alerts.findSome? fun alert => if alert.warningKey = key then alert.failure? else none

theorem alertWarning?_cons (alert : AlertDefinition) (rest : List AlertDefinition) (key : String) :
    alertWarning? (alert :: rest) key =
      (if alert.warningKey = key then alert.failure? else none).or (alertWarning? rest key) := by
  rw [alertWarning?, List.findSome?_cons]
  split <;> simp [alertWarning?, *]

theorem alertWarning?_append (first rest : List AlertDefinition) (key : String) :
    alertWarning? (first ++ rest) key = (alertWarning? first key).or (alertWarning? rest key) :=
  List.findSome?_append

theorem alertWarnings_lookup (alerts : List AlertDefinition) (warnings : Warnings) (key : String) :
    (alertWarnings alerts warnings).entries.lookup key =
      (warnings.entries.lookup key).or (alertWarning? alerts key) := by
  induction alerts generalizing warnings with
  | nil => exact (Option.or_none).symm
  | cons alert rest ih =>
      rw [alertWarnings, List.foldl_cons, ← alertWarnings, ih, alertWarning?_cons, ← Option.or_assoc]
      congr 1
      unfold AlertDefinition.failure?
      cases alert.rule.check with
      | ok _ => simp
      | error error => exact Warnings.lookup_insert _ _ _ _

theorem triggered_of_ok {alert : AlertDefinition} {graph : AccountGraph} {outcome : Outcome}
    (evaluated : alert.evaluate graph = .ok outcome) :
    triggered [alert] graph =
      if outcome.passed then [Triggered.ofAlert alert outcome.found] else [] := by
  cases passed : outcome.passed <;> simp [triggered, evaluated, passed]

theorem triggered_of_error {alert : AlertDefinition} {graph : AccountGraph} {error : AlertError}
    (failed : alert.evaluate graph = .error error) : triggered [alert] graph = [] := by
  simp [triggered, failed]

theorem triggered_append (first rest : List AlertDefinition) (graph : AccountGraph) :
    triggered (first ++ rest) graph = triggered first graph ++ triggered rest graph :=
  List.filterMap_append

end Run

end Dossier
