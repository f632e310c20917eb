import Dossier.Proofs.Run.Interleaving
import Dossier.Proofs.Store.Fixture

/-!
An alert which cannot be evaluated disturbs nothing.

It is never triggered, so that every payload stays as it is, and what is told of it stands under a
key of its own.
-/

namespace Dossier

variable {σ : Type}

/-- Two results are the same but for the alerts which were asked for, and the warnings. -/
structure RunResult.Agrees (result other : RunResult) : Prop where
  accountIds : result.accountIds = other.accountIds
  missingAccountIds : result.missingAccountIds = other.missingAccountIds
  accounts : result.data.accounts = other.data.accounts
  objects : result.data.objects = other.data.objects
  summary : result.data.summary = other.data.summary

/-- The first alert in list order which has the identifier and fails the check. -/
structure FirstFailing (alerts : List AlertDefinition) (id : String) (alert : AlertDefinition)
    (error : AlertError) : Prop where
  named : alert.id = id
  fails : alert.rule.check = .error error
  first : ∃ before after, alerts = before ++ alert :: after ∧
    ∀ earlier ∈ before, earlier.id = id → earlier.rule.check = .ok ()

namespace AlertDefinition

theorem failure?_eq_none {alert : AlertDefinition} :
    alert.failure? = none ↔ alert.rule.check = .ok () := by
  unfold failure?
  cases alert.rule.check <;> simp

theorem failure?_of_check {alert : AlertDefinition} {error : AlertError}
    (broken : alert.rule.check = .error error) :
    alert.failure? = some (alert.label ++ ": " ++ error.message) := by
  rw [failure?, broken]

end AlertDefinition

namespace FirstFailing

variable {alerts : List AlertDefinition} {id : String}

/-- Where one alert with the identifier fails, one is the first. -/
theorem of_mem {alert : AlertDefinition} (member : alert ∈ alerts) (named : alert.id = id)
    {error : AlertError} (fails : alert.rule.check = .error error) :
    ∃ first problem, FirstFailing alerts id first problem := by
  induction alerts with
  | nil => contradiction
  | cons head rest ih =>
      by_cases own : head.id = id ∧ head.failure? ≠ none
      · obtain ⟨same, told⟩ := own
        cases checked : head.rule.check with
        | ok _ => exact absurd (AlertDefinition.failure?_eq_none.mpr checked) told
        | error problem => exact ⟨head, problem, same, checked, [], rest, rfl, by simp⟩
      · have passes : head.id = id → head.rule.check = .ok () := by
          intro same
          by_contra failing
          exact own ⟨same, fun silent => failing (AlertDefinition.failure?_eq_none.mp silent)⟩
        have later : alert ∈ rest := by
          rcases List.mem_cons.mp member with same | later
          · rw [same] at named fails
            rw [passes named] at fails
            contradiction
          · exact later
        obtain ⟨first, problem, same, broken, before, after, whole, sound⟩ := ih later
        refine ⟨first, problem, same, broken, head :: before, after, by simp [whole], ?_⟩
        exact List.forall_mem_cons.mpr ⟨passes, sound⟩

theorem alertWarning? {alert : AlertDefinition} {error : AlertError}
    (first : FirstFailing alerts id alert error) :
    Run.alertWarning? alerts alert.warningKey = some (alert.label ++ ": " ++ error.message) := by
  obtain ⟨before, after, whole, sound⟩ := first.first
  have silent : Run.alertWarning? before alert.warningKey = none := by
    refine List.findSome?_eq_none_iff.mpr fun earlier member => ?_
    split
    · rename_i same
      have named : earlier.id = id := (AlertDefinition.warningKey_eq.mp same).trans first.named
      exact AlertDefinition.failure?_eq_none.mpr (sound earlier member named)
    · rfl
  rw [whole, Run.alertWarning?_append, silent, Run.alertWarning?_cons, if_pos rfl,
    AlertDefinition.failure?_of_check first.fails]
  rfl

end FirstFailing

namespace Run

/-- Whatever turns the accounts take, in the end they have the payloads and the warnings of the
result. -/
def OrderFree (config : Config) (alerts : List AlertDefinition) (fetched : Fetched)
    (result : RunResult) : Prop :=
  let resolver := Resolver.make config.registry fetched.records fetched.linkSources
  let layout := Layout.make config fetched.plans
  ∀ schedule : List String,
    (∀ account ∈ result.accountIds, alerts.length ≤ schedule.count account) →
      let explored :=
        (Exploration.start alerts fetched.warnings).follow resolver.resolve schedule
      result.data.accounts = result.accountIds.map (fun account =>
        (layout.render (resolver.resolve account)).attachAlerts
          (explored.progress account).triggered) ∧
        ∀ key, explored.warnings.entries.lookup key = result.data.warnings.entries.lookup key

theorem explore_orderFree (config : Config) (alerts : List AlertDefinition) {fetched : Fetched}
    (accounts : fetched.accountIds ≠ []) :
    OrderFree config alerts fetched (explore config alerts fetched) := by
  intro schedule enough explored
  let resolver := Resolver.make config.registry fetched.records fetched.linkSources
  refine ⟨List.map_congr_left fun account member => ?_, fun key => ?_⟩
  · have known : (explored.progress account).triggered =
        triggered alerts (resolver.resolve account) :=
      Exploration.follow_triggered (enough account member)
    rw [known]
    rfl
  · obtain ⟨account, member⟩ := List.exists_mem_of_ne_nil _ accounts
    exact Exploration.follow_warnings (enough account member) key

variable {first rest : List AlertDefinition} {bad : AlertDefinition} {error : AlertError}

theorem triggered_insert (broken : bad.rule.check = .error error) (graph : AccountGraph) :
    triggered (first ++ bad :: rest) graph = triggered (first ++ rest) graph := by
  have silent : triggered [bad] graph = [] :=
    triggered_of_error (AlertDefinition.evaluate_of_error broken graph)
  rw [List.append_cons, triggered_append, triggered_append, triggered_append, silent,
    List.append_nil]

theorem explore_agrees (config : Config) (fetched : Fetched) (broken : bad.rule.check = .error error) :
    (explore config (first ++ bad :: rest) fetched).Agrees
      (explore config (first ++ rest) fetched) := by
  refine ⟨rfl, rfl, List.map_congr_left fun account _ => ?_, rfl, rfl⟩
  simp only [exploreAccount, triggered_insert broken]

theorem alertWarning?_insert {key : String} (other : bad.warningKey ≠ key) :
    alertWarning? (first ++ bad :: rest) key = alertWarning? (first ++ rest) key := by
  rw [alertWarning?_append, alertWarning?_append, alertWarning?_cons, if_neg other, Option.none_or]

end Run

/-- One bad alert never disturbs the others.  Wherever it is inserted, the run is the same but for the
warning under its key, which is that of a type of this name if there is one, or else tells of the
first failing alert with this identifier; and the order in which the accounts are explored does not
matter. -/
theorem run_undisturbed {store : Store σ} {answers : Answers} (gives : store.Gives answers)
    (config : Config) (timeout : Duration) {candidates : List String}
    (asked : AccountId.sanitize candidates ≠ []) {first rest : List AlertDefinition}
    {state : σ} {result : RunResult}
    (ran : (run store config (first ++ rest) candidates timeout state).1 = .ok result)
    {bad : AlertDefinition} {error : AlertError} (broken : bad.rule.check = .error error)
    (later : σ) :
    ∃ fetched disturbed,
      (fetch store config (AccountId.sanitize candidates) FieldCache.empty later).1 = .ok fetched ∧
      (run store config (first ++ bad :: rest) candidates timeout later).1 = .ok disturbed ∧
      disturbed.Agrees result ∧
      (∀ key, bad.warningKey ≠ key →
        disturbed.data.warnings.entries.lookup key = result.data.warnings.entries.lookup key) ∧
      (∃ failing problem, FirstFailing (first ++ bad :: rest) bad.id failing problem ∧
        disturbed.data.warnings.entries.lookup bad.warningKey =
          (fetched.warnings.entries.lookup bad.warningKey).or
            (some (failing.label ++ ": " ++ problem.message))) ∧
      Run.OrderFree config (first ++ bad :: rest) fetched disturbed := by
  obtain ⟨responsive, fetched, succeeded, rfl⟩ := (run_eq_ok asked).mp ran
  have again : (fetch store config (AccountId.sanitize candidates) FieldCache.empty later).1 =
      .ok fetched := (gives.fetch_eq config _ _ later state).trans succeeded
  have accounts : fetched.accountIds ≠ [] := fetch_accountIds succeeded ▸ asked
  obtain ⟨failing, problem, firstFailing⟩ : ∃ failing problem,
      FirstFailing (first ++ bad :: rest) bad.id failing problem :=
    FirstFailing.of_mem (List.mem_append_right _ List.mem_cons_self) rfl broken
  have named : failing.warningKey = bad.warningKey :=
    AlertDefinition.warningKey_eq.mpr firstFailing.named
  refine ⟨fetched, _, again, (run_eq_ok asked).mpr ⟨responsive, fetched, again, rfl⟩,
    Run.explore_agrees config fetched broken, fun key other => ?_,
    ⟨failing, problem, firstFailing, ?_⟩, Run.explore_orderFree config _ accounts⟩
  · exact (Run.alertWarnings_lookup _ _ _).trans
      ((congrArg _ (Run.alertWarning?_insert other)).trans (Run.alertWarnings_lookup _ _ _).symm)
  · rw [← named]
    exact (Run.alertWarnings_lookup _ _ _).trans (congrArg _ firstFailing.alertWarning?)

/-- An alert with a filter that lacks its value. -/
def valueless : AlertDefinition :=
  ⟨"hollow", "No value", none, .simple, .simple [⟨"Case", [⟨"Status", .equals, none⟩]⟩]⟩

/-- An alert of the same identifier, with no filter at all. -/
def filterless : AlertDefinition :=
  ⟨"hollow", "No filter", none, .simple, .simple []⟩

theorem run_undisturbed_hollow :
    ∃ disturbed, (run (Fixture.households []).store Config.empty [valueless, filterless]
        ["001000000000001AAA"] Run.defaultTimeout ()).1 = .ok disturbed ∧
      disturbed.data.warnings.entries.lookup "alert:hollow" =
        some "No value: operator equals of Case.Status requires a value" := by
  have asked : AccountId.sanitize ["001000000000001AAA"] ≠ [] := by decide +kernel
  obtain ⟨result, ran, -⟩ := @Fixture.succeeds _ _
    (run (Fixture.households []).store Config.empty ([valueless] ++ []) ["001000000000001AAA"]
      Run.defaultTimeout ()).1 (fun _ => true) (by decide +kernel)
  have broken : filterless.rule.check = .error .emptyRule := rfl
  obtain ⟨fetched, disturbed, succeeded, disturbedRan, -, -, ⟨failing, problem, first, told⟩, -⟩ :=
    run_undisturbed (Fixture.households []).gives Config.empty Run.defaultTimeout asked ran broken ()
  obtain ⟨known, found, unwarned⟩ := @Fixture.succeeds _ _
    (fetch (Fixture.households []).store Config.empty (AccountId.sanitize ["001000000000001AAA"])
      FieldCache.empty ()).1 (fun fetched => fetched.warnings.entries.lookup "alert:hollow" == none)
    (by decide +kernel)
  cases Except.ok.inj (found.symm.trans succeeded)
  refine ⟨disturbed, disturbedRan, told.trans ?_⟩
  obtain ⟨before, after, whole, sound⟩ := first.first
  cases before with
  | nil =>
      obtain ⟨rfl, -⟩ := List.cons.inj whole
      cases first.fails
      rw [show filterless.warningKey = "alert:hollow" from rfl, eq_of_beq unwarned]
      rfl
  | cons head others =>
      obtain ⟨rfl, -⟩ := List.cons.inj whole
      cases sound valueless List.mem_cons_self rfl

end Dossier
