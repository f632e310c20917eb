import Mathlib.Logic.Function.Basic
import Dossier.Proofs.Run.Exploring

/-!
Accounts which are explored at the same time.

Accounts share nothing but the warnings of a run.  Whichever account goes on to its next alert, its
own list of triggered alerts grows in list order; and since every account comes to the alerts in
that order, the first warning under a key is the same whoever inserts it.
-/

namespace Dossier.Run

/-- How far an account has come. -/
structure Progress where
  pending : List AlertDefinition
  triggered : List Triggered

/-- Accounts which are being explored, and the warnings which they share. -/
structure Exploration where
  progress : String → Progress
  warnings : Warnings

namespace Exploration

def start (alerts : List AlertDefinition) (warnings : Warnings) : Exploration :=
  ⟨fun _ => ⟨alerts, []⟩, warnings⟩

/-- The account goes on to its next alert, if there is one. -/
def advance (graph : String → AccountGraph) (exploration : Exploration) (account : String) :
    Exploration :=
  let known := (exploration.progress account).triggered
  match (exploration.progress account).pending with
  | [] => exploration
  | alert :: rest =>
      match alert.evaluate (graph account) with
      | .ok outcome =>
          let more := if outcome.passed then [Triggered.ofAlert alert outcome.found] else []
          { exploration with
            progress := Function.update exploration.progress account ⟨rest, known ++ more⟩ }
      | .error error =>
          { progress := Function.update exploration.progress account ⟨rest, known⟩
            warnings :=
              exploration.warnings.insert alert.warningKey (alert.label ++ ": " ++ error.message) }

/-- The accounts go on one by one, in the order of the schedule. -/
def follow (graph : String → AccountGraph) (schedule : List String) (exploration : Exploration) :
    Exploration :=
  schedule.foldl (advance graph) exploration

variable {graph : String → AccountGraph} {alerts : List AlertDefinition} {before : Warnings}
  {exploration : Exploration}

theorem advance_pending (account other : String) :
    ((exploration.advance graph account).progress other).pending =
      if other = account then (exploration.progress other).pending.tail
      else (exploration.progress other).pending := by
  unfold advance
  cases ahead : (exploration.progress account).pending with
  | nil =>
      by_cases own : other = account
      · simp [own, ahead]
      · simp [own]
  | cons alert rest =>
      by_cases own : other = account
      · subst own
        cases evaluated : alert.evaluate (graph other) <;> simp [evaluated, ahead]
      · cases evaluated : alert.evaluate (graph account) <;> simp [evaluated, own]

/-- An account has left as many alerts behind as it has had turns. -/
theorem follow_pending (schedule : List String) (account : String) :
    ((exploration.follow graph schedule).progress account).pending =
      (exploration.progress account).pending.drop (schedule.count account) := by
  induction schedule generalizing exploration with
  | nil => rfl
  | cons turn rest ih =>
      have later : ((exploration.follow graph (turn :: rest)).progress account).pending =
          (((exploration.advance graph turn).follow graph rest).progress account).pending := rfl
      rw [later, ih, advance_pending, List.count_cons]
      by_cases own : account = turn
      · subst own
        simp [List.drop_tail]
      · simp [own, Ne.symm own]

/-- What holds at any time: an account has triggered what it should have by the alerts which it has
left behind, and a key has no other warning than it had before or will have in the end. -/
structure Consistent (graph : String → AccountGraph) (alerts : List AlertDefinition)
    (before : Warnings) (exploration : Exploration) : Prop where
  halfway : ∀ account, ∃ done, alerts = done ++ (exploration.progress account).pending ∧
    (exploration.progress account).triggered = triggered done (graph account) ∧
      ∀ key, (alertWarning? done key).isSome →
        exploration.warnings.entries.lookup key = (alertWarnings alerts before).entries.lookup key
  told : ∀ key, exploration.warnings.entries.lookup key = before.entries.lookup key ∨
    exploration.warnings.entries.lookup key = (alertWarnings alerts before).entries.lookup key

theorem start_consistent (graph : String → AccountGraph) (alerts : List AlertDefinition)
    (before : Warnings) : Consistent graph alerts before (start alerts before) :=
  ⟨fun _ => ⟨[], rfl, rfl, by simp [alertWarning?]⟩, fun _ => .inl rfl⟩

theorem Consistent.passed {account : String} (consistent : Consistent graph alerts before exploration)
    {alert : AlertDefinition} {rest : List AlertDefinition}
    (ahead : (exploration.progress account).pending = alert :: rest) {outcome : Outcome}
    (evaluated : alert.evaluate (graph account) = .ok outcome) :
    Consistent graph alerts before
      { exploration with
        progress := Function.update exploration.progress account
          ⟨rest, (exploration.progress account).triggered ++
            if outcome.passed then [Triggered.ofAlert alert outcome.found] else []⟩ } := by
  refine ⟨fun other => ?_, consistent.told⟩
  by_cases own : other = account
  · subst own
    obtain ⟨done, whole, known, warned⟩ := consistent.halfway other
    have silent : alert.failure? = none := AlertDefinition.failure?_of_ok evaluated
    refine ⟨done ++ [alert], by simp [whole, ahead], ?_, fun key given => warned key ?_⟩
    · simp [triggered_append, known, triggered_of_ok evaluated]
    · simpa [alertWarning?_append, alertWarning?_cons, alertWarning?, silent] using given
  · simpa [own] using consistent.halfway other

/-- Once an alert has failed for an account, its key is settled.  The account has told what failed
before, so that either the key was settled already, or the alert is the first one to tell something
under it. -/
theorem Consistent.settles {account : String}
    (consistent : Consistent graph alerts before exploration) {alert : AlertDefinition}
    {rest : List AlertDefinition} (ahead : (exploration.progress account).pending = alert :: rest)
    {text : String} (failure : alert.failure? = some text) :
    (exploration.warnings.insert alert.warningKey text).entries.lookup alert.warningKey =
      (alertWarnings alerts before).entries.lookup alert.warningKey := by
  obtain ⟨done, whole, -, warned⟩ := consistent.halfway account
  have final : (alertWarnings alerts before).entries.lookup alert.warningKey =
      (before.entries.lookup alert.warningKey).or
        ((alertWarning? done alert.warningKey).or (some text)) := by
    rw [alertWarnings_lookup, whole, ahead, alertWarning?_append, alertWarning?_cons, if_pos rfl,
      failure]
    rfl
  rw [Warnings.lookup_insert, if_pos rfl]
  cases earlier : alertWarning? done alert.warningKey with
  | some settled =>
      rw [warned alert.warningKey (by simp [earlier]), final, earlier]
      simp
  | none =>
      rw [earlier, Option.none_or] at final
      rcases consistent.told alert.warningKey with same | same
      · rw [same, final]
      · rw [same, final]
        simp

theorem Consistent.failed {account : String} (consistent : Consistent graph alerts before exploration)
    {alert : AlertDefinition} {rest : List AlertDefinition}
    (ahead : (exploration.progress account).pending = alert :: rest) {text : String}
    (failure : alert.failure? = some text) (silent : triggered [alert] (graph account) = []) :
    Consistent graph alerts before
      { progress := Function.update exploration.progress account
          ⟨rest, (exploration.progress account).triggered⟩
        warnings := exploration.warnings.insert alert.warningKey text } := by
  have own := consistent.settles ahead failure
  have others : ∀ key, alert.warningKey ≠ key →
      (exploration.warnings.insert alert.warningKey text).entries.lookup key =
        exploration.warnings.entries.lookup key := by
    intro key other
    rw [Warnings.lookup_insert, if_neg other, Option.or_none]
  have kept : ∀ key, exploration.warnings.entries.lookup key =
      (alertWarnings alerts before).entries.lookup key →
        (exploration.warnings.insert alert.warningKey text).entries.lookup key =
          (alertWarnings alerts before).entries.lookup key := by
    intro key settled
    by_cases same : alert.warningKey = key
    · exact same ▸ own
    · exact (others key same).trans settled
  refine ⟨fun other => ?_, fun key => ?_⟩
  · obtain ⟨done, whole, known, warned⟩ := consistent.halfway other
    by_cases here : other = account
    · subst here
      refine ⟨done ++ [alert], by simp [whole, ahead], ?_, fun key given => ?_⟩
      · simp [triggered_append, known, silent]
      · by_cases same : alert.warningKey = key
        · exact same ▸ own
        · refine kept key (warned key ?_)
          simpa [alertWarning?_append, alertWarning?_cons, alertWarning?, same] using given
    · refine ⟨done, by simpa [here] using whole, by simpa [here] using known, fun key given => ?_⟩
      exact kept key (warned key given)
  · by_cases same : alert.warningKey = key
    · exact .inr (same ▸ own)
    · rw [others key same]
      exact consistent.told key

theorem Consistent.advance (consistent : Consistent graph alerts before exploration)
    (account : String) : Consistent graph alerts before (exploration.advance graph account) := by
  unfold Exploration.advance
  cases ahead : (exploration.progress account).pending with
  | nil => exact consistent
  | cons alert rest =>
      cases evaluated : alert.evaluate (graph account) with
      | ok outcome =>
          simp only [evaluated]
          exact consistent.passed ahead evaluated
      | error error =>
          simp only [evaluated]
          exact consistent.failed ahead (AlertDefinition.failure?_of_error evaluated)
            (triggered_of_error evaluated)

theorem Consistent.follow (consistent : Consistent graph alerts before exploration)
    (schedule : List String) :
    Consistent graph alerts before (exploration.follow graph schedule) := by
  induction schedule generalizing exploration with
  | nil => exact consistent
  | cons turn rest ih => exact ih (consistent.advance turn)

/-- An account which has had enough turns has triggered its alerts. -/
theorem follow_triggered {schedule : List String} {account : String}
    (enough : alerts.length ≤ schedule.count account) :
    (((start alerts before).follow graph schedule).progress account).triggered =
      triggered alerts (graph account) := by
  have consistent := (start_consistent graph alerts before).follow schedule
  obtain ⟨done, whole, known, -⟩ := consistent.halfway account
  rw [follow_pending] at whole
  have finished : done = alerts := by
    simpa [start, List.drop_eq_nil_of_le enough] using whole.symm
  rw [known, finished]

/-- Once some account has had enough turns, the warnings are those of one account alone. -/
theorem follow_warnings {schedule : List String} {account : String}
    (enough : alerts.length ≤ schedule.count account) (key : String) :
    ((start alerts before).follow graph schedule).warnings.entries.lookup key =
      (alertWarnings alerts before).entries.lookup key := by
  have consistent := (start_consistent graph alerts before).follow schedule
  obtain ⟨done, whole, -, warned⟩ := consistent.halfway account
  rw [follow_pending] at whole
  have finished : done = alerts := by
    simpa [start, List.drop_eq_nil_of_le enough] using whole.symm
  rw [finished] at warned
  cases told : alertWarning? alerts key with
  | some text => exact warned key (by simp [told])
  | none =>
      have unchanged : (alertWarnings alerts before).entries.lookup key = before.entries.lookup key := by
        rw [alertWarnings_lookup, told, Option.or_none]
      rcases consistent.told key with same | same
      · exact same.trans unchanged.symm
      · exact same

end Exploration

end Dossier.Run
