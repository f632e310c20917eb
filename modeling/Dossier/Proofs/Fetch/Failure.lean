import Dossier.Proofs.Fetch.Coverage
import Dossier.Proofs.Fetch.Survey
import Dossier.Proofs.Store.Fixture
import Dossier.Store.Outage

/-!
How failures end a fetch, and what they leave of it.

A fetch ends with the first failure which it cannot do without, which is its last call.  If there is
none, it goes on with every other type: one of whose calls failed has no records, whatever was
reached before, and its first failure is what the warning tells of.
-/

namespace Dossier

variable {σ : Type}

namespace Event

/-- A failure which is not that of the schema of one type. -/
def isSevere (event : Event) : Bool :=
  event.failure.any fun error => !error.isRecoverable

theorem fatal?_eq_required {event : Event} {object : String} {error : StoreError} :
    event.fatal? = some (.required object error) ↔
      event.object = object ∧ object = EntityType.account ∧ event.failure = some error := by
  unfold fatal? Fetching.fatal? Fetching.needOf
  cases event.failure with
  | none => simp
  | some known =>
      by_cases account : event.object = EntityType.account
      · simp [account, eq_comm]
      · refine iff_of_false ?_ fun ⟨same, named, _⟩ => account (same.trans named)
        cases known.isRecoverable <;> simp [account]

theorem fatal?_eq_store {event : Event} {object : String} {error : StoreError} :
    event.fatal? = some (.store object error) ↔
      event.object = object ∧ object ≠ EntityType.account ∧ event.failure = some error ∧
        event.isSevere = true := by
  unfold fatal? Fetching.fatal? Fetching.needOf isSevere
  cases event.failure with
  | none => simp
  | some known =>
      by_cases account : event.object = EntityType.account
      · refine iff_of_false (by simp [account]) fun ⟨same, other, _⟩ => other (same ▸ account)
      · cases severe : known.isRecoverable with
        | true => simp [account, severe]
        | false =>
            have other : event.object = object → known = error → ¬ object = EntityType.account :=
              fun same _ => same ▸ account
            simpa [account, severe] using other

theorem fatal?_eq_none {event : Event} :
    event.fatal? = none ↔
      (event.object = EntityType.account → event.failure = none) ∧ event.isSevere = false := by
  unfold fatal? Fetching.fatal? Fetching.needOf isSevere
  cases event.failure with
  | none => simp
  | some known =>
      by_cases account : event.object = EntityType.account
      · simp [account]
      · simp [account]

end Event

/-- What a successful fetch shows of its calls. -/
structure Fetched.Reflects (config : Config) (events : List Event) (fetched : Fetched) : Prop where
  types : (fetched.records.map (·.1)).Perm (config.registry.objects.map (·.name))
  unique : fetched.warnings.Unique
  keys : ∀ object, object ∈ fetched.warnings.entries.map (·.1) ↔
    ∃ event ∈ events, event.object = object ∧ event.failure ≠ none
  warned : ∀ object, fetched.warnings.entries.lookup object =
    (events.findSome? (·.failureOf object)).map (·.warning (config.registry.label object))
  emptied : ∀ event ∈ events, event.failure ≠ none →
    fetched.records.lookup event.object = some []
  unplanned_iff : ∀ type ∈ config.registry.objects, fetched.plans.lookup type.name = none ↔
    ∃ error, ⟨.describe type.name, some error⟩ ∈ events

section Covered

open Fetching (Part Covers)

variable {names : List String} {events : List Event} {parts : List Part}

theorem Fetching.Covers.only (covers : Covers names events parts) (unique : names.Nodup) {part : Part}
    (member : part ∈ parts) : ∀ other ∈ parts, other.object = part.object → other = part :=
  fun _ there same => List.inj_on_of_nodup_map (covers.objects ▸ unique) there member same

theorem Fetching.Covers.mem (covers : Covers names events parts) {object : String}
    (member : object ∈ names) : ∃ part ∈ parts, part.object = object := by
  rw [← covers.objects] at member
  exact List.mem_map.mp member

theorem Fetching.Covers.reflects {config : Config} (valid : config.registry.Valid)
    (covers : Covers names events parts) (all : names.Perm (config.registry.objects.map (·.name)))
    {warnings : Warnings} (faithful : Faithful config events warnings)
    (accountIds missing : List String) :
    (Fetched.ofParts accountIds missing parts warnings).Reflects config events := by
  have unique := all.nodup_iff.mpr valid.unique
  refine ⟨?_, faithful.unique, fun _ => faithful.mem_keys, faithful.told,
    fun event member failed => ?_, fun type member => ?_⟩
  · have objects : (parts.map fun part => (part.object, part.records)).map (·.1) = names := by
      rw [List.map_map, ← covers.objects]
      rfl
    rw [Fetched.ofParts, objects]
    exact all
  · obtain ⟨part, inside, named⟩ := covers.mem (covers.about event member)
    have found := Fetched.lookup_records inside (covers.only unique inside) accountIds missing warnings
    rw [← named, found, (covers.shows part inside).emptied event member named.symm failed]
  · obtain ⟨part, inside, named⟩ := covers.mem (all.mem_iff.mpr (List.mem_map_of_mem member))
    have found := Fetched.lookup_parts inside (covers.only unique inside) (·.plan)
    rw [← named]
    exact (Eq.congr_left found).trans (covers.shows part inside).unplanned_iff

end Covered

/-- What a fetch comes to, by the calls which it made. -/
structure Classified (config : Config) (events : List Event) (result : Except FetchError Fetched) :
    Prop where
  /-- Whatever the failure of a call for the accounts is, it ends the fetch. -/
  required_iff : ∀ object error, result = .error (.required object error) ↔
    object = EntityType.account ∧
      ∃ event ∈ events, event.object = object ∧ event.failure = some error
  /-- For another type, the first failure which is not recoverable does. -/
  store_iff : ∀ object error, result = .error (.store object error) ↔
    object ≠ EntityType.account ∧
      ∃ event, events.find? (·.isSevere) = some event ∧ event.object = object ∧
        event.failure = some error
  ok : (¬ ∃ event ∈ events, event.object = EntityType.account ∧ event.failure ≠ none) →
    (¬ ∃ event, events.find? (·.isSevere) = some event ∧ event.object ≠ EntityType.account) →
      ∃ fetched, result = .ok fetched ∧ fetched.Reflects config events

/-- Only the last of its calls ends a fetch. -/
theorem EndsWith.only {error fatal : FetchError} {events : List Event} (ended : EndsWith error events)
    {event : Event} (member : event ∈ events) (found : event.fatal? = some fatal) :
    fatal = error := by
  obtain ⟨earlier, last, rfl, spared, told⟩ := ended
  rcases List.mem_append.mp member with early | late
  · rw [spared event early] at found
    contradiction
  · rw [List.mem_singleton.mp late, told] at found
    exact (Option.some.inj found).symm

theorem EndsWith.find?_severe {object : String} {error : StoreError} {events : List Event}
    (ended : EndsWith (.store object error) events) :
    ∃ event, events.find? (·.isSevere) = some event ∧ event.fatal? = some (.store object error) := by
  obtain ⟨earlier, last, rfl, spared, told⟩ := ended
  refine ⟨last, ?_, told⟩
  have quiet : earlier.find? (·.isSevere) = none := by
    refine List.find?_eq_none.mpr fun event member => ?_
    simp [(Event.fatal?_eq_none.mp (spared event member)).2]
  rw [List.find?_append, quiet, List.find?_singleton, (Event.fatal?_eq_store.mp told).2.2.2]
  rfl

section Classified

variable (store : Store σ) {config : Config} (accountIds : List String) (cache : FieldCache)
  (state : σ)

/-- A fetch ends with its first fatal failure, or it succeeds without one. -/
theorem fetch_reported (valid : config.registry.Valid) :
    (∃ fetched, (fetch store config accountIds cache state).1 = .ok fetched ∧
      fetched.Reflects config (transcript store config accountIds cache state) ∧
      ∀ event ∈ transcript store config accountIds cache state, event.fatal? = none) ∨
    ∃ error, (fetch store config accountIds cache state).1 = .error error ∧
      EndsWith error (transcript store config accountIds cache state) := by
  obtain ⟨names, all, reports⟩ := Fetching.stages_reports store valid accountIds
  have reached := reports ⟨(state, []), cache, Warnings.empty⟩ (.start config) (by simp)
  rw [← fetch_recorded, transcript, fetch]
  generalize (Fetching.stages ⟨store.recorded, config⟩ accountIds).run.run _ = result at reached
  cases reached with
  | stop ended => exact .inr ⟨_, rfl, ended⟩
  | @on value last events grown about faithful covers =>
      obtain ⟨parts, missing⟩ := value
      rw [List.nil_append] at grown
      rw [grown] at faithful
      refine .inl ⟨_, rfl, ?_, ?_⟩
      · simp only [grown]
        exact covers.reflects valid all faithful accountIds missing
      · simp only [grown]
        exact faithful.spared

theorem fetch_eq_error (valid : config.registry.Valid) (error : FetchError) :
    (fetch store config accountIds cache state).1 = .error error ↔
      ∃ event ∈ transcript store config accountIds cache state, event.fatal? = some error := by
  rcases fetch_reported store accountIds cache state valid with
    ⟨fetched, succeeded, -, spared⟩ | ⟨reason, failed, ended⟩
  · rw [succeeded]
    refine iff_of_false (by simp) fun ⟨event, member, found⟩ => ?_
    rw [spared event member] at found
    contradiction
  · rw [failed]
    constructor
    · intro same
      cases same
      obtain ⟨earlier, last, whole, -, told⟩ := ended
      exact ⟨last, by simp [whole], told⟩
    · rintro ⟨event, member, found⟩
      rw [ended.only member found]

/-- Failures of the accounts end a fetch, and so do failures which do not concern one type alone.
All others cost the fetch no more than the records of their type. -/
theorem fetch_classified (validated : config.registry.validate = .ok ()) :
    Classified config (transcript store config accountIds cache state)
      (fetch store config accountIds cache state).1 := by
  have valid := Registry.validate_eq_ok.mp validated
  have fails := fetch_eq_error store accountIds cache state valid
  constructor
  · intro object error
    rw [fails]
    simp only [Event.fatal?_eq_required]
    constructor
    · rintro ⟨event, member, named, account, failed⟩
      exact ⟨account, event, member, named, failed⟩
    · rintro ⟨account, event, member, named, failed⟩
      exact ⟨event, member, named, account, failed⟩
  · intro object error
    constructor
    · intro failed
      rcases fetch_reported store accountIds cache state valid with
        ⟨fetched, succeeded, -⟩ | ⟨reason, told, ended⟩
      · rw [succeeded] at failed
        contradiction
      · rw [told] at failed
        cases failed
        obtain ⟨event, first, fatal⟩ := ended.find?_severe
        obtain ⟨named, other, failed, -⟩ := Event.fatal?_eq_store.mp fatal
        exact ⟨other, event, first, named, failed⟩
    · rintro ⟨other, event, first, named, failed⟩
      refine (fails _).mpr ⟨event, List.mem_of_find?_eq_some first, ?_⟩
      exact Event.fatal?_eq_store.mpr ⟨named, other, failed, List.find?_some first⟩
  · intro accounts others
    rcases fetch_reported store accountIds cache state valid with
      ⟨fetched, succeeded, reflects, -⟩ | ⟨reason, failed, ended⟩
    · exact ⟨fetched, succeeded, reflects⟩
    · cases reason with
      | required object error =>
          obtain ⟨event, member, fatal⟩ := (fails _).mp failed
          obtain ⟨named, account, told⟩ := Event.fatal?_eq_required.mp fatal
          exact absurd ⟨event, member, named.trans account, by simp [told]⟩ accounts
      | store object error =>
          obtain ⟨event, first, fatal⟩ := ended.find?_severe
          obtain ⟨named, other, -⟩ := Event.fatal?_eq_store.mp fatal
          exact absurd ⟨event, first, named ▸ other⟩ others

end Classified

/-- Contact points of individuals cannot be asked for. -/
def Outage.lapse : Outage :=
  ⟨false, "ContactPointEmail", some "ParentId", 0, .ofApi "INVALID_FIELD" "No such column"⟩

/-- What was reached through contacts does not outlast the lapse. -/
theorem fetch_classified_lapse :
    ∃ fetched, (fetch (Fixture.households []).store.withOutages Config.empty ["001", "002"]
        FieldCache.empty ((), [.lapse])).1 = .ok fetched ∧
      fetched.records.lookup "ContactPointEmail" = some [] ∧
      fetched.warnings.entries.lookup "ContactPointEmail" =
        some "Contact Point Email: No such column (INVALID_FIELD)" := by
  have classified : Classified Config.empty _ _ := fetch_classified
    (Fixture.households []).store.withOutages ["001", "002"] FieldCache.empty ((), [.lapse]) rfl
  have mild : (transcript (Fixture.households []).store.withOutages Config.empty ["001", "002"]
      FieldCache.empty ((), [.lapse])).find? (·.isSevere) = none := by
    decide +kernel
  obtain ⟨fetched, succeeded, reflects⟩ := classified.ok (by decide +kernel) (by simp [mild])
  obtain ⟨event, member, named, failed⟩ : ∃ event ∈ transcript
      (Fixture.households []).store.withOutages Config.empty ["001", "002"] FieldCache.empty
      ((), [.lapse]), event.object = "ContactPointEmail" ∧ event.failure ≠ none := by
    decide +kernel
  refine ⟨fetched, succeeded, named ▸ reflects.emptied event member failed, ?_⟩
  rw [reflects.warned]
  decide +kernel

end Dossier
