import Mathlib.Data.List.Nodup
import Dossier.Proofs.Fetch.Mirror
import Dossier.Proofs.Fetch.Yield

/-!
Transcripts of fetches.

The transcript of a fetch lists its calls, in order, and how each of them failed, if it did.  After
each step the warnings are those of the transcript so far, and nothing in it is fatal, or else the
fetch has just ended with the failure which the last event is.
-/

namespace Dossier

variable {σ α β : Type}

/-- A call, and its failure, if it failed. -/
structure Event where
  call : Call
  failure : Option StoreError
deriving DecidableEq

/-- The accounts cannot be done without. -/
def Fetching.needOf (object : String) : Fetching.Need :=
  if object = EntityType.account then .required else .optional

namespace Event

def object (event : Event) : String :=
  event.call.object

def failureOf (object : String) (event : Event) : Option StoreError :=
  if event.object = object then event.failure else none

/-- Why the event ends the fetch, if it does. -/
def fatal? (event : Event) : Option FetchError :=
  event.failure.bind (Fetching.fatal? event.object (Fetching.needOf event.object))

end Event

/-- The store with a transcript of its answers. -/
def Store.recorded (store : Store σ) : Store (σ × List Event) where
  org := store.org
  responsive := store.responsive
  describe object state :=
    let (answer, inner) := store.describe object state.1
    (answer, inner, state.2 ++ [⟨.describe object, failure? answer⟩])
  query query state :=
    let (answer, inner) := store.query query state.1
    (answer, inner, state.2 ++ [⟨.query query, failure? answer⟩])

theorem Store.recorded_mirrors (store : Store σ) : store.recorded.Mirrors store Prod.fst :=
  ⟨rfl, fun _ _ => rfl, fun _ _ => rfl⟩

theorem Store.recorded_mirrors_logged (store : Store σ) :
    store.recorded.Mirrors store.logged fun state => (state.1, state.2.map (·.call)) :=
  ⟨rfl, fun _ _ => by simp [recorded, logged], fun _ _ => by simp [recorded, logged]⟩

/-- The calls of a fetch, in order, and how they failed. -/
def transcript (store : Store σ) (config : Config) (accountIds : List String) (cache : FieldCache)
    (state : σ) : List Event :=
  (fetch store.recorded config accountIds cache (state, [])).2.2.2

theorem fetch_recorded (store : Store σ) (config : Config) (accountIds : List String)
    (cache : FieldCache) (state : σ) :
    (fetch store.recorded config accountIds cache (state, [])).1 =
      (fetch store config accountIds cache state).1 := by
  have mirrored := fetch_mirrors store.recorded_mirrors config accountIds cache (state, [])
  rw [mirrored]
  rfl

/-- The calls of the transcript are those which a log of the store has. -/
theorem transcript_calls (store : Store σ) (config : Config) (accountIds : List String)
    (cache : FieldCache) (state : σ) :
    (transcript store config accountIds cache state).map (·.call) =
      (fetch store.logged config accountIds cache (state, [])).2.2.2 := by
  have mirrored := fetch_mirrors store.recorded_mirrors_logged config accountIds cache (state, [])
  simp only [List.map_nil] at mirrored
  rw [mirrored]
  rfl

/-- The store is asked for the fields of a type, or they are known. -/
theorem FieldCache.fields_recorded (cache : FieldCache) (store : Store σ) (object : String)
    (state : σ × List Event) :
    (cache.fields store.recorded object state).2.2.2 =
        state.2 ++ [⟨.describe object, failure? (cache.fields store.recorded object state).1⟩] ∨
      (cache.fields store.recorded object state).2.2.2 = state.2 ∧
        failure? (cache.fields store.recorded object state).1 = none := by
  unfold fields
  split
  · exact .inr ⟨rfl, rfl⟩
  · refine .inl ?_
    simp only [Store.recorded]
    cases (store.describe object state.1).1 <;> rfl

/-- What holds as long as a fetch goes on: it warns of the first failure of each type, and none of
the failures so far was fatal. -/
structure Faithful (config : Config) (events : List Event) (warnings : Warnings) : Prop where
  unique : warnings.Unique
  told : ∀ object, warnings.entries.lookup object =
    (events.findSome? (·.failureOf object)).map (·.warning (config.registry.label object))
  spared : ∀ event ∈ events, event.fatal? = none

namespace Faithful

variable {config : Config} {events : List Event} {warnings : Warnings}

theorem start (config : Config) : Faithful config [] Warnings.empty :=
  ⟨.nil, fun _ => rfl, by simp⟩

theorem add (faithful : Faithful config events warnings) {event : Event}
    (spared : event.fatal? = none) :
    Faithful config (events ++ [event])
      (Fetching.warn config event.object event.failure warnings) := by
  refine ⟨?_, fun object => ?_, List.forall_mem_append.mpr ⟨faithful.spared, by simpa using spared⟩⟩
  · unfold Fetching.warn
    split
    · exact faithful.unique
    · exact faithful.unique.insert _ _
  · rw [Fetching.lookup_warn, faithful.told, List.findSome?_append, Option.map_or]
    simp [Event.failureOf]

/-- The types which are warned of are those of which a call failed. -/
theorem mem_keys (faithful : Faithful config events warnings) {object : String} :
    object ∈ warnings.entries.map (·.1) ↔
      ∃ event ∈ events, event.object = object ∧ event.failure ≠ none := by
  have listed : object ∈ warnings.entries.map (·.1) ↔
      (warnings.entries.lookup object).isSome = true := (warnings.contains_iff object).symm
  rw [listed, faithful.told, Option.isSome_map, List.findSome?_isSome_iff]
  refine exists_congr fun event => and_congr_right fun _ => ?_
  unfold Event.failureOf
  by_cases same : event.object = object
  · simp [same, Option.isSome_iff_ne_none]
  · simp [same]

theorem clean (faithful : Faithful config events warnings) {object : String}
    (unfailed : ∀ event ∈ events, event.object = object → event.failure = none) :
    warnings.contains object = false := by
  have absent : object ∉ warnings.entries.map (·.1) := by
    rw [faithful.mem_keys]
    rintro ⟨event, member, named, failed⟩
    exact failed (unfailed event member named)
  rw [Warnings.contains, Table.has, Table.lookup_eq_none absent]
  rfl

end Faithful

/-- The fetch ends with its first fatal failure. -/
def EndsWith (error : FetchError) (events : List Event) : Prop :=
  ∃ earlier last, events = earlier ++ [last] ∧ (∀ event ∈ earlier, event.fatal? = none) ∧
    last.fatal? = some error

namespace Fetching

variable {store : Store σ} {config : Config}

/-- How a step ends which is about the types of these names: it goes on, after events about them of
which `told` holds, or it ends the fetch. -/
inductive Reached (config : Config) (names : List String) (told : List Event → α → Prop)
    (before : List Event) : Except FetchError α × FetchState (σ × List Event) → Prop where
  | on {value : α} {last : FetchState (σ × List Event)} (events : List Event)
      (grown : last.store.2 = before ++ events) (about : ∀ event ∈ events, event.object ∈ names)
      (faithful : Faithful config last.store.2 last.warnings) (holds : told events value) :
      Reached config names told before (.ok value, last)
  | stop {error : FetchError} {last : FetchState (σ × List Event)}
      (ended : EndsWith error last.store.2) : Reached config names told before (.error error, last)

theorem Reached.after {names later : List String} {told : List Event → α → Prop}
    {before events : List Event} {result : Except FetchError α × FetchState (σ × List Event)}
    (among : later ⊆ names) (about : ∀ event ∈ events, event.object ∈ names)
    (reached : Reached config later (fun more value => told (events ++ more) value)
      (before ++ events) result) :
    Reached config names told before result := by
  cases reached with
  | stop ended => exact .stop ended
  | on more grown aboutLater faithful holds =>
      refine .on (events ++ more) (by rw [grown, List.append_assoc]) ?_ faithful holds
      exact List.forall_mem_append.mpr ⟨about, fun event now => among (aboutLater event now)⟩

/-- Where no call about these types has failed, the step ends as it should. -/
def Reports (config : Config) (names : List String) (step : Fetching (σ × List Event) α)
    (told : List Event → α → Prop) : Prop :=
  ∀ state, Faithful config state.store.2 state.warnings →
    (∀ event ∈ state.store.2, event.object ∈ names → event.failure = none) →
      Reached config names told state.store.2 (step.run.run state)

section Steps

variable {names : List String} {step : Fetching (σ × List Event) α}
  {next : α → Fetching (σ × List Event) β} {told : List Event → α → Prop}
  {goal : List Event → β → Prop}

theorem pure_reports {value : α} (holds : told [] value) :
    Reports config names (pure value : Fetching (σ × List Event) α) told := by
  intro state faithful unfailed
  exact .on [] (List.append_nil _).symm (by simp) faithful holds

theorem Reports.imp {goal : List Event → α → Prop} (reports : Reports config names step told)
    (weaker : ∀ events value, (∀ event ∈ events, event.object ∈ names) → told events value →
      goal events value) :
    Reports config names step goal := by
  intro state faithful unfailed
  have reached := reports state faithful unfailed
  generalize step.run.run state = result at reached
  cases reached with
  | on events grown about faithful holds =>
      exact .on events grown about faithful (weaker events _ about holds)
  | stop ended => exact .stop ended

/-- What follows a step is about types none of whose calls in it failed. -/
theorem Reports.bind {first : List String} (reports : Reports config first step told)
    (inside : first ⊆ names)
    (rest : ∀ events value, (∀ event ∈ events, event.object ∈ first) → told events value →
      ∃ later, later ⊆ names ∧ (∀ event ∈ events, event.object ∈ later → event.failure = none) ∧
        Reports config later (next value) fun more result => goal (events ++ more) result) :
    Reports config names (step >>= next) goal := by
  intro state faithful unfailed
  have reached := reports state faithful fun event member named =>
    unfailed event member (inside named)
  rw [ExceptT.run_bind, StateT.run_bind]
  generalize step.run.run state = result at reached
  cases reached with
  | stop ended => exact .stop ended
  | @on value middle events grown about faithful holds =>
      -- After a failure, `later` leaves out the type which failed.
      obtain ⟨later, among, unharmed, follows⟩ := rest events value about holds
      have clean : ∀ event ∈ middle.store.2, event.object ∈ later → event.failure = none := by
        rw [grown]
        refine List.forall_mem_append.mpr ⟨fun event earlier named => ?_, unharmed⟩
        exact unfailed event earlier (among named)
      have reached := follows middle faithful clean
      rw [grown] at reached
      exact reached.after among fun event member => inside (about event member)

/-- One step after the other, about types which they do not share. -/
theorem Reports.andThen {first later : List String} (reports : Reports config first step told)
    (apart : first.Disjoint later)
    (rest : ∀ events value, (∀ event ∈ events, event.object ∈ first) → told events value →
      Reports config later (next value) fun more result => goal (events ++ more) result) :
    Reports config (first ++ later) (step >>= next) goal := by
  refine reports.bind (List.subset_append_left _ _) fun events value about holds => ?_
  refine ⟨later, List.subset_append_right _ _, fun event member named => ?_, ?_⟩
  · exact (apart (about event member) named).elim
  · exact rest events value about holds

theorem Reports.map (reports : Reports config names step told) (f : α → β)
    (holds : ∀ events value, told events value → goal events (f value)) :
    Reports config names (do return f (← step)) goal := by
  refine reports.bind (List.Subset.refl _) fun events value about known => ?_
  refine ⟨[], List.nil_subset _, by simp, pure_reports ?_⟩
  rw [List.append_nil]
  exact holds events value known

theorem get_bind_reports {next : FetchState (σ × List Event) → Fetching (σ × List Event) β}
    (rest : ∀ state, (∀ name ∈ names, state.warnings.contains name = false) →
      Reports config names (next state) goal) :
    Reports config names (get >>= next) goal := by
  intro state faithful unfailed
  refine rest state (fun name member => faithful.clean fun event there same => ?_) state faithful
    unfailed
  exact unfailed event there (same ▸ member)

end Steps

/-- A step which makes the call, or which knows its answer. -/
def Asks (call : Call) (step : Fetching (σ × List Event) (Except StoreError α)) : Prop :=
  ∀ state, ∃ answer last, step.run.run state = (.ok answer, last) ∧
    last.warnings = state.warnings ∧
    (last.store.2 = state.store.2 ++ [⟨call, failure? answer⟩] ∨
      last.store.2 = state.store.2 ∧ failure? answer = none)

theorem describe_asks (store : Store σ) (config : Config) (object : String) :
    Asks (.describe object) (describe ⟨store.recorded, config⟩ object) := by
  intro state
  exact ⟨_, _, rfl, rfl, FieldCache.fields_recorded state.cache store object state.store⟩

theorem ask_asks (store : Store σ) (config : Config) (query : Query) :
    Asks (.query query) (ask ⟨store.recorded, config⟩ query) :=
  fun _ => ⟨_, _, rfl, rfl, .inl rfl⟩

theorem degrade_eq (setting : Setting σ) (object : String) (error : StoreError) (need : Need) :
    degrade setting object error need =
      match fatal? object need error with
      | some fatal => throw fatal
      | none => modify fun state =>
          { state with
            warnings := state.warnings.insert object
              (error.warning (setting.config.registry.label object)) } := by
  unfold degrade fatal?
  split
  · rfl
  · split <;> rfl

/-- A step goes on with the answer to its call, or without the type which the call was for. -/
theorem Asks.reports {call : Call} {step : Fetching (σ × List Event) (Except StoreError α)}
    (asks : Asks call step) {next : Except StoreError α → Fetching (σ × List Event) β}
    {told : List Event → β → Prop} {absent : β}
    (sound : ∀ value events, (∀ event ∈ events, event = ⟨call, none⟩) →
      Reports config [call.object] (next (.ok value)) fun more result => told (events ++ more) result)
    (failed : ∀ error, next (.error error) = do
      degrade ⟨store.recorded, config⟩ call.object error (needOf call.object)
      return absent)
    (gone : ∀ error, told [⟨call, some error⟩] absent) :
    Reports config [call.object] (step >>= next) told := by
  intro state faithful unfailed
  obtain ⟨answer, middle, ran, kept, logged⟩ := asks state
  rw [ExceptT.run_bind, StateT.run_bind, ran]
  change Reached config [call.object] told state.store.2 ((next answer).run.run middle)
  cases answer with
  | ok value =>
      have known : ∃ events, middle.store.2 = state.store.2 ++ events ∧
          (∀ event ∈ events, event = ⟨call, none⟩) ∧
          Faithful config middle.store.2 middle.warnings := by
        rw [kept]
        rcases logged with made | ⟨unmade, -⟩
        · exact ⟨_, made, by simp [failure?], made ▸ faithful.add rfl⟩
        · exact ⟨[], by simp [unmade], by simp, unmade ▸ faithful⟩
      obtain ⟨events, grown, quiet, faithful⟩ := known
      have clean : ∀ event ∈ middle.store.2, event.object ∈ [call.object] → event.failure = none := by
        rw [grown]
        exact List.forall_mem_append.mpr ⟨unfailed, fun event now _ => by rw [quiet event now]⟩
      have reached := sound value events quiet middle faithful clean
      rw [grown] at reached
      exact reached.after (List.Subset.refl _) fun event member => by
        simp [quiet event member, Event.object]
  | error error =>
      -- The warnings lag one event behind the transcript until the type is degraded.
      have made : middle.store.2 = state.store.2 ++ [⟨call, some error⟩] := by
        simpa [failure?] using logged
      rw [failed, degrade_eq]
      cases found : fatal? call.object (needOf call.object) error with
      | some fatal => exact .stop ⟨_, _, made, faithful.spared, found⟩
      | none =>
          refine .on _ made (by simp [Event.object]) ?_ (gone error)
          change Faithful config middle.store.2 (middle.warnings.insert _ _)
          rw [made, kept]
          exact faithful.add found

end Fetching

end Dossier
