import Dossier.Fetch.Basic

/-!
Steps of a fetch on a steady store.

A steady store answers every call alike, whatever its state.  On such a store, and with a cache
which holds nothing that the store would not say, neither the state of the store nor the cache
matters: a step is known by its answer and by the warnings which it adds.
-/

namespace Dossier

/-- Answers which depend on nothing but the call. -/
structure Answers where
  describe : String → Except StoreError (List String)
  query : Query → Except StoreError (List Record)

variable {σ : Type}

namespace FieldCache

/-- The fields which are remembered of a type. -/
def fields? (cache : FieldCache) (org object : String) : Option (List String) :=
  cache.entries.lookup (org, object)

/-- The cache with the fields of one more type. -/
def insert (cache : FieldCache) (org object : String) (fields : List String) : FieldCache :=
  ⟨((org, object), fields) :: cache.entries⟩

theorem fields?_insert (cache : FieldCache) (org object : String) (fields : List String)
    (other name : String) :
    (cache.insert org object fields).fields? other name =
      if other = org ∧ name = object then some fields else cache.fields? other name := by
  unfold fields? insert
  rw [List.lookup_cons]
  by_cases same : other = org ∧ name = object
  · simp [same]
  · have apart : ((other, name) == (org, object)) = false := by simpa using same
    rw [if_neg same, apart]

/-- The cache after an answer of a store.  A failure is not remembered. -/
def learn (cache : FieldCache) (org object : String) : Except StoreError (List String) → FieldCache
  | .ok fields => cache.insert org object fields
  | .error _ => cache

/-- A type whose fields are remembered is not asked for. -/
theorem fields_of_known {cache : FieldCache} {store : Store σ} {object : String}
    {fields : List String} (known : cache.fields? store.org object = some fields) (state : σ) :
    cache.fields store object state = (.ok fields, cache, state) := by
  unfold FieldCache.fields
  rw [show cache.entries.lookup (store.org, object) = some fields from known]

/-- Of other types the store is asked, and what it tells is remembered. -/
theorem fields_of_unknown {cache : FieldCache} {store : Store σ} {object : String}
    (unknown : cache.fields? store.org object = none) (state : σ) :
    cache.fields store object state =
      ((store.describe object state).1,
        cache.learn store.org object (store.describe object state).1,
        (store.describe object state).2) := by
  unfold FieldCache.fields
  rw [show cache.entries.lookup (store.org, object) = none from unknown]
  obtain ⟨answer, after⟩ := store.describe object state
  cases answer <;> rfl

/-- A failure leaves the cache as it is. -/
theorem fields_failed {cache : FieldCache} {store : Store σ} {object : String} {state : σ}
    {error : StoreError} (failed : (cache.fields store object state).1 = .error error) :
    (cache.fields store object state).2.1 = cache := by
  cases known : cache.fields? store.org object with
  | some fields =>
      rw [fields_of_known known] at failed
      contradiction
  | none =>
      rw [fields_of_unknown known] at failed ⊢
      dsimp only at failed
      rw [failed]
      rfl

end FieldCache

structure Store.Gives (store : Store σ) (answers : Answers) : Prop where
  describe : ∀ object state, (store.describe object state).1 = answers.describe object
  query : ∀ query state, (store.query query state).1 = answers.query query

/-- What is remembered for an organization is what the store would answer. -/
def FieldCache.Truthful (cache : FieldCache) (org : String) (answers : Answers) : Prop :=
  ∀ object fields, cache.entries.lookup (org, object) = some fields →
    answers.describe object = .ok fields

theorem FieldCache.truthful_empty (org : String) (answers : Answers) :
    FieldCache.empty.Truthful org answers := by
  intro object fields found
  contradiction

theorem FieldCache.Truthful.learn {cache : FieldCache} {org : String} {answers : Answers}
    (truthful : cache.Truthful org answers) (object : String) :
    (cache.learn org object (answers.describe object)).Truthful org answers := by
  cases told : answers.describe object with
  | error error => exact truthful
  | ok fields =>
      intro name known found
      change (cache.insert org object fields).fields? org name = some known at found
      rw [fields?_insert] at found
      split at found
      · rename_i same
        rw [same.2, told, Option.some.inj found]
      · exact truthful name known found

theorem FieldCache.fields_truthful {cache : FieldCache} {store : Store σ} {answers : Answers}
    (gives : store.Gives answers) (truthful : cache.Truthful store.org answers) (object : String)
    (state : σ) :
    (cache.fields store object state).1 = answers.describe object ∧
      (cache.fields store object state).2.1.Truthful store.org answers := by
  cases known : cache.fields? store.org object with
  | some fields =>
      rw [fields_of_known known]
      exact ⟨(truthful object fields known).symm, truthful⟩
  | none =>
      rw [fields_of_unknown known]
      dsimp only
      rw [gives.describe]
      exact ⟨rfl, truthful.learn object⟩

namespace Fetching

variable {α β : Type} {setting : Setting σ} {answers : Answers}

/-- Started with the warnings `before`, a step has this outcome, which is the end of the fetch or an
answer and the warnings after it, whatever the state of the store and whatever is in a truthful
cache, which stays truthful. -/
def Ends (setting : Setting σ) (answers : Answers) (before : Warnings) (step : Fetching σ α)
    (outcome : Except FetchError (α × Warnings)) : Prop :=
  ∀ state, state.cache.Truthful setting.store.org answers → state.warnings = before →
    ∃ last, step.run.run state = (outcome.map (·.1), last) ∧
      last.cache.Truthful setting.store.org answers ∧
      ∀ value after, outcome = .ok (value, after) → last.warnings = after

section Steps

variable {before between : Warnings} {step : Fetching σ α} {next : α → Fetching σ β}

theorem pure_ends (value : α) : Ends setting answers before (pure value) (.ok (value, before)) := by
  intro state truthful started
  refine ⟨state, rfl, truthful, fun _ _ same => ?_⟩
  cases same
  exact started

theorem throw_ends (error : FetchError) :
    Ends setting answers before (throw error : Fetching σ α) (.error error) := by
  intro state truthful started
  exact ⟨state, rfl, truthful, by simp⟩

theorem Ends.andThen {value : α} {outcome : Except FetchError (β × Warnings)}
    (first : Ends setting answers before step (.ok (value, between)))
    (rest : Ends setting answers between (next value) outcome) :
    Ends setting answers before (step >>= next) outcome := by
  intro state truthful started
  obtain ⟨middle, ran, truthful, reached⟩ := first state truthful started
  obtain ⟨last, completed, truthful, ended⟩ := rest middle truthful (reached value between rfl)
  refine ⟨last, ?_, truthful, ended⟩
  rw [ExceptT.run_bind, StateT.run_bind, ran]
  exact completed

theorem Ends.fail {error : FetchError} (first : Ends setting answers before step (.error error)) :
    Ends setting answers before (step >>= next) (.error error) := by
  intro state truthful started
  obtain ⟨last, ran, truthful, _⟩ := first state truthful started
  refine ⟨last, ?_, truthful, by simp⟩
  rw [ExceptT.run_bind, StateT.run_bind, ran]
  rfl

theorem Ends.bind {outcome : Except FetchError (α × Warnings)} {following : α × Warnings → Except FetchError (β × Warnings)}
    (first : Ends setting answers before step outcome)
    (rest : ∀ value between, outcome = .ok (value, between) →
      Ends setting answers between (next value) (following (value, between))) :
    Ends setting answers before (step >>= next) (outcome >>= following) := by
  cases outcome with
  | error error => exact first.fail
  | ok ended => exact first.andThen (rest ended.1 ended.2 rfl)

theorem get_bind_ends {next : FetchState σ → Fetching σ β} {outcome : Except FetchError (β × Warnings)}
    (rest : ∀ state, state.warnings = before → Ends setting answers before (next state) outcome) :
    Ends setting answers before (get >>= next) outcome := by
  intro state truthful started
  exact rest state started state truthful started

end Steps

theorem describe_run (setting : Setting σ) (object : String) (state : FetchState σ) :
    (describe setting object).run.run state =
      let told := state.cache.fields setting.store object state.store
      (.ok told.1, { state with cache := told.2.1, store := told.2.2 }) := rfl

theorem describe_ends (gives : setting.store.Gives answers) (object : String) (before : Warnings) :
    Ends setting answers before (describe setting object)
      (.ok (answers.describe object, before)) := by
  intro state truthful started
  obtain ⟨told, kept⟩ := FieldCache.fields_truthful gives truthful object state.store
  rw [← told]
  refine ⟨_, rfl, kept, fun _ _ same => ?_⟩
  cases same
  exact started

theorem ask_ends (gives : setting.store.Gives answers) (query : Query) (before : Warnings) :
    Ends setting answers before (ask setting query) (.ok (answers.query query, before)) := by
  intro state truthful started
  rw [← gives.query query state.store]
  refine ⟨_, rfl, truthful, fun _ _ same => ?_⟩
  cases same
  exact started

/-- Why a failure of a type ends the fetch, if it does. -/
def fatal? (object : String) (need : Need) (error : StoreError) : Option FetchError :=
  if need = .required then some (.required object error)
  else if !error.isRecoverable then some (.store object error)
  else none

/-- What comes of a type, given the failure that it met, if any: the fetch ends, or it goes on with
a value and perhaps a warning. -/
def settle (config : Config) (object : String) (need : Need) (failure : Option StoreError)
    (value : α) (before : Warnings) : Except FetchError (α × Warnings) :=
  match failure with
  | none => .ok (value, before)
  | some error =>
      match fatal? object need error with
      | some fatal => .error fatal
      | none => .ok (value, before.insert object (error.warning (config.registry.label object)))

theorem degrade_ends (object : String) (need : Need) (error : StoreError) (value : α)
    (before : Warnings) :
    Ends setting answers before (do degrade setting object error need; return value)
      (settle setting.config object need (some error) value before) := by
  intro state truthful started
  unfold settle fatal? degrade
  by_cases required : need = .required
  · simp only [if_pos required]
    exact (throw_ends _).fail state truthful started
  · simp only [if_neg required]
    cases recoverable : error.isRecoverable with
    | false => exact (throw_ends _).fail state truthful started
    | true =>
        subst started
        refine ⟨_, rfl, truthful, fun _ _ same => ?_⟩
        cases same
        rfl

section Settled

variable {before : Warnings} {object : String} {need : Need}

/-- After a failure nothing is left of a type but what stands for its absence. -/
theorem Ends.gone {error : StoreError} {step : Fetching σ (Option α)}
    {next : Option α → Fetching σ β} {value : β}
    (first : Ends setting answers before step
      (settle setting.config object need (some error) none before))
    (ended : next none = pure value) :
    Ends setting answers before (step >>= next)
      (settle setting.config object need (some error) value before) := by
  simp only [settle] at first ⊢
  split
  · rename_i fatal found
    simp only [found] at first
    exact first.fail
  · rename_i found
    simp only [found] at first
    refine first.andThen ?_
    rw [ended]
    exact pure_ends value

theorem Ends.map {failure : Option StoreError} {step : Fetching σ α} {value : α}
    (first : Ends setting answers before step
      (settle setting.config object need failure value before)) (f : α → β) :
    Ends setting answers before (do return f (← step))
      (settle setting.config object need failure (f value) before) := by
  unfold settle at first ⊢
  split
  · exact first.andThen (pure_ends _)
  · simp only at first
    split
    · rename_i fatal found
      simp only [found] at first
      exact first.fail
    · rename_i found
      simp only [found] at first
      exact first.andThen (pure_ends _)

end Settled

end Fetching

end Dossier
