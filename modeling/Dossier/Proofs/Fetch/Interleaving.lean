import Dossier.Proofs.Fetch.Job
import Dossier.Proofs.Fetch.Survey

/-!
Types which are fetched at the same time.

The jobs of a stage take turns in any order.  They share the store, the cache and the warnings of a
fetch, and each of them goes on by one pause in a turn.  A stage ends when all of its jobs are done,
or else when one of them has failed, whatever has become of the others by then; another order may
end it with another failure.  A fetch which does one job after the other is one of these.
-/

namespace Dossier

/-- What happens in a fetch about the fields of a type. -/
inductive Notice where
  /-- The fields are needed.  Unless they are in the cache the store is asked for them. -/
  | sought (object : String) (asked : Bool)
  /-- The store answers, and perhaps with a failure. -/
  | told (object : String) (failure : Option StoreError)
deriving DecidableEq, Repr

/-- What happened, each time with the organization of the store. -/
abbrev Log := List (String × Notice)

variable {σ : Type}

namespace Fetching

namespace Job

/-- The job goes on to its next pause. -/
def turn (store : Store σ) (state : FetchState σ) : Job α → Job α × FetchState σ × List Notice
  | done result => (done result, state, [])
  | describe object next =>
      match state.cache.fields? store.org object with
      | some fields => (next (.ok fields), state, [.sought object false])
      | none => (await object next, state, [.sought object true])
  | await object next =>
      let (answer, after) := store.describe object state.store
      (next answer,
        { state with cache := state.cache.learn store.org object answer, store := after },
        [.told object (failure? answer)])
  | ask query next =>
      let (answer, after) := store.query query state.store
      (next answer, { state with store := after }, [])
  | warned object next => (next (state.warnings.contains object), state, [])
  | warn object text next =>
      (next, { state with warnings := state.warnings.insert object text }, [])

section Looking

variable {store : Store σ} {state : FetchState σ} {object : String}

theorem turn_of_known {fields : List String}
    (known : state.cache.fields? store.org object = some fields)
    (next : Except StoreError (List String) → Job α) :
    (describe object next).turn store state =
      (next (.ok fields), state, [.sought object false]) := by
  simp only [turn, known]

theorem turn_of_unknown (unknown : state.cache.fields? store.org object = none)
    (next : Except StoreError (List String) → Job α) :
    (describe object next).turn store state = (await object next, state, [.sought object true]) := by
  simp only [turn, unknown]

end Looking

def value? : Job α → Option α
  | done (.ok value) => some value
  | _ => none

/-- The jobs of the four stages of a fetch, given the parts of the stages before. -/
def stages (config : Config) (accountIds : List String) : List (List Part → List (Job Part)) :=
  let linked := config.registry.linked
  let contacts := fun parts => recordsOf parts EntityType.contact
  [fun _ => [fetchType config EntityType.account Record.idField accountIds .required],
    fun _ => linked.filterMap (direct config accountIds),
    fun parts => linked.filterMap (referenced config (contacts parts)),
    fun parts => linked.filterMap (contactPoint config (owners config.registry (contacts parts)))]

end Job

/-- Jobs which share the state of a fetch, and what happened so far. -/
structure Round (σ : Type) where
  jobs : List (Job Part)
  state : FetchState σ
  log : Log

namespace Round

/-- It is the turn of the job at this place, if there is one. -/
def advance (store : Store σ) (round : Round σ) (index : Nat) : Round σ :=
  match round.jobs[index]? with
  | none => round
  | some job =>
      let (job, state, notices) := job.turn store round.state
      ⟨round.jobs.set index job, state, round.log ++ notices.map (store.org, ·)⟩

/-- The jobs have turns in the order of the schedule. -/
def follow (store : Store σ) (schedule : List Nat) (round : Round σ) : Round σ :=
  schedule.foldl (advance store) round

/-- What may come of a stage whose jobs have come this far. -/
inductive Ends (round : Round σ) : Except FetchError (List Part) → Prop where
  | all {parts : List Part} (done : round.jobs = parts.map fun part => .done (.ok part)) :
      round.Ends (.ok parts)
  | one {error : FetchError} (failed : .done (.error error) ∈ round.jobs) :
      round.Ends (.error error)

/-- Whether all jobs are done can be computed. -/
theorem ends_of_values {round : Round σ} (done : ∀ job ∈ round.jobs, job.value?.isSome = true) :
    round.Ends (.ok (round.jobs.filterMap Job.value?)) := by
  refine .all ?_
  obtain ⟨jobs, state, log⟩ := round
  induction jobs with
  | nil => rfl
  | cons job rest ih =>
      obtain ⟨first, others⟩ := List.forall_mem_cons.mp done
      obtain ⟨part, found⟩ := Option.isSome_iff_exists.mp first
      unfold Job.value? at found
      split at found
      · cases found
        exact congrArg _ (ih others)
      · contradiction

theorem advance_at (store : Store σ) (before after : List (Job Part)) (job : Job Part)
    (state : FetchState σ) (log : Log) :
    advance store ⟨before ++ job :: after, state, log⟩ before.length =
      ⟨before ++ (job.turn store state).1 :: after, (job.turn store state).2.1,
        log ++ (job.turn store state).2.2.map (store.org, ·)⟩ := by
  simp [advance]

theorem follow_append (store : Store σ) (schedule more : List Nat) (round : Round σ) :
    round.follow store (schedule ++ more) = (round.follow store schedule).follow store more :=
  List.foldl_append

end Round

/-- Stage after stage, each with its own schedule, from the parts, the state and the log before to
the outcome, the state and the log in the end. -/
inductive Course (store : Store σ) : List (List Part → List (Job Part)) → List Part →
    FetchState σ → Log → Except FetchError (List Part) → FetchState σ → Log → Prop where
  | finished {parts : List Part} {state : FetchState σ} {log : Log} :
      Course store [] parts state log (.ok parts) state log
  | failed {stage rest parts state log error} (schedule : List Nat) {last : Round σ}
      (reached : Round.follow store schedule ⟨stage parts, state, log⟩ = last)
      (ended : last.Ends (.error error)) :
      Course store (stage :: rest) parts state log (.error error) last.state last.log
  | onward {stage rest parts state log more outcome after later} (schedule : List Nat)
      {last : Round σ} (reached : Round.follow store schedule ⟨stage parts, state, log⟩ = last)
      (ended : last.Ends (.ok more))
      (others : Course store rest (parts ++ more) last.state last.log outcome after later) :
      Course store (stage :: rest) parts state log outcome after later

/-- A schedule by which all jobs of a stage are done. -/
theorem Course.done {store : Store σ} {stage : List Part → List (Job Part)} {rest parts state log}
    {outcome after later} (schedule : List Nat)
    (done : ∀ job ∈ (Round.follow store schedule ⟨stage parts, state, log⟩).jobs,
      job.value?.isSome = true)
    (others : let last := Round.follow store schedule ⟨stage parts, state, log⟩
      Course store rest (parts ++ last.jobs.filterMap Job.value?) last.state last.log outcome after
        later) :
    Course store (stage :: rest) parts state log outcome after later :=
  .onward schedule rfl (Round.ends_of_values done) others

/-- The first part is that of the accounts. -/
def accountsOf (parts : List Part) : List Record :=
  (parts.head?.map (·.records)).getD []

/-- The result of a fetch, given what came of its stages. -/
def resultOf (accountIds : List String) (warnings : Warnings)
    (outcome : Except FetchError (List Part)) : Except FetchError Fetched :=
  outcome.map fun parts =>
    Fetched.ofParts accountIds (missing accountIds (accountsOf parts)) parts warnings

/-- A property of the state and the log which every turn keeps is kept by all stages. -/
theorem Round.follow_keeps {store : Store σ} {kept : FetchState σ → Log → Prop}
    (turn : ∀ (job : Job Part) state log, kept state log →
      kept (job.turn store state).2.1 (log ++ (job.turn store state).2.2.map (store.org, ·)))
    (schedule : List Nat) {round : Round σ} (start : kept round.state round.log) :
    kept (round.follow store schedule).state (round.follow store schedule).log := by
  induction schedule generalizing round with
  | nil => exact start
  | cons index rest ih =>
      refine ih ?_
      unfold advance
      split
      · exact start
      · exact turn _ _ _ start

theorem Course.keeps {store : Store σ} (kept : FetchState σ → Log → Prop)
    (turn : ∀ (job : Job Part) state log, kept state log →
      kept (job.turn store state).2.1 (log ++ (job.turn store state).2.2.map (store.org, ·)))
    {stages parts state log outcome after later}
    (course : Course store stages parts state log outcome after later) (start : kept state log) :
    kept after later := by
  induction course with
  | finished => exact start
  | failed schedule reached ended =>
      subst reached
      exact Round.follow_keeps turn schedule start
  | onward schedule reached ended others ih =>
      subst reached
      exact ih (Round.follow_keeps turn schedule start)

section Sequential

/-- Given all turns, the job ends with this result in this state. -/
def Job.Runs (store : Store σ) (job : Job Part) (state : FetchState σ)
    (ended : Except FetchError Part × FetchState σ) : Prop :=
  ∀ before after log, ∃ schedule later,
    Round.follow store schedule ⟨before ++ job :: after, state, log⟩ =
      ⟨before ++ .done ended.1 :: after, ended.2, later⟩

variable {setting : Setting σ}

theorem Job.Runs.turn {store : Store σ} {job : Job Part} {state : FetchState σ}
    {ended : Except FetchError Part × FetchState σ}
    (runs : (job.turn store state).1.Runs store (job.turn store state).2.1 ended) :
    job.Runs store state ended := by
  intro before after log
  obtain ⟨schedule, later, reached⟩ := runs before after _
  refine ⟨before.length :: schedule, later, ?_⟩
  rw [← reached, ← Round.advance_at]
  rfl

/-- A job which is given all turns does what it does without a pause. -/
theorem Job.perform_runs (setting : Setting σ) (job : Job Part) (state : FetchState σ) :
    job.Runs setting.store state ((job.perform setting).run.run state) := by
  induction job generalizing state with
  | done result => exact fun _ _ log => ⟨[], log, rfl⟩
  | describe object next ih =>
      refine .turn ?_
      rw [Job.perform, ExceptT.run_bind, StateT.run_bind, describe_run]
      cases known : state.cache.fields? setting.store.org object with
      | some fields =>
          rw [Job.turn_of_known known, FieldCache.fields_of_known known]
          exact ih _ _
      | none =>
          rw [Job.turn_of_unknown known, FieldCache.fields_of_unknown known]
          exact .turn (ih _ _)
  | await object next ih => exact .turn (ih _ _)
  | ask query next ih => exact .turn (ih _ _)
  | warned object next ih => exact .turn (ih _ _)
  | warn object text next ih => exact .turn (ih _)

/-- Jobs which are done one after the other. -/
theorem performAll_follows {jobs : List (Job Part)} {state after : FetchState σ}
    {result : Except FetchError (List Part)}
    (performed : (Job.performAll setting jobs).run.run state = (result, after))
    (parts : List Part) (log : Log) :
    ∃ schedule last,
      Round.follow setting.store schedule
        ⟨parts.map (fun part => .done (.ok part)) ++ jobs, state, log⟩ = last ∧
      last.Ends (result.map (parts ++ ·)) ∧ last.state = after := by
  induction jobs generalizing parts state log result with
  | nil =>
      cases performed
      exact ⟨[], _, rfl, .all (by simp [Round.follow]), rfl⟩
  | cons job rest ih =>
      obtain ⟨schedule, later, reached⟩ :=
        job.perform_runs setting state (parts.map fun part => .done (.ok part)) rest log
      rw [Job.performAll, ExceptT.run_bind, StateT.run_bind] at performed
      cases ran : (job.perform setting).run.run state with
      | mk outcome middle =>
      rw [ran] at performed reached
      cases outcome with
      | error error =>
          cases performed
          exact ⟨schedule, _, reached, .one (by simp), rfl⟩
      | ok part =>
          cases others : (Job.performAll setting rest).run.run middle with
          | mk outcome last =>
          have whole : (result, after) = (outcome.map (part :: ·), last) := by
            rw [← performed]
            change (ExceptT.run (Job.performAll setting rest >>= _)).run middle = _
            rw [ExceptT.run_bind, StateT.run_bind, others]
            cases outcome <;> rfl
          cases whole
          obtain ⟨more, last, completed, ended, left⟩ := ih others (parts ++ [part]) later
          refine ⟨schedule ++ more, last, ?_, ?_, left⟩
          · rw [Round.follow_append, reached, ← completed]
            simp
          · cases outcome with
            | error error => exact ended
            | ok others => simpa [Except.map] using ended

/-- Stages which are done one after the other, and in each of them the jobs. -/
def Job.performStages (setting : Setting σ) :
    List (List Part → List (Job Part)) → List Part → Fetching σ (List Part)
  | [], parts => pure parts
  | stage :: rest, parts => do
      let more ← performAll setting (stage parts)
      performStages setting rest (parts ++ more)

theorem performStages_course {stages : List (List Part → List (Job Part))} {parts : List Part}
    {state after : FetchState σ} {result : Except FetchError (List Part)}
    (performed : (Job.performStages setting stages parts).run.run state = (result, after))
    (log : Log) : ∃ later, Course setting.store stages parts state log result after later := by
  induction stages generalizing parts state log with
  | nil =>
      cases performed
      exact ⟨log, .finished⟩
  | cons stage rest ih =>
      rw [Job.performStages, ExceptT.run_bind, StateT.run_bind] at performed
      cases ran : (Job.performAll setting (stage parts)).run.run state with
      | mk outcome middle =>
      rw [ran] at performed
      obtain ⟨schedule, last, reached, ended, rfl⟩ := performAll_follows ran [] log
      cases outcome with
      | error error =>
          cases performed
          exact ⟨_, .failed schedule reached ended⟩
      | ok more =>
          obtain ⟨later, course⟩ := ih performed last.log
          exact ⟨later, .onward schedule reached ended course⟩

theorem stages_eq (accountIds : List String) :
    stages setting accountIds = do
      let parts ← Job.performStages setting (Job.stages setting.config accountIds) []
      return (parts, missing accountIds (accountsOf parts)) := by
  simp only [stages, Job.stages, Job.performStages, Job.performAll, Job.perform_fetchType,
    Job.performAll_filterMap (Job.perform_direct accountIds),
    Job.performAll_filterMap (Job.perform_referenced _),
    Job.performAll_filterMap (Job.perform_contactPoint _), bind_assoc, pure_bind, List.nil_append,
    List.cons_append, accountsOf, List.head?_cons, Option.map_some, Option.getD_some]

end Sequential

end Fetching

/-- In some order of its turns a fetch has this result, and leaves this cache and this log. -/
def Interleaved (store : Store σ) (config : Config) (accountIds : List String) (cache : FieldCache)
    (state : σ) (log : Log) (result : Except FetchError Fetched) (cacheAfter : FieldCache)
    (logAfter : Log) : Prop :=
  ∃ outcome last,
    Fetching.Course store (Fetching.Job.stages config accountIds) [] ⟨state, cache, Warnings.empty⟩
      log outcome last logAfter ∧
    Fetching.resultOf accountIds last.warnings outcome = result ∧ last.cache = cacheAfter

/-- One of these orders is that of a fetch which does one thing after the other. -/
theorem fetch_interleaved (store : Store σ) (config : Config) (accountIds : List String)
    (cache : FieldCache) (state : σ) (log : Log) :
    ∃ logAfter, Interleaved store config accountIds cache state log
      (fetch store config accountIds cache state).1 (fetch store config accountIds cache state).2.1
      logAfter := by
  unfold fetch
  rw [@Fetching.stages_eq _ ⟨store, config⟩, ExceptT.run_bind, StateT.run_bind]
  cases performed : (Fetching.Job.performStages ⟨store, config⟩
      (Fetching.Job.stages config accountIds) []).run.run ⟨state, cache, Warnings.empty⟩ with
  | mk outcome last =>
  obtain ⟨later, course⟩ := Fetching.performStages_course performed log
  cases outcome with
  | error error => exact ⟨later, _, last, course, rfl, rfl⟩
  | ok parts => exact ⟨later, _, last, course, rfl, rfl⟩

end Dossier
