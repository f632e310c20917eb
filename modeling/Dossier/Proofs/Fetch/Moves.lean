import Dossier.Proofs.Fetch.Interleaving

/-!
Jobs on a steady store.

Where the cache is truthful, a turn of a job is a move, which is the same whatever the cache knows, or
else the job has just asked for fields.  In rounds which differ in no more than that the same may
come of the jobs, and so may the same come of a fetch with one truthful cache or with another.
-/

namespace Dossier

variable {σ α : Type} {store : Store σ} {answers : Answers}

namespace Fetching

namespace Job

/-- The job, as if the fields that it waits for were still to be looked up. -/
def calm : Job α → Job α
  | await object next => describe object next
  | job => job

/-- What a job does next on a steady store, whatever the cache knows. -/
def move (answers : Answers) (warnings : Warnings) : Job α → Job α × Warnings
  | done result => (done result, warnings)
  | describe object next => (next (answers.describe object), warnings)
  | await object next => (next (answers.describe object), warnings)
  | ask query next => (next (answers.query query), warnings)
  | warned object next => (next (warnings.contains object), warnings)
  | warn object text next => (next, warnings.insert object text)

@[simp] theorem move_calm (job : Job α) (warnings : Warnings) :
    job.calm.move answers warnings = job.move answers warnings := by
  cases job <;> rfl

theorem calm_eq_done {job : Job α} {result : Except FetchError α} :
    job.calm = done result ↔ job = done result := by
  cases job <;> simp [calm]

theorem map_calm_eq_done {jobs : List (Job α)} {values : List α} :
    jobs.map calm = values.map (fun value => done (.ok value)) ↔
      jobs = values.map fun value => done (.ok value) := by
  induction jobs generalizing values with
  | nil => cases values <;> simp
  | cons job rest ih =>
      cases values with
      | nil => simp
      | cons value others => simp [ih, calm_eq_done]

/-- With a truthful cache a turn is a move, or else the job has just asked for fields. -/
theorem turn_moves (gives : store.Gives answers) (job : Job α) {state : FetchState σ}
    (truthful : state.cache.Truthful store.org answers) :
    (job.turn store state).2.1.cache.Truthful store.org answers ∧
      (((job.turn store state).1, (job.turn store state).2.1.warnings) =
          job.move answers state.warnings ∨
        ∃ object next, job = describe object next ∧ (job.turn store state).1 = await object next ∧
          (job.turn store state).2.1.warnings = state.warnings) := by
  cases job with
  | done result => exact ⟨truthful, .inl rfl⟩
  | describe object next =>
      cases known : state.cache.fields? store.org object with
      | some fields =>
          rw [turn_of_known known, move, truthful object fields known]
          exact ⟨truthful, .inl rfl⟩
      | none =>
          rw [turn_of_unknown known]
          exact ⟨truthful, .inr ⟨object, next, rfl, rfl, rfl⟩⟩
  | await object next =>
      have learned := truthful.learn object
      rw [move, ← gives.describe object state.store] at *
      exact ⟨learned, .inl rfl⟩
  | ask query next =>
      rw [move, ← gives.query query state.store]
      exact ⟨truthful, .inl rfl⟩
  | warned object next => exact ⟨truthful, .inl rfl⟩
  | warn object text next => exact ⟨truthful, .inl rfl⟩

end Job

theorem set_of_getElem? {items : List α} {index : Nat} {item : α}
    (found : items[index]? = some item) : items.set index item = items := by
  obtain ⟨inside, rfl⟩ := List.getElem?_eq_some_iff.mp found
  exact List.set_getElem_self inside

namespace Round

theorem advance_of_found (store : Store σ) {round : Round σ} {index : Nat} {job : Job Part}
    (found : round.jobs[index]? = some job) :
    round.advance store index =
      ⟨round.jobs.set index (job.turn store round.state).1, (job.turn store round.state).2.1,
        round.log ++ (job.turn store round.state).2.2.map (store.org, ·)⟩ := by
  unfold advance
  rw [found]

/-- The job at this place has moved, and the cache is truthful. -/
structure Moved (store : Store σ) (answers : Answers) (round : Round σ) (index : Nat)
    (job : Job Part) (later : Round σ) : Prop where
  jobs : later.jobs = round.jobs.set index (job.move answers round.state.warnings).1
  warnings : later.state.warnings = (job.move answers round.state.warnings).2
  truthful : later.state.cache.Truthful store.org answers

/-- The job at this place has asked for fields, and the cache is truthful. -/
structure Asked (store : Store σ) (answers : Answers) (round : Round σ) (index : Nat)
    (job : Job Part) (later : Round σ) : Prop where
  jobs : ∃ object next, job = .describe object next ∧
    later.jobs = round.jobs.set index (.await object next)
  warnings : later.state.warnings = round.state.warnings
  truthful : later.state.cache.Truthful store.org answers

theorem advance_moves (gives : store.Gives answers) {round : Round σ} {index : Nat} {job : Job Part}
    (found : round.jobs[index]? = some job)
    (truthful : round.state.cache.Truthful store.org answers) :
    Moved store answers round index job (round.advance store index) ∨
      Asked store answers round index job (round.advance store index) := by
  rw [advance_of_found store found]
  obtain ⟨kept, moved | ⟨object, next, asking, asked, same⟩⟩ := job.turn_moves gives truthful
  · exact .inl ⟨congrArg (round.jobs.set index ·.1) moved, congrArg (·.2) moved, kept⟩
  · exact .inr ⟨⟨object, next, asking, by rw [asked]⟩, same, kept⟩

/-- With a truthful cache a job moves in one turn or two. -/
theorem follow_moves (gives : store.Gives answers) {round : Round σ} {index : Nat} {job : Job Part}
    (found : round.jobs[index]? = some job)
    (truthful : round.state.cache.Truthful store.org answers) :
    ∃ schedule, Moved store answers round index job (round.follow store schedule) := by
  rcases advance_moves gives found truthful with moved | ⟨⟨object, next, rfl, asked⟩, same, kept⟩
  · exact ⟨[index], moved⟩
  · have inside : index < round.jobs.length := (List.getElem?_eq_some_iff.mp found).1
    have waiting : (round.advance store index).jobs[index]? = some (.await object next) := by
      rw [asked, List.getElem?_set_self inside]
    rcases advance_moves gives waiting kept with moved | ⟨⟨_, _, asking, -⟩, -, -⟩
    · refine ⟨[index, index], ?_, ?_, moved.truthful⟩
      · rw [← List.set_set, ← asked, ← same]
        exact moved.jobs
      · rw [← same]
        exact moved.warnings
    · contradiction

/-- Two rounds which have come equally far, but for what has been asked and what is remembered. -/
structure Level (store : Store σ) (answers : Answers) (round other : Round σ) : Prop where
  jobs : round.jobs.map Job.calm = other.jobs.map Job.calm
  warnings : round.state.warnings = other.state.warnings
  truthful : round.state.cache.Truthful store.org answers
  otherTruthful : other.state.cache.Truthful store.org answers

namespace Level

variable {round other : Round σ}

/-- The other round catches up with a turn. -/
theorem advance (gives : store.Gives answers) (level : Level store answers round other)
    (index : Nat) :
    ∃ schedule, Level store answers (round.advance store index) (other.follow store schedule) := by
  cases found : round.jobs[index]? with
  | none =>
      refine ⟨[], ?_⟩
      rw [Round.advance, found]
      exact level
  | some job =>
      have calm : (other.jobs[index]?).map Job.calm = some job.calm := by
        rw [← List.getElem?_map, ← level.jobs, List.getElem?_map, found]
        rfl
      obtain ⟨twin, there, same⟩ := Option.map_eq_some_iff.mp calm
      rcases advance_moves gives found level.truthful with
        moved | ⟨⟨object, next, rfl, asked⟩, unwarned, kept⟩
      · obtain ⟨schedule, caught⟩ := follow_moves gives there level.otherTruthful
        have alike : twin.move answers other.state.warnings = job.move answers round.state.warnings := by
          rw [← Job.move_calm, same, Job.move_calm, level.warnings]
        refine ⟨schedule, ?_, ?_, moved.truthful, caught.truthful⟩
        · rw [moved.jobs, caught.jobs, alike, List.map_set, List.map_set, level.jobs]
        · rw [moved.warnings, caught.warnings, alike]
      · refine ⟨[], ?_, unwarned.trans level.warnings, kept, level.otherTruthful⟩
        have still : (round.jobs.map Job.calm)[index]? = some (.describe object next) := by
          rw [List.getElem?_map, found]
          rfl
        rw [asked, List.map_set]
        exact (set_of_getElem? still).trans level.jobs

theorem follow (gives : store.Gives answers) (schedule : List Nat) {round other : Round σ}
    (level : Level store answers round other) :
    ∃ otherSchedule,
      Level store answers (round.follow store schedule) (other.follow store otherSchedule) := by
  induction schedule generalizing round other with
  | nil => exact ⟨[], level⟩
  | cons index rest ih =>
      obtain ⟨first, caught⟩ := level.advance gives index
      obtain ⟨later, ended⟩ := ih caught
      refine ⟨first ++ later, ?_⟩
      rw [Round.follow_append]
      exact ended

theorem ends (level : Level store answers round other) {outcome : Except FetchError (List Part)}
    (ended : round.Ends outcome) : other.Ends outcome := by
  have jobs := level.jobs
  cases ended with
  | @all parts done => exact .all (Job.map_calm_eq_done.mp (jobs ▸ Job.map_calm_eq_done.mpr done))
  | @one error failed =>
      have listed : .done (.error error) ∈ other.jobs.map Job.calm := by
        rw [← jobs]
        exact List.mem_map.mpr ⟨_, failed, rfl⟩
      obtain ⟨job, member, calm⟩ := List.mem_map.mp listed
      exact .one (Job.calm_eq_done.mp calm ▸ member)

end Level

end Round

/-- What may come of stages with a truthful cache may come of them with another one. -/
theorem Course.level (gives : store.Gives answers) {stages parts state log outcome after later}
    (course : Course store stages parts state log outcome after later) {other : FetchState σ}
    (same : state.warnings = other.warnings) (truthful : state.cache.Truthful store.org answers)
    (otherTruthful : other.cache.Truthful store.org answers) (otherLog : Log) :
    ∃ otherAfter otherLater,
      Course store stages parts other otherLog outcome otherAfter otherLater ∧
        after.warnings = otherAfter.warnings := by
  induction course generalizing other otherLog with
  | finished => exact ⟨other, otherLog, .finished, same⟩
  | @failed stage rest parts state log error schedule last reached ended =>
      have start : Round.Level store answers ⟨stage parts, state, log⟩ ⟨stage parts, other, otherLog⟩ :=
        ⟨rfl, same, truthful, otherTruthful⟩
      obtain ⟨otherSchedule, level⟩ := start.follow gives schedule
      rw [reached] at level
      exact ⟨_, _, .failed otherSchedule rfl (level.ends ended), level.warnings⟩
  | @onward stage rest parts state log more outcome after later schedule last reached ended others ih =>
      have start : Round.Level store answers ⟨stage parts, state, log⟩ ⟨stage parts, other, otherLog⟩ :=
        ⟨rfl, same, truthful, otherTruthful⟩
      obtain ⟨otherSchedule, level⟩ := start.follow gives schedule
      rw [reached] at level
      obtain ⟨otherAfter, otherLater, course, warned⟩ :=
        ih level.warnings level.truthful level.otherTruthful _
      exact ⟨otherAfter, otherLater, .onward otherSchedule rfl (level.ends ended) course, warned⟩

end Fetching

/-- Which truthful cache a fetch has is not noticed. -/
theorem Interleaved.of_truthful (gives : store.Gives answers) {config : Config}
    {accountIds : List String} {cache other after : FieldCache} {state : σ} {log later : Log}
    {result : Except FetchError Fetched}
    (interleaved : Interleaved store config accountIds cache state log result after later)
    (truthful : cache.Truthful store.org answers)
    (otherTruthful : other.Truthful store.org answers) (otherState : σ) (otherLog : Log) :
    ∃ otherAfter otherLater,
      Interleaved store config accountIds other otherState otherLog result otherAfter otherLater := by
  obtain ⟨outcome, last, course, rfl, -⟩ := interleaved
  have unwarned : Warnings.empty = (⟨otherState, other, Warnings.empty⟩ : FetchState σ).warnings := rfl
  obtain ⟨otherLast, otherLater, otherCourse, warned⟩ :=
    course.level gives unwarned truthful otherTruthful otherLog
  exact ⟨_, otherLater, outcome, otherLast, otherCourse, by rw [warned], rfl⟩

end Dossier
