import Dossier.Proofs.Fetch.Moves

/-!
The fates of jobs.

On a steady store a job which looks at the warnings of its own type only has a fate, which other jobs
have no part in.  Where every type has one job, all orders of the turns therefore fetch the same, or
none of them succeeds.
-/

namespace Dossier

variable {σ α β : Type} {store : Store σ} {answers : Answers}

/-- The same was fetched, and the same is warned of, in whatever order. -/
structure Fetched.Same (fetched other : Fetched) : Prop where
  found : { fetched with warnings := other.warnings } = other
  warned : ∀ key, fetched.warnings.entries.lookup key = other.warnings.entries.lookup key

/-- Both fetches have failed, or else they have fetched the same. -/
inductive SameOutcome : Except FetchError Fetched → Except FetchError Fetched → Prop where
  | failed (error other : FetchError) : SameOutcome (.error error) (.error other)
  | fetched {fetched other : Fetched} (same : fetched.Same other) :
      SameOutcome (.ok fetched) (.ok other)

namespace Fetching

namespace Job

/-- What comes of a job on a steady store, and of the warning of its type. -/
def fate (answers : Answers) : Job α → Option String → Except FetchError α × Option String
  | done result, warning => (result, warning)
  | describe object next, warning => (next (answers.describe object)).fate answers warning
  | await object next, warning => (next (answers.describe object)).fate answers warning
  | ask query next, warning => (next (answers.query query)).fate answers warning
  | warned _ next, warning => (next warning.isSome).fate answers warning
  | warn _ text next, warning => next.fate answers (warning.or (some text))

/-- The warnings which the job looks at, and which it adds, are those of this type. -/
def About (object : String) : Job α → Prop
  | done _ => True
  | describe _ next => ∀ answer, (next answer).About object
  | await _ next => ∀ answer, (next answer).About object
  | ask _ next => ∀ answer, (next answer).About object
  | warned name next => name = object ∧ ∀ answer, (next answer).About object
  | warn name _ next => name = object ∧ next.About object

/-- A job about a type keeps its fate by what it does, and other types keep their warnings. -/
structure Keeps (answers : Answers) (object : String) (job : Job α) (warnings : Warnings)
    (next : Job α) (after : Warnings) : Prop where
  about : next.About object
  fate : next.fate answers (after.entries.lookup object) =
    job.fate answers (warnings.entries.lookup object)
  others : ∀ name ≠ object, after.entries.lookup name = warnings.entries.lookup name

theorem About.move {object : String} {job : Job α} (about : job.About object)
    (warnings : Warnings) :
    Keeps answers object job warnings (job.move answers warnings).1
      (job.move answers warnings).2 := by
  cases job with
  | done result => exact ⟨about, rfl, fun _ _ => rfl⟩
  | describe name next => exact ⟨about _, rfl, fun _ _ => rfl⟩
  | await name next => exact ⟨about _, rfl, fun _ _ => rfl⟩
  | ask query next => exact ⟨about _, rfl, fun _ _ => rfl⟩
  | warned name next =>
      obtain ⟨rfl, about⟩ := about
      exact ⟨about _, rfl, fun _ _ => rfl⟩
  | warn name text next =>
      obtain ⟨rfl, about⟩ := about
      refine ⟨about, ?_, fun other apart => ?_⟩
      · simp [Job.move, Job.fate, Warnings.lookup_insert]
      · simp [Job.move, Warnings.lookup_insert, Ne.symm apart]

section Programs

variable {config : Config} {object : String} {need : Need}

theorem About.bind {job : Job α} {rest : α → Job β} (about : job.About object)
    (later : ∀ value, (rest value).About object) : (job >>= rest).About object := by
  change (job.andThen rest).About object
  induction job with
  | done result =>
      cases result with
      | ok value => exact later value
      | error error => trivial
  | describe name next ih => exact fun answer => ih answer (about answer)
  | await name next ih => exact fun answer => ih answer (about answer)
  | ask query next ih => exact fun answer => ih answer (about answer)
  | warned name next ih => exact ⟨about.1, fun answer => ih answer (about.2 answer)⟩
  | warn name text next ih => exact ⟨about.1, ih about.2⟩

theorem degrade_about (error : StoreError) : (degrade config object error need).About object := by
  unfold degrade
  split
  · trivial
  · split
    · trivial
    · exact ⟨rfl, trivial⟩

theorem plan_bind_about {rest : Option ObjectPlan → Job β} (gone : (rest none).About object)
    (planned : ∀ available, (rest (some (.make config object available))).About object) :
    (plan config object need >>= rest).About object := by
  rintro (error | available)
  · change ((degrade config object error need >>= fun _ => pure none) >>= rest).About object
    unfold degrade
    split
    · trivial
    · split
      · trivial
      · exact ⟨rfl, gone⟩
  · exact planned available

theorem queryChunks_about (fields : List String) (idField : String) (records : List Record)
    (chunks : List (List String)) :
    (queryChunks config object fields idField need records chunks).About object := by
  induction chunks generalizing records with
  | nil => trivial
  | cons chunk rest ih =>
      refine ⟨rfl, fun
        | true => trivial
        | false => ?_⟩
      rintro (error | more)
      · exact .bind (degrade_about error) fun _ => trivial
      · exact ih _

theorem fetchType_about (idField : String) (ids : List String) :
    (fetchType config object idField ids need).About object :=
  plan_bind_about trivial fun _ => .bind (queryChunks_about _ _ _ _) fun _ => trivial

theorem queryPaths_about (plan : ObjectPlan) (owners : LinkPath → List String) (pool : List Record)
    (sources : List LinkSource) : (queryPaths config plan owners pool sources).About plan.object := by
  induction sources generalizing pool with
  | nil => trivial
  | cons source rest ih =>
      refine .bind (queryChunks_about _ _ _ _) ?_
      rintro (_ | records)
      · trivial
      · exact ih _

theorem fetchContactPoint_about (contactField individualField : Option String)
    (owners : LinkPath → List String) :
    (fetchContactPoint config object contactField individualField owners).About object :=
  plan_bind_about trivial fun available =>
    .bind (queryPaths_about (.make config object available) owners _ _) fun _ => trivial

/-- Each of the jobs is about a type of its own. -/
def Apart (jobs : List (Job Part)) : Prop :=
  ∃ names : List String, names.Nodup ∧ List.Forall₂ About names jobs

theorem filterMap_apart {job : EntityType → Option (Job Part)}
    (about : ∀ type found, job type = some found → found.About type.name) {types : List EntityType}
    (unique : (types.map (·.name)).Nodup) : Apart (types.filterMap job) := by
  have named : ∃ names : List String, names.Sublist (types.map (·.name)) ∧
      List.Forall₂ About names (types.filterMap job) := by
    clear unique
    induction types with
    | nil => exact ⟨[], .slnil, .nil⟩
    | cons type rest ih =>
        obtain ⟨names, among, abouts⟩ := ih
        cases found : job type with
        | none =>
            rw [List.filterMap_cons_none found]
            exact ⟨names, among.cons _, abouts⟩
        | some first =>
            rw [List.filterMap_cons_some found]
            exact ⟨type.name :: names, among.cons_cons _, .cons (about type first found) abouts⟩
  obtain ⟨names, among, abouts⟩ := named
  exact ⟨names, unique.sublist among, abouts⟩

/-- No two jobs of a stage are about one type. -/
theorem stages_apart (unique : (config.registry.linked.map (·.name)).Nodup)
    (accountIds : List String) :
    ∀ stage ∈ stages config accountIds, ∀ parts, Apart (stage parts) := by
  simp only [stages, List.forall_mem_cons]
  refine ⟨fun _ => ?_, fun _ => ?_, fun _ => ?_, fun _ => ?_, by simp⟩
  · exact ⟨[EntityType.account], List.nodup_singleton _, .cons (fetchType_about _ _) .nil⟩
  · refine filterMap_apart (fun type found started => ?_) unique
    unfold direct at started
    split at started <;> cases started
    exact fetchType_about _ _
  · refine filterMap_apart (fun type found started => ?_) unique
    unfold referenced at started
    split at started <;> cases started
    exact fetchType_about _ _
  · refine filterMap_apart (fun type found started => ?_) unique
    unfold contactPoint at started
    split at started <;> cases started
    exact fetchContactPoint_about _ _ _

end Programs

end Job

/-- The fate of the job of a type. -/
structure Lot where
  object : String
  result : Except FetchError Part
  warning : Option String

/-- The lot falls to the job, if the warnings are these. -/
structure Lot.Falls (answers : Answers) (warnings : Warnings) (lot : Lot) (job : Job Part) :
    Prop where
  about : job.About lot.object
  fate : job.fate answers (warnings.entries.lookup lot.object) = (lot.result, lot.warning)

theorem Lot.Falls.keep {warnings after : Warnings} {lot : Lot} {job : Job Part}
    (falls : lot.Falls answers warnings job)
    (same : after.entries.lookup lot.object = warnings.entries.lookup lot.object) :
    lot.Falls answers after job :=
  ⟨falls.about, by rw [same]; exact falls.fate⟩

/-- Jobs which are about different types have lots. -/
theorem Job.Apart.lots {jobs : List (Job Part)} (apart : Job.Apart jobs) (answers : Answers)
    (warnings : Warnings) :
    ∃ lots : List Lot, (lots.map (·.object)).Nodup ∧
      List.Forall₂ (Lot.Falls answers warnings) lots jobs := by
  obtain ⟨names, unique, abouts⟩ := apart
  have lots : ∃ lots : List Lot, lots.map (·.object) = names ∧
      List.Forall₂ (Lot.Falls answers warnings) lots jobs := by
    clear unique
    induction abouts with
    | nil => exact ⟨[], rfl, .nil⟩
    | @cons name job names jobs about abouts ih =>
        obtain ⟨lots, named, falls⟩ := ih
        let fate := job.fate answers (warnings.entries.lookup name)
        exact ⟨⟨name, fate.1, fate.2⟩ :: lots, by rw [List.map_cons, named], .cons ⟨about, rfl⟩ falls⟩
  obtain ⟨lots, rfl, falls⟩ := lots
  exact ⟨lots, unique, falls⟩

/-- The lots still fall to the jobs when one of them has gone on. -/
theorem Lot.falls_set {warnings after : Warnings} {lots : List Lot} {jobs : List (Job Part)}
    (falls : List.Forall₂ (Lot.Falls answers warnings) lots jobs)
    (unique : (lots.map (·.object)).Nodup) {index : Nat} {job next : Job Part}
    (found : jobs[index]? = some job)
    (keeps : ∀ object, job.About object → job.Keeps answers object warnings next after) :
    List.Forall₂ (Lot.Falls answers after) lots (jobs.set index next) ∧
      ∃ lot ∈ lots, job.About lot.object := by
  induction falls generalizing index with
  | nil => contradiction
  | @cons lot first lots jobs fall falls ih =>
      obtain ⟨new, unique⟩ := List.nodup_cons.mp unique
      cases index with
      | zero =>
          obtain rfl : first = job := Option.some.inj found
          have kept := keeps lot.object fall.about
          refine ⟨.cons ⟨kept.about, kept.fate.trans fall.fate⟩ ?_, lot, by simp, fall.about⟩
          have apart : ∀ other ∈ lots, other.object ≠ lot.object := fun other member same =>
            new (List.mem_map.mpr ⟨other, member, same⟩)
          refine ((List.forall₂_and_left _ _).mpr ⟨apart, falls⟩).imp ?_
          exact fun other job ⟨different, fell⟩ => fell.keep (kept.others _ different)
      | succ index =>
          obtain ⟨rest, own, member, about⟩ := ih unique found
          have different : lot.object ≠ own.object := fun same =>
            new (List.mem_map.mpr ⟨own, member, same.symm⟩)
          have kept := (keeps own.object about).others lot.object different
          exact ⟨.cons (fall.keep kept) rest, own, List.mem_cons_of_mem _ member, about⟩

/-- A round in which these lots fall to the jobs. -/
structure Fated (store : Store σ) (answers : Answers) (before : Warnings) (lots : List Lot)
    (round : Round σ) : Prop where
  falls : List.Forall₂ (Lot.Falls answers round.state.warnings) lots round.jobs
  others : ∀ name ∉ lots.map (·.object),
    round.state.warnings.entries.lookup name = before.entries.lookup name
  truthful : round.state.cache.Truthful store.org answers

namespace Fated

variable {before : Warnings} {lots : List Lot} {round : Round σ}

theorem advance (gives : store.Gives answers) (unique : (lots.map (·.object)).Nodup)
    (fated : Fated store answers before lots round) (index : Nat) :
    Fated store answers before lots (round.advance store index) := by
  cases found : round.jobs[index]? with
  | none =>
      rw [Round.advance, found]
      exact fated
  | some job =>
      rcases Round.advance_moves gives found fated.truthful with
        ⟨jobs, warnings, truthful⟩ | ⟨⟨object, next, rfl, jobs⟩, warnings, truthful⟩
      · have keeps : ∀ object, job.About object → job.Keeps answers object round.state.warnings
            (job.move answers round.state.warnings).1
            (round.advance store index).state.warnings :=
          fun object about => warnings ▸ about.move _
        obtain ⟨falls, own, member, about⟩ := Lot.falls_set fated.falls unique found keeps
        refine ⟨jobs ▸ falls, fun name apart => ?_, truthful⟩
        have different : name ≠ own.object := fun same =>
          apart (same ▸ List.mem_map_of_mem member)
        exact ((keeps own.object about).others name different).trans (fated.others name apart)
      · have keeps : ∀ name, (Job.describe object next).About name →
            (Job.describe object next).Keeps answers name round.state.warnings
              (.await object next) (round.advance store index).state.warnings :=
          fun name about => warnings ▸ ⟨about, rfl, fun _ _ => rfl⟩
        obtain ⟨falls, -⟩ := Lot.falls_set fated.falls unique found keeps
        exact ⟨jobs ▸ falls, fun name apart => warnings ▸ fated.others name apart, truthful⟩

theorem follow (gives : store.Gives answers) (unique : (lots.map (·.object)).Nodup)
    (fated : Fated store answers before lots round) (schedule : List Nat) :
    Fated store answers before lots (round.follow store schedule) := by
  induction schedule generalizing round with
  | nil => exact fated
  | cons index rest ih => exact ih (fated.advance gives unique index)

/-- When all jobs are done, their lots have come true. -/
theorem all (fated : Fated store answers before lots round) {parts : List Part}
    (done : round.jobs = parts.map fun part => .done (.ok part)) :
    lots.map (·.result) = parts.map .ok ∧
      ∀ lot ∈ lots, round.state.warnings.entries.lookup lot.object = lot.warning := by
  have falls := fated.falls
  rw [done, List.forall₂_map_right_iff] at falls
  generalize round.state.warnings = warnings at falls ⊢
  clear done fated
  induction falls with
  | nil => simp
  | @cons lot part lots parts fall falls ih =>
      obtain ⟨result, warning⟩ := Prod.mk.inj fall.fate
      obtain ⟨results, warned⟩ := ih
      exact ⟨by simp [results, ← result], List.forall_mem_cons.mpr ⟨warning, warned⟩⟩

theorem one (fated : Fated store answers before lots round) {error : FetchError}
    (failed : .done (.error error) ∈ round.jobs) : .error error ∈ lots.map (·.result) := by
  have falls := fated.falls
  generalize round.jobs = jobs at falls failed
  clear fated
  induction falls with
  | nil => contradiction
  | @cons lot job lots jobs fall falls ih =>
      rcases List.mem_cons.mp failed with rfl | later
      · obtain ⟨result, -⟩ := Prod.mk.inj fall.fate
        exact List.mem_cons.mpr (.inl result)
      · exact List.mem_cons_of_mem _ (ih later)

end Fated

/-- Stages which came to the same, or both to nothing. -/
inductive Alike : Except FetchError (List Part) × Warnings → Except FetchError (List Part) × Warnings →
    Prop where
  | failed (error other : FetchError) (warnings otherWarnings : Warnings) :
      Alike (.error error, warnings) (.error other, otherWarnings)
  | done (parts : List Part) {warnings other : Warnings}
      (warned : ∀ key, warnings.entries.lookup key = other.entries.lookup key) :
      Alike (.ok parts, warnings) (.ok parts, other)

theorem Fated.alike {otherStore : Store σ} {before : Warnings} {lots : List Lot}
    {round other : Round σ} (fated : Fated store answers before lots round)
    (otherFated : Fated otherStore answers before lots other)
    {outcome otherOutcome : Except FetchError (List Part)} (ended : round.Ends outcome)
    (otherEnded : other.Ends otherOutcome) :
    Alike (outcome, round.state.warnings) (otherOutcome, other.state.warnings) := by
  cases ended with
  | @all parts done =>
      obtain ⟨results, warned⟩ := fated.all done
      cases otherEnded with
      | @all others otherDone =>
          obtain ⟨otherResults, otherWarned⟩ := otherFated.all otherDone
          have ok : Function.Injective (Except.ok : Part → Except FetchError Part) :=
            fun _ _ => Except.ok.inj
          obtain rfl := ok.list_map (results.symm.trans otherResults)
          refine .done parts fun key => ?_
          by_cases listed : key ∈ lots.map (·.object)
          · obtain ⟨lot, member, rfl⟩ := List.mem_map.mp listed
            rw [warned lot member, otherWarned lot member]
          · rw [fated.others key listed, otherFated.others key listed]
      | one failed =>
          have listed := otherFated.one failed
          rw [results] at listed
          simp at listed
  | one failed =>
      cases otherEnded with
      | all otherDone =>
          have listed := fated.one failed
          rw [(otherFated.all otherDone).1] at listed
          simp at listed
      | one otherFailed => exact .failed _ _ _ _

/-- Jobs which are apart come to the same, with whatever schedules and truthful caches. -/
theorem Round.follow_alike (gives : store.Gives answers) {jobs : List (Job Part)}
    (apart : Job.Apart jobs) {state other : FetchState σ}
    (same : ∀ key, state.warnings.entries.lookup key = other.warnings.entries.lookup key)
    (truthful : state.cache.Truthful store.org answers)
    (otherTruthful : other.cache.Truthful store.org answers) {schedule otherSchedule : List Nat}
    {log otherLog : Log} {last otherLast : Round σ}
    (reached : Round.follow store schedule ⟨jobs, state, log⟩ = last)
    (otherReached : Round.follow store otherSchedule ⟨jobs, other, otherLog⟩ = otherLast) :
    last.state.cache.Truthful store.org answers ∧
      otherLast.state.cache.Truthful store.org answers ∧
      ∀ outcome otherOutcome, last.Ends outcome → otherLast.Ends otherOutcome →
        Alike (outcome, last.state.warnings) (otherOutcome, otherLast.state.warnings) := by
  subst reached otherReached
  obtain ⟨lots, unique, falls⟩ := apart.lots answers state.warnings
  have start : Fated store answers state.warnings lots ⟨jobs, state, log⟩ :=
    ⟨falls, fun _ _ => rfl, truthful⟩
  have otherStart : Fated store answers state.warnings lots ⟨jobs, other, otherLog⟩ :=
    ⟨falls.imp fun lot job fall => fall.keep (same lot.object).symm, fun key _ => (same key).symm,
      otherTruthful⟩
  have fated := start.follow gives unique schedule
  have otherFated := otherStart.follow gives unique otherSchedule
  exact ⟨fated.truthful, otherFated.truthful, fun _ _ => fated.alike otherFated⟩

/-- Stages whose jobs are apart come to the same, or both to nothing. -/
theorem Course.alike (gives : store.Gives answers) {stages parts state log outcome after later}
    (course : Course store stages parts state log outcome after later)
    (apart : ∀ stage ∈ stages, ∀ parts, Job.Apart (stage parts))
    {other otherLog otherOutcome otherAfter otherLater}
    (otherCourse : Course store stages parts other otherLog otherOutcome otherAfter otherLater)
    (same : ∀ key, state.warnings.entries.lookup key = other.warnings.entries.lookup key)
    (truthful : state.cache.Truthful store.org answers)
    (otherTruthful : other.cache.Truthful store.org answers) :
    Alike (outcome, after.warnings) (otherOutcome, otherAfter.warnings) := by
  induction course generalizing other otherLog with
  | finished =>
      cases otherCourse
      exact .done _ same
  | @failed stage rest parts state log error schedule last reached ended =>
      have jobs := apart stage List.mem_cons_self parts
      cases otherCourse with
      | failed otherSchedule otherReached otherEnded => exact .failed _ _ _ _
      | onward otherSchedule otherReached otherEnded others =>
          obtain ⟨-, -, alike⟩ :=
            Round.follow_alike gives jobs same truthful otherTruthful reached otherReached
          cases alike _ _ ended otherEnded
  | @onward stage rest parts state log more outcome after later schedule last reached ended others ih =>
      have jobs := apart stage List.mem_cons_self parts
      cases otherCourse with
      | failed otherSchedule otherReached otherEnded =>
          obtain ⟨-, -, alike⟩ :=
            Round.follow_alike gives jobs same truthful otherTruthful reached otherReached
          cases alike _ _ ended otherEnded
      | onward otherSchedule otherReached otherEnded otherOthers =>
          obtain ⟨kept, otherKept, alike⟩ :=
            Round.follow_alike gives jobs same truthful otherTruthful reached otherReached
          cases alike _ _ ended otherEnded with
          | done parts warned =>
              exact ih (fun stage member => apart stage (List.mem_cons_of_mem _ member)) otherOthers
                warned kept otherKept

end Fetching

/-- Where every type has one job all orders fetch the same, with whatever truthful caches, or none of
them succeeds. -/
theorem Interleaved.alike (gives : store.Gives answers) {config : Config}
    (unique : (config.registry.linked.map (·.name)).Nodup) {accountIds : List String}
    {cache other after otherAfter : FieldCache} {state otherState : σ}
    {log later otherLog otherLater : Log} {result otherResult : Except FetchError Fetched}
    (interleaved : Interleaved store config accountIds cache state log result after later)
    (otherwise : Interleaved store config accountIds other otherState otherLog otherResult
      otherAfter otherLater)
    (truthful : cache.Truthful store.org answers) (otherTruthful : other.Truthful store.org answers) :
    SameOutcome result otherResult := by
  obtain ⟨outcome, last, course, rfl, -⟩ := interleaved
  obtain ⟨otherOutcome, otherLast, otherCourse, rfl, -⟩ := otherwise
  have alike := course.alike gives (Fetching.Job.stages_apart unique accountIds) otherCourse
    (fun _ => rfl) truthful otherTruthful
  generalize last.warnings = warnings, otherLast.warnings = otherWarnings at alike ⊢
  cases alike with
  | failed error other => exact .failed error other
  | done parts warned => exact .fetched ⟨rfl, warned⟩

end Dossier
