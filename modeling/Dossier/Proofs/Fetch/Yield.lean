import Dossier.Proofs.Fetch.Steady
import Dossier.Proofs.Fetch.Warnings

/-!
What a type yields on a steady store.

A type yields a part, and perhaps a failure, which depend on nothing but the answers of the store
and the identifiers that are asked for.
-/

namespace Dossier

variable {σ α β : Type}

/-- The failure of an answer. -/
def failure? : Except StoreError α → Option StoreError
  | .ok _ => none
  | .error error => some error

theorem failure?_eq_some {answer : Except StoreError α} {error : StoreError} :
    failure? answer = some error ↔ answer = .error error := by
  cases answer <;> simp [failure?]

namespace Answers

variable (answers : Answers) (object : String) (fields : List String) (idField : String)

/-- The records of chunk after chunk, or the first failure. -/
def selectChunks : List (List String) → Except StoreError (List Record)
  | [] => .ok []
  | chunk :: rest =>
      match answers.query ⟨object, fields, idField, chunk⟩ with
      | .error error => .error error
      | .ok records => (selectChunks rest).map (records ++ ·)

def select (ids : List String) : Except StoreError (List Record) :=
  answers.selectChunks object fields idField (Fetching.chunksOf chunkSize ids)

def plan (config : Config) : Except StoreError ObjectPlan :=
  (answers.describe object).map (ObjectPlan.make config object)

theorem plan_eq_ok {answers : Answers} {object : String} {config : Config} {plan : ObjectPlan} :
    answers.plan object config = .ok plan ↔
      ∃ available, answers.describe object = .ok available ∧
        ObjectPlan.make config object available = plan := by
  unfold Answers.plan
  cases answers.describe object with
  | error error => simp [Except.map]
  | ok available => simp [Except.map]

theorem plan_object {answers : Answers} {object : String} {config : Config} {plan : ObjectPlan}
    (planned : answers.plan object config = .ok plan) : plan.object = object := by
  obtain ⟨available, -, rfl⟩ := plan_eq_ok.mp planned
  rfl

end Answers

namespace Fetching

variable {setting : Setting σ} {answers : Answers}

theorem plan_ends (gives : setting.store.Gives answers) (object : String) (need : Need)
    (before : Warnings) :
    Ends setting answers before (plan setting object need)
      (settle setting.config object need (failure? (answers.plan object setting.config))
        (answers.plan object setting.config).toOption before) := by
  refine (describe_ends gives object before).andThen ?_
  unfold Answers.plan
  cases answers.describe object with
  | ok available => exact pure_ends _
  | error error => exact degrade_ends object need error none before

theorem queryChunks_ends (gives : setting.store.Gives answers) {object : String} {before : Warnings}
    (clean : before.contains object = false) (fields : List String) (idField : String) (need : Need)
    (records : List Record) (chunks : List (List String)) :
    Ends setting answers before (queryChunks setting object fields idField need records chunks)
      (settle setting.config object need
        (failure? (answers.selectChunks object fields idField chunks))
        ((answers.selectChunks object fields idField chunks).toOption.map (records ++ ·))
        before) := by
  induction chunks generalizing records with
  | nil =>
      have whole : records ++ [] = records := List.append_nil records
      simp only [Answers.selectChunks, failure?, settle, Except.toOption, Option.map_some, whole]
      exact pure_ends _
  | cons chunk rest ih =>
      refine get_bind_ends fun state started => ?_
      simp only [started, clean, Bool.false_eq_true, if_false]
      refine (ask_ends gives _ before).andThen ?_
      simp only [Answers.selectChunks]
      cases answers.query ⟨object, fields, idField, chunk⟩ with
      | error error => exact degrade_ends object need error none before
      | ok more =>
          have later := ih (records ++ more)
          cases told : answers.selectChunks object fields idField rest with
          | error error =>
              rw [told] at later
              exact later
          | ok others => simpa [told, failure?, Except.map, Except.toOption] using later

theorem query_ends (gives : setting.store.Gives answers) {object : String} {before : Warnings}
    (clean : before.contains object = false) (fields : List String) (idField : String)
    (ids : List String) (need : Need) :
    Ends setting answers before (query setting object fields idField ids need)
      (settle setting.config object need (failure? (answers.select object fields idField ids))
        (answers.select object fields idField ids).toOption before) := by
  have ended := queryChunks_ends gives clean fields idField need [] (chunksOf chunkSize ids)
  simpa [Answers.select, query] using ended

/-- The warnings of a fetch after a type has met the failure, if it is one. -/
def warn (config : Config) (object : String) (failure : Option StoreError) (warnings : Warnings) :
    Warnings :=
  match failure with
  | none => warnings
  | some error => warnings.insert object (error.warning (config.registry.label object))

theorem lookup_warn (config : Config) (object : String) (failure : Option StoreError)
    (warnings : Warnings) (other : String) :
    (warn config object failure warnings).entries.lookup other =
      (warnings.entries.lookup other).or
        ((if object = other then failure else none).map (·.warning (config.registry.label other))) := by
  cases failure with
  | none => simp [warn]
  | some error =>
      rw [warn, Warnings.lookup_insert]
      by_cases same : object = other
      · simp [same]
      · simp [same]

/-- What a type yields: its part, and the failure that it met, if any. -/
structure Yield where
  need : Need
  part : Part
  failure : Option StoreError

namespace Yield

/-- The yield of a type which was described, whatever came of its queries. -/
def ofPlan (need : Need) (object : String) (plan : ObjectPlan)
    (linkSources : Option (List LinkSource)) (selected : Except StoreError (List Record)) : Yield :=
  ⟨need, ⟨object, some plan, linkSources, selected.toOption.getD []⟩, failure? selected⟩

def settle (config : Config) (yield : Yield) (before : Warnings) : Except FetchError (Part × Warnings) :=
  Fetching.settle config yield.part.object yield.need yield.failure yield.part before

end Yield

end Fetching

namespace Answers

open Fetching (Need Yield addNew activeSources)

variable (answers : Answers) (config : Config)

def typeYield (need : Need) (object idField : String) (ids : List String) : Yield :=
  match answers.plan object config with
  | .error error => ⟨need, ⟨object, none, none, []⟩, some error⟩
  | .ok plan => .ofPlan need object plan none (answers.select object plan.queryFields idField ids)

/-- The records which one path after the other reaches, or the first failure. -/
def selectPaths (plan : ObjectPlan) (owners : LinkPath → List String) :
    List Record → List LinkSource → Except StoreError (List Record)
  | pool, [] => .ok pool
  | pool, source :: rest =>
      match answers.select plan.object plan.queryFields source.field (owners source.path) with
      | .error error => .error error
      | .ok records => selectPaths plan owners (addNew pool records) rest

def pointYield (object : String) (contactField individualField : Option String)
    (owners : LinkPath → List String) : Yield :=
  match answers.plan object config with
  | .error error => ⟨.optional, ⟨object, none, some [], []⟩, some error⟩
  | .ok plan =>
      let sources := activeSources config plan object contactField individualField
      .ofPlan .optional object plan (some sources) (answers.selectPaths plan owners [] sources)

@[simp] theorem typeYield_object (need : Need) (object idField : String) (ids : List String) :
    (answers.typeYield config need object idField ids).part.object = object := by
  unfold typeYield
  split <;> rfl

@[simp] theorem pointYield_object (object : String) (contactField individualField : Option String)
    (owners : LinkPath → List String) :
    (answers.pointYield config object contactField individualField owners).part.object = object := by
  unfold pointYield
  split <;> rfl

theorem typeYield_need (need : Need) (object idField : String) (ids : List String) :
    (answers.typeYield config need object idField ids).need = need := by
  unfold typeYield
  split <;> rfl

theorem typeYield_plan (need : Need) (object idField : String) (ids : List String) :
    (answers.typeYield config need object idField ids).part.plan =
      (answers.plan object config).toOption := by
  unfold typeYield
  cases answers.plan object config <;> rfl

theorem pointYield_plan (object : String) (contactField individualField : Option String)
    (owners : LinkPath → List String) :
    (answers.pointYield config object contactField individualField owners).part.plan =
      (answers.plan object config).toOption := by
  unfold pointYield
  cases answers.plan object config <;> rfl

theorem typeYield_linkSources (need : Need) (object idField : String) (ids : List String) :
    (answers.typeYield config need object idField ids).part.linkSources = none := by
  unfold typeYield
  split <;> rfl

variable {answers config}

theorem typeYield_sound {need : Need} {object idField : String} {ids : List String}
    (sound : (answers.typeYield config need object idField ids).failure = none) :
    ∃ plan records, answers.plan object config = .ok plan ∧
      answers.select object plan.queryFields idField ids = .ok records ∧
        (answers.typeYield config need object idField ids).part = ⟨object, some plan, none, records⟩ := by
  unfold typeYield at sound ⊢
  cases planned : answers.plan object config with
  | error error => simp [planned] at sound
  | ok plan =>
      simp only [planned, Yield.ofPlan] at sound ⊢
      cases selected : answers.select object plan.queryFields idField ids with
      | error error => simp [selected, failure?] at sound
      | ok records => exact ⟨plan, records, rfl, selected, rfl⟩

theorem typeYield_failed {need : Need} {object idField : String} {ids : List String}
    (failed : (answers.typeYield config need object idField ids).failure ≠ none) :
    (answers.typeYield config need object idField ids).part.records = [] := by
  unfold typeYield at failed ⊢
  cases planned : answers.plan object config with
  | error error => rfl
  | ok plan =>
      simp only [planned, Yield.ofPlan] at failed ⊢
      cases selected : answers.select object plan.queryFields idField ids with
      | error error => rfl
      | ok records => simp [selected, failure?] at failed

theorem pointYield_sound {object : String} {contactField individualField : Option String}
    {owners : LinkPath → List String}
    (sound : (answers.pointYield config object contactField individualField owners).failure = none) :
    ∃ plan records, answers.plan object config = .ok plan ∧
      answers.selectPaths plan owners []
        (activeSources config plan object contactField individualField) = .ok records ∧
      (answers.pointYield config object contactField individualField owners).part =
        ⟨object, some plan,
          some (activeSources config plan object contactField individualField), records⟩ := by
  unfold pointYield at sound ⊢
  cases planned : answers.plan object config with
  | error error => simp [planned] at sound
  | ok plan =>
      simp only [planned, Yield.ofPlan] at sound ⊢
      cases selected : answers.selectPaths plan owners []
          (activeSources config plan object contactField individualField) with
      | error error => simp [selected, failure?] at sound
      | ok records => exact ⟨plan, records, rfl, selected, rfl⟩

end Answers

namespace Fetching

variable {setting : Setting σ} {answers : Answers}

theorem fetchType_ends (gives : setting.store.Gives answers) {object : String} {before : Warnings}
    (clean : before.contains object = false) (idField : String) (ids : List String) (need : Need) :
    Ends setting answers before (fetchType setting object idField ids need)
      ((answers.typeYield setting.config need object idField ids).settle setting.config before) := by
  have planned := plan_ends gives object need before
  unfold Answers.typeYield
  cases told : answers.plan object setting.config with
  | error error =>
      rw [told] at planned
      exact planned.gone rfl
  | ok plan =>
      rw [told] at planned
      refine planned.andThen ?_
      have queried := query_ends gives clean plan.queryFields idField ids need
      exact queried.map fun records => (⟨object, some plan, none, records.getD []⟩ : Part)

/-- A path which fails leaves nothing of those before it. -/
theorem queryPaths_ends (gives : setting.store.Gives answers) {plan : ObjectPlan}
    {before : Warnings} (clean : before.contains plan.object = false)
    (owners : LinkPath → List String) (pool : List Record) (sources : List LinkSource) :
    Ends setting answers before (queryPaths setting plan owners pool sources)
      (settle setting.config plan.object .optional
        (failure? (answers.selectPaths plan owners pool sources))
        ((answers.selectPaths plan owners pool sources).toOption.getD []) before) := by
  induction sources generalizing pool with
  | nil => exact pure_ends pool
  | cons source rest ih =>
      have queried := query_ends gives clean plan.queryFields source.field (owners source.path)
        .optional
      rw [queryPaths, Answers.selectPaths]
      cases selected : answers.select plan.object plan.queryFields source.field
          (owners source.path) with
      | error error =>
          rw [selected] at queried
          exact queried.gone rfl
      | ok records =>
          rw [selected] at queried
          exact queried.andThen (ih (addNew pool records))

theorem fetchContactPoint_ends (gives : setting.store.Gives answers) {object : String}
    {before : Warnings} (clean : before.contains object = false)
    (contactField individualField : Option String) (owners : LinkPath → List String) :
    Ends setting answers before
      (fetchContactPoint setting object contactField individualField owners)
      ((answers.pointYield setting.config object contactField individualField owners).settle
        setting.config before) := by
  have planned := plan_ends gives object .optional before
  unfold Answers.pointYield
  cases told : answers.plan object setting.config with
  | error error =>
      rw [told] at planned
      exact planned.gone rfl
  | ok plan =>
      obtain rfl := Answers.plan_object told
      rw [told] at planned
      refine planned.andThen ?_
      have reached := queryPaths_ends gives clean owners []
        (activeSources setting.config plan plan.object contactField individualField)
      exact reached.map fun pool => (⟨plan.object, some plan, some _, pool⟩ : Part)

end Fetching

end Dossier
