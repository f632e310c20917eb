import Dossier.Proofs.Fetch.Survey

/-!
Which yields end a fetch.

A fetch goes through with all its yields unless one of them is fatal.  A yield fails as a call for
its type did, so that a type which can be done without is not fatal as long as all failures of its
calls are recoverable.
-/

namespace Dossier

namespace Fetching

namespace Yield

def fatal? (yield : Yield) : Option FetchError :=
  yield.failure.bind (Fetching.fatal? yield.part.object yield.need)

def warn (config : Config) (warnings : Warnings) (yield : Yield) : Warnings :=
  Fetching.warn config yield.part.object yield.failure warnings

theorem settle_eq (config : Config) (yield : Yield) (before : Warnings) :
    yield.settle config before =
      match yield.fatal? with
      | some fatal => .error fatal
      | none => .ok (yield.part, yield.warn config before) := by
  unfold Yield.settle Fetching.settle fatal? warn Fetching.warn
  cases yield.failure with
  | none => rfl
  | some error => rfl

end Yield

theorem settleAll_of_spared {config : Config} {yields : List Yield}
    (spared : ∀ yield ∈ yields, yield.fatal? = none) (before : Warnings) :
    settleAll config yields before =
      .ok (yields.map (·.part), yields.foldl (Yield.warn config) before) := by
  induction yields generalizing before with
  | nil => rfl
  | cons yield rest ih =>
      obtain ⟨first, others⟩ := List.forall_mem_cons.mp spared
      rw [settleAll, Yield.settle_eq, first]
      simp only [Bind.bind, Except.bind, ih others]
      rfl

theorem spared_of_settleAll {config : Config} {yields : List Yield} {before : Warnings}
    {settled : List Part × Warnings} (succeeded : settleAll config yields before = .ok settled) :
    ∀ yield ∈ yields, yield.fatal? = none := by
  induction yields generalizing before settled with
  | nil => simp
  | cons yield rest ih =>
      rw [settleAll, Yield.settle_eq] at succeeded
      cases first : yield.fatal? with
      | some fatal => simp [first, Bind.bind, Except.bind] at succeeded
      | none =>
          cases later : settleAll config rest (yield.warn config before) with
          | error error => simp [first, later, Bind.bind, Except.bind] at succeeded
          | ok others => exact List.forall_mem_cons.mpr ⟨first, ih later⟩

end Fetching

namespace Answers

open Fetching (Yield)

variable {answers : Answers} {config : Config} {error : StoreError}

/-- A call for the type is answered with the error. -/
def Fails (answers : Answers) (object : String) (error : StoreError) : Prop :=
  answers.describe object = .error error ∨
    ∃ query : Query, query.object = object ∧ answers.query query = .error error

theorem selectChunks_fails {object : String} {fields : List String} {idField : String}
    {chunks : List (List String)}
    (failed : answers.selectChunks object fields idField chunks = .error error) :
    answers.Fails object error := by
  induction chunks with
  | nil => contradiction
  | cons chunk rest ih =>
      rw [selectChunks] at failed
      cases answered : answers.query ⟨object, fields, idField, chunk⟩ with
      | error reason =>
          simp only [answered, Except.error.injEq] at failed
          exact .inr ⟨_, rfl, failed ▸ answered⟩
      | ok records =>
          cases later : answers.selectChunks object fields idField rest with
          | error reason =>
              simp only [answered, later, Except.map, Except.error.injEq] at failed
              exact ih (failed ▸ later)
          | ok others => simp [answered, later, Except.map] at failed

theorem selectPaths_fails {plan : ObjectPlan} {owners : LinkPath → List String} {pool : List Record}
    {sources : List LinkSource}
    (failed : answers.selectPaths plan owners pool sources = .error error) :
    answers.Fails plan.object error := by
  induction sources generalizing pool with
  | nil => contradiction
  | cons source rest ih =>
      rw [selectPaths] at failed
      cases selected : answers.select plan.object plan.queryFields source.field
          (owners source.path) with
      | error reason =>
          simp only [selected, Except.error.injEq] at failed
          exact selectChunks_fails (failed ▸ selected)
      | ok records =>
          simp only [selected] at failed
          exact ih failed

theorem plan_fails {object : String} (failed : answers.plan object config = .error error) :
    answers.Fails object error := by
  rw [plan] at failed
  cases described : answers.describe object with
  | error reason =>
      simp only [described, Except.map, Except.error.injEq] at failed
      exact .inl (failed ▸ described)
  | ok available => simp [described, Except.map] at failed

theorem typeYield_fails {need : Fetching.Need} {object idField : String} {ids : List String}
    (failed : (answers.typeYield config need object idField ids).failure = some error) :
    answers.Fails object error := by
  unfold typeYield at failed
  cases planned : answers.plan object config with
  | error reason =>
      simp only [planned, Option.some.injEq] at failed
      exact plan_fails (failed ▸ planned)
  | ok plan =>
      simp only [planned, Yield.ofPlan] at failed
      exact selectChunks_fails (failure?_eq_some.mp failed)

theorem pointYield_fails {object : String} {contactField individualField : Option String}
    {owners : LinkPath → List String}
    (failed : (answers.pointYield config object contactField individualField owners).failure =
      some error) : answers.Fails object error := by
  unfold pointYield at failed
  cases planned : answers.plan object config with
  | error reason =>
      simp only [planned, Option.some.injEq] at failed
      exact plan_fails (failed ▸ planned)
  | ok plan =>
      simp only [planned, Yield.ofPlan] at failed
      exact plan_object planned ▸ selectPaths_fails (failure?_eq_some.mp failed)

/-- A yield which can be done without, and which failed as a call for its type did, if it failed. -/
structure Spare (answers : Answers) (yield : Yield) : Prop where
  optional : yield.need = .optional
  fails : ∀ error, yield.failure = some error → answers.Fails yield.part.object error

theorem typeYield_spare (object idField : String) (ids : List String) :
    answers.Spare (answers.typeYield config .optional object idField ids) := by
  constructor
  · unfold typeYield
    split <;> rfl
  · intro error failed
    rw [typeYield_object]
    exact typeYield_fails failed

theorem pointYield_spare (object : String) (contactField individualField : Option String)
    (owners : LinkPath → List String) :
    answers.Spare (answers.pointYield config object contactField individualField owners) := by
  constructor
  · unfold pointYield
    split <;> rfl
  · intro error failed
    rw [pointYield_object]
    exact pointYield_fails failed

theorem survey_spare {accountIds : List String} {yield : Yield}
    (member : yield ∈ (answers.survey config accountIds).yields)
    (other : yield.part.object ≠ EntityType.account) : answers.Spare yield := by
  simp only [Survey.yields, survey, List.mem_append, List.mem_cons, List.mem_filterMap] at member
  rcases member with ((rfl | ⟨type, -, found⟩) | ⟨type, -, found⟩) | ⟨type, -, found⟩
  · exact absurd (typeYield_object ..) other
  · unfold directYield at found
    split at found <;> cases found
    exact typeYield_spare ..
  · unfold referencedYield at found
    split at found <;> cases found
    exact typeYield_spare ..
  · unfold contactPointYield at found
    split at found <;> cases found
    exact pointYield_spare ..

/-- A type all of whose failures are recoverable does not end a fetch. -/
theorem Spare.spared {yield : Yield} (spare : answers.Spare yield)
    (mild : ∀ error, answers.Fails yield.part.object error → error.isRecoverable = true) :
    yield.fatal? = none := by
  unfold Yield.fatal?
  cases failed : yield.failure with
  | none => rfl
  | some error => simp [Fetching.fatal?, spare.optional, mild error (spare.fails error failed)]

end Answers

end Dossier
