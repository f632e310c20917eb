import Dossier.Proofs.Fetch.Yield

/-!
Jobs of a fetch.

A job is what is left to do for a type, until its part is there or the fetch has to end.  It stops
wherever it looks at what it shares with other jobs, and wherever it asks the store.  A job which is
done without a pause is the step of a fetch after which it is named.
-/

namespace Dossier.Fetching

inductive Job (α : Type) where
  | done (result : Except FetchError α)
  | describe (object : String) (next : Except StoreError (List String) → Job α)
  /-- The store has been asked for the fields of the type, which were not in the cache. -/
  | await (object : String) (next : Except StoreError (List String) → Job α)
  | ask (query : Query) (next : Except StoreError (List Record) → Job α)
  | warned (object : String) (next : Bool → Job α)
  | warn (object text : String) (next : Job α)

namespace Job

variable {σ α β : Type}

def andThen : Job α → (α → Job β) → Job β
  | done (.ok value), rest => rest value
  | done (.error error), _ => done (.error error)
  | describe object next, rest => describe object fun answer => (next answer).andThen rest
  | await object next, rest => await object fun answer => (next answer).andThen rest
  | ask query next, rest => ask query fun answer => (next answer).andThen rest
  | warned object next, rest => warned object fun answer => (next answer).andThen rest
  | warn object text next, rest => warn object text (next.andThen rest)

instance : Monad Job where
  pure value := done (.ok value)
  bind := andThen

section Programs

variable (config : Config)

def degrade (object : String) (error : StoreError) (need : Need) : Job Unit :=
  if need = .required then done (.error (.required object error))
  else if !error.isRecoverable then done (.error (.store object error))
  else warn object (error.warning (config.registry.label object)) (pure ())

def plan (object : String) (need : Need) : Job (Option ObjectPlan) :=
  describe object fun
    | .ok available => pure (some (ObjectPlan.make config object available))
    | .error error => do
        degrade config object error need
        return none

def queryChunks (object : String) (fields : List String) (idField : String) (need : Need) :
    List Record → List (List String) → Job (Option (List Record))
  | records, [] => pure (some records)
  | records, chunk :: rest =>
      warned object fun
        | true => pure none
        | false =>
            ask ⟨object, fields, idField, chunk⟩ fun
              | .ok more => queryChunks object fields idField need (records ++ more) rest
              | .error error => do
                  degrade config object error need
                  return none

def query (object : String) (fields : List String) (idField : String) (ids : List String)
    (need : Need) : Job (Option (List Record)) :=
  queryChunks config object fields idField need [] (chunksOf chunkSize ids)

def fetchType (object idField : String) (ids : List String) (need : Need) : Job Part := do
  match ← plan config object need with
  | none => return ⟨object, none, none, []⟩
  | some plan =>
      let records ← query config object plan.queryFields idField ids need
      return ⟨object, some plan, none, records.getD []⟩

def queryPaths (plan : ObjectPlan) (owners : LinkPath → List String) :
    List Record → List LinkSource → Job (List Record)
  | pool, [] => pure pool
  | pool, source :: rest => do
      match ← query config plan.object plan.queryFields source.field (owners source.path)
        .optional with
      | none => return []
      | some records => queryPaths plan owners (addNew pool records) rest

def fetchContactPoint (object : String) (contactField individualField : Option String)
    (owners : LinkPath → List String) : Job Part := do
  match ← plan config object .optional with
  | none => return ⟨object, none, some [], []⟩
  | some plan =>
      let sources := activeSources config plan object contactField individualField
      let pool ← queryPaths config plan owners [] sources
      return ⟨object, some plan, some sources, pool⟩

def direct (accountIds : List String) (type : EntityType) : Option (Job Part) :=
  match type.link with
  | .direct field => some (fetchType config type.name field accountIds .optional)
  | _ => none

def referenced (contacts : List Record) (type : EntityType) : Option (Job Part) :=
  match type.link with
  | .contactReference field =>
      some (fetchType config type.name Record.idField (distinctValues contacts field) .optional)
  | _ => none

def contactPoint (owners : LinkPath → List String) (type : EntityType) : Option (Job Part) :=
  match type.link with
  | .contactPoint contactField individualField =>
      some (fetchContactPoint config type.name contactField individualField owners)
  | _ => none

end Programs

/-- The answer of the store, which is remembered. -/
def told (setting : Setting σ) (object : String) :
    Fetching σ (Except StoreError (List String)) :=
  modifyGet fun state =>
    let (answer, store) := setting.store.describe object state.store
    (answer, { state with cache := state.cache.learn setting.store.org object answer, store })

/-- The job without a pause. -/
def perform (setting : Setting σ) : Job α → Fetching σ α
  | done result => ExceptT.mk (pure result)
  | describe object next =>
      Fetching.describe setting object >>= fun answer => (next answer).perform setting
  | await object next => told setting object >>= fun answer => (next answer).perform setting
  | ask query next => Fetching.ask setting query >>= fun answer => (next answer).perform setting
  | warned object next => get >>= fun state => (next (state.warnings.contains object)).perform setting
  | warn object text next =>
      (modify fun state => { state with warnings := state.warnings.insert object text }) >>= fun _ =>
        next.perform setting

section Performance

variable {setting : Setting σ}

@[simp] theorem perform_bind (job : Job α) (rest : α → Job β) :
    (job >>= rest).perform setting =
      job.perform setting >>= fun value => (rest value).perform setting := by
  change (job.andThen rest).perform setting = _
  induction job with
  | done result => cases result <;> rfl
  | describe object next ih => simp only [andThen, perform, ih, bind_assoc]
  | await object next ih => simp only [andThen, perform, ih, bind_assoc]
  | ask query next ih => simp only [andThen, perform, ih, bind_assoc]
  | warned object next ih => simp only [andThen, perform, ih, bind_assoc]
  | warn object text next ih => simp only [andThen, perform, ih, bind_assoc]

theorem perform_degrade (object : String) (error : StoreError) (need : Need) :
    (degrade setting.config object error need).perform setting =
      Fetching.degrade setting object error need := by
  unfold degrade Fetching.degrade
  split
  · rfl
  · split
    · rfl
    · rfl

theorem perform_plan (object : String) (need : Need) :
    (plan setting.config object need).perform setting = Fetching.plan setting object need := by
  refine bind_congr fun answer => ?_
  cases answer with
  | ok available => rfl
  | error error => rw [perform_bind, perform_degrade]; rfl

theorem perform_queryChunks (object : String) (fields : List String) (idField : String) (need : Need)
    (records : List Record) (chunks : List (List String)) :
    (queryChunks setting.config object fields idField need records chunks).perform setting =
      Fetching.queryChunks setting object fields idField need records chunks := by
  induction chunks generalizing records with
  | nil => rfl
  | cons chunk rest ih =>
      refine bind_congr fun state => ?_
      cases state.warnings.contains object with
      | true => rfl
      | false =>
          refine bind_congr fun answer => ?_
          cases answer with
          | ok more => exact ih (records ++ more)
          | error error => rw [perform_bind, perform_degrade]; rfl

theorem perform_fetchType (object idField : String) (ids : List String) (need : Need) :
    (fetchType setting.config object idField ids need).perform setting =
      Fetching.fetchType setting object idField ids need := by
  rw [fetchType, perform_bind, perform_plan]
  refine bind_congr fun planned => ?_
  cases planned with
  | none => rfl
  | some plan => rw [perform_bind, query, perform_queryChunks]; rfl

theorem perform_queryPaths (plan : ObjectPlan) (owners : LinkPath → List String)
    (pool : List Record) (sources : List LinkSource) :
    (queryPaths setting.config plan owners pool sources).perform setting =
      Fetching.queryPaths setting plan owners pool sources := by
  induction sources generalizing pool with
  | nil => rfl
  | cons source rest ih =>
      rw [queryPaths, perform_bind, query, perform_queryChunks]
      refine bind_congr fun selected => ?_
      cases selected with
      | none => rfl
      | some records => exact ih (addNew pool records)

theorem perform_fetchContactPoint (object : String) (contactField individualField : Option String)
    (owners : LinkPath → List String) :
    (fetchContactPoint setting.config object contactField individualField owners).perform setting =
      Fetching.fetchContactPoint setting object contactField individualField owners := by
  rw [fetchContactPoint, perform_bind, perform_plan]
  refine bind_congr fun planned => ?_
  cases planned with
  | none => rfl
  | some plan => rw [perform_bind, perform_queryPaths]; rfl

theorem perform_direct (accountIds : List String) (type : EntityType) :
    (direct setting.config accountIds type).map (perform setting) =
      Fetching.direct setting accountIds type := by
  unfold direct Fetching.direct
  cases type.link with
  | direct _ => exact congrArg some (perform_fetchType _ _ _ _)
  | root | contactReference _ | contactPoint _ _ => rfl

theorem perform_referenced (contacts : List Record) (type : EntityType) :
    (referenced setting.config contacts type).map (perform setting) =
      Fetching.referenced setting contacts type := by
  unfold referenced Fetching.referenced
  cases type.link with
  | contactReference _ => exact congrArg some (perform_fetchType _ _ _ _)
  | root | direct _ | contactPoint _ _ => rfl

theorem perform_contactPoint (owners : LinkPath → List String) (type : EntityType) :
    (contactPoint setting.config owners type).map (perform setting) =
      Fetching.contactPoint setting owners type := by
  unfold contactPoint Fetching.contactPoint
  cases type.link with
  | contactPoint _ _ => exact congrArg some (perform_fetchContactPoint _ _ _ _)
  | root | direct _ | contactReference _ => rfl

/-- Jobs which are done without a pause, one after the other. -/
def performAll (setting : Setting σ) : List (Job α) → Fetching σ (List α)
  | [] => pure []
  | job :: rest => do
      let value ← job.perform setting
      return value :: (← performAll setting rest)

theorem performAll_filterMap {job : EntityType → Option (Job Part)}
    {fetch : EntityType → Option (Fetching σ Part)}
    (same : ∀ type, (job type).map (perform setting) = fetch type) (types : List EntityType) :
    performAll setting (types.filterMap job) = fetchAll fetch types := by
  induction types with
  | nil => rfl
  | cons type rest ih =>
      rw [List.filterMap_cons, fetchAll, ← same type, ← ih]
      cases job type <;> rfl

end Performance

end Job

end Dossier.Fetching
