import Dossier.Fetch.Basic

/-!
What a fetch reads of its configuration.

It reads the registry, the fields to display and the paths to contact points.  Configurations which
agree on these have the same fetches, step by step, on every store.
-/

namespace Dossier

/-- What a fetch reads of its configuration is the same. -/
structure Config.FetchesAlike (config other : Config) : Prop where
  registry : config.registry = other.registry
  displayFields : ∀ object, config.displayFields object = other.displayFields object
  linkPaths : ∀ object, config.linkPaths object = other.linkPaths object

namespace Fetching

variable {σ : Type} {config other : Config} (alike : config.FetchesAlike other) (store : Store σ)

include alike

theorem degrade_congr (object : String) (error : StoreError) (need : Need) :
    degrade ⟨store, config⟩ object error need = degrade ⟨store, other⟩ object error need := by
  unfold degrade
  rw [alike.registry]

theorem plan_congr (object : String) (need : Need) :
    plan ⟨store, config⟩ object need = plan ⟨store, other⟩ object need := by
  have made : ∀ available, ObjectPlan.make config object available =
      ObjectPlan.make other object available := by
    intro available
    simp only [ObjectPlan.make, alike.registry, alike.displayFields]
  simp only [plan, made, degrade_congr alike store]
  rfl

theorem queryChunks_congr (object : String) (fields : List String) (idField : String) (need : Need)
    (records : List Record) (chunks : List (List String)) :
    queryChunks ⟨store, config⟩ object fields idField need records chunks =
      queryChunks ⟨store, other⟩ object fields idField need records chunks := by
  induction chunks generalizing records with
  | nil => rfl
  | cons chunk rest ih =>
      simp only [queryChunks, ih, degrade_congr alike store]
      rfl

theorem fetchType_congr (object idField : String) (ids : List String) (need : Need) :
    fetchType ⟨store, config⟩ object idField ids need =
      fetchType ⟨store, other⟩ object idField ids need := by
  simp only [fetchType, query, plan_congr alike store, queryChunks_congr alike store]

theorem queryPaths_congr (plan : ObjectPlan) (owners : LinkPath → List String)
    (pool : List Record) (sources : List LinkSource) :
    queryPaths ⟨store, config⟩ plan owners pool sources =
      queryPaths ⟨store, other⟩ plan owners pool sources := by
  induction sources generalizing pool with
  | nil => rfl
  | cons source rest ih => simp only [queryPaths, query, queryChunks_congr alike store, ih]

theorem fetchContactPoint_congr (object : String) (contactField individualField : Option String)
    (owners : LinkPath → List String) :
    fetchContactPoint ⟨store, config⟩ object contactField individualField owners =
      fetchContactPoint ⟨store, other⟩ object contactField individualField owners := by
  simp only [fetchContactPoint, activeSources, plan_congr alike store, queryPaths_congr alike store,
    alike.linkPaths]

theorem stages_congr (accountIds : List String) :
    stages ⟨store, config⟩ accountIds = stages ⟨store, other⟩ accountIds := by
  have directs : direct ⟨store, config⟩ accountIds = direct ⟨store, other⟩ accountIds := by
    funext type
    simp only [direct, fetchType_congr alike store]
  have references : ∀ contacts, referenced ⟨store, config⟩ contacts =
      referenced ⟨store, other⟩ contacts := by
    intro contacts
    funext type
    simp only [referenced, fetchType_congr alike store]
  have points : ∀ owners, contactPoint ⟨store, config⟩ owners =
      contactPoint ⟨store, other⟩ owners := by
    intro owners
    funext type
    simp only [contactPoint, fetchContactPoint_congr alike store]
  simp only [stages, fetchType_congr alike store, directs, references, points, alike.registry]

end Fetching

/-- Nothing else of a configuration plays a part in a fetch. -/
theorem fetch_congr {σ : Type} {config other : Config} (alike : config.FetchesAlike other)
    (store : Store σ) (accountIds : List String) (cache : FieldCache) (state : σ) :
    fetch store config accountIds cache state = fetch store other accountIds cache state := by
  simp only [fetch, Fetching.stages_congr alike store]

end Dossier
